import OnAir.GuestRoomService
import OnAir.RecordingManifest
import OnAir.Runs

/-!
`ProgramRecordingService`, and the runs of it together with `GuestRoomService`.

A recording is a row of a studio; the recorder that writes its audio is found under the
station of the studio. Stopping takes long, so a stop is two steps: the recorder is taken off the
map and finished, and then the row is updated. A stop may be called by a thread that begins
later.
-/

namespace OnAir.ProgramRecording

open OnAir.Database GuestRoomService PythonText RecordingManifest ReplicationApplier OnAir.Table

inductive RecordingError
  | ffmpegUnavailable
  | studioNotFound
  | recordingAlreadyActive
  | recordingConsentNotRequested
  | recordingNotFound
  | recordingIsActive
  | guest (e : GuestRoomError)
  /-- what is raised by a conversion -/
  | other
  deriving DecidableEq, Repr

def RecordingError.text : RecordingError → String
  | .ffmpegUnavailable => "ffmpeg_unavailable"
  | .studioNotFound => "studio_not_found"
  | .recordingAlreadyActive => "recording_already_active"
  | .recordingConsentNotRequested => "recording_consent_not_requested"
  | .recordingNotFound => "recording_not_found"
  | .recordingIsActive => "recording_is_active"
  | .guest e => e.text
  | .other => ""

structure ActiveRecording where
  recordingId : ℤ
  path : String
  mirrors : List String
  deriving DecidableEq, Repr

/-- A call of `stop` that has not begun. -/
structure StopCall where
  recordingId : ℤ
  reason : String
  deriving DecidableEq, Repr

/-- A `stop` that has taken the recorder, if there was one, and not yet updated the row. -/
structure Stopping where
  recordingId : ℤ
  active : Bool
  reason : String
  deriving DecidableEq, Repr

/-- The database, the maps of the service, and what its threads have still to do. -/
structure Service where
  data : Data
  /-- `_recorders`, by station -/
  recorders : Table ActiveRecording
  /-- `_consent_timers` -/
  consentTimers : List ℤ
  calls : List StopCall
  stopping : List Stopping
  /-- recordings of which mirrors failed -/
  failedMirrors : List ℤ

/-- Nothing is left to do for a thread. -/
def Service.Quiescent (s : Service) : Prop :=
  s.calls = [] ∧ s.stopping = [] ∧ s.failedMirrors = []

/-! ### Rows -/

/-- `status IN ('pending_consent','recording')`. -/
def isActive (status : RecordingStatus) : Bool :=
  status = .pendingConsent || status = .recording

/-- `UPDATE guest_recordings SET … WHERE id=?`. -/
def updateRecording (d : Data) (recordingId : ℤ) (f : GuestRecording → GuestRecording) : Data :=
  { d with guestRecordings := d.guestRecordings.modify recordingId f }

def cancelled (now reason : String) (r : GuestRecording) : GuestRecording :=
  { r with status := .cancelled, stoppedAt := some now, interruptionReason := reason }

/-- A guest the recorder hears. -/
def isLive (r : GuestSession) : Bool := r.status = .admitted && r.isConnected

/-- The sessions of a studio that are asked for consent. -/
def liveSessions (d : Data) (studioId : ℤ) : List ℤ :=
  ((rows d.guestSessions).filter fun r => r.2.studioId = studioId && isLive r.2).map Prod.fst

/-- No consent to the recording is pending or declined. -/
def allAccepted (d : Data) (recordingId : ℤ) : Bool :=
  (rows (d.consents.getD recordingId ∅)).all fun r => r.2.decision = .accepted

/-- `guest_recording_retention_days`, between a day and a year. -/
def retentionDays (d : Data) (stationId : ℤ) : Option ℤ :=
  let raw := (d.stationSettings[stationId]?.bind fun t =>
    t["guest_recording_retention_days"]?).getD "30"
  (intOf (if raw = "" then "30" else raw)).map fun n => max 1 (min 365 n)

section Calls

variable (sha : String → String) (tm : TimeText) (now : ℤ) (env : StartEnv)

/-! ### Starting -/

/-- The row of a recording that has started. -/
def started (opened : Opened) (r : GuestRecording) : GuestRecording :=
  { r with
    status := .recording
    filePath := opened.path
    manifestJson := opened.manifestJson
    startedAt := r.startedAt.orElse fun _ => some (tm.current now)
    stoppedAt := none
    interruptionReason := "" }

/-- `_start`: without a word, a recording whose station records already does not start. -/
def start (recordingId : ℤ) (resume : Bool) (s : Service) :
    Service × Except RecordingError Unit :=
  let s := { s with consentTimers := s.consentTimers.erase recordingId }
  match s.data.guestRecordings[recordingId]? with
  | none => (s, .ok ())
  | some row =>
    if row.status ≠ if resume then .recording else .pendingConsent then (s, .ok ())
    else if s.recorders.contains row.stationId then (s, .ok ())
    else
      match continued row.manifestJson env.now resume with
      | none => (s, .error .other)
      | some (manifest, segments) =>
        if !env.ffmpeg then (s, .error .ffmpegUnavailable)
        else
          let opened := openSegment env row.stationId recordingId manifest segments
          ({ s with
            data := updateRecording s.data recordingId (started tm now opened)
            recorders :=
              s.recorders.insert row.stationId ⟨recordingId, opened.path, opened.mirrors⟩ }, .ok ())

/-- A consent row for each session that is asked. -/
def askConsent (recordingId : ℤ) (sessions : List ℤ) (d : Data) : Data :=
  sessions.foldl (fun d sessionId => setConsent d (recordingId, sessionId) ⟨.pending, none⟩) d

/-- The row of a new recording. -/
def requested (studioId stationId actorId days : ℤ) : GuestRecording :=
  ⟨studioId, stationId, .pendingConsent, "\x7b\x7d", "", actorId, none, none,
    some (tm.iso (now + days * 86400000000)), "", tm.current now⟩

def request (studioId actorId : ℤ) (s : Service) : Service × Except RecordingError ℤ :=
  match s.data.studios[studioId]? with
  | none => (s, .error .studioNotFound)
  | some studio =>
    if (rows s.data.guestRecordings).any fun r =>
        r.2.studioId = studioId && isActive r.2.status then
      (s, .error .recordingAlreadyActive)
    else
      match retentionDays s.data studio.stationId with
      | none => (s, .error .other)
      | some days =>
        let id := newId s.data.guestRecordings
        let row := requested tm now studioId studio.stationId actorId days
        let sessions := liveSessions s.data studioId
        let d := { s.data with guestRecordings := s.data.guestRecordings.insert id row }
        let s := { s with data := askConsent id sessions d }
        if sessions.isEmpty then
          let out := start tm now env id false s
          (out.1, out.2.map fun _ => id)
        else ({ s with consentTimers := s.consentTimers ++ [id] }, .ok id)

/-- `_expire_consent`. -/
def expireConsent (recordingId : ℤ) (s : Service) : Service :=
  let expire (r : GuestRecording) : GuestRecording :=
    if r.status = .pendingConsent then cancelled (tm.current now) "consent_timeout" r else r
  { s with
    data := updateRecording s.data recordingId expire
    consentTimers := s.consentTimers.erase recordingId }

/-- The row of a consent that was decided. -/
def answered (s : Service) (recordingId sessionId : ℤ) (decision : Decision) : Service :=
  { s with data :=
      setConsent s.data (recordingId, sessionId) ⟨decision, some (tm.current now)⟩ }

def consent (recordingId : ℤ) (sessionToken : String) (accepted : Bool) (s : Service) :
    Service × Except RecordingError Unit :=
  match authenticateSession sha sessionToken s.data with
  | .error e => (s, .error (.guest e))
  | .ok (sessionId, _) =>
    match consentOf s.data recordingId sessionId with
    | none => (s, .error .recordingConsentNotRequested)
    | some _ =>
      if accepted then
        let s := answered tm now s recordingId sessionId .accepted
        if allAccepted s.data recordingId then start tm now env recordingId false s else (s, .ok ())
      else
        let s := answered tm now s recordingId sessionId .declined
        ({ s with
          data := updateRecording s.data recordingId
            (cancelled (tm.current now) "consent_declined")
          consentTimers := s.consentTimers.erase recordingId }, .ok ())

/-! ### Stopping -/

/-- The first half of `stop`: whatever records the station of the row is taken off the map. -/
def beginStop (recordingId : ℤ) (reason : String) (s : Service) :
    Service × Except RecordingError Unit :=
  match s.data.guestRecordings[recordingId]? with
  | none => (s, .error .recordingNotFound)
  | some row =>
    ({ s with
      recorders := s.recorders.erase row.stationId
      stopping := s.stopping ++ [⟨recordingId, s.recorders.contains row.stationId, reason⟩] },
      .ok ())

def stopStatus (failure : String) : RecordingStatus :=
  if failure = "leadership_lost" then .recording
  else if failure ≠ "" then .interrupted
  else .completed

/-- The row of a recording that was stopped. -/
def stopped (failure manifestJson : String) (r : GuestRecording) : GuestRecording :=
  { r with
    status := stopStatus failure
    stoppedAt := if failure = "leadership_lost" then none else some (tm.iso now)
    interruptionReason := failure
    manifestJson := manifestJson }

/-- Why a recording stopped: the reason of the call, or what the recorder reports. -/
def stopFailure (x : Stopping) (failed : String) : String :=
  if x.reason ≠ "" then x.reason else if x.active then failed else ""

/-- The second half of `stop`. -/
def finishStop (x : Stopping) (failed : String) (s : Service) :
    Service × Except RecordingError Unit :=
  let failure := stopFailure x failed
  let s := { s with stopping := s.stopping.erase x }
  match s.data.guestRecordings[x.recordingId]? with
  | none => (s, .ok ())
  | some row =>
    match closeSegment row.manifestJson (tm.iso now) failure with
    | none => (s, .error .other)
    | some manifestJson =>
      ({ s with
        data := updateRecording s.data x.recordingId (stopped tm now failure manifestJson) },
        .ok ())

/-- `publish_pcm`: whether the recorder took the chunk, and which mirrors did not. -/
def publishPcm (stationId : ℤ) (taken : Bool) (failed : List String) (s : Service) : Service :=
  match s.recorders[stationId]? with
  | none => s
  | some active =>
    if !taken then
      { s with calls :=
          s.calls ++ [⟨active.recordingId, "recorder_backpressure_or_failure"⟩] }
    else if failed.isEmpty then s
    else { s with
      recorders := s.recorders.insert stationId
        { active with mirrors := active.mirrors.filter fun m => !failed.contains m }
      failedMirrors := s.failedMirrors ++ [active.recordingId] }

/-- `_handle_failed_mirrors`. -/
def handleFailedMirrors (recordingId : ℤ) (s : Service) : Service :=
  let s := { s with failedMirrors := s.failedMirrors.erase recordingId }
  match s.data.guestRecordings[recordingId]? with
  | none => s
  | some row =>
    match degrade row.manifestJson with
    | none => s
    | some m =>
      { s with data := updateRecording s.data recordingId fun r => { r with manifestJson := m } }

/-! ### Deleting, shutting down, resuming -/

def delete (recordingId : ℤ) (s : Service) : Service × Except RecordingError (List String) :=
  match s.data.guestRecordings[recordingId]? with
  | none => (s, .error .recordingNotFound)
  | some row =>
    if isActive row.status then (s, .error .recordingIsActive)
    else
      match candidates row.manifestJson row.filePath with
      | none => (s, .error .other)
      | some files =>
        ({ s with
          data := updateRecording s.data recordingId fun r => { r with status := .deleted } },
          .ok (files.filter fun f => f ≠ ""))

def cleanupExpired (s : Service) : Service :=
  let expired := (rows s.data.guestRecordings).filter fun r =>
    (r.2.expiresAt.any fun t => t < tm.iso now) && !isActive r.2.status && r.2.status ≠ .deleted
  expired.foldl (fun s r => (delete r.1 s).1) s

def stopAll (reason : String) (s : Service) : Service :=
  { s with
    calls := s.calls ++ (rows s.recorders).map fun r => ⟨r.2.recordingId, reason⟩
    consentTimers := [] }

def interruptStation (stationId : ℤ) (reason : String) (s : Service) : Service :=
  match s.recorders[stationId]? with
  | none => s
  | some active =>
    let reason := if reason = "" then "runtime_stopped" else reason
    { s with calls := s.calls ++ [⟨active.recordingId, reason⟩] }

/-- `resume_replicated_recordings`. -/
def resumeRecordings (s : Service) : Service :=
  let recording := (rows s.data.guestRecordings).filter fun r => r.2.status = .recording
  recording.foldl (fun s r => (start tm now env r.1 true s).1) s

end Calls

/-! ### What a call does -/

section Rows

variable {d : Data} {r g studioId : ℤ}

lemma mem_consents {c : Consent} :
    (g, c) ∈ rows (d.consents.getD r ∅) ↔ consentOf d r g = some c := by
  rw [mem_rows, Std.ExtTreeMap.getD_eq_getD_getElem?, consentOf]
  cases d.consents[r]? <;> simp

lemma allAccepted_iff : allAccepted d r ↔
    ∀ g c, consentOf d r g = some c → c.decision = .accepted := by
  rw [allAccepted, List.all_eq_true]
  constructor
  · intro h g c hc
    simpa using h (g, c) (mem_consents.mpr hc)
  · rintro h ⟨g, c⟩ hc
    simpa using h g c (mem_consents.mp hc)

lemma lookup_updateRecording (d : Data) (r : ℤ) (f : GuestRecording → GuestRecording) (k : ℤ) :
    (updateRecording d r f).guestRecordings[k]? =
      if k = r then d.guestRecordings[k]?.map f else d.guestRecordings[k]? :=
  lookup_modify _ _ _ _

/-- Asking writes consent rows of the recording only. -/
lemma askConsent_eq (r : ℤ) (gs : List ℤ) (d : Data) :
    ∃ t, askConsent r gs d = { d with consents := t } ∧
      ∀ q g, q ≠ r → consentOf (askConsent r gs d) q g = consentOf d q g := by
  induction gs generalizing d with
  | nil => exact ⟨d.consents, rfl, fun _ _ _ => rfl⟩
  | cons g gs ih =>
    obtain ⟨t, ht, hother⟩ := ih (setConsent d (r, g) ⟨.pending, none⟩)
    refine ⟨t, ht, fun q g' hq => ?_⟩
    have hset := consentOf_setConsent d (r, g) ⟨.pending, none⟩ q g'
    rw [if_neg (by simp [hq])] at hset
    rw [← hset]
    exact hother q g' hq

/-- What `askConsent` writes is pending. -/
lemma askConsent_pending {r g : ℤ} {c : Consent} {gs : List ℤ} {d : Data}
    (h : consentOf (askConsent r gs d) r g = some c) :
    c.decision = .pending ∨ consentOf d r g = some c := by
  induction gs generalizing d with
  | nil => exact .inr h
  | cons g' gs ih =>
    rcases ih h with hp | hc
    · exact .inl hp
    · rw [consentOf_setConsent] at hc
      split_ifs at hc
      · obtain rfl := Option.some.inj hc
        exact .inl rfl
      · exact .inr hc

end Rows

section Effects

variable {sha : String → String} {tm : TimeText} {now : ℤ} {env : StartEnv} {s : Service}
  {recordingId : ℤ}

/-- What `_start` comes to. -/
inductive Start (tm : TimeText) (now : ℤ) (env : StartEnv) (recordingId : ℤ) (resume : Bool)
    (s : Service) : Service → Prop
  | refused : Start tm now env recordingId resume s
      { s with consentTimers := s.consentTimers.erase recordingId }
  | opened (row : GuestRecording) (opened : Opened)
      (hrow : s.data.guestRecordings[recordingId]? = some row)
      (hstatus : row.status = if resume then .recording else .pendingConsent)
      (hfree : s.recorders[row.stationId]? = none) (hffmpeg : env.ffmpeg = true)
      (hread : Readable opened.manifestJson) : Start tm now env recordingId resume s
      { s with
        consentTimers := s.consentTimers.erase recordingId
        data := updateRecording s.data recordingId (started tm now opened)
        recorders :=
          s.recorders.insert row.stationId ⟨recordingId, opened.path, opened.mirrors⟩ }

lemma start_step (tm : TimeText) (now : ℤ) (env : StartEnv) (recordingId : ℤ) (resume : Bool)
    (s : Service) :
    Start tm now env recordingId resume s (start tm now env recordingId resume s).1 := by
  fun_cases start tm now env recordingId resume s
  case case6 row hrow hstatus hfree manifest segments hcont hff opened =>
    exact .opened row _ hrow (not_not.mp hstatus) (by simpa using hfree) (by simpa using hff)
      (openSegment_readable _ _ _ _ _)
  all_goals exact .refused

/-- What `request` comes to. -/
inductive Request (tm : TimeText) (now : ℤ) (env : StartEnv) (studioId : ℤ) (s : Service) :
    Service → Prop
  | refused : Request tm now env studioId s s
  | asked (row : GuestRecording) (timers : List ℤ) (hrow : row.status = .pendingConsent)
      (hread : Readable row.manifestJson) : Request tm now env studioId s
      { s with
        data := askConsent (newId s.data.guestRecordings) (liveSessions s.data studioId)
          { s.data with guestRecordings :=
              s.data.guestRecordings.insert (newId s.data.guestRecordings) row }
        consentTimers := timers }
  | started (row : GuestRecording) (s' : Service) (hrow : row.status = .pendingConsent)
      (hst : row.studioId = studioId) (hread : Readable row.manifestJson)
      (hnone : liveSessions s.data studioId = [])
      (hstart : Start tm now env (newId s.data.guestRecordings) false
        { s with data := { s.data with guestRecordings :=
          s.data.guestRecordings.insert (newId s.data.guestRecordings) row } } s') :
      Request tm now env studioId s s'

lemma request_step (tm : TimeText) (now : ℤ) (env : StartEnv) (studioId actorId : ℤ)
    (s : Service) : Request tm now env studioId s (request tm now env studioId actorId s).1 := by
  fun_cases request tm now env studioId actorId s
  case case4 studio _ _ days _ id row sessions d s' hempty out =>
    have hnone : liveSessions s.data studioId = [] := List.isEmpty_iff.mp hempty
    have key : ∀ gs, gs = [] → Start tm now env id false { s with data := d }
        (start tm now env id false { s with data := askConsent id gs d }).1 := by
      rintro _ rfl
      exact start_step _ _ _ _ _ _
    exact .started row _ rfl rfl readable_empty hnone (key _ hnone)
  case case5 studio _ _ days _ id row sessions d s' hempty =>
    exact .asked row _ rfl readable_empty
  all_goals exact .refused

/-- What `consent` comes to. -/
inductive Consenting (sha : String → String) (tm : TimeText) (now : ℤ) (env : StartEnv)
    (recordingId : ℤ) (sessionToken : String) (s : Service) : Bool → Service → Prop
  | refused (accepted : Bool) : Consenting sha tm now env recordingId sessionToken s accepted s
  | declined (g : ℤ × GuestSession) (ha : authenticateSession sha sessionToken s.data = .ok g)
      (hc : (consentOf s.data recordingId g.1).isSome) :
      Consenting sha tm now env recordingId sessionToken s false
        { s with
          data := updateRecording (answered tm now s recordingId g.1 .declined).data recordingId
            (cancelled (tm.current now) "consent_declined")
          consentTimers := s.consentTimers.erase recordingId }
  | waiting (g : ℤ × GuestSession) (ha : authenticateSession sha sessionToken s.data = .ok g)
      (hc : (consentOf s.data recordingId g.1).isSome) :
      Consenting sha tm now env recordingId sessionToken s true
        (answered tm now s recordingId g.1 .accepted)
  | last (g : ℤ × GuestSession) (s' : Service)
      (ha : authenticateSession sha sessionToken s.data = .ok g)
      (hc : (consentOf s.data recordingId g.1).isSome)
      (hall : allAccepted (answered tm now s recordingId g.1 .accepted).data recordingId)
      (hstart : Start tm now env recordingId false
        (answered tm now s recordingId g.1 .accepted) s') :
      Consenting sha tm now env recordingId sessionToken s true s'

lemma consent_step (sha : String → String) (tm : TimeText) (now : ℤ) (env : StartEnv)
    (recordingId : ℤ) (sessionToken : String) (accepted : Bool) (s : Service) :
    Consenting sha tm now env recordingId sessionToken s accepted
      (consent sha tm now env recordingId sessionToken accepted s).1 := by
  fun_cases consent sha tm now env recordingId sessionToken accepted s
  case case3 g x ha c hc hacc s' hall =>
    subst hacc
    exact .last (g, x) _ ha (by simp [hc]) hall (start_step _ _ _ _ _ _)
  case case4 g x ha c hc hacc s' hall =>
    subst hacc
    exact .waiting (g, x) ha (by simp [hc])
  case case5 g x ha c hc hacc s' =>
    obtain rfl := Bool.eq_false_of_not_eq_true hacc
    exact .declined (g, x) ha (by simp [hc])
  all_goals exact .refused _

/-- What the second half of `stop` comes to. -/
lemma finishStop_eq (tm : TimeText) (now : ℤ) (x : Stopping) (failed : String) (s : Service) :
    (finishStop tm now x failed s).1 = { s with stopping := s.stopping.erase x } ∧
        (∀ row ∈ s.data.guestRecordings[x.recordingId]?,
          closeSegment row.manifestJson (tm.iso now) (stopFailure x failed) = none) ∨
      ∃ row m, s.data.guestRecordings[x.recordingId]? = some row ∧
        closeSegment row.manifestJson (tm.iso now) (stopFailure x failed) = some m ∧
        (finishStop tm now x failed s).1 = { s with
          stopping := s.stopping.erase x
          data := updateRecording s.data x.recordingId
            (stopped tm now (stopFailure x failed) m) } := by
  unfold finishStop
  dsimp only
  split
  · rename_i hnone
    exact .inl ⟨rfl, by simp [hnone]⟩
  · rename_i row hrow
    split
    · rename_i hclose
      exact .inl ⟨rfl, by simp [hrow, hclose]⟩
    · rename_i m hclose
      exact .inr ⟨row, m, hrow, hclose, rfl⟩

/-- Only what is not active is deleted. -/
lemma delete_eq (r : ℤ) (s : Service) : (delete r s).1 = s ∨
    ∃ row : GuestRecording, s.data.guestRecordings[r]? = some row ∧ ¬ isActive row.status ∧
      (delete r s).1 =
        { s with data := updateRecording s.data r fun q => { q with status := .deleted } } := by
  unfold delete
  split
  · exact .inl rfl
  · rename_i row hrow
    split_ifs with hact
    · exact .inl rfl
    · split
      · exact .inl rfl
      · exact .inr ⟨row, hrow, by simpa using hact, rfl⟩

end Effects

/-! ### Runs -/

/-- A call of one of the services, or a step of one of its threads. -/
inductive Op
  | createInvite (token : String) (studioId actorId : ℤ)
  | revokeInvite (studioId inviteId : ℤ)
  | redeem (sessionToken token displayName : String)
  | setConnected (sessionId : ℤ) (connected : Bool) (quality : String)
  | admitGuest (studioId sessionId : ℤ)
  | rejectOrKick (studioId sessionId : ℤ) (action : String)
  | updateAudio (studioId sessionId : ℤ) (muted onAir : Option Bool) (gainDb : Option ℚ)
  | allOffAir (studioId : ℤ)
  | guestSelfMute (sessionToken : String) (muted : Bool)
  | request (studioId actorId : ℤ)
  | expireConsent (recordingId : ℤ)
  | consent (recordingId : ℤ) (sessionToken : String) (accepted : Bool)
  | stop (recordingId : ℤ) (reason : String)
  | runStop (call : StopCall)
  | finishStop (x : Stopping) (failed : String)
  | publishPcm (stationId : ℤ) (taken : Bool) (failed : List String)
  | handleFailedMirrors (recordingId : ℤ)
  | delete (recordingId : ℤ)
  | cleanupExpired
  | stopAll (reason : String)
  | interruptStation (stationId : ℤ) (reason : String)
  | resumeRecordings

structure Act where
  now : ℤ
  env : StartEnv
  op : Op

/-- A call of the guest room; what it refuses changes nothing. -/
def Service.guest (s : Service) (out : Except GuestRoomError Data) : Service :=
  match out with
  | .ok d => { s with data := d }
  | .error _ => s

/-- A step. A timer fires only while it is set, and a thread does only what is left to do. -/
def step (sha : String → String) (tm : TimeText) (s : Service) (a : Act) : Option Service :=
  match a.op with
  | .createInvite token studioId actorId =>
    some (s.guest ((createInvite sha tm a.now token studioId actorId s.data).map Prod.snd))
  | .revokeInvite studioId inviteId =>
    some (s.guest (revokeInvite tm a.now studioId inviteId s.data))
  | .redeem sessionToken token displayName =>
    some (s.guest ((redeem sha tm a.now sessionToken token displayName s.data).map Prod.snd))
  | .setConnected sessionId connected quality =>
    some { s with data := setConnected tm a.now sessionId connected quality s.data }
  | .admitGuest studioId sessionId =>
    some (s.guest (admitGuest tm a.now studioId sessionId s.data))
  | .rejectOrKick studioId sessionId action =>
    some (s.guest (rejectOrKick tm a.now studioId sessionId action s.data))
  | .updateAudio studioId sessionId muted onAir gainDb =>
    some (s.guest (updateAudio tm a.now studioId sessionId muted onAir gainDb s.data))
  | .allOffAir studioId => some (s.guest ((allOffAir studioId s.data).map Prod.snd))
  | .guestSelfMute sessionToken muted =>
    some (s.guest (guestSelfMute sha tm a.now sessionToken muted s.data))
  | .request studioId actorId => some (request tm a.now a.env studioId actorId s).1
  | .expireConsent recordingId =>
    if recordingId ∈ s.consentTimers then some (expireConsent tm a.now recordingId s) else none
  | .consent recordingId sessionToken accepted =>
    some (consent sha tm a.now a.env recordingId sessionToken accepted s).1
  | .stop recordingId reason => some (beginStop recordingId reason s).1
  | .runStop call =>
    if call ∈ s.calls then
      some (beginStop call.recordingId call.reason { s with calls := s.calls.erase call }).1
    else none
  | .finishStop x failed =>
    if x ∈ s.stopping then some (finishStop tm a.now x failed s).1 else none
  | .publishPcm stationId taken failed => some (publishPcm stationId taken failed s)
  | .handleFailedMirrors recordingId =>
    if recordingId ∈ s.failedMirrors then some (handleFailedMirrors recordingId s) else none
  | .delete recordingId => some (delete recordingId s).1
  | .cleanupExpired => some (cleanupExpired tm a.now s)
  | .stopAll reason => some (stopAll reason s)
  | .interruptStation stationId reason => some (interruptStation stationId reason s)
  | .resumeRecordings => some (resumeRecordings tm a.now a.env s)

/-- A process that starts on a database with stations, studios and settings, and nobody in
them. -/
def initial (stations : Table Unit) (studios : Table Studio)
    (settings : Table (Std.ExtTreeMap String String)) : Service :=
  ⟨{ Data.empty with stations := stations, studios := studios, stationSettings := settings },
    ∅, [], [], [], []⟩

end OnAir.ProgramRecording
