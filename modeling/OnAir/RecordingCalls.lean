import OnAir.ProgramRecording

/-!
Calls of the recording service on connections of their own.

Each call reads what it needs with single statements, waits for recorders and files, and writes by
the id of the recording. The statements of the others, the consent timer among them, run in between.
-/

namespace OnAir.RecordingCalls

open OnAir.Database GuestRoomService ProgramRecording RecordingManifest ReplicationApplier Runs
  OnAir.Table

/-- The database, and the maps of the service. -/
structure Store where
  data : Data
  recorders : Table ActiveRecording
  consentTimers : List ℤ

inductive Request
  | request (studioId actorId : ℤ)
  | expireConsent (recordingId : ℤ)
  | consent (recordingId : ℤ) (sessionToken : String) (accepted : Bool)
  | start (recordingId : ℤ) (resume : Bool)
  | stop (recordingId : ℤ) (reason : String)
  | delete (recordingId : ℤ)
  | cleanupExpired

deriving instance DecidableEq for Opened

/-- What a call does next, and what it has read. -/
inductive Pending
  | findStudio (studioId actorId : ℤ)
  | findActive (studioId stationId actorId : ℤ)
  | readRetention (studioId stationId actorId : ℤ)
  | insertRecording (studioId stationId actorId : ℤ) (expiresAt : String)
  | setTimer (recordingId : ℤ)
  | expire (recordingId : ℤ)
  | authenticate (recordingId : ℤ) (sessionToken : String) (accepted : Bool)
  | findConsent (recordingId sessionId : ℤ) (accepted : Bool)
  | decideConsent (recordingId sessionId : ℤ) (accepted : Bool)
  | countPending (recordingId : ℤ)
  | countDeclined (recordingId : ℤ)
  | popTimer (recordingId : ℤ)
  | cancelTimer (recordingId : ℤ) (resume : Bool)
  | findRow (recordingId : ℤ) (resume : Bool)
  | checkMap (recordingId : ℤ) (resume : Bool) (row : GuestRecording)
  | openRecorder (recordingId : ℤ) (resume : Bool) (row : GuestRecording)
  | enterMap (recordingId stationId : ℤ) (opened : Opened)
  | markStarted (recordingId : ℤ) (opened : Opened)
  | findStation (recordingId : ℤ) (reason : String)
  | takeRecorder (recordingId stationId : ℤ) (reason : String)
  | finishRecorder (recordingId : ℤ) (active : Bool) (reason : String)
  | readManifest (recordingId : ℤ) (failure : String)
  | markStopped (recordingId : ℤ) (failure manifestJson : String)
  | findExpired
  /-- `cleanup_expired` deletes the rows in `rest` afterwards -/
  | checkDelete (recordingId : ℤ) (rest : Option (List ℤ))
  | markDeleted (recordingId : ℤ) (rest : Option (List ℤ))
  deriving DecidableEq

/-- The first thing a call does. -/
def Request.first : Request → Pending
  | .request studioId actorId => .findStudio studioId actorId
  | .expireConsent recordingId => .expire recordingId
  | .consent recordingId sessionToken accepted => .authenticate recordingId sessionToken accepted
  | .start recordingId resume => .cancelTimer recordingId resume
  | .stop recordingId reason => .findStation recordingId reason
  | .delete recordingId => .checkDelete recordingId none
  | .cleanupExpired => .findExpired

/-- The loop of `cleanup_expired`. -/
def deleteNext : List ℤ → Option Pending
  | [] => none
  | recordingId :: rest => some (.checkDelete recordingId (some rest))

/-- The surroundings of a statement: the clock, what `_start` finds around it, and what a recorder
that is stopped reports. -/
structure Around where
  now : ℤ
  env : StartEnv
  failed : String

/-- What `delete` refuses is passed over by the loop. -/
def refuseDelete (e : RecordingError) (rest : Option (List ℤ)) (s : Store) :
    Except RecordingError (Store × Option Pending) :=
  match rest with
  | none => .error e
  | some rest => .ok (s, deleteNext rest)

section Statements

variable (sha : String → String) (tm : TimeText) (w : Around)

/-- The next statement: the store afterwards, and what the call does after it, if it goes on. -/
def proceed (p : Pending) (s : Store) : Except RecordingError (Store × Option Pending) :=
  let d := s.data
  match p with
  | .findStudio studioId actorId =>
    match d.studios[studioId]? with
    | none => .error .studioNotFound
    | some studio => .ok (s, some (.findActive studioId studio.stationId actorId))
  | .findActive studioId stationId actorId =>
    if (rows d.guestRecordings).any fun r => r.2.studioId = studioId && isActive r.2.status then
      .error .recordingAlreadyActive
    else .ok (s, some (.readRetention studioId stationId actorId))
  | .readRetention studioId stationId actorId =>
    match retentionDays d stationId with
    | none => .error .other
    | some days =>
      .ok (s, some (.insertRecording studioId stationId actorId
        (tm.iso (w.now + days * 86400000000))))
  | .insertRecording studioId stationId actorId expiresAt =>
    let id := newId d.guestRecordings
    let row : GuestRecording := ⟨studioId, stationId, .pendingConsent, "\x7b\x7d", "", actorId,
      none, none, some expiresAt, "", tm.current w.now⟩
    let sessions := liveSessions d studioId
    let inserted := { d with guestRecordings := d.guestRecordings.insert id row }
    .ok ({ s with data := askConsent id sessions inserted },
      some (if sessions.isEmpty then .cancelTimer id false else .setTimer id))
  | .setTimer recordingId =>
    .ok ({ s with consentTimers := s.consentTimers ++ [recordingId] }, none)
  | .expire recordingId =>
    let expire (r : GuestRecording) : GuestRecording :=
      if r.status = .pendingConsent then cancelled (tm.current w.now) "consent_timeout" r else r
    .ok ({ s with data := updateRecording d recordingId expire }, some (.popTimer recordingId))
  | .authenticate recordingId sessionToken accepted =>
    match authenticateSession sha sessionToken d with
    | .error e => .error (.guest e)
    | .ok (sessionId, _) => .ok (s, some (.findConsent recordingId sessionId accepted))
  | .findConsent recordingId sessionId accepted =>
    match consentOf d recordingId sessionId with
    | none => .error .recordingConsentNotRequested
    | some _ => .ok (s, some (.decideConsent recordingId sessionId accepted))
  | .decideConsent recordingId sessionId accepted =>
    let decision := if accepted then Decision.accepted else .declined
    let decided := setConsent d (recordingId, sessionId) ⟨decision, some (tm.current w.now)⟩
    if accepted then .ok ({ s with data := decided }, some (.countPending recordingId))
    else
      let cancel := cancelled (tm.current w.now) "consent_declined"
      .ok ({ s with data := updateRecording decided recordingId cancel },
        some (.popTimer recordingId))
  | .countPending recordingId =>
    if (rows (d.consents.getD recordingId ∅)).all fun r => r.2.decision ≠ .pending then
      .ok (s, some (.countDeclined recordingId))
    else .ok (s, none)
  | .countDeclined recordingId =>
    if (rows (d.consents.getD recordingId ∅)).all fun r => r.2.decision ≠ .declined then
      .ok (s, some (.cancelTimer recordingId false))
    else .ok (s, none)
  | .popTimer recordingId =>
    .ok ({ s with consentTimers := s.consentTimers.erase recordingId }, none)
  | .cancelTimer recordingId resume =>
    .ok ({ s with consentTimers := s.consentTimers.erase recordingId },
      some (.findRow recordingId resume))
  | .findRow recordingId resume =>
    match d.guestRecordings[recordingId]? with
    | none => .ok (s, none)
    | some row =>
      if row.status ≠ if resume then .recording else .pendingConsent then .ok (s, none)
      else .ok (s, some (.checkMap recordingId resume row))
  | .checkMap recordingId resume row =>
    if s.recorders.contains row.stationId then .ok (s, none)
    else .ok (s, some (.openRecorder recordingId resume row))
  | .openRecorder recordingId resume row =>
    match continued row.manifestJson w.env.now resume with
    | none => .error .other
    | some (manifest, segments) =>
      if !w.env.ffmpeg then .error .ffmpegUnavailable
      else .ok (s, some (.enterMap recordingId row.stationId
        (openSegment w.env row.stationId recordingId manifest segments)))
  | .enterMap recordingId stationId opened =>
    .ok ({ s with
      recorders := s.recorders.insert stationId ⟨recordingId, opened.path, opened.mirrors⟩ },
      some (.markStarted recordingId opened))
  | .markStarted recordingId opened =>
    .ok ({ s with data := updateRecording d recordingId (started tm w.now opened) }, none)
  | .findStation recordingId reason =>
    match d.guestRecordings[recordingId]? with
    | none => .error .recordingNotFound
    | some row => .ok (s, some (.takeRecorder recordingId row.stationId reason))
  | .takeRecorder recordingId stationId reason =>
    .ok ({ s with recorders := s.recorders.erase stationId },
      some (.finishRecorder recordingId (s.recorders.contains stationId) reason))
  | .finishRecorder recordingId active reason =>
    let failure := if reason ≠ "" then reason else if active then w.failed else ""
    .ok (s, some (.readManifest recordingId failure))
  | .readManifest recordingId failure =>
    match d.guestRecordings[recordingId]? with
    | none => .ok (s, none)
    | some row =>
      match closeSegment row.manifestJson (tm.iso w.now) failure with
      | none => .error .other
      | some manifestJson => .ok (s, some (.markStopped recordingId failure manifestJson))
  | .markStopped recordingId failure manifestJson =>
    .ok ({ s with
      data := updateRecording d recordingId (stopped tm w.now failure manifestJson) }, none)
  | .findExpired =>
    let expired := (rows d.guestRecordings).filter fun r =>
      (r.2.expiresAt.any fun t => t < tm.iso w.now) && !isActive r.2.status &&
        r.2.status ≠ .deleted
    .ok (s, deleteNext (expired.map Prod.fst))
  | .checkDelete recordingId rest =>
    match d.guestRecordings[recordingId]? with
    | none => refuseDelete .recordingNotFound rest s
    | some row =>
      if isActive row.status then refuseDelete .recordingIsActive rest s
      else
        match candidates row.manifestJson row.filePath with
        | none => refuseDelete .other rest s
        | some _ => .ok (s, some (.markDeleted recordingId rest))
  | .markDeleted recordingId rest =>
    .ok ({ s with data := updateRecording d recordingId fun r => { r with status := .deleted } },
      rest.bind deleteNext)

end Statements

/-! ### Calls that run at the same time -/

/-- The store, and the calls in flight by the statements they have reached. -/
structure State where
  store : Store
  calls : List Pending

inductive Event
  | call (q : Request)
  | turn (p : Pending)
  /-- the manifest of a recording is written by the thread that stops its mirrors -/
  | manifest (recordingId : ℤ) (text : String)
  /-- the other tables are written by others -/
  | others (d : Data)

/-- An event, with what surrounds it. -/
structure Act where
  around : Around
  event : Event

variable (sha : String → String) (tm : TimeText)

/-- A call begins, or executes its next statement; one that raises ends. -/
def step (s : State) (a : Act) : Option State :=
  match a.event with
  | .call q => some { s with calls := q.first :: s.calls }
  | .turn p =>
    if p ∈ s.calls then
      match proceed sha tm a.around p s.store with
      | .ok (store, next) => some ⟨store, next.toList ++ s.calls.erase p⟩
      | .error _ => some { s with calls := s.calls.erase p }
    else none
  | .manifest recordingId text =>
    let write (r : GuestRecording) : GuestRecording := { r with manifestJson := text }
    some { s with store := { s.store with data := updateRecording s.store.data recordingId write } }
  | .others d =>
    let data := { d with guestRecordings := s.store.data.guestRecordings }
    some { s with store := { s.store with data := data } }

end OnAir.RecordingCalls
