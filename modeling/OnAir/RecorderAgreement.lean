import OnAir.RecordingConsent

/-!
The recorders of the stations against the rows of the recordings.

A row names its station, and the map of recorders names the recording of each station; the
service keeps the two together only where a stop finds the recorder of its own recording, a
guest declines before the recorder runs, and a recording does not start while it is being
stopped.
-/

namespace OnAir.RecorderAgreement

open OnAir.Database GuestRoomService ProgramRecording RecordingConsent RecordingManifest
  ReplicationApplier Runs OnAir.Table

/-- A station has a recorder for a recording exactly when the row of the recording says so. -/
def Agrees (s : Service) : Prop :=
  ∀ (st r : ℤ), (∃ a : ActiveRecording, s.recorders[st]? = some a ∧ a.recordingId = r) ↔
    ∃ q : GuestRecording, s.data.guestRecordings[r]? = some q ∧ q.stationId = st ∧
      q.status = .recording

/-- The recordings of the stops that have not updated their row. -/
def stoppingIds (s : Service) : List ℤ := s.stopping.map (·.recordingId)

/-! ### The condition on a step -/

/-- The leadership does not change hands. -/
def NoFailover (a : Act) : Prop :=
  match a.op with
  | .stop _ reason | .stopAll reason | .interruptStation _ reason => reason ≠ "leadership_lost"
  | .finishStop _ failed => failed ≠ "leadership_lost"
  | .resumeRecordings => False
  | _ => True

/-- What records the station of the recording is its own recorder. -/
def OwnRecorder (s : Service) (r : ℤ) : Prop :=
  ∀ q ∈ s.data.guestRecordings[r]?, ∀ a ∈ s.recorders[q.stationId]?, a.recordingId = r

/-- A stop that finds no recorder but that of its recording, a consent that is declined while
the recorder does not run, and a start of what is not being stopped. -/
def KeepsTrack (sha : String → String) (s : Service) (a : Act) : Prop :=
  match a.op with
  | .stop r _ => OwnRecorder s r
  | .runStop call => OwnRecorder s call.recordingId
  | .consent r token accepted =>
    ∀ q ∈ s.data.guestRecordings[r]?, ∀ g ∈ (authenticateSession sha token s.data).toOption,
      if accepted then LastConsent s a.env r g.1 q → r ∉ stoppingIds s
      else (consentOf s.data r g.1).isSome →
        ∀ a ∈ s.recorders[q.stationId]?, a.recordingId ≠ r
  | _ => True

instance (a : Act) : Decidable (NoFailover a) := by
  unfold NoFailover
  generalize a.op = op
  rcases op with _ | _
  all_goals infer_instance

instance (s : Service) (r : ℤ) : Decidable (OwnRecorder s r) := by
  unfold OwnRecorder
  infer_instance

instance (sha : String → String) (s : Service) (a : Act) : Decidable (KeepsTrack sha s a) := by
  unfold KeepsTrack
  generalize a.op = op
  rcases op with _ | _
  all_goals infer_instance

/-! ### The invariant -/

structure Tracked (s : Service) : Prop where
  /-- a recorder has a row that says so, and nobody is stopping it -/
  recorded : ∀ (st : ℤ) (a : ActiveRecording), s.recorders[st]? = some a →
    (∃ q : GuestRecording, s.data.guestRecordings[a.recordingId]? = some q ∧ q.stationId = st ∧
      q.status = .recording) ∧ a.recordingId ∉ stoppingIds s
  /-- a row that says so has a recorder, or is being stopped -/
  recording : ∀ (r : ℤ) (q : GuestRecording), s.data.guestRecordings[r]? = some q →
    q.status = .recording →
      (∃ a : ActiveRecording, s.recorders[q.stationId]? = some a ∧ a.recordingId = r) ∨
        r ∈ stoppingIds s
  /-- only what is there is stopped -/
  known : ∀ r ∈ stoppingIds s, (s.data.guestRecordings[r]?).isSome
  readable : ∀ (r : ℤ) (q : GuestRecording), s.data.guestRecordings[r]? = some q →
    Readable q.manifestJson
  /-- no stop is for a failover -/
  called : ∀ c ∈ s.calls, c.reason ≠ "leadership_lost"
  stopped : ∀ x ∈ s.stopping, x.reason ≠ "leadership_lost"
  /-- `REFERENCES guest_recordings(id)` -/
  keyed : ∀ r g, (consentOf s.data r g).isSome → (s.data.guestRecordings[r]?).isSome
  /-- what somebody declined is over -/
  declined : ∀ (r g : ℤ) (c : Consent) (q : GuestRecording), consentOf s.data r g = some c →
    c.decision = .declined → s.data.guestRecordings[r]? = some q → isActive q.status = false

/-- The recording is over. -/
def Over (d : Data) (r : ℤ) : Prop :=
  ∃ q : GuestRecording, d.guestRecordings[r]? = some q ∧ isActive q.status = false

section Tracked

variable {s : Service} {r : ℤ}

lemma Tracked.agrees (h : Tracked s) (hq : s.Quiescent) : Agrees s := by
  have hnil : stoppingIds s = [] := by rw [stoppingIds, hq.2.1, List.map_nil]
  intro st r
  constructor
  · rintro ⟨a, ha, rfl⟩
    exact (h.recorded st a ha).1
  · rintro ⟨q, hq, rfl, hrec⟩
    refine (h.recording r q hq hrec).resolve_right ?_
    simp [hnil]

/-- What is over is not recorded. -/
lemma Tracked.not_recorded (h : Tracked s) {q : GuestRecording}
    (hq : s.data.guestRecordings[r]? = some q) (hrec : q.status ≠ .recording) (st : ℤ)
    (a : ActiveRecording) (ha : s.recorders[st]? = some a) : a.recordingId ≠ r := by
  rintro rfl
  obtain ⟨⟨p, hp, -, hp'⟩, -⟩ := h.recorded st a ha
  obtain rfl : q = p := Option.some.inj (hq.symm.trans hp)
  exact hrec hp'

/-- A call that leaves the recordings and the consents alone. -/
lemma Tracked.data (h : Tracked s) {d : Data}
    (hr : d.guestRecordings = s.data.guestRecordings) (hc : d.consents = s.data.consents) :
    Tracked { s with data := d } where
  recorded st a ha := by
    have hrec := h.recorded st a ha
    rw [← hr] at hrec
    exact hrec
  recording r q hq := h.recording r q (by rwa [hr] at hq)
  known r hmem := by simpa only [hr] using h.known r hmem
  readable r q hq := h.readable r q (by rwa [hr] at hq)
  called := h.called
  stopped := h.stopped
  keyed r g hsome := by
    rw [consentOf, hc] at hsome
    simpa only [hr] using h.keyed r g hsome
  declined r g c q hcon hdec hq := by
    rw [consentOf, hc] at hcon
    exact h.declined r g c q hcon hdec (by rwa [hr] at hq)

/-- A call that issues further stops and changes no more than the mirrors of a recorder. -/
lemma Tracked.calling (h : Tracked s) {recorders : Table ActiveRecording}
    {timers failed : List ℤ} {calls : List StopCall}
    (hrec : ∀ st : ℤ, (recorders[st]?).map (·.recordingId) =
      (s.recorders[st]?).map (·.recordingId))
    (hcalls : ∀ c ∈ calls, c.reason ≠ "leadership_lost") :
    Tracked { s with
      recorders := recorders, consentTimers := timers, calls := calls,
      failedMirrors := failed } where
  recorded st a ha := by
    have hid := hrec st
    rw [show recorders[st]? = some a from ha, Option.map_some] at hid
    obtain ⟨b, hb, hba⟩ := Option.map_eq_some_iff.mp hid.symm
    exact hba ▸ h.recorded st b hb
  recording r q hq hr := by
    refine (h.recording r q hq hr).imp_left ?_
    rintro ⟨b, hb, hbr⟩
    have hid := hrec q.stationId
    rw [hb, Option.map_some] at hid
    obtain ⟨a, ha, hab⟩ := Option.map_eq_some_iff.mp hid
    exact ⟨a, ha, hab.trans hbr⟩
  known := h.known
  readable := h.readable
  called := hcalls
  stopped := h.stopped
  keyed := h.keyed
  declined := h.declined

lemma Tracked.called_append (h : Tracked s) {c : StopCall} (hc : c.reason ≠ "leadership_lost") :
    ∀ x ∈ s.calls ++ [c], x.reason ≠ "leadership_lost" := by
  intro x hx
  rcases List.mem_append.mp hx with hx | hx
  · exact h.called x hx
  · obtain rfl := List.mem_singleton.mp hx
    exact hc

/-- An update of a row that keeps its status. -/
lemma Tracked.rewrite (h : Tracked s) {f : GuestRecording → GuestRecording}
    (hst : ∀ q, s.data.guestRecordings[r]? = some q →
      (f q).stationId = q.stationId ∧ (f q).status = q.status)
    (hread : ∀ q, s.data.guestRecordings[r]? = some q → Readable (f q).manifestJson) :
    Tracked { s with data := updateRecording s.data r f } := by
  have hrow : ∀ (k : ℤ) (q' : GuestRecording),
      (updateRecording s.data r f).guestRecordings[k]? = some q' →
        ∃ q : GuestRecording, s.data.guestRecordings[k]? = some q ∧ q'.stationId = q.stationId ∧
          q'.status = q.status ∧ Readable q'.manifestJson := by
    intro k q' hq'
    rw [lookup_updateRecording] at hq'
    split_ifs at hq' with hk
    · subst hk
      obtain ⟨q, hq, rfl⟩ := Option.map_eq_some_iff.mp hq'
      exact ⟨q, hq, (hst q hq).1, (hst q hq).2, hread q hq⟩
    · exact ⟨q', hq', rfl, rfl, h.readable k q' hq'⟩
  have hback : ∀ (k : ℤ) (q : GuestRecording), s.data.guestRecordings[k]? = some q →
      ∃ q' : GuestRecording, (updateRecording s.data r f).guestRecordings[k]? = some q' ∧
        q'.stationId = q.stationId ∧ q'.status = q.status := by
    intro k q hq
    rw [lookup_updateRecording]
    split_ifs with hk
    · subst hk
      exact ⟨f q, by simp [hq], hst q hq⟩
    · exact ⟨q, hq, rfl, rfl⟩
  have hsome : ∀ k : ℤ, (s.data.guestRecordings[k]?).isSome →
      ((updateRecording s.data r f).guestRecordings[k]?).isSome := by
    intro k hk
    obtain ⟨q, hq⟩ := Option.isSome_iff_exists.mp hk
    obtain ⟨q', hq', -⟩ := hback k q hq
    exact Option.isSome_iff_exists.mpr ⟨q', hq'⟩
  refine ⟨fun st a ha => ?_, fun k q' hq' hrec => ?_, fun k hk => hsome k (h.known k hk),
    fun k q' hq' => ?_, h.called, h.stopped, fun k g hk => hsome k (h.keyed k g hk),
    fun k g c q' hc hdec hq' => ?_⟩
  · obtain ⟨⟨q, hq, hqs, hrec⟩, hns⟩ := h.recorded st a ha
    obtain ⟨q', hq', hst', hs'⟩ := hback _ q hq
    exact ⟨⟨q', hq', hst'.trans hqs, hs'.trans hrec⟩, hns⟩
  · obtain ⟨q, hq, hst', hs', -⟩ := hrow k q' hq'
    rw [hst']
    exact h.recording k q hq (hs' ▸ hrec)
  · obtain ⟨-, -, -, -, hr⟩ := hrow k q' hq'
    exact hr
  · obtain ⟨q, hq, -, hs', -⟩ := hrow k q' hq'
    rw [hs']
    exact h.declined k g c q hc hdec hq

/-- An update that ends a recording nothing records; the stop that does it may be done. -/
lemma Tracked.close (h : Tracked s) {f : GuestRecording → GuestRecording} {stopping : List Stopping}
    {timers : List ℤ}
    (hover : ∀ q, s.data.guestRecordings[r]? = some q → isActive (f q).status = false)
    (hread : ∀ q, s.data.guestRecordings[r]? = some q → Readable (f q).manifestJson)
    (hnone : ∀ (st : ℤ) (a : ActiveRecording), s.recorders[st]? = some a → a.recordingId ≠ r)
    (hsub : ∀ x ∈ stopping, x ∈ s.stopping)
    (hother : ∀ k ∈ stoppingIds s, k ≠ r → k ∈ stopping.map (·.recordingId)) :
    Tracked { s with
      data := updateRecording s.data r f, consentTimers := timers, stopping := stopping } := by
  have hids : ∀ k ∈ stopping.map (·.recordingId), k ∈ stoppingIds s := by
    intro k hk
    obtain ⟨x, hx, rfl⟩ := List.mem_map.mp hk
    exact List.mem_map.mpr ⟨x, hsub x hx, rfl⟩
  have hne : ∀ q, s.data.guestRecordings[r]? = some q → (f q).status ≠ .recording := by
    intro q hq hrec
    have hact := hover q hq
    rw [hrec] at hact
    cases hact
  have hsome : ∀ k : ℤ, (s.data.guestRecordings[k]?).isSome →
      ((updateRecording s.data r f).guestRecordings[k]?).isSome := by
    intro k hk
    rw [lookup_updateRecording]
    split_ifs <;> simpa using hk
  refine ⟨fun st a ha => ?_, fun k q' hq' hrec => ?_, fun k hk => hsome k (h.known k (hids k hk)),
    fun k q' hq' => ?_, h.called, fun x hx => h.stopped x (hsub x hx),
    fun k g hk => hsome k (h.keyed k g hk), fun k g c q' hc hdec hq' => ?_⟩
  · obtain ⟨⟨q, hq, hqs, hrec⟩, hns⟩ := h.recorded st a ha
    refine ⟨⟨q, ?_, hqs, hrec⟩, fun hmem => hns (hids _ hmem)⟩
    rw [lookup_updateRecording, if_neg (hnone st a ha)]
    exact hq
  · rw [lookup_updateRecording] at hq'
    split_ifs at hq' with hk
    · subst hk
      obtain ⟨q, hq, rfl⟩ := Option.map_eq_some_iff.mp hq'
      exact absurd hrec (hne q hq)
    · exact (h.recording k q' hq' hrec).imp_right fun hmem => hother k hmem hk
  · rw [lookup_updateRecording] at hq'
    split_ifs at hq' with hk
    · subst hk
      obtain ⟨q, hq, rfl⟩ := Option.map_eq_some_iff.mp hq'
      exact hread q hq
    · exact h.readable k q' hq'
  · rw [lookup_updateRecording] at hq'
    split_ifs at hq' with hk
    · subst hk
      obtain ⟨q, hq, rfl⟩ := Option.map_eq_some_iff.mp hq'
      exact hover q hq
    · exact h.declined k g c q' hc hdec hq'

/-- A consent that is decided, of a recording that is over if it is declined. -/
lemma Tracked.answered (h : Tracked s) {tm : TimeText} {now g : ℤ} {decision : Decision}
    (hc : (consentOf s.data r g).isSome)
    (hdec : decision = .declined → ∀ q : GuestRecording, s.data.guestRecordings[r]? = some q →
      isActive q.status = false) : Tracked (answered tm now s r g decision) := by
  refine ⟨h.recorded, h.recording, h.known, h.readable, h.called, h.stopped, fun k g' hsome => ?_,
    fun k g' c q hcon hd hq => ?_⟩
  · rw [ProgramRecording.answered, consentOf_setConsent] at hsome
    split_ifs at hsome with hk
    · obtain ⟨rfl, rfl⟩ := hk
      exact h.keyed _ _ hc
    · exact h.keyed k g' hsome
  · rw [ProgramRecording.answered, consentOf_setConsent] at hcon
    split_ifs at hcon with hk
    · obtain ⟨rfl, rfl⟩ := hk
      obtain rfl := Option.some.inj hcon
      exact hdec hd q hq
    · exact h.declined k g' c q hcon hd hq

/-- A new recording, and the consent rows of its guests. -/
lemma Tracked.requested (h : Tracked s) {q : GuestRecording} (hq : q.status = .pendingConsent)
    (hread : Readable q.manifestJson) (gs timers : List ℤ) : Tracked { s with
      data := askConsent (newId s.data.guestRecordings) gs
        { s.data with guestRecordings :=
            s.data.guestRecordings.insert (newId s.data.guestRecordings) q }
      consentTimers := timers } := by
  set r₀ := newId s.data.guestRecordings with hr₀
  have hfree : s.data.guestRecordings[r₀]? = none := lookup_newId _
  obtain ⟨t, ht, hother⟩ := askConsent_eq r₀ gs
    { s.data with guestRecordings := s.data.guestRecordings.insert r₀ q }
  have hold : ∀ (k : ℤ) (p : GuestRecording), s.data.guestRecordings[k]? = some p →
      (s.data.guestRecordings.insert r₀ q)[k]? = some p := by
    intro k p hp
    rw [lookup_insert, if_neg]
    · exact hp
    · rintro rfl
      rw [hfree] at hp
      cases hp
  have hsome : ∀ k : ℤ, (s.data.guestRecordings[k]?).isSome →
      ((s.data.guestRecordings.insert r₀ q)[k]?).isSome := by
    intro k hk
    obtain ⟨p, hp⟩ := Option.isSome_iff_exists.mp hk
    exact Option.isSome_iff_exists.mpr ⟨p, hold k p hp⟩
  have hrow : ∀ (k : ℤ) (p : GuestRecording),
      (s.data.guestRecordings.insert r₀ q)[k]? = some p →
        p = q ∧ k = r₀ ∨ k ≠ r₀ ∧ s.data.guestRecordings[k]? = some p := by
    intro k p hp
    rw [lookup_insert] at hp
    split_ifs at hp with hk
    · exact .inl ⟨(Option.some.inj hp).symm, hk⟩
    · exact .inr ⟨hk, hp⟩
  refine ⟨fun st a ha => ?_, fun k p hp hrec => ?_, fun k hk => ?_, fun k p hp => ?_, h.called,
    h.stopped, fun k g hk => ?_, fun k g c p hc hdec hp => ?_⟩
  · obtain ⟨⟨p, hp, hst, hrec⟩, hns⟩ := h.recorded st a ha
    refine ⟨⟨p, ?_, hst, hrec⟩, hns⟩
    rw [ht]
    exact hold _ p hp
  · rw [ht] at hp
    rcases hrow k p hp with ⟨rfl, -⟩ | ⟨-, hp⟩
    · rw [hq] at hrec
      cases hrec
    · exact h.recording k p hp hrec
  · rw [ht]
    exact hsome k (h.known k hk)
  · rw [ht] at hp
    rcases hrow k p hp with ⟨rfl, -⟩ | ⟨-, hp⟩
    · exact hread
    · exact h.readable k p hp
  · rw [ht]
    by_cases hk₀ : k = r₀
    · simp [hk₀]
    · rw [hother k g hk₀] at hk
      exact hsome k (h.keyed k g hk)
  · rw [ht] at hp
    rcases hrow k p hp with ⟨rfl, rfl⟩ | ⟨hk, hp⟩
    · rcases askConsent_pending hc with hpend | hold'
      · rw [hpend] at hdec
        cases hdec
      · have hkey := h.keyed _ g (Option.isSome_iff_exists.mpr ⟨c, hold'⟩)
        rw [hfree] at hkey
        cases hkey
    · rw [hother k g hk] at hc
      exact h.declined k g c p hc hdec hp

end Tracked

section Calls

variable {sha : String → String} {tm : TimeText} {now : ℤ} {env : StartEnv} {s s' : Service} {r : ℤ}

/-- A recording that starts, while no stop of it is under way. -/
lemma Tracked.start (h : Tracked s) (hs : Start tm now env r false s s')
    (hns : ∀ q : GuestRecording, s.data.guestRecordings[r]? = some q →
      q.status = .pendingConsent → s.recorders[q.stationId]? = none → env.ffmpeg = true →
        r ∉ stoppingIds s) : Tracked s' := by
  cases hs with
  | refused => exact h.calling (fun _ => rfl) h.called
  | opened row opened hrow hstatus hfree hff hread =>
    have hpend : row.status = .pendingConsent := by simpa using hstatus
    have hns' := hns row hrow hpend hfree hff
    have hnone := h.not_recorded hrow (by rw [hpend]; decide)
    have hkeep : ∀ (k : ℤ) (q : GuestRecording), k ≠ r → s.data.guestRecordings[k]? = some q →
        (updateRecording s.data r (started tm now opened)).guestRecordings[k]? = some q := by
      intro k q hk hq
      rw [lookup_updateRecording, if_neg hk]
      exact hq
    have hnew : (updateRecording s.data r (started tm now opened)).guestRecordings[r]? =
        some (started tm now opened row) := by
      rw [lookup_updateRecording, if_pos rfl, hrow, Option.map_some]
    have hrows : ∀ (k : ℤ) (q : GuestRecording),
        (updateRecording s.data r (started tm now opened)).guestRecordings[k]? = some q →
          k = r ∧ q = started tm now opened row ∨
            k ≠ r ∧ s.data.guestRecordings[k]? = some q := by
      intro k q hq
      by_cases hk : k = r
      · subst hk
        exact .inl ⟨rfl, (Option.some.inj (hnew.symm.trans hq)).symm⟩
      · rw [lookup_updateRecording, if_neg hk] at hq
        exact .inr ⟨hk, hq⟩
    have hsome : ∀ k : ℤ, (s.data.guestRecordings[k]?).isSome →
        ((updateRecording s.data r (started tm now opened)).guestRecordings[k]?).isSome := by
      intro k hk
      rw [lookup_updateRecording]
      split_ifs <;> simpa using hk
    refine ⟨fun st a ha => ?_, fun k q hq hrec => ?_, fun k hk => hsome k (h.known k hk),
      fun k q hq => ?_, h.called, h.stopped, fun k g hk => hsome k (h.keyed k g hk),
      fun k g c q hc hdec hq => ?_⟩
    · rw [lookup_insert] at ha
      split_ifs at ha with hst
      · obtain rfl := Option.some.inj ha
        exact ⟨⟨_, hnew, hst.symm, rfl⟩, hns'⟩
      · obtain ⟨⟨q, hq, hqs, hrec⟩, hn⟩ := h.recorded st a ha
        exact ⟨⟨q, hkeep _ q (hnone st a ha) hq, hqs, hrec⟩, hn⟩
    · rcases hrows k q hq with ⟨rfl, rfl⟩ | ⟨hk, hq⟩
      · exact .inl ⟨_, (lookup_insert _ _ _ _).trans (if_pos rfl), rfl⟩
      · refine (h.recording k q hq hrec).imp_left ?_
        rintro ⟨a, ha, hak⟩
        refine ⟨a, ?_, hak⟩
        rw [lookup_insert, if_neg]
        · exact ha
        · intro he
          rw [he, hfree] at ha
          cases ha
    · rcases hrows k q hq with ⟨-, rfl⟩ | ⟨-, hq⟩
      · exact hread
      · exact h.readable k q hq
    · rcases hrows k q hq with ⟨rfl, rfl⟩ | ⟨-, hq⟩
      · -- what was declined is over, and does not start
        have := h.declined k g c row hc hdec hrow
        rw [hpend] at this
        cases this
      · exact h.declined k g c q hc hdec hq

/-- A stop that begins finds its own recorder, or none. -/
lemma Tracked.beginStop (h : Tracked s) {reason : String} (hown : OwnRecorder s r)
    (hreason : reason ≠ "leadership_lost") : Tracked (beginStop r reason s).1 := by
  unfold ProgramRecording.beginStop
  split
  · exact h
  · rename_i row hrow
    set x : Stopping := ⟨r, s.recorders.contains row.stationId, reason⟩ with hx
    have hids : ∀ k, k ∈ (s.stopping ++ [x]).map (·.recordingId) ↔ k ∈ stoppingIds s ∨ k = r := by
      intro k
      simp [stoppingIds, hx]
    refine ⟨fun st a ha => ?_, fun k q hq hrec => ?_, fun k hk => ?_, h.readable, h.called,
      fun y hy => ?_, h.keyed, h.declined⟩
    · rw [lookup_erase] at ha
      split_ifs at ha with hst
      obtain ⟨⟨q, hq, hqs, hrec⟩, hn⟩ := h.recorded st a ha
      refine ⟨⟨q, hq, hqs, hrec⟩, fun hmem => ?_⟩
      rcases (hids _).mp hmem with hmem | he
      · exact hn hmem
      · rw [he, hrow] at hq
        obtain rfl := Option.some.inj hq
        exact hst hqs.symm
    · rcases h.recording k q hq hrec with ⟨a, ha, hak⟩ | hmem
      · by_cases hst : q.stationId = row.stationId
        · have hr := hown row hrow a (hst ▸ ha)
          exact .inr ((hids k).mpr (.inr (hak.symm.trans hr)))
        · refine .inl ⟨a, ?_, hak⟩
          rw [lookup_erase, if_neg hst]
          exact ha
      · exact .inr ((hids k).mpr (.inl hmem))
    · rcases (hids k).mp hk with hk | rfl
      · exact h.known k hk
      · simp [hrow]
    · rcases List.mem_append.mp hy with hy | hy
      · exact h.stopped y hy
      · obtain rfl := List.mem_singleton.mp hy
        exact hreason

lemma stopFailure_ne {x : Stopping} {failed : String} (hreason : x.reason ≠ "leadership_lost")
    (hfailed : failed ≠ "leadership_lost") : stopFailure x failed ≠ "leadership_lost" := by
  unfold stopFailure
  split_ifs
  · exact hreason
  · exact hfailed
  · decide

lemma stopStatus_over {failure : String} (h : failure ≠ "leadership_lost") :
    isActive (stopStatus failure) = false := by
  rw [stopStatus, if_neg h]
  split_ifs <;> rfl

/-- A stop that ends closes the row. -/
lemma Tracked.finishStop (h : Tracked s) {x : Stopping} {failed : String} (hx : x ∈ s.stopping)
    (hfailed : failed ≠ "leadership_lost") : Tracked (finishStop tm now x failed s).1 := by
  have hmem : x.recordingId ∈ stoppingIds s := List.mem_map.mpr ⟨x, hx, rfl⟩
  have hlost := stopFailure_ne (h.stopped x hx) hfailed
  rcases finishStop_eq tm now x failed s with ⟨-, hraise⟩ | ⟨row, m, hrow, hclose, he⟩
  · -- the row is there, and its manifest can be read
    obtain ⟨row, hrow⟩ := Option.isSome_iff_exists.mp (h.known _ hmem)
    obtain ⟨m, hm, -⟩ := closeSegment_readable (h.readable _ row hrow) (tm.iso now)
      (stopFailure x failed)
    rw [hraise row hrow] at hm
    cases hm
  · rw [he]
    refine h.close (fun q _ => ?_) (fun q hq => ?_) (fun st a ha hr => ?_)
      (fun y hy => List.mem_of_mem_erase hy) fun k hk hkr => ?_
    · exact stopStatus_over hlost
    · obtain ⟨m', hm', hread⟩ := closeSegment_readable (h.readable _ row hrow) (tm.iso now)
        (stopFailure x failed)
      obtain rfl : m = m' := Option.some.inj (hclose.symm.trans hm')
      exact hread
    · exact (h.recorded st a ha).2 (hr ▸ hmem)
    · obtain ⟨y, hy, rfl⟩ := List.mem_map.mp hk
      have hne : y ≠ x := fun he => hkr (by rw [he])
      exact List.mem_map.mpr ⟨y, (List.mem_erase_of_ne hne).mpr hy, rfl⟩

lemma Tracked.delete (h : Tracked s) (r : ℤ) : Tracked (delete r s).1 := by
  rcases delete_eq r s with he | ⟨row, hrow, hact, he⟩
  · rw [he]
    exact h
  · rw [he]
    refine h.close (fun _ _ => rfl) (fun q hq => h.readable r q hq) ?_ (fun _ hx => hx)
      fun k hk _ => hk
    exact h.not_recorded hrow fun hr => by simp [isActive, hr] at hact

end Calls

/-! ### What is over stays over -/

section Over

variable {d : Data} {tm : TimeText} {now : ℤ} {env : StartEnv} {s s' : Service} {r k : ℤ}

lemma Over.update (h : Over d k) {f : GuestRecording → GuestRecording}
    (hf : ∀ q : GuestRecording, d.guestRecordings[r]? = some q → isActive q.status = false →
      isActive (f q).status = false) : Over (updateRecording d r f) k := by
  obtain ⟨q, hq, hact⟩ := h
  by_cases hk : k = r
  · subst hk
    exact ⟨f q, by rw [lookup_updateRecording, if_pos rfl, hq, Option.map_some], hf q hq hact⟩
  · exact ⟨q, by rw [lookup_updateRecording, if_neg hk, hq], hact⟩

lemma Over.start (h : Over s.data k) (hs : Start tm now env r false s s') : Over s'.data k := by
  cases hs with
  | refused => exact h
  | opened row opened hrow hstatus hfree hff hread =>
    refine h.update fun q hq hact => ?_
    obtain rfl : row = q := Option.some.inj (hrow.symm.trans hq)
    simp [isActive, hstatus] at hact

lemma Over.insert (h : Over d k) (q : GuestRecording) :
    Over { d with guestRecordings := d.guestRecordings.insert (newId d.guestRecordings) q } k := by
  obtain ⟨p, hp, hact⟩ := h
  refine ⟨p, ?_, hact⟩
  rw [lookup_insert, if_neg]
  · exact hp
  · rintro rfl
    rw [lookup_newId] at hp
    cases hp

lemma Over.request {studioId : ℤ} (h : Over s.data k) (hs : Request tm now env studioId s s') :
    Over s'.data k := by
  cases hs with
  | refused => exact h
  | asked row timers hrow hread =>
    obtain ⟨t, ht, -⟩ := askConsent_eq (newId s.data.guestRecordings)
      (liveSessions s.data studioId) { s.data with
        guestRecordings := s.data.guestRecordings.insert (newId s.data.guestRecordings) row }
    dsimp only
    rw [ht]
    exact h.insert row
  | started row s' hrow hst hread hnone hstart => exact Over.start (h.insert row) hstart

lemma Over.delete (h : Over s.data k) (r : ℤ) : Over (delete r s).1.data k := by
  rcases delete_eq r s with he | ⟨row, -, -, he⟩
  · rw [he]
    exact h
  · rw [he]
    exact h.update fun _ _ _ => rfl

lemma Over.finishStop {now : ℤ} {x : Stopping} {failed : String} (h : Over s.data k)
    (hreason : x.reason ≠ "leadership_lost") (hfailed : failed ≠ "leadership_lost") :
    Over (finishStop tm now x failed s).1.data k := by
  rcases finishStop_eq tm now x failed s with ⟨he, -⟩ | ⟨row, m, -, -, he⟩
  · rw [he]
    exact h
  · rw [he]
    exact h.update fun q _ _ => stopStatus_over (stopFailure_ne hreason hfailed)

end Over

/-! ### Steps -/

section Steps

variable {sha : String → String} {tm : TimeText} {s s' : Service} {a : Act}

/-- What a step comes to: nothing gets out of step, and nothing begins again. -/
structure Advance (s s' : Service) : Prop where
  tracked : Tracked s'
  keepsOver : ∀ r, Over s.data r → Over s'.data r

lemma Advance.guest {out : Except GuestRoomError Data} (h : Tracked s)
    (hout : ∀ d, out = .ok d → d.guestRecordings = s.data.guestRecordings ∧
      d.consents = s.data.consents) : Advance s (s.guest out) := by
  cases out with
  | error e => exact ⟨h, fun _ ho => ho⟩
  | ok d =>
    obtain ⟨hr, hc⟩ := hout d rfl
    refine ⟨h.data hr hc, ?_⟩
    rintro r ⟨q, hq, hact⟩
    exact ⟨q, hr ▸ hq, hact⟩

lemma Advance.consent {now : ℤ} {env : StartEnv} {r : ℤ} {token : String} {accepted : Bool}
    (h : Tracked s) (hk : KeepsTrack sha s ⟨now, env, .consent r token accepted⟩)
    (hturn : Consenting sha tm now env r token s accepted s') : Advance s s' := by
  cases hturn with
  | refused => exact ⟨h, fun _ ho => ho⟩
  | declined g ha hc =>
    have hrow : ∀ q : GuestRecording, s.data.guestRecordings[r]? = some q →
        ∀ (st : ℤ) (a : ActiveRecording), s.recorders[st]? = some a → a.recordingId ≠ r := by
      rintro q hq st a ha' rfl
      obtain ⟨⟨p, hp, hst, -⟩, -⟩ := h.recorded st a ha'
      obtain rfl : q = p := Option.some.inj (hq.symm.trans hp)
      exact hk q hq g (by simp [ha, Except.toOption]) hc a (hst ▸ ha') rfl
    obtain ⟨q, hq⟩ := Option.isSome_iff_exists.mp (h.keyed _ _ hc)
    have hclosed : Tracked { s with
        data := updateRecording s.data r (cancelled (tm.current now) "consent_declined")
        consentTimers := s.consentTimers.erase r } :=
      h.close (fun _ _ => rfl) (fun q hq => h.readable r q hq) (hrow q hq) (fun _ hx => hx)
        fun k hk _ => hk
    refine ⟨hclosed.answered (g := g.1) hc fun _ p hp => ?_,
      fun k ho => ho.update fun _ _ _ => rfl⟩
    rw [lookup_updateRecording, if_pos rfl] at hp
    obtain ⟨-, -, rfl⟩ := Option.map_eq_some_iff.mp hp
    rfl
  | waiting g ha hc => exact ⟨h.answered hc (by simp), fun _ ho => ho⟩
  | last g s' ha hc hall hstart =>
    have hans : Tracked (answered tm now s r g.1 .accepted) := h.answered hc (by simp)
    refine ⟨hans.start hstart fun q hq hp hfree hff => ?_, fun k ho => ?_⟩
    · exact hk q hq g (by simp [ha, Except.toOption]) (lastConsent_all hc hall hp hfree hff)
    · have ho' : Over (answered tm now s r g.1 .accepted).data k := ho
      exact ho'.start hstart

lemma Advance.expire {now r : ℤ} (h : Tracked s) : Advance s (expireConsent tm now r s) := by
  have hover : ∀ q : GuestRecording, isActive q.status = false →
      isActive (if q.status = .pendingConsent then
        cancelled (tm.current now) "consent_timeout" q else q).status = false := by
    intro q hq
    split_ifs
    · rfl
    · exact hq
  refine ⟨?_, fun k ho => ho.update fun q _ hq => hover q hq⟩
  by_cases hp : ∃ q : GuestRecording, s.data.guestRecordings[r]? = some q ∧
      q.status = .pendingConsent
  · obtain ⟨q, hq, hp⟩ := hp
    refine h.close (fun p hp' => ?_) (fun p hp' => ?_) (h.not_recorded hq (by rw [hp]; decide))
      (fun _ hx => hx) fun k hk _ => hk
    · obtain rfl : q = p := Option.some.inj (hq.symm.trans hp')
      rw [if_pos hp]
      rfl
    · split_ifs <;> exact h.readable r p hp'
  · have hne : ∀ q : GuestRecording, s.data.guestRecordings[r]? = some q →
        q.status ≠ .pendingConsent := fun q hq he => hp ⟨q, hq, he⟩
    have hrw : Tracked { s with data := updateRecording s.data r fun q =>
        if q.status = .pendingConsent then cancelled (tm.current now) "consent_timeout" q
        else q } :=
      h.rewrite (fun q hq => by rw [if_neg (hne q hq)]; exact ⟨rfl, rfl⟩)
        fun q hq => by rw [if_neg (hne q hq)]; exact h.readable r q hq
    exact hrw.calling (fun _ => rfl) h.called

lemma Advance.publishPcm {st : ℤ} {taken : Bool} {failed : List String} (h : Tracked s) :
    Advance s (publishPcm st taken failed s) := by
  unfold ProgramRecording.publishPcm
  split
  · exact ⟨h, fun _ ho => ho⟩
  · rename_i a ha
    split_ifs
    · exact ⟨h.calling (fun _ => rfl) (h.called_append (by simp)), fun _ ho => ho⟩
    · exact ⟨h, fun _ ho => ho⟩
    · refine ⟨h.calling (fun k => ?_) h.called, fun _ ho => ho⟩
      rw [lookup_insert]
      split_ifs with hk
      · rw [hk, ha]
        rfl
      · rfl

lemma Advance.handleFailedMirrors {r : ℤ} (h : Tracked s) :
    Advance s (handleFailedMirrors r s) := by
  have herase : Tracked { s with failedMirrors := s.failedMirrors.erase r } :=
    h.calling (fun _ => rfl) h.called
  unfold ProgramRecording.handleFailedMirrors
  dsimp only
  split
  · exact ⟨herase, fun _ ho => ho⟩
  · rename_i row hrow
    split
    · exact ⟨herase, fun _ ho => ho⟩
    · rename_i m hm
      refine ⟨herase.rewrite (fun _ _ => ⟨rfl, rfl⟩) fun q hq => ?_, fun k ho => ?_⟩
      · obtain ⟨m', hm', hread⟩ := degrade_readable (h.readable r row hrow)
        obtain rfl : m = m' := Option.some.inj (hm.symm.trans hm')
        exact hread
      · exact Over.update ho fun _ _ hq => hq

/-- **What a step preserves.** -/
theorem advance_step (h : Tracked s) (hf : NoFailover a) (hk : KeepsTrack sha s a)
    (hs : step sha tm s a = some s') : Advance s s' := by
  obtain ⟨now, env, op⟩ := a
  cases op with
  | createInvite token studioId actorId =>
    obtain rfl := Option.some.inj hs
    refine .guest h fun d hd => ?_
    obtain ⟨out, hout, rfl⟩ := map_snd_ok hd
    obtain ⟨t, ht⟩ := createInvite_ok hout
    exact ht ▸ ⟨rfl, rfl⟩
  | revokeInvite studioId inviteId =>
    obtain rfl := Option.some.inj hs
    refine .guest h fun d hd => ?_
    obtain ⟨t, rfl⟩ := revokeInvite_ok hd
    exact ⟨rfl, rfl⟩
  | redeem sessionToken token displayName =>
    obtain rfl := Option.some.inj hs
    refine .guest h fun d hd => ?_
    obtain ⟨out, hout, rfl⟩ := map_snd_ok hd
    obtain ⟨x, t, -, ht⟩ := redeem_ok hout
    exact ht ▸ ⟨rfl, rfl⟩
  | setConnected g connected quality =>
    obtain rfl := Option.some.inj hs
    exact ⟨h.data rfl rfl, fun _ ho => ho⟩
  | admitGuest studioId g =>
    obtain rfl := Option.some.inj hs
    refine .guest h fun d hd => ?_
    obtain ⟨-, -, -, -, -, rfl⟩ := admitGuest_ok hd
    exact ⟨rfl, rfl⟩
  | rejectOrKick studioId g action =>
    obtain rfl := Option.some.inj hs
    refine .guest h fun d hd => ?_
    obtain ⟨f, rfl, -⟩ := rejectOrKick_ok hd
    exact ⟨rfl, rfl⟩
  | updateAudio studioId g muted onAir gainDb =>
    obtain rfl := Option.some.inj hs
    refine .guest h fun d hd => ?_
    obtain ⟨-, -, -, rfl⟩ := updateAudio_ok hd
    exact ⟨rfl, rfl⟩
  | allOffAir studioId =>
    obtain rfl := Option.some.inj hs
    refine .guest h fun d hd => ?_
    obtain ⟨out, hout, rfl⟩ := map_snd_ok hd
    exact allOffAir_ok hout ▸ ⟨rfl, rfl⟩
  | guestSelfMute sessionToken muted =>
    obtain rfl := Option.some.inj hs
    refine .guest h fun d hd => ?_
    obtain ⟨g, rfl⟩ := guestSelfMute_ok hd
    exact ⟨rfl, rfl⟩
  | request studioId actorId =>
    obtain rfl := Option.some.inj hs
    have hturn := request_step tm now env studioId actorId s
    refine ⟨?_, fun k ho => ho.request hturn⟩
    generalize (request tm now env studioId actorId s).1 = s' at hturn ⊢
    cases hturn with
    | refused => exact h
    | asked row timers hrow hread => exact h.requested hrow hread _ _
    | started row s' hrow hst hread hnone hstart =>
      refine (h.requested hrow hread [] s.consentTimers).start hstart fun q _ _ _ _ hmem => ?_
      have hsome := h.known _ hmem
      rw [lookup_newId] at hsome
      cases hsome
  | expireConsent r =>
    simp only [step] at hs
    split_ifs at hs
    obtain rfl := Option.some.inj hs
    exact .expire h
  | consent r token accepted =>
    obtain rfl := Option.some.inj hs
    exact .consent h hk (consent_step sha tm now env r token accepted s)
  | stop r reason =>
    obtain rfl := Option.some.inj hs
    refine ⟨h.beginStop hk hf, fun k ho => ?_⟩
    unfold beginStop
    split <;> exact ho
  | runStop call =>
    simp only [step] at hs
    split_ifs at hs with hc
    obtain rfl := Option.some.inj hs
    have hcalls : Tracked { s with calls := s.calls.erase call } :=
      h.calling (fun _ => rfl) fun c hc => h.called c (List.mem_of_mem_erase hc)
    refine ⟨hcalls.beginStop hk (h.called call hc), fun k ho => ?_⟩
    unfold beginStop
    split <;> exact ho
  | finishStop x failed =>
    simp only [step] at hs
    split_ifs at hs with hx
    obtain rfl := Option.some.inj hs
    exact ⟨h.finishStop hx hf, fun k ho => ho.finishStop (h.stopped x hx) hf⟩
  | publishPcm stationId taken failed =>
    obtain rfl := Option.some.inj hs
    exact .publishPcm h
  | handleFailedMirrors r =>
    simp only [step] at hs
    split_ifs at hs
    obtain rfl := Option.some.inj hs
    exact .handleFailedMirrors h
  | delete r =>
    obtain rfl := Option.some.inj hs
    exact ⟨h.delete r, fun k ho => ho.delete r⟩
  | cleanupExpired =>
    obtain rfl := Option.some.inj hs
    exact inv_of_foldl (P := fun t : Service => Advance s t)
      (fun t q hP => ⟨hP.tracked.delete q.1, fun k ho => (hP.keepsOver k ho).delete q.1⟩) _
      ⟨h, fun _ ho => ho⟩
  | stopAll reason =>
    obtain rfl := Option.some.inj hs
    refine ⟨h.calling (fun _ => rfl) fun c hc => ?_, fun _ ho => ho⟩
    rcases List.mem_append.mp hc with hc | hc
    · exact h.called c hc
    · obtain ⟨-, -, rfl⟩ := List.mem_map.mp hc
      exact hf
  | interruptStation stationId reason =>
    obtain rfl := Option.some.inj hs
    unfold interruptStation
    split
    · exact ⟨h, fun _ ho => ho⟩
    · refine ⟨h.calling (fun _ => rfl) (h.called_append ?_), fun _ ho => ho⟩
      dsimp only
      split_ifs
      · decide
      · exact hf
  | resumeRecordings => exact hf.elim

end Steps

section Runs

variable {sha : String → String} {tm : TimeText} {s t : Service} {acts : List Act}

lemma tracked_initial (stations : Table Unit) (studios : Table Studio)
    (settings : Table (Std.ExtTreeMap String String)) :
    Tracked (initial stations studios settings) := by
  constructor <;> simp [initial, Data.empty, stoppingIds, consentOf]

/-- A run of steps that keep track. -/
lemma advance_run (h : Tracked s)
    (hm : Meets (step sha tm) (fun s a => NoFailover a ∧ KeepsTrack sha s a) s acts)
    (he : exec (step sha tm) s acts = some t) : Advance s t := by
  refine inv_of_exec (P := fun t : Service => Advance s t) (fun u a v hP hk hs => ?_)
    ⟨h, fun _ ho => ho⟩ hm he
  have hnext := advance_step hP.tracked hk.1 hk.2 hs
  exact ⟨hnext.tracked, fun r ho => hnext.keepsOver r (hP.keepsOver r ho)⟩

end Runs

/-- **Recorder and row agree.** In a run without failover whose steps keep track of the
recorders, a station has a recorder for a recording exactly when the row says so, once the
threads are done; and what a guest declined is never recorded from then on. -/
theorem recorder_agrees (sha : String → String) (tm : TimeText) (stations : Table Unit)
    (studios : Table Studio) (settings : Table (Std.ExtTreeMap String String))
    (acts acts' : List Act) (s t : Service)
    (hm : Meets (step sha tm) (fun s a => NoFailover a ∧ KeepsTrack sha s a)
      (initial stations studios settings) acts)
    (hs : exec (step sha tm) (initial stations studios settings) acts = some s)
    (hm' : Meets (step sha tm) (fun s a => NoFailover a ∧ KeepsTrack sha s a) s acts')
    (ht : exec (step sha tm) s acts' = some t) :
    (t.Quiescent → Agrees t) ∧
      ∀ (r g : ℤ) (c : Consent), consentOf s.data r g = some c → c.decision = .declined →
        ∀ (st : ℤ) (a : ActiveRecording), t.recorders[st]? = some a → a.recordingId ≠ r := by
  have hfirst := advance_run (tracked_initial _ _ _) hm hs
  have hnext := advance_run hfirst.tracked hm' ht
  refine ⟨hnext.tracked.agrees, fun r g c hc hdec st a ha => ?_⟩
  obtain ⟨q, hq⟩ := Option.isSome_iff_exists.mp
    (hfirst.tracked.keyed r g (Option.isSome_iff_exists.mpr ⟨c, hc⟩))
  obtain ⟨p, hp, hact⟩ := hnext.keepsOver r ⟨q, hq, hfirst.tracked.declined r g c q hc hdec hq⟩
  refine hnext.tracked.not_recorded hp ?_ st a ha
  intro hrec
  rw [hrec] at hact
  cases hact

/-! ### A consent that is withdrawn -/

/-- Later the guest declines. -/
def withdrawn : List Act := calls [.consent 1 "session" false]

/-- The recording is stopped. -/
def stoppedThen : List Act := calls [.stop 1 "", .finishStop ⟨1, true, ""⟩ ""]

instance (s : Service) : Decidable s.Quiescent := by
  unfold Service.Quiescent
  infer_instance

theorem recorder_agrees_stopped : ∃ s t, exec (step id clock) studio askedFirst = some s ∧
    exec (step id clock) s stoppedThen = some t ∧ t.Quiescent ∧ Agrees t := by
  obtain ⟨s, hs, t, ht, hm, hm', hq⟩ : ∃ s ∈ exec (step id clock) studio askedFirst,
      ∃ t ∈ exec (step id clock) s stoppedThen,
        Meets (step id clock) (fun s a => NoFailover a ∧ KeepsTrack id s a) studio askedFirst ∧
        Meets (step id clock) (fun s a => NoFailover a ∧ KeepsTrack id s a) s stoppedThen ∧
        t.Quiescent := by
    decide +kernel
  exact ⟨s, t, hs, ht, hq,
    (recorder_agrees id clock _ _ _ askedFirst stoppedThen s t hm hs hm' ht).1 hq⟩

/-- A guest who declines while the recorder runs is told that the recording is cancelled, and is
recorded further. -/
theorem recorder_goes_on : ¬ ∀ (sha : String → String) (tm : TimeText) (stations : Table Unit)
    (studios : Table Studio) (settings : Table (Std.ExtTreeMap String String)) (acts : List Act)
    (s : Service), (∀ a ∈ acts, NoFailover a) →
      exec (step sha tm) (initial stations studios settings) acts = some s → s.Quiescent →
        Agrees s := by
  intro hall
  obtain ⟨s, hs, hq, ⟨a, ha, hid⟩, hrow⟩ :
      ∃ s ∈ exec (step id clock) studio (askedFirst ++ withdrawn), s.Quiescent ∧
        (∃ a ∈ s.recorders[(1 : ℤ)]?, a.recordingId = 1) ∧
        ∀ q ∈ s.data.guestRecordings[(1 : ℤ)]?, q.status ≠ .recording := by
    decide +kernel
  obtain ⟨q, hq', -, hrec⟩ := (hall id clock _ _ _ _ s (by decide +kernel) hs hq 1 1).mp
    ⟨a, ha, hid⟩
  exact hrow q hq' hrec

end OnAir.RecorderAgreement
