import OnAir.RecordingCalls

/-!
Whether the outcome of a recording is final.

The timer looks at the status in the statement that writes it. A guest who declines, a start and a
stop write by the id of the recording, whatever has become of it since they read.
-/

namespace OnAir.RecordingOutcomes

open OnAir.Database GuestRoomService RecordingCalls RecordingManifest ReplicationApplier Runs
  OnAir.Table
open ProgramRecording hiding Act Request step

variable {sha : String → String} {tm : TimeText} {w : Around} {p : Pending} {r : ℤ}

/-! ### What a statement does to a status -/

/-- A recording with this status has come to its end. -/
def Final (x : RecordingStatus) : Prop :=
  x = .completed ∨ x = .interrupted ∨ x = .cancelled ∨ x = .deleted

instance (x : RecordingStatus) : Decidable (Final x) := by
  unfold Final
  infer_instance

/-- The row, and the status it gets, where a statement does not look at the one that is there. -/
def blindWrite : Pending → Option (ℤ × RecordingStatus)
  | .decideConsent recordingId _ false => some (recordingId, .cancelled)
  | .markStarted recordingId _ => some (recordingId, .recording)
  | .markStopped recordingId failure _ => some (recordingId, stopStatus failure)
  | _ => none

/-- The status of the recording `r` before and after a statement. -/
inductive StatusStep (p : Pending) (r : ℤ) (x y : RecordingStatus) : Prop
  | stays (hy : y = x) (hp : ∀ st, blindWrite p ≠ some (r, st))
  | isDeleted (hy : y = .deleted) (hp : ∀ st, blindWrite p ≠ some (r, st))
  | expires (hx : x = .pendingConsent) (hp : ∀ st, blindWrite p ≠ some (r, st))
  | isWritten (hp : blindWrite p = some (r, y))

/-- The row of `r` afterwards, where there is one before. -/
def Moves (p : Pending) (r : ℤ) (d d' : Data) : Prop :=
  ∀ x ∈ d.guestRecordings[r]?, ∃ y ∈ d'.guestRecordings[r]?, StatusStep p r x.status y.status

lemma moves_of_eq {d d' : Data} (h : d'.guestRecordings = d.guestRecordings)
    (hp : ∀ st, blindWrite p ≠ some (r, st)) : Moves p r d d' := by
  intro x hx
  exact ⟨x, h ▸ hx, .stays rfl hp⟩

/-- `UPDATE guest_recordings SET … WHERE id=?`. -/
lemma moves_of_update {d : Data} {k : ℤ} {f : GuestRecording → GuestRecording}
    (hf : ∀ x, r = k → StatusStep p r x.status (f x).status)
    (hp : r ≠ k → ∀ st, blindWrite p ≠ some (r, st)) : Moves p r d (updateRecording d k f) := by
  intro x hx
  rw [lookup_updateRecording]
  split_ifs with hk
  · exact ⟨f x, Option.mem_map_of_mem f hx, hf x hk⟩
  · exact ⟨x, hx, .stays rfl (hp hk)⟩

lemma askConsent_recordings (k : ℤ) (gs : List ℤ) (d : Data) :
    (askConsent k gs d).guestRecordings = d.guestRecordings := by
  obtain ⟨t, ht, -⟩ := askConsent_eq k gs d
  rw [ht]

lemma store_of_refuseDelete {e : RecordingError} {rest : Option (List ℤ)} {s s' : Store}
    {next : Option Pending} (h : refuseDelete e rest s = .ok (s', next)) : s' = s := by
  cases rest with
  | none => cases h
  | some rest =>
    cases h
    rfl

theorem moves_of_proceed {s s' : Store} {next : Option Pending}
    (h : proceed sha tm w p s = .ok (s', next)) (r : ℤ) : Moves p r s.data s'.data := by
  revert h
  fun_cases proceed sha tm w p s <;> intro h
  case case7 studioId stationId actorId expiresAt id row sessions inserted =>
    cases h
    intro x hx
    have hne : r ≠ id := by
      rintro rfl
      rw [lookup_newId] at hx
      cases hx
    refine ⟨x, ?_, .stays rfl (by simp [blindWrite])⟩
    rw [askConsent_recordings, lookup_insert, if_neg hne]
    exact hx
  case case9 k expire =>
    cases h
    refine moves_of_update (fun x _ => ?_) fun _ => by simp [blindWrite]
    dsimp only [expire]
    split_ifs with hst
    · exact .expires hst (by simp [blindWrite])
    · exact .stays rfl (by simp [blindWrite])
  case case15 k g accepted decision decided hacc cancel =>
    cases h
    obtain rfl := Bool.eq_false_of_not_eq_true hacc
    refine moves_of_update (d := decided) (fun x hr => ?_) fun hr _ => ?_
    · exact .isWritten (by simp [blindWrite, hr, cancel, cancelled])
    · simp [blindWrite, Ne.symm hr]
  case case31 k opened =>
    cases h
    refine moves_of_update (fun x hr => ?_) fun hr _ => ?_
    · exact .isWritten (by simp [blindWrite, hr, started])
    · simp [blindWrite, Ne.symm hr]
  case case39 k failure manifestJson =>
    cases h
    refine moves_of_update (fun x hr => ?_) fun hr _ => ?_
    · exact .isWritten (by simp [blindWrite, hr, stopped])
    · simp [blindWrite, Ne.symm hr]
  case case41 | case42 | case43 =>
    obtain rfl := store_of_refuseDelete h
    exact moves_of_eq rfl fun _ => by simp [blindWrite]
  case case45 k rest =>
    cases h
    exact moves_of_update (fun x _ => .isDeleted rfl (by simp [blindWrite]))
      fun _ => by simp [blindWrite]
  all_goals cases h
  all_goals exact moves_of_eq rfl fun _ => by simp [blindWrite]

/-! ### Outcomes -/

section Outcomes

variable {s s' : State} {a : Act}

/-- What `d` says has come to its end, `d'` says too, unless it was deleted. -/
def KeepsOutcomes (d d' : Data) : Prop :=
  ∀ (r : ℤ) (x : GuestRecording), d.guestRecordings[r]? = some x → Final x.status →
    ∃ y, d'.guestRecordings[r]? = some y ∧ (y.status = x.status ∨ y.status = .deleted)

/-- A recording that a statement writes without a look has no outcome, or that one. -/
def RowOpen (s : State) (a : Act) : Prop :=
  match a.event with
  | .turn p => ∀ w ∈ blindWrite p, ∀ x ∈ s.store.data.guestRecordings[w.1]?,
      Final x.status → x.status = w.2
  | _ => True

instance (s : State) (a : Act) : Decidable (RowOpen s a) := by
  unfold RowOpen
  split <;> infer_instance

lemma KeepsOutcomes.refl (d : Data) : KeepsOutcomes d d := fun _ x hx _ => ⟨x, hx, .inl rfl⟩

lemma final_deleted : Final .deleted := .inr (.inr (.inr rfl))

lemma KeepsOutcomes.trans {d d' d'' : Data} (h : KeepsOutcomes d d') (h' : KeepsOutcomes d' d'') :
    KeepsOutcomes d d'' := by
  intro r x hx hf
  obtain ⟨y, hy, hst⟩ := h r x hx hf
  have hfy : Final y.status := by
    rcases hst with hst | hst
    · rwa [hst]
    · rw [hst]
      exact final_deleted
  obtain ⟨z, hz, hst'⟩ := h' r y hy hfy
  refine ⟨z, hz, ?_⟩
  rcases hst' with hst' | hst'
  · rwa [hst']
  · exact .inr hst'

/-- What a step does to a recording. -/
theorem moves_of_step (h : step sha tm s a = some s') (r : ℤ) :
    (∃ p, a.event = .turn p ∧ Moves p r s.store.data s'.store.data) ∨
      ∀ x ∈ s.store.data.guestRecordings[r]?, ∃ y ∈ s'.store.data.guestRecordings[r]?,
        y.status = x.status := by
  revert h
  fun_cases step sha tm s a <;> intro h <;> cases h
  case case2 p he hmem store next hp => exact .inl ⟨p, he, moves_of_proceed hp r⟩
  case case5 k text he write =>
    refine .inr fun x hx => ?_
    dsimp only
    rw [lookup_updateRecording]
    split_ifs
    · exact ⟨write x, Option.mem_map_of_mem write hx, rfl⟩
    · exact ⟨x, hx, rfl⟩
  all_goals exact .inr fun x hx => ⟨x, hx, rfl⟩

theorem keepsOutcomes_step (hk : RowOpen s a) (h : step sha tm s a = some s') :
    KeepsOutcomes s.store.data s'.store.data := by
  intro r x hx hf
  rcases moves_of_step h r with ⟨p, he, hmoves⟩ | hsame
  · obtain ⟨y, hy, hst⟩ := hmoves x hx
    refine ⟨y, hy, ?_⟩
    cases hst with
    | stays hst _ => exact .inl hst
    | isDeleted hst _ => exact .inr hst
    | expires hst _ => simp [Final, hst] at hf
    | isWritten hp =>
      simp only [RowOpen, he] at hk
      exact .inl (hk _ hp x hx hf).symm
  · obtain ⟨y, hy, hst⟩ := hsame x hx
    exact ⟨y, hy, .inl hst⟩

/-- **Outcomes.** In a run in which no decline, start or stop is written over an outcome, what has
come to its end at some time has the same outcome later, or is deleted. -/
theorem outcomes_final (sha : String → String) (tm : TimeText) (store : Store)
    (acts acts' : List Act) (s s' : State)
    (hm : Meets (step sha tm) RowOpen ⟨store, []⟩ (acts ++ acts'))
    (he : exec (step sha tm) ⟨store, []⟩ acts = some s)
    (he' : exec (step sha tm) s acts' = some s') :
    KeepsOutcomes s.store.data s'.store.data := by
  have hrest := (meets_append.mp hm).2 s he
  refine inv_of_exec (P := fun t => KeepsOutcomes s.store.data t.store.data) ?_
    (KeepsOutcomes.refl _) hrest he'
  intro t a t' ht hk h
  exact ht.trans (keepsOutcomes_step hk h)

/-- What one step has to keep. -/
def KeepsStep (sha : String → String) (tm : TimeText) (s : State) (a : Act) : Prop :=
  ∀ s' ∈ step sha tm s a, KeepsOutcomes s.store.data s'.store.data

lemma blindWrite_ne_deleted {st : RecordingStatus} (h : blindWrite p = some (r, st)) :
    st ≠ .deleted := by
  revert h
  fun_cases blindWrite p <;> intro h <;> cases h
  case case1 | case2 => decide
  case case3 failure manifestJson =>
    unfold stopStatus
    split_ifs <;> decide

/-- A write that does not look cannot raise. -/
lemma moves_of_blindWrite {v : ℤ × RecordingStatus} (hw : blindWrite p = some v)
    (h : step sha tm s a = some s') (he : a.event = .turn p) (r : ℤ) :
    Moves p r s.store.data s'.store.data := by
  obtain ⟨out, hout⟩ : ∃ out, proceed sha tm a.around p s.store = .ok out := by
    revert hw
    fun_cases blindWrite p <;> intro hw <;> cases hw
    all_goals exact ⟨_, rfl⟩
  simp only [step, he, hout] at h
  split_ifs at h
  cases h
  exact moves_of_proceed hout r

/-- The condition leaves out no run that keeps the outcomes. -/
theorem rowOpen_iff {acts : List Act} (he : exec (step sha tm) s acts = some s') :
    Meets (step sha tm) RowOpen s acts ↔ Meets (step sha tm) (KeepsStep sha tm) s acts := by
  refine meets_congr_of_inv (P := fun _ => True) (fun _ _ _ _ _ _ => trivial) ?_ trivial he
  intro s a s' _ h
  constructor
  · intro hk t ht
    obtain rfl : s' = t := Option.some.inj (h.symm.trans ht)
    exact keepsOutcomes_step hk h
  · intro hk
    unfold RowOpen
    split
    case h_2 => trivial
    case h_1 p hev =>
      rintro ⟨r, st⟩ hw x hx hf
      obtain ⟨y, hy, hst⟩ := hk s' h r x hx hf
      obtain ⟨z, hz, hstep⟩ := moves_of_blindWrite hw h hev r x hx
      obtain rfl : y = z := Option.some.inj (hy.symm.trans hz)
      have hwritten : y.status = st := by
        cases hstep with
        | stays _ hp | isDeleted _ hp | expires _ hp => exact absurd hw (hp st)
        | isWritten hp => simpa using congrArg (Option.map Prod.snd) (hp.symm.trans hw)
      rw [hwritten] at hst
      exact (hst.resolve_right (blindWrite_ne_deleted hw)).symm

end Outcomes

/-! ### A stop after a guest has declined -/

def clock : TimeText := ⟨fun _ => "", fun _ => none, fun _ => ""⟩

def around : Around := ⟨0, ⟨"", "2026", "01", "data", true, "", .samePath⟩, ""⟩

/-- One guest, who is live in the studio of station 1. -/
def oneGuest : Store where
  data := { Data.empty with
    stations := (∅ : Table Unit).insert 1 ()
    studios := (∅ : Table Studio).insert 1 ⟨1, true⟩
    guestSessions := (∅ : Table GuestSession).insert 1
      ⟨1, 1, 1, "Ana", "token", .admitted, true, false, false, 0, "good", none, none, "", ""⟩ }
  recorders := ∅
  consentTimers := []

/-- The next `n` statements of the call that began last. -/
def turns : ℕ → State → List Act
  | 0, _ => []
  | n + 1, s =>
    match s.calls with
    | [] => []
    | p :: _ =>
      let a : Act := ⟨around, .turn p⟩
      match step id clock s a with
      | none => []
      | some s' => a :: turns n s'

/-- Calls that do not overlap. -/
def inTurn : List Request → State → List Act
  | [], _ => []
  | q :: qs, s =>
    let acts := ⟨around, .call q⟩ :: turns 12 { s with calls := q.first :: s.calls }
    match exec (step id clock) s acts with
    | none => []
    | some s' => acts ++ inTurn qs s'

/-- The state after calls that do not overlap. -/
def afterwards (qs : List Request) : Option State :=
  exec (step id clock) ⟨oneGuest, []⟩ (inTurn qs ⟨oneGuest, []⟩)

def statusOf (s : State) : Option RecordingStatus :=
  s.store.data.guestRecordings[(1 : ℤ)]?.map (·.status)

/-- The guest declines. -/
def declined : List Request := [.request 1 9, .consent 1 "token" false]

theorem rowOpen_iff_declined :
    Meets (step id clock) (KeepsStep id clock) ⟨oneGuest, []⟩ (inTurn declined ⟨oneGuest, []⟩) := by
  obtain ⟨s, he⟩ := Option.isSome_iff_exists.mp
    (by decide +kernel : (afterwards declined).isSome = true)
  exact (rowOpen_iff he).mp (by decide +kernel)

theorem outcomes_final_deleted :
    ∃ s ∈ afterwards declined, statusOf s = some .cancelled ∧
      ∃ s' ∈ exec (step id clock) s (inTurn [.delete 1] s), statusOf s' = some .deleted ∧
        KeepsOutcomes s.store.data s'.store.data := by
  obtain ⟨s, he, hs, s', he', hs', hm⟩ :
      ∃ s ∈ afterwards declined, statusOf s = some .cancelled ∧
        ∃ s' ∈ exec (step id clock) s (inTurn [.delete 1] s), statusOf s' = some .deleted ∧
          Meets (step id clock) RowOpen ⟨oneGuest, []⟩
            (inTurn declined ⟨oneGuest, []⟩ ++ inTurn [.delete 1] s) := by
    decide +kernel
  exact ⟨s, he, hs, s', he', hs', outcomes_final id clock oneGuest _ _ s s' hm he he'⟩

/-- A recording that was cancelled is completed by a stop. -/
theorem cancelled_then_completed : ¬ ∀ (sha : String → String) (tm : TimeText) (store : Store)
    (acts acts' : List Act) (s s' : State), exec (step sha tm) ⟨store, []⟩ acts = some s →
      exec (step sha tm) s acts' = some s' → KeepsOutcomes s.store.data s'.store.data := by
  intro hall
  obtain ⟨s, he, s', he', x, hx, hst, y, hy, hst'⟩ :
      ∃ s ∈ afterwards declined, ∃ s' ∈ exec (step id clock) s (inTurn [.stop 1 ""] s),
        ∃ x ∈ s.store.data.guestRecordings[(1 : ℤ)]?, x.status = .cancelled ∧
          ∃ y ∈ s'.store.data.guestRecordings[(1 : ℤ)]?, y.status = .completed := by
    decide +kernel
  obtain ⟨z, hz, hkeep⟩ := hall id clock oneGuest _ _ s s' he he' 1 x hx (by simp [Final, hst])
  obtain rfl : y = z := Option.some.inj (hy.symm.trans hz)
  simp [hst, hst'] at hkeep

end OnAir.RecordingOutcomes
