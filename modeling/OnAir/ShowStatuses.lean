import OnAir.ShowLifecycle

/-!
The order of the statuses of a show session.

Every status is written for one that has been read before. As long as the session is still found
in that status when the next one is written, its statuses follow the course of a show, and a show
that has been ended stays so.
-/

namespace OnAir.ShowStatuses

open PlayoutTables Resumption Runs ShowLifecycle ThreadPool

/-! ### The course of a show -/

/-- A session goes from the first status to the second one. -/
def follows : ShowStatus → ShowStatus → Bool
  | .preparing, .goingLive => true
  | .goingLive, .introPlaying => true
  | .goingLive, .live => true
  | .introPlaying, .live => true
  | .live, .breakOutro => true
  | .breakOutro, .onBreak => true
  | .onBreak, .breakIntro => true
  | .onBreak, .live => true
  | .breakIntro, .live => true
  | .live, .outroPlaying => true
  | .breakOutro, .outroPlaying => true
  | .onBreak, .outroPlaying => true
  | .breakIntro, .outroPlaying => true
  | .outroPlaying, .ended => true
  | _, _ => false

/-- The outro of the session has begun, or the session has ended. -/
def Over (s : State) (sid : ℕ) : Prop :=
  statusOf s sid = some .outroPlaying ∨ statusOf s sid = some .ended

/-- A change of the status follows the course of a show. -/
def Change : Entry → Prop
  | .entered _ _ session status => session.status ≠ status → follows session.status status
  | .started _ _ _ => True

/-- Every change of a status follows the course of a show, and a session that a request has
ended stays over. -/
structure InOrder (p : Pool Op Raised (Option ℕ) Call State) : Prop where
  changes : ∀ e ∈ p.shared.history, Change e
  ended : ∀ (i : ℕ) showId sid, p.threads[i]? = some ⟨.endShow showId, .pure (some sid)⟩ →
    Over p.shared sid

/-- A status is written to a session that is still in the one its caller has read. -/
def findsRead : Condition Op World State := fun _ o w s =>
  match o, w with
  | _, .raises _ => true
  | .updateStatus sid read _, _ => statusOf s sid = some read
  | _, _ => true

/-- A status that is written follows the one that was read. -/
def fit {β : Type} : Op β → Bool
  | .updateStatus _ read status => follows read status
  | _ => true

/-! ### What is kept -/

variable {setup : Setup} {i : ℕ} {s t u : State} {α β : Type} {sid : ℕ}

/-- The statuses that have been entered, each after the one before. -/
def Ordered (s : State) : Prop :=
  ∀ i sid session status, .entered i sid session status ∈ s.history →
    follows session.status status

/-- What is over stays over. -/
def Stays (s t : State) : Prop := ∀ sid, Over s sid → Over t sid

lemma stays_refl (s : State) : Stays s s := fun _ h => h

lemma over_of_follows {before after : ShowStatus} (h : follows before after)
    (hs : statusOf s sid = some before) (ht : statusOf t sid = some after) (hover : Over s sid) :
    Over t sid := by
  unfold Over at hover ⊢
  rw [hs] at hover
  rw [ht]
  obtain hb | hb := hover <;> cases hb <;> cases after <;> first | exact .inr rfl | cases h

/-- Nothing but the update of a status changes one. -/
lemma stays_of_rows (h : ∀ (sid : ℕ) (r : Row), s.rows[sid]? = some r → t.rows[sid]? = some r) :
    Stays s t := by
  intro sid hover
  unfold Over statusOf at hover ⊢
  cases hr : s.rows[sid]? with
  | none => simp [hr] at hover
  | some r => simpa [h sid r hr, hr] using hover

lemma stays_update {read status : ShowStatus} (hread : statusOf s sid = some read)
    (h : follows read status) : Stays s (s.update i sid status) := by
  intro sid' hover
  obtain rfl | hne := eq_or_ne sid' sid
  · exact over_of_follows h hread (by rw [statusOf_update, if_pos rfl, hread]; rfl) hover
  · unfold Over at hover ⊢
    rwa [statusOf_update, if_neg hne]

lemma ordered_update {read status : ShowStatus} (hs : Ordered s)
    (hread : statusOf s sid = some read) (h : follows read status) :
    Ordered (s.update i sid status) := by
  obtain ⟨r, hr, rfl⟩ := Option.map_eq_some_iff.mp hread
  intro j sid' session after hmem
  rw [update_of_row hr, List.mem_cons] at hmem
  obtain heq | hmem := hmem
  · cases heq
    exact h
  · exact hs j sid' session after hmem

lemma read_of_findsRead {read status : ShowStatus} {w : World} (hw : ∀ e, w ≠ .raises e)
    (h : findsRead i (.updateStatus sid read status) w s = true) : statusOf s sid = some read := by
  cases w with
  | yes | no => exact of_decide_eq_true h
  | raises e => exact absurd rfl (hw e)

variable (setup) in
abbrev limitedRun (i : ℕ) (o : Op β) (w : World) (s : State) : Option (β × State) :=
  ((system setup).limited findsRead).run i o w s

/-- **A statement keeps the order**, if what it writes follows what its caller has read. -/
theorem ordered_of_run {o : Op β} {w : World} {b : β} (ho : fit o) (hs : Ordered s)
    (h : limitedRun setup i o w s = some (b, u)) : Ordered u ∧ Stays s u := by
  have h' : ((system setup).limited fun i o w s => findsRead i o w s && fit o).run i o w s =
      some (b, u) := by
    obtain ⟨hfinds, hrun⟩ := Option.ite_none_right_eq_some.mp h
    exact (if_pos (by simp [hfinds, ho])).trans hrun
  cases effect_of_run h' with
  | same => exact ⟨hs, stays_refl s⟩
  | started =>
    refine ⟨fun j sid' before after hmem => ?_, stays_of_rows fun _ _ hr => hr⟩
    exact hs j sid' before after ((List.mem_cons.mp hmem).resolve_left (by simp))
  | created =>
    refine ⟨hs, stays_of_rows fun sid r hr => ?_⟩
    exact (List.getElem?_append_left (List.getElem?_eq_some_iff.mp hr).1).trans hr
  | updated hw hallows =>
    obtain ⟨hfinds, hfit⟩ := Bool.and_eq_true_iff.mp hallows
    have hread := read_of_findsRead hw hfinds
    exact ⟨ordered_update hs hread hfit, stays_update hread hfit⟩

/-- What one statement does is for the calls of others no more than the order allows. -/
lemma stays_of_ordered {o : Op β} {w : World} {b : β} (hu : Ordered u)
    (h : limitedRun setup i o w s = some (b, u)) : Stays s u := by
  cases effect_of_run h with
  | same => exact stays_refl s
  | started => exact stays_of_rows fun _ _ hr => hr
  | created =>
    refine stays_of_rows fun sid r hr => ?_
    exact (List.getElem?_append_left (List.getElem?_eq_some_iff.mp hr).1).trans hr
  | @updated sid read status w hw hallows =>
    have hread := read_of_findsRead hw hallows
    refine stays_update hread ?_
    obtain ⟨r, hr, rfl⟩ := Option.map_eq_some_iff.mp hread
    refine hu i sid r.session status ?_
    rw [update_of_row hr]
    exact List.mem_cons_self

/-! ### The calls -/

variable (setup) in
/-- What a call does from `P` on; nothing is promised of what it raises. -/
abbrev Does (i : ℕ) (P : State → Prop) (p : Program α) (Q : α → State → Prop) : Prop :=
  Triple (fun o => limitedRun setup i o) Ordered Stays P p Q fun _ _ => True

variable (setup) in
/-- The program keeps the order. -/
abbrev Behaves (i : ℕ) (p : Program α) : Prop :=
  Does setup i (fun _ => True) p fun _ _ => True

variable {P : State → Prop} {Q : α → State → Prop} {R : β → State → Prop}

lemma then_does {p : Program α} {f : α → Program β} (h : Does setup i P p Q)
    (hf : ∀ a, Does setup i (Q a) (f a) R) : Does setup i P (p >>= f) R :=
  h.bind stays_refl hf

lemma return_does {a : α} : Behaves setup i (pure a) := fun _ _ _ _ => trivial

lemma raise_does {e : Raised} : Does setup i P (.raise e : Program α) Q := fun _ _ _ _ => trivial

lemma catch_does {p : Program α} {handler : Raised → Program α} (h : Behaves setup i p)
    (hf : ∀ e, Behaves setup i (handler e)) : Behaves setup i (p.tryCatch handler) :=
  Triple.tryCatch stays_refl h hf

lemma execute_does {o : Op (Answer α)} (hP : Stable Stays P) (ho : fit o) :
    Does setup i P (execute o) fun _ => P := by
  intro s hs t ht hinv w a u hrun
  obtain ⟨hu, hstays⟩ := ordered_of_run ho hinv hrun
  have hP' : P u := hP t u hstays (hP s t ht hs)
  cases a with
  | ok a => exact ⟨hu, fun v hv => hP u v hv hP'⟩
  | error e => exact ⟨hu, fun _ _ => trivial⟩

lemma stable_true : Stable Stays fun _ => True := fun _ _ _ _ => trivial

lemma stable_over : Stable Stays fun s => Over s sid := fun _ _ ht h => ht sid h

lemma statement_does {o : Op (Answer α)} (ho : fit o) : Behaves setup i (execute o) :=
  execute_does stable_true ho

/-- The outro begins. -/
lemma beginOutro_does {read : ShowStatus} (h : follows read .outroPlaying) :
    Does setup i (fun _ => True) (execute (.updateStatus sid read .outroPlaying)) fun _ s =>
      Over s sid := by
  intro s hs t ht hinv w a u hrun
  obtain ⟨hu, -⟩ := ordered_of_run (by exact h) hinv hrun
  cases a with
  | error e => exact ⟨hu, fun _ _ => trivial⟩
  | ok a =>
    refine ⟨hu, fun v hv => hv sid (.inl ?_)⟩
    obtain ⟨hfinds, hrun⟩ := Option.ite_none_right_eq_some.mp hrun
    cases w with
    | raises e => cases hrun
    | yes | no =>
      have hread := read_of_findsRead (by simp) hfinds
      cases hrun
      rw [statusOf_update, if_pos rfl, hread]
      rfl

lemma updateShowSessionStatus_does {read status : ShowStatus} (h : follows read status) :
    Behaves setup i (updateShowSessionStatus sid read status) :=
  then_does (statement_does rfl) fun _ => then_does (statement_does h) fun _ =>
    then_does (statement_does rfl) fun _ => return_does

lemma playShowAudio_does {stationId : ℤ} {file : AudioFile} {path : String} :
    Behaves setup i (playShowAudio setup stationId file path) := by
  unfold playShowAudio
  dsimp only
  split
  case isTrue => exact return_does
  case isFalse =>
    refine catch_does (then_does ?_ fun _ => then_does (statement_does rfl) fun _ => return_does)
      fun _ => return_does
    unfold startRuntime
    split
    · exact statement_does rfl
    · exact return_does

lemma playOrLive_does {session : ShowSession} {file : AudioFile} {status : ShowStatus}
    (hstatus : follows session.status status) (hlive : follows session.status .live) :
    Behaves setup i (playOrLive setup sid session file status) := by
  refine then_does (statement_does rfl) fun s => ?_
  split
  · exact updateShowSessionStatus_does hlive
  · refine then_does playShowAudio_does fun started => ?_
    split
    · exact updateShowSessionStatus_does hstatus
    · exact updateShowSessionStatus_does hlive

lemma audioOver_does {session : ShowSession} : Behaves setup i (audioOver sid session) := by
  unfold audioOver
  split
  · rename_i h
    exact updateShowSessionStatus_does (by rw [h]; rfl)
  · rename_i h
    exact updateShowSessionStatus_does (by rw [h]; rfl)
  · rename_i h
    exact updateShowSessionStatus_does (by rw [h]; rfl)
  · rename_i h
    exact then_does (statement_does (by rw [h]; rfl)) fun _ => then_does (statement_does rfl)
      fun _ => then_does (statement_does rfl) fun _ => statement_does rfl
  · exact return_does

lemma handleShowAudioState_does {session : ShowSession} :
    Behaves setup i (handleShowAudioState setup sid session) := by
  refine then_does (Q := fun _ _ => True) ?_ fun alive => ?_
  · unfold playbackAlive
    split
    · exact statement_does rfl
    · exact return_does
  · split
    · exact return_does
    · exact then_does (statement_does rfl) fun _ => audioOver_does

/-- **The lifecycle.** Whatever the worker writes for a session follows the status it was called
with. -/
theorem processShowLifecycle_does : ∀ {found : Option (ℕ × ShowSession)},
    Behaves setup i (processShowLifecycle setup found)
  | none => return_does
  | some (sid, session) => by
    unfold processShowLifecycle
    dsimp only
    split
    · rename_i h
      refine then_does (statement_does rfl) fun playing => ?_
      split
      · exact return_does
      · exact playOrLive_does (by rw [h]; rfl) (by rw [h]; rfl)
    · exact handleShowAudioState_does
    · exact handleShowAudioState_does
    · exact handleShowAudioState_does
    · exact handleShowAudioState_does
    · rename_i h
      refine then_does (statement_does rfl) fun due => ?_
      split
      · exact return_does
      · exact playOrLive_does (by rw [h]; rfl) (by rw [h]; rfl)
    · exact statement_does rfl
    · exact return_does
    · exact return_does

lemma work_does {stationId : ℤ} : ∀ {ticks : ℕ}, Behaves setup i (work setup stationId ticks)
  | 0 => return_does
  | ticks + 1 => by
    refine then_does (catch_does (then_does (statement_does rfl) fun granted => ?_) fun _ =>
      return_does) fun _ => work_does
    split
    · exact then_does (statement_does rfl) fun _ => processShowLifecycle_does
    · exact return_does

lemma goLive_does {showId stationId : ℤ} : Behaves setup i (goLive showId stationId) := by
  refine then_does (statement_does rfl) fun found => ?_
  split
  · exact raise_does
  · refine then_does (statement_does rfl) fun existing => ?_
    split
    · exact raise_does
    · exact then_does (statement_does rfl) fun _ => then_does (statement_does rfl) fun sid =>
        then_does (statement_does rfl) fun _ => then_does (statement_does rfl) fun _ =>
          then_does (statement_does rfl) fun _ => return_does

/-- A request that changes the status of a session, up to the point where it does. -/
lemma changeStatus_does {showId : ℤ} {from_ : ShowStatus → Bool} {status : ShowStatus}
    {detail : String} {Q : Option ℕ → State → Prop}
    (h : ∀ sid read, from_ read = true → Does setup i (fun _ => True)
      (do
        execute (.updateStatus sid read status)
        execute .elsewhere
        let _ ← execute (.getSession sid)
        return some sid) Q) : Does setup i (fun _ => True)
      (changeStatus showId from_ status detail) Q := by
  refine then_does (statement_does rfl) fun found => ?_
  split
  · exact raise_does
  · refine then_does (statement_does rfl) fun active => ?_
    split
    · exact raise_does
    · rename_i sid session
      split
      · exact raise_does
      · split
        · rename_i hfrom
          exact h sid session.status hfrom
        · exact raise_does

lemma goBreak_does {showId : ℤ} : Behaves setup i (goBreak showId) := by
  refine changeStatus_does fun sid read hread => ?_
  obtain rfl : read = .live := of_decide_eq_true hread
  exact then_does (statement_does rfl) fun _ => then_does (statement_does rfl) fun _ =>
    then_does (statement_does rfl) fun _ => return_does

lemma follows_outro {read : ShowStatus} (h : canBeEnded read) : follows read .outroPlaying := by
  cases read <;> first | rfl | cases h

/-- What a call returns: the session of an end request is over. -/
def Ended (c : Call) (a : Option ℕ) (s : State) : Prop :=
  match c, a with
  | .endShow _, some sid => Over s sid
  | _, _ => True

lemma endShow_does {showId : ℤ} : Does setup i (fun _ => True) (endShow showId)
    (Ended (.endShow showId)) := by
  refine changeStatus_does fun sid read hread => ?_
  refine then_does (beginOutro_does (follows_outro hread)) fun _ => ?_
  refine then_does (execute_does stable_over rfl) fun _ => ?_
  refine then_does (execute_does stable_over rfl) fun _ => ?_
  exact fun s hs t ht => ht sid hs

lemma program_does (c : Call) :
    Does setup i (fun _ => True) (c.program setup) (Ended c) := by
  cases c with
  | work => exact work_does
  | goLive => exact goLive_does
  | goBreak => exact goBreak_does
  | endShow => exact endShow_does

/-! ### Runs -/

variable (setup) in
lemma kept : Kept ((system setup).limited findsRead) Ordered (fun _ _ => True) (fun _ => Stays)
    (fun _ => Ended) fun _ _ _ _ => True where
  refl _ := stays_refl
  trans _ _ _ _ h h' sid hover := h' sid (h sid hover)
  unused _ _ _ _ _ := trivial
  operation _ _ hu hrun := stays_of_ordered hu hrun
  surroundings {e} := nomatch e
  begins {i c s u} hinv _ hbegins := by
    obtain ⟨hrows, hhistory⟩ : u.rows = s.rows ∧ u.history = s.history := by
      change begins i c s = some u at hbegins
      unfold begins at hbegins
      split at hbegins
      · obtain ⟨-, heq⟩ := Option.ite_none_right_eq_some.mp hbegins
        cases heq
        exact ⟨rfl, rfl⟩
      · cases hbegins
        exact ⟨rfl, rfl⟩
    refine ⟨fun j sid before after hmem => hinv j sid before after (hhistory ▸ hmem),
      fun _ _ => stays_of_rows fun sid r hr => hrows ▸ hr, ?_⟩
    have h : Does setup i (fun _ => True) (c.program setup) (Ended c) := program_does c
    exact h u trivial

/-- **The statuses of a session follow the course of a show**, and a session that has been ended
stays over, as long as every status is written to a session that is found in the one that was
read. -/
theorem statuses_in_order (setup : Setup) {es : List (Event Call World Empty)}
    {q : Pool Op Raised (Option ℕ) Call State}
    (hm : Meets (step setup) (fun p e => permits findsRead p e = true) initial es)
    (he : exec (step setup) initial es = some q) : InOrder q := by
  have h := holds_of_exec (kept setup) (s := .start) (fun _ _ _ _ hmem => by cases hmem)
    (fun _ => trivial) (exec_limited hm he)
  refine ⟨fun e hmem => ?_, fun i showId sid ht => h.returned (kept setup) ht⟩
  cases e with
  | started => trivial
  | entered i sid before after => exact fun _ => h.shared i sid before after hmem

/-! ### Two shows -/

/-- A station with a show that has no files. -/
def plainSetup : Setup := ⟨(∅ : Table Show).insert 1 ⟨1, fun _ => none⟩, id, fun _ => false, true⟩

/-- So many turns of a thread, each answered with a yes. -/
def turns (i n : ℕ) : List (Event Call World Empty) := List.replicate n (.turn i .yes)

/-- The show goes live. -/
def live : List (Event Call World Empty) :=
  [.start (.goLive 1 1)] ++ turns 0 7 ++ [.start (.work 1 3)] ++
    turns 1 2 ++ [.turn 1 .no] ++ turns 1 4

theorem statuses_in_order_live :
    Meets (step plainSetup) (fun p e => permits findsRead p e = true) initial live ∧
      ∃ q, exec (step plainSetup) initial live = some q ∧ InOrder q := by
  have hm : Meets (step plainSetup) (fun p e => permits findsRead p e = true) initial live := by
    decide +kernel
  have hrun : (exec (step plainSetup) initial live).isSome = true := by decide +kernel
  obtain ⟨q, hq⟩ := Option.isSome_iff_exists.mp hrun
  exact ⟨hm, q, hq, statuses_in_order plainSetup hm hq⟩

/-- The show goes to a break and is ended while the worker takes it back from the break. -/
def ended : List (Event Call World Empty) :=
  live ++ [.start (.goBreak 1)] ++ turns 2 5 ++ turns 1 2 ++ [.turn 1 .no] ++ turns 1 4 ++
    turns 1 2 ++ [.turn 1 .no] ++ turns 1 2 ++ [.start (.endShow 1)] ++ turns 3 5 ++ turns 1 1

/-- The session whose request has been answered. -/
def answered (p : Pool Op Raised (Option ℕ) Call State) (i : ℕ) : Option ℕ :=
  match p.threads[i]? with
  | some ⟨.endShow _, .pure a⟩ => a
  | _ => none

theorem ended_goes_on : ¬ ∀ (setup : Setup) (es : List (Event Call World Empty))
    (q : Pool Op Raised (Option ℕ) Call State),
    exec (step setup) initial es = some q → InOrder q := by
  intro h
  have hrun : ((exec (step plainSetup) initial ended).any fun q =>
      decide (answered q 3 = some 0 ∧ statusOf q.shared 0 = some .live)) = true := by
    decide +kernel
  obtain ⟨q, hq, hlive⟩ := (Option.any_eq_true ..).mp hrun
  obtain ⟨hanswered, hstatus⟩ := of_decide_eq_true hlive
  unfold answered at hanswered
  split at hanswered
  · rename_i showId a ht
    subst hanswered
    have hover := (h plainSetup ended q hq).ended 3 showId 0 ht
    unfold Over at hover
    simp [hstatus] at hover
  · cases hanswered

end OnAir.ShowStatuses
