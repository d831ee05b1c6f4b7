import OnAir.ServiceSupervisor

/-!
The children of the service host: at most one of a definition at a time, and none after the stop.

This holds as long as a loop lets go of a child only when the child has exited, and the stop does
not give up waiting before the loops have ended.
-/

namespace OnAir.SupervisedChildren

open Resumption Runs ServiceSupervisor ThreadPool

/-- A child that is let go of has exited, and the wait for the loops ends with the loops. -/
def inHand : Condition Op World State := fun _ o _ s =>
  match o with
  | .dispose n => !s.alive n
  | .awaitExecute => s.tasks.isEmpty
  | _ => true

/-- A definition has at most one child that is alive, and none once the stop has returned. -/
structure Controlled (p : Pool Op Raised Unit Call State) : Prop where
  single : ∀ (m n : ℕ) a b, p.shared.processes[m]? = some a → p.shared.processes[n]? = some b →
    a.alive → b.alive → a.id = b.id → m = n
  stopped : ∀ i : ℕ, p.threads[i]? = some ⟨.stop, .pure ()⟩ →
    ∀ n, p.shared.alive n = false

/-! ### What is kept -/

variable {i j n : ℕ} {s t u : State} {w : World} {d : Definition} {α β : Type}

/-- A child that is alive belongs to a loop that has not ended, which has no other one. -/
structure Inv (s : State) : Prop where
  held : ∀ (n : ℕ) p, s.processes[n]? = some p → p.alive → p.holder ∈ s.inside
  own : ∀ (n : ℕ) p, s.processes[n]? = some p → s.loops p.id = some p.holder
  single : ∀ (m n : ℕ) p q, s.processes[m]? = some p → s.processes[n]? = some q → p.alive →
    q.alive → p.holder = q.holder → m = n
  tasks : ∀ i ∈ s.inside, i ∈ s.tasks

/-- Every loop has seen the request to stop. -/
def Quiet (s : State) : Prop := s.stopping = true ∧ s.inside = []

/-- What the others leave of the state for a task: they start children of their own, and let the
loops end. -/
structure Later (i : ℕ) (s t : State) : Prop where
  processes : ∀ (n : ℕ) p, t.processes[n]? = some p → p.holder = i → p.alive →
    s.processes[n]? = some p
  loops : ∀ id, s.loops id = some i → t.loops id = some i
  tasks : i ∈ s.tasks → i ∈ t.tasks
  inside : i ∈ s.inside → i ∈ t.inside
  stopping : s.stopping = true → t.stopping = true
  quiet : Quiet s → Quiet t

lemma Later.refl (i : ℕ) (s : State) : Later i s s :=
  ⟨fun _ _ h _ _ => h, fun _ h => h, id, id, id, id⟩

lemma Later.trans (h : Later i s t) (h' : Later i t u) : Later i s u :=
  ⟨fun n p hp hi ha => h.processes n p (h'.processes n p hp hi ha) hi ha,
    fun id hid => h'.loops id (h.loops id hid), h'.tasks ∘ h.tasks, h'.inside ∘ h.inside,
    h'.stopping ∘ h.stopping, h'.quiet ∘ h.quiet⟩

/-- Every child of the loop that is alive is the one. -/
def Only (i : ℕ) (c : Option ℕ) (s : State) : Prop :=
  ∀ (n : ℕ) p, s.processes[n]? = some p → p.holder = i → p.alive → c = some n

/-- The loop of the definition, with its child, if it has one. -/
structure Loop (i : ℕ) (d : Definition) (c : Option ℕ) (s : State) : Prop where
  loop : s.loops d.id = some i
  task : i ∈ s.tasks
  only : Only i c s

/-- The loop is in a round. -/
def InRound (i : ℕ) (d : Definition) (c : Option ℕ) (s : State) : Prop :=
  Loop i d c s ∧ i ∈ s.inside

variable {c : Option ℕ}

lemma stable_only : Stable (Later i) (Only i c) := fun _ _ ht hs n p hp hi ha =>
  hs n p (ht.processes n p hp hi ha) hi ha

lemma stable_loop : Stable (Later i) (Loop i d c) := fun s t ht hs =>
  ⟨ht.loops d.id hs.loop, ht.tasks hs.task, stable_only s t ht hs.only⟩

lemma stable_inRound : Stable (Later i) (InRound i d c) := fun s t ht hs =>
  ⟨stable_loop s t ht hs.1, ht.inside hs.2⟩

lemma stable_quiet : Stable (Later i) Quiet := fun _ _ ht => ht.quiet

lemma stable_stopping : Stable (Later i) fun s => s.stopping = true := fun _ _ ht => ht.stopping

lemma stable_true : Stable (Later i) fun _ => True := fun _ _ _ _ => trivial

/-! ### The operations -/

/-- What a task has to know when it performs an operation. -/
def Fit (i : ℕ) : {β : Type} → Op β → State → Prop
  | _, .startProcess d, s => InRound i d none s
  | _, .isCancellationRequested, s => i ∈ s.tasks
  | _, .complete, s => Only i none s
  | _, _, _ => True

abbrev limitedRun (i : ℕ) (o : Op β) (w : World) (s : State) : Option (β × State) :=
  (system.limited inHand).run i o w s

lemma run_of_limited {o : Op β} {b : β} (h : limitedRun i o w s = some (b, u)) :
    inHand i o w s = true ∧ run i o w s = some (b, u) :=
  Option.ite_none_right_eq_some.mp h

lemma processes_exits {m : ℕ} : (s.exits n).processes[m]? =
    if n = m then (s.processes[m]?).map fun p => { p with alive := false }
    else s.processes[m]? := by
  rw [State.exits, List.getElem?_modify]
  split
  · rfl
  · exact Option.map_id' ..

/-- A child that has exited has been there, and one that is alive is as it was. -/
lemma before_exits {m : ℕ} {p : Process} (h : (s.exits n).processes[m]? = some p) :
    (∃ q, s.processes[m]? = some q ∧ q.id = p.id ∧ q.holder = p.holder) ∧
      (p.alive = true → s.processes[m]? = some p) := by
  rw [processes_exits] at h
  split at h
  · obtain ⟨q, hq, rfl⟩ := Option.map_eq_some_iff.mp h
    exact ⟨⟨q, hq, rfl, rfl⟩, fun ha => by cases ha⟩
  · exact ⟨⟨p, h, rfl, rfl⟩, fun _ => h⟩

lemma later_exits : Later i s (s.exits n) :=
  ⟨fun _ _ hp _ ha => (before_exits hp).2 ha, fun _ h => h, id, id, id, id⟩

lemma inv_exits (hs : Inv s) : Inv (s.exits n) := by
  refine ⟨fun m p hp ha => hs.held m p ((before_exits hp).2 ha) ha, fun m p hp => ?_,
    fun m k p q hp hq ha hb => ?_, hs.tasks⟩
  · obtain ⟨⟨q, hq, hid, hholder⟩, -⟩ := before_exits hp
    rw [← hid, ← hholder]
    exact hs.own m q hq
  · exact hs.single m k p q ((before_exits hp).2 ha) ((before_exits hq).2 hb) ha hb

lemma started_cases {p : Process} (h : (s.starts i d).processes[n]? = some p) :
    s.processes[n]? = some p ∨ n = s.processes.length ∧ p = ⟨d.id, i, true⟩ := by
  unfold State.starts at h
  dsimp only at h
  obtain hlt | hle := Nat.lt_or_ge n s.processes.length
  · rw [List.getElem?_append_left hlt] at h
    exact .inl h
  · rw [List.getElem?_append_right hle, List.getElem?_singleton] at h
    split at h
    case isTrue hn => exact .inr ⟨by omega, (Option.some.inj h).symm⟩
    case isFalse => cases h

lemma later_starts (hne : i ≠ j) : Later i s (s.starts j d) := by
  refine ⟨fun n p hp hi _ => ?_, fun _ h => h, id, id, id, id⟩
  obtain hp | ⟨-, rfl⟩ := started_cases hp
  · exact hp
  · exact absurd hi hne.symm

/-- A child is started by a loop without one. -/
lemma inv_starts (hs : Inv s) (hi : InRound i d none s) : Inv (s.starts i d) := by
  have hnone : ∀ (n : ℕ) p, s.processes[n]? = some p → p.holder = i → p.alive = false :=
    fun n p hp hholder => by
      by_contra ha
      rw [Bool.not_eq_false] at ha
      cases hi.1.only n p hp hholder ha
  refine ⟨fun n p hp ha => ?_, fun n p hp => ?_, fun m n p q hp hq ha hb heq => ?_, hs.tasks⟩
  · obtain hp | ⟨-, rfl⟩ := started_cases hp
    · exact hs.held n p hp ha
    · exact hi.2
  · obtain hp | ⟨-, rfl⟩ := started_cases hp
    · exact hs.own n p hp
    · exact hi.1.loop
  · obtain hp | ⟨rfl, rfl⟩ := started_cases hp
    · obtain hq | ⟨rfl, rfl⟩ := started_cases hq
      · exact hs.single m n p q hp hq ha hb heq
      · rw [hnone m p hp heq] at ha
        cases ha
    · obtain hq | ⟨rfl, rfl⟩ := started_cases hq
      · rw [hnone n q hq heq.symm] at hb
        cases hb
      · rfl

lemma later_of_frame (hprocesses : t.processes = s.processes) (hloops : t.loops = s.loops)
    (htasks : i ∈ s.tasks → i ∈ t.tasks) (hinside : i ∈ s.inside → i ∈ t.inside)
    (hstopping : s.stopping = true → t.stopping = true) (hquiet : Quiet s → Quiet t) :
    Later i s t :=
  ⟨fun _ _ hp _ _ => hprocesses ▸ hp, fun _ h => hloops ▸ h, htasks, hinside, hstopping, hquiet⟩

lemma inv_of_frame (hs : Inv s) (hprocesses : t.processes = s.processes)
    (hloops : t.loops = s.loops) (htasks : t.tasks = s.tasks) (hinside : t.inside = s.inside) :
    Inv t := by
  refine ⟨?_, ?_, ?_, ?_⟩
  · rw [hprocesses, hinside]
    exact hs.held
  · rw [hprocesses, hloops]
    exact hs.own
  · rw [hprocesses]
    exact hs.single
  · rw [htasks, hinside]
    exact hs.tasks

lemma later_enters : Later i s (s.enters j) := by
  unfold State.enters
  split
  · exact .refl i s
  · refine later_of_frame rfl rfl id (List.mem_cons_of_mem _) id fun h => ?_
    exact absurd h.1 (by assumption)

lemma inv_enters (hs : Inv s) (hi : i ∈ s.tasks) : Inv (s.enters i) := by
  unfold State.enters
  split
  · exact hs
  · refine ⟨fun n p hp ha => List.mem_cons_of_mem _ (hs.held n p hp ha), hs.own, hs.single,
      fun k hk => ?_⟩
    obtain rfl | hk := List.mem_cons.mp hk
    · exact hi
    · exact hs.tasks k hk

lemma later_completes (hne : i ≠ j) : Later i s (s.completes j) := by
  refine later_of_frame rfl rfl (fun h => ?_) (fun h => ?_) id fun h => ⟨h.1, ?_⟩
  · exact List.mem_filter.mpr ⟨h, decide_eq_true hne⟩
  · exact List.mem_filter.mpr ⟨h, decide_eq_true hne⟩
  · change s.inside.filter _ = []
    rw [h.2]
    rfl

/-- A loop without a child ends. -/
lemma inv_completes (hs : Inv s) (hi : Only i none s) : Inv (s.completes i) := by
  refine ⟨fun n p hp ha => ?_, hs.own, hs.single, fun k hk => ?_⟩
  · refine List.mem_filter.mpr ⟨hs.held n p hp ha, decide_eq_true fun heq => ?_⟩
    cases hi n p hp heq ha
  · obtain ⟨hk, hne⟩ := List.mem_filter.mp hk
    exact List.mem_filter.mpr ⟨hs.tasks k hk, hne⟩

/-- An operation by which no child is started and no loop enters or ends. -/
def plain : {β : Type} → Op β → Bool
  | _, .startProcess _ => false
  | _, .isCancellationRequested => false
  | _, .complete => false
  | _, _ => true

/-- What a plain operation does to the state: a child exits, or registrations, handles and the
request to stop are changed. -/
inductive Effect (s : State) : State → Prop
  | frame {v : State} (hprocesses : v.processes = s.processes) (hloops : v.loops = s.loops)
      (htasks : v.tasks = s.tasks) (hinside : v.inside = s.inside)
      (hstopping : s.stopping = true → v.stopping = true) : Effect s v
  | exits (n : ℕ) : Effect s (s.exits n)

lemma Effect.refl : Effect s s := .frame rfl rfl rfl rfl id

lemma Effect.later (h : Effect s t) : Later i s t := by
  cases h with
  | frame hprocesses hloops htasks hinside hstopping =>
    exact later_of_frame hprocesses hloops (htasks ▸ id) (hinside ▸ id) hstopping fun h =>
      ⟨hstopping h.1, hinside ▸ h.2⟩
  | exits n => exact later_exits

lemma Effect.inv (h : Effect s t) (hs : Inv s) : Inv t := by
  cases h with
  | frame hprocesses hloops htasks hinside => exact inv_of_frame hs hprocesses hloops htasks hinside
  | exits n => exact inv_exits hs

lemma effect_of_attempt {answer : Option (Answer β × State)} {a : Answer β}
    (h : attempt w s answer = some (a, u)) (ha : answer = some (a, u) → Effect s u) :
    Effect s u := by
  unfold attempt at h
  split at h
  · cases h
    exact .refl
  · exact ha h

/-- **What a plain operation does.** -/
theorem effect_of_run {o : Op β} {b : β} (ho : plain o = true)
    (h : run i o w s = some (b, u)) : Effect s u := by
  cases o with
  | startProcess | isCancellationRequested | complete => cases ho
  | hasExited | register | publishState | write | drained =>
    refine effect_of_attempt h fun h => ?_
    cases h
    exact .frame rfl rfl rfl rfl id
  | waitForExit n =>
    refine effect_of_attempt h fun h => ?_
    split_ifs at h <;> cases h <;> exact .refl
  | delay =>
    refine effect_of_attempt h fun h => ?_
    split_ifs at h <;> cases h <;> exact .refl
  | kill n =>
    refine effect_of_attempt h fun h => ?_
    split at h
    · cases h
      exact .refl
    · obtain rfl : (if w = .no then s else s.exits n) = u :=
        congrArg Prod.snd (Option.some.inj h)
      split
      · exact .refl
      · exact .exits n
  | unregister | dispose | activeProcesses | cancel =>
    cases h
    exact .frame rfl rfl rfl rfl fun h => by first | exact h | rfl
  | awaitExit n =>
    change (if n ∈ s.disposed || !s.alive n then some (.ok (), s)
      else if w = .no then some (.error .cancelled, s) else none) = some (b, u) at h
    split_ifs at h <;> cases h <;> exact .refl
  | awaitExecute =>
    obtain ⟨-, h⟩ := Option.ite_none_right_eq_some.mp h
    cases h
    exact .refl

/-- **An operation leaves the others what they know.** -/
theorem later_of_run {o : Op β} {b : β} (hne : i ≠ j)
    (h : limitedRun j o w s = some (b, u)) : Later i s u := by
  obtain ⟨-, hrun⟩ := run_of_limited h
  by_cases ho : plain o = true
  · exact (effect_of_run ho hrun).later
  cases o with
  | startProcess d =>
    cases w with
    | fails =>
      cases hrun
      exact .refl i s
    | yes | no =>
      cases hrun
      exact later_starts hne
  | isCancellationRequested =>
    cases hrun
    exact later_enters
  | complete =>
    cases hrun
    exact later_completes hne
  | _ => exact absurd rfl ho

/-- **An operation keeps the invariant**, if its task knows what it has to. -/
theorem inv_of_run {o : Op β} {b : β} (hfit : Fit i o s) (hs : Inv s)
    (h : limitedRun i o w s = some (b, u)) : Inv u := by
  obtain ⟨-, hrun⟩ := run_of_limited h
  by_cases ho : plain o = true
  · exact (effect_of_run ho hrun).inv hs
  cases o with
  | startProcess d =>
    cases w with
    | fails =>
      cases hrun
      exact hs
    | yes | no =>
      cases hrun
      exact inv_starts hs hfit
  | isCancellationRequested =>
    cases hrun
    exact inv_enters hs hfit
  | complete =>
    cases hrun
    exact inv_completes hs hfit
  | _ => exact absurd rfl ho

/-! ### The loop -/

/-- What a task does from `P` on. -/
abbrev Does (i : ℕ) (P : State → Prop) (p : Program α) (Q : α → State → Prop)
    (E : Raised → State → Prop) : Prop :=
  Triple (fun o => limitedRun i o) Inv (Later i) P p Q E

variable {P : State → Prop} {Q : α → State → Prop} {R : β → State → Prop}
  {E : Raised → State → Prop}

lemma then_does {p : Program α} {f : α → Program β} (h : Does i P p Q E)
    (hf : ∀ a, Does i (Q a) (f a) R E) : Does i P (p >>= f) R E :=
  h.bind (Later.refl i) hf

/-- A plain operation keeps what the others keep, and so does one that raises. -/
lemma statement_does {o : Op (Answer α)} (hP : Stable (Later i) P)
    (ho : plain o = true) : Does i P (execute o) (fun _ => P) fun _ => P := by
  intro s hs t ht hinv w a u hrun
  have heffect := effect_of_run ho (run_of_limited hrun).2
  have hu : P u := hP t u heffect.later (hP s t ht hs)
  refine ⟨heffect.inv hinv, ?_⟩
  cases a with
  | ok a => exact fun v hv => hP u v hv hu
  | error e => exact fun v hv => hP u v hv hu

/-- A plain operation that does not raise. -/
lemma perform_does {o : Op α} (hP : Stable (Later i) P) (ho : plain o = true) :
    Does i P (perform o) (fun _ => P) E :=
  Triple.perform hP (fun _ => hP) fun s _ _ u hinv hs hrun =>
    have heffect := effect_of_run ho (run_of_limited hrun).2
    ⟨heffect.inv hinv, hP s u heffect.later hs⟩

lemma return_does {a : α} (hP : Stable (Later i) P) :
    Does i P (pure a : Program α) (fun _ => P) E := Triple.pure hP fun _ h => h

lemma raise_does {e : Raised} (hP : Stable (Later i) P) :
    Does i P (.raise e : Program α) Q fun _ => P := Triple.raise hP fun _ h => h

lemma afterwards_does (hP : Stable (Later i) P) :
    Does i P (afterwards d) (fun _ => P) fun _ => P := by
  refine then_does (statement_does hP rfl) fun _ => ?_
  refine then_does (statement_does hP rfl) fun _ => ?_
  split
  · exact then_does (statement_does hP rfl) fun _ => return_does hP
  · exact return_does hP

lemma watch_does (hP : Stable (Later i) P) : Does i P (watch d n) (fun _ => P) fun _ => P := by
  refine then_does (statement_does hP rfl) fun exited => ?_
  split
  · exact raise_does hP
  · refine then_does (statement_does hP rfl) fun _ => ?_
    refine then_does (statement_does hP rfl) fun _ => ?_
    refine then_does (statement_does hP rfl) fun _ => ?_
    refine then_does (statement_does hP rfl) fun _ => ?_
    exact then_does (statement_does hP rfl) fun _ => afterwards_does hP

/-- A loop that is not asked to stop enters its round. -/
lemma check_does (hP : Stable (Later i) P) (htask : ∀ s, P s → i ∈ s.tasks) :
    Does i P (perform .isCancellationRequested) (fun b s => P s ∧ (b = false → i ∈ s.inside))
      E := by
  refine Triple.perform hP (fun b s t ht hs => ⟨hP s t ht hs.1, ht.inside ∘ hs.2⟩) ?_
  intro s w b u hinv hs hrun
  have hrun' := (run_of_limited hrun).2
  cases hrun'
  have hfit : Fit i .isCancellationRequested s := htask s hs
  refine ⟨inv_of_run hfit hinv hrun, hP s _ later_enters hs, fun hstopping => ?_⟩
  rw [State.enters, if_neg (by simp [hstopping])]
  exact List.mem_cons_self

lemma recover_does {e : Raised} : Does i (InRound i d c) (recover d e) (fun _ => InRound i d c)
    fun _ => InRound i d c := by
  cases e with
  | failed => exact afterwards_does stable_inRound
  | cancelled =>
    refine then_does (Q := fun _ => InRound i d c) ?_ fun stopping => ?_
    · exact (check_does stable_inRound fun s hs => hs.1.task).conseq (fun _ hs => hs)
        (fun _ _ hs => hs.1) fun _ _ h => h
    · split
      · exact return_does stable_inRound
      · exact afterwards_does stable_inRound

/-- A child that is let go of has exited. -/
lemma letGo_does : Does i (InRound i d (some n)) (letGo d n) (fun _ => InRound i d none) E := by
  refine then_does (perform_does stable_inRound rfl) fun _ => ?_
  refine Triple.perform stable_inRound (fun _ => stable_inRound) fun s w a u hinv hs hrun => ?_
  obtain ⟨hcondition, hrun'⟩ := run_of_limited hrun
  have hdead : s.alive n = false := by simpa [inHand] using hcondition
  cases hrun'
  refine ⟨inv_of_frame hinv rfl rfl rfl rfl, ⟨hs.1.loop, hs.1.task, fun m p hp hholder ha => ?_⟩,
    hs.2⟩
  obtain rfl : n = m := Option.some.inj (hs.1.only m p hp hholder ha)
  have hp : s.processes[n]? = some p := hp
  simp [State.alive, hp, ha] at hdead

/-- What has been started is the only child of the loop. -/
lemma tryStart_does : Does i (InRound i d none) (tryStart d) (fun started => InRound i d started)
    E := by
  have hreturn : ∀ {c : Option ℕ} {E : Raised → State → Prop}, Does i (InRound i d c)
      (pure c : Program (Option ℕ)) (fun started => InRound i d started) E :=
    fun s hs t ht => stable_inRound s t ht hs
  refine Triple.tryCatch (F := fun _ => InRound i d none) (Later.refl i) ?_ fun _ => hreturn
  refine then_does (Q := fun n => InRound i d (some n)) ?_ fun n => hreturn
  intro s hs t ht hinv w a u hrun
  have hi := stable_inRound s t ht hs
  have hu := inv_of_run (o := .startProcess d) hi hinv hrun
  replace hrun := (run_of_limited hrun).2
  cases w with
  | fails =>
    cases hrun
    exact ⟨hu, fun v hv => stable_inRound _ v hv hi⟩
  | yes | no =>
    cases hrun
    refine ⟨hu, fun v hv => stable_inRound _ v hv ⟨⟨hi.1.loop, hi.1.task, ?_⟩, hi.2⟩⟩
    intro m p hp hholder ha
    obtain hp | ⟨rfl, -⟩ := started_cases hp
    · cases hi.1.only m p hp hholder ha
    · rfl

/-- **A round** leaves the loop without a child. -/
theorem round_does : Does i (InRound i d none) (round d) (fun _ => InRound i d none) fun _ =>
    InRound i d none := by
  refine then_does tryStart_does fun started => ?_
  split
  · exact recover_does
  · rename_i n
    refine then_does (Q := fun _ => InRound i d (some n)) ?_ fun next =>
      then_does letGo_does fun _ => return_does stable_inRound
    refine Triple.tryCatch (F := fun _ => InRound i d (some n)) (Later.refl i)
      (Triple.tryCatch (Later.refl i) (watch_does stable_inRound) fun _ => recover_does) fun e => ?_
    exact then_does letGo_does fun _ => raise_does stable_inRound

lemma rounds_does : ∀ {k : ℕ}, Does i (Loop i d none) (rounds d k) (fun _ => Loop i d none)
    fun _ => Loop i d none
  | 0 => return_does stable_loop
  | k + 1 => by
    refine then_does (check_does stable_loop fun s hs => hs.task) fun stopping => ?_
    split
    · exact (return_does stable_loop).conseq (fun _ hs => hs.1) (fun _ _ h => h) fun _ _ h => h
    · rename_i hstopping
      refine Triple.conseq (P := InRound i d none) ?_
        (fun _ hs => ⟨hs.1, hs.2 (Bool.eq_false_iff.mpr hstopping)⟩) (fun _ _ h => h)
        fun _ _ h => h
      refine then_does (round_does.conseq (fun _ h => h) (fun _ _ h => h) fun _ _ h => h.1)
        fun next => ?_
      split
      · exact rounds_does.conseq (fun _ h => h.1) (fun _ _ h => h) fun _ _ h => h
      · exact (return_does stable_loop).conseq (fun _ h => h.1) (fun _ _ h => h) fun _ _ h => h

/-- The task of a loop without a child ends. -/
lemma complete_does : Does i (Loop i d none) (perform .complete) (fun _ _ => True) E := by
  refine Triple.perform stable_loop (fun _ => stable_true) fun s w a u hinv hs hrun => ?_
  exact ⟨inv_of_run (o := .complete) hs.only hinv hrun, trivial⟩

lemma superviseAsync_does {k : ℕ} : Does i (Loop i d none) (superviseAsync d k) (fun _ _ => True)
    fun _ _ => True := by
  refine then_does (Q := fun _ => Loop i d none) ?_ fun _ => complete_does
  refine Triple.tryCatch (Later.refl i) rounds_does fun e => ?_
  exact then_does complete_does fun _ => raise_does stable_true

/-! ### The stop -/

lemma terminateAll_does : ∀ {ns : List ℕ}, Does i (fun _ => True) (terminateAll ns)
    (fun _ _ => True) fun _ _ => True
  | [] => return_does stable_true
  | n :: ns => by
    refine then_does ?_ fun _ => terminateAll_does
    exact Triple.tryCatch (Later.refl i) (statement_does stable_true rfl) fun _ =>
      statement_does stable_true rfl

lemma awaitAll_does : ∀ {ns : List ℕ}, Does i (fun _ => True) (awaitAll ns) (fun _ _ => True)
    fun _ _ => True
  | [] => return_does stable_true
  | _ :: _ => then_does (statement_does stable_true rfl) fun _ => awaitAll_does

lemma cancel_does : Does i (fun _ => True) (perform .cancel) (fun _ s => s.stopping = true) E := by
  refine Triple.perform stable_true (fun _ => stable_stopping) fun s w a u hinv _ hrun => ?_
  replace hrun := (run_of_limited hrun).2
  cases hrun
  exact ⟨inv_of_frame hinv rfl rfl rfl rfl, rfl⟩

/-- Once all loops have ended, none is in a round. -/
lemma awaitExecute_does : Does i (fun s => s.stopping = true) (perform .awaitExecute)
    (fun _ => Quiet) E := by
  refine Triple.perform stable_stopping (fun _ => stable_quiet) fun s w a u hinv hs hrun => ?_
  obtain ⟨hcondition, hrun⟩ := run_of_limited hrun
  have htasks : s.tasks = [] := List.isEmpty_iff.mp hcondition
  obtain ⟨-, hrun⟩ := Option.ite_none_right_eq_some.mp hrun
  cases hrun
  refine ⟨hinv, hs, List.eq_nil_iff_forall_not_mem.mpr fun k hk => ?_⟩
  have hmem := hinv.tasks k hk
  rw [htasks] at hmem
  cases hmem

/-- **The stop** returns when all loops have ended. -/
theorem stopAsync_does : Does i (fun _ => True) stopAsync (fun _ => Quiet) fun _ _ => True := by
  refine then_does (statement_does stable_true rfl) fun _ => ?_
  refine then_does (perform_does stable_true rfl) fun processes => ?_
  refine then_does terminateAll_does fun _ => ?_
  refine then_does awaitAll_does fun _ => ?_
  refine then_does cancel_does fun _ => ?_
  refine then_does awaitExecute_does fun _ => ?_
  exact (statement_does stable_quiet rfl).conseq (fun _ h => h) (fun _ _ h => h)
    fun _ _ _ => trivial

/-! ### Runs -/

/-- What a task leaves that has ended. -/
def Left (c : Call) (s : State) : Prop :=
  match c with
  | .stop => Quiet s
  | .supervise _ _ => True

lemma kept : Kept (system.limited inHand) Inv (fun i => Only i none) Later
    (fun _ c _ => Left c) fun _ _ _ _ => True where
  refl := Later.refl
  trans _ := Later.trans
  unused _ {s t} ht hs := stable_only s t ht hs
  operation hne _ _ hrun := later_of_run hne hrun
  surroundings {n s u} hs he := by
    obtain rfl : s.exits n = u := Option.some.inj he
    exact ⟨inv_exits hs, fun _ => later_exits⟩
  begins {i c s u} hs hfresh hbegins := by
    cases c with
    | stop =>
      obtain rfl : s = u := Option.some.inj hbegins
      exact ⟨hs, fun j _ => .refl j s, stopAsync_does s trivial⟩
    | supervise d k =>
      obtain ⟨hnone, hbegins⟩ := Option.ite_none_right_eq_some.mp hbegins
      cases hbegins
      have hloops : ∀ {id k}, s.loops id = some k →
          Function.update s.loops d.id (some i) id = some k := by
        intro id k hid
        refine (Function.update_of_ne (fun heq => ?_) ..).trans hid
        rw [heq, hnone] at hid
        cases hid
      refine ⟨⟨hs.held, fun n p hp => hloops (hs.own n p hp), hs.single, fun k hk =>
        List.mem_cons_of_mem _ (hs.tasks k hk)⟩, fun j _ => ?_, ?_⟩
      · exact ⟨fun _ _ hp _ _ => hp, fun id hid => hloops hid, List.mem_cons_of_mem _, id, id, id⟩
      · exact superviseAsync_does _ ⟨Function.update_self .., List.mem_cons_self, hfresh⟩

/-- **A definition has at most one child, and none after the stop**, in every run in which a loop
lets go of a child only when it has exited and the stop waits for the loops. -/
theorem children_controlled {es : List (Event Call World ℕ)}
    {q : Pool Op Raised Unit Call State}
    (hm : Meets step (fun p e => permits inHand p e = true) initial es)
    (he : exec step initial es = some q) : Controlled q := by
  have hinv : Inv .start := by
    refine ⟨?_, ?_, ?_, fun _ h => by cases h⟩ <;> intro _ _ <;> simp [State.start]
  have h := holds_of_exec kept hinv (fun _ n p hp => by simp [State.start] at hp)
    (exec_limited hm he)
  refine ⟨fun m n a b ha hb haa hba hid => ?_, fun i hi n => ?_⟩
  · have hown := h.shared.own m a ha
    rw [hid, h.shared.own n b hb] at hown
    exact h.shared.single m n a b ha hb haa hba (Option.some.inj hown).symm
  · have hquiet : Quiet q.shared := h.returned kept hi
    by_contra halive
    rw [Bool.not_eq_false] at halive
    obtain ⟨p, hp, ha⟩ := (Option.any_eq_true ..).mp halive
    have hheld := h.shared.held n p hp ha
    rw [hquiet.2] at hheld
    cases hheld

/-! ### Two children -/

def worker : Definition := ⟨"worker", true⟩

/-- So many turns of a task. -/
def turns (i k : ℕ) : List (Event Call World ℕ) := List.replicate k (.turn i .yes)

/-- A child runs until the service is stopped. -/
def untilStopped : List (Event Call World ℕ) :=
  [.start (.supervise worker 2)] ++ turns 0 6 ++ [.start .stop] ++ turns 1 3 ++ turns 0 4 ++
    turns 1 2 ++ [.turn 0 .no] ++ turns 0 4 ++ turns 1 2

/-- The task has ended. -/
def ended (p : Pool Op Raised Unit Call State) (i : ℕ) : Bool :=
  p.threads[i]?.any fun t => match t.rest with
    | .pure _ => true
    | _ => false

theorem children_controlled_worker :
    Meets step (fun p e => permits inHand p e = true) initial untilStopped ∧
      ∃ q, exec step initial untilStopped = some q ∧ ended q 1 = true ∧ Controlled q := by
  have hm : Meets step (fun p e => permits inHand p e = true) initial untilStopped := by
    decide +kernel
  have hrun : ((exec step initial untilStopped).any fun q => ended q 1) = true := by
    decide +kernel
  obtain ⟨q, hq, hended⟩ := (Option.any_eq_true ..).mp hrun
  exact ⟨hm, q, hq, hended, children_controlled hm hq⟩

/-- A line of the log cannot be written after the child has been started. -/
def startedAgain : List (Event Call World ℕ) :=
  [.start (.supervise worker 2)] ++ turns 0 5 ++ [.turn 0 .fails] ++ turns 0 7

theorem two_children : ¬ ∀ (es : List (Event Call World ℕ)) (q : Pool Op Raised Unit Call State),
    exec step initial es = some q → Controlled q := by
  intro h
  have hrun : ((exec step initial startedAgain).any fun q => decide (q.shared.processes =
      [⟨"worker", 0, true⟩, ⟨"worker", 0, true⟩])) = true := by decide +kernel
  obtain ⟨q, hq, hprocesses⟩ := (Option.any_eq_true ..).mp hrun
  have hprocesses := of_decide_eq_true hprocesses
  have hsame : 0 = 1 := (h startedAgain q hq).single 0 1 _ _ (by rw [hprocesses]; rfl)
    (by rw [hprocesses]; rfl) rfl rfl rfl
  cases hsame

end OnAir.SupervisedChildren
