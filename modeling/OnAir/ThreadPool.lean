import OnAir.Resumption

/-!
A pool of threads over one shared state, and the rule by which what every thread keeps while the
others take their turns holds in every state a run of the pool reaches.

Threads are started at any time, any of them takes the next turn, and the surroundings change the
state in between. What the program of a thread keeps is shown with what the others may do to it;
that the others do no more than this is shown of their single operations.
-/

namespace OnAir.ThreadPool

open Resumption Runs

/-- The programs of the calls, executed by numbered threads, and what happens around them. -/
structure System (Op : Type → Type) (ε α κ ω η σ : Type) where
  program : ℕ → κ → Prog Op ε α
  /-- what the state remembers of a call that begins, if it may -/
  begins : ℕ → κ → σ → Option σ
  run : {β : Type} → ℕ → Op β → ω → σ → Option (β × σ)
  surroundings : η → σ → Option σ

structure Thread (Op : Type → Type) (ε α κ : Type) where
  call : κ
  rest : Prog Op ε α

structure Pool (Op : Type → Type) (ε α κ σ : Type) where
  shared : σ
  threads : List (Thread Op ε α κ)

inductive Event (κ ω η : Type)
  | start (c : κ)
  | turn (i : ℕ) (w : ω)
  | change (e : η)
  deriving Repr

variable {Op : Type → Type} {ε α κ ω η σ : Type}

def Pool.empty (s : σ) : Pool Op ε α κ σ := ⟨s, []⟩

/-- The next turn of the thread `t`, which is number `i`. -/
def turn (S : System Op ε α κ ω η σ) (p : Pool Op ε α κ σ) (i : ℕ) (w : ω)
    (t : Thread Op ε α κ) : Option (Pool Op ε α κ σ) :=
  (t.rest.turn (fun o => S.run i o) w p.shared).map fun r =>
    ⟨r.2, p.threads.set i ⟨t.call, r.1⟩⟩

def step (S : System Op ε α κ ω η σ) (p : Pool Op ε α κ σ) :
    Event κ ω η → Option (Pool Op ε α κ σ)
  | .start c => (S.begins p.threads.length c p.shared).map fun s =>
    ⟨s, p.threads ++ [⟨c, S.program p.threads.length c⟩]⟩
  | .turn i w => p.threads[i]?.bind (turn S p i w)
  | .change e => (S.surroundings e p.shared).map fun s => { p with shared := s }

/-- A call begins. -/
lemma start_cases {S : System Op ε α κ ω η σ} {p q : Pool Op ε α κ σ} {c : κ}
    (h : step S p (.start c) = some q) : ∃ u, S.begins p.threads.length c p.shared = some u ∧
      q = ⟨u, p.threads ++ [⟨c, S.program p.threads.length c⟩]⟩ := by
  obtain ⟨u, hu, rfl⟩ := Option.map_eq_some_iff.mp h
  exact ⟨u, hu, rfl⟩

/-- A thread that has a turn performs its next operation. -/
lemma turn_cases {S : System Op ε α κ ω η σ} {p q : Pool Op ε α κ σ} {i : ℕ} {w : ω}
    (h : step S p (.turn i w) = some q) :
    ∃ (t : Thread Op ε α κ) (β : Type) (o : Op β) (k : β → Prog Op ε α) (b : β) (u : σ),
      p.threads[i]? = some t ∧ t.rest = .op o k ∧ S.run i o w p.shared = some (b, u) ∧
        q = ⟨u, p.threads.set i ⟨t.call, k b⟩⟩ := by
  obtain ⟨t, ht, hturn⟩ := Option.bind_eq_some_iff.mp h
  obtain ⟨r, hr, rfl⟩ := Option.map_eq_some_iff.mp hturn
  cases hrest : t.rest with
  | pure a => simp [hrest, Prog.turn] at hr
  | raise e => simp [hrest, Prog.turn] at hr
  | op o k =>
    rw [hrest] at hr
    obtain ⟨⟨b, u⟩, hrun, rfl⟩ := Option.map_eq_some_iff.mp hr
    exact ⟨t, _, o, k, b, u, ht, hrest, hrun, rfl⟩

/-- A thread keeps its number and its call, and takes no turn when it has ended. -/
lemma thread_of_step {S : System Op ε α κ ω η σ} {p q : Pool Op ε α κ σ} {e : Event κ ω η}
    {i : ℕ} {t : Thread Op ε α κ} (ht : p.threads[i]? = some t) (hq : step S p e = some q) :
    ∃ r, q.threads[i]? = some ⟨t.call, r⟩ ∧ (t.rest.waits = false → r = t.rest) := by
  obtain ⟨hlt, hget⟩ := List.getElem?_eq_some_iff.mp ht
  cases e with
  | start c =>
    obtain ⟨u, -, rfl⟩ := start_cases hq
    exact ⟨t.rest, (List.getElem?_append_left hlt).trans ht, fun _ => rfl⟩
  | turn j w =>
    obtain ⟨t', β, o, k, b, u, ht', hrest, -, rfl⟩ := turn_cases hq
    obtain rfl | hne := eq_or_ne j i
    · cases ht.symm.trans ht'
      refine ⟨k b, List.getElem?_set_self hlt, fun h => ?_⟩
      simp [hrest, Prog.waits] at h
    · exact ⟨t.rest, (List.getElem?_set_ne hne).trans ht, fun _ => rfl⟩
  | change e =>
    obtain ⟨u, -, rfl⟩ := Option.map_eq_some_iff.mp hq
    exact ⟨t.rest, ht, fun _ => rfl⟩

lemma thread_of_exec {S : System Op ε α κ ω η σ} {p q : Pool Op ε α κ σ}
    {es : List (Event κ ω η)} {i : ℕ} {t : Thread Op ε α κ} (ht : p.threads[i]? = some t)
    (hq : exec (step S) p es = some q) : ∃ r, q.threads[i]? = some ⟨t.call, r⟩ := by
  induction es generalizing p t with
  | nil =>
    cases hq
    exact ⟨t.rest, ht⟩
  | cons e es ih =>
    obtain ⟨p', hp', hq⟩ := exec_cons_eq_some.mp hq
    obtain ⟨r, hr, -⟩ := thread_of_step ht hp'
    obtain ⟨r', hr'⟩ := ih hr hq
    exact ⟨r', hr'⟩

/-! ### What the threads of a pool keep -/

section Kept

variable (S : System Op ε α κ ω η σ) (inv : σ → Prop) (fresh : ℕ → σ → Prop)
  (others : ℕ → σ → σ → Prop) (Q : ℕ → κ → α → σ → Prop) (E : ℕ → κ → ε → σ → Prop)

/-- Every program keeps the invariant among what the others do, and the operations of one thread
are for every other thread no more than that. What is fresh has not been used by its thread. -/
structure Kept : Prop where
  refl : ∀ i s, others i s s
  trans : ∀ i {s t u}, others i s t → others i t u → others i s u
  unused : ∀ i {s t}, others i s t → fresh i s → fresh i t
  operation : ∀ {β : Type} {i j : ℕ} {o : Op β} {w : ω} {s u : σ} {b : β}, i ≠ j → inv s →
    inv u → S.run j o w s = some (b, u) → others i s u
  surroundings : ∀ {e s u}, inv s → S.surroundings e s = some u → inv u ∧ ∀ i, others i s u
  begins : ∀ {i c s u}, inv s → fresh i s → S.begins i c s = some u →
    inv u ∧ (∀ j, j ≠ i → others j s u) ∧
      Safe (fun o => S.run i o) inv (others i) (Q i c) (E i c) (S.program i c) u

/-- Where the invariant and what the threads keep holds. -/
structure Holds (p : Pool Op ε α κ σ) : Prop where
  shared : inv p.shared
  fresh : ∀ i, p.threads.length ≤ i → fresh i p.shared
  threads : ∀ i t, p.threads[i]? = some t →
    Safe (fun o => S.run i o) inv (others i) (Q i t.call) (E i t.call) t.rest p.shared

variable {S inv fresh others Q E} {p q : Pool Op ε α κ σ} {i : ℕ} {c : κ} {w : ω}

lemma holds_empty {s : σ} (hinv : inv s) (hfresh : ∀ i, fresh i s) :
    Holds S inv fresh others Q E (.empty s) :=
  ⟨hinv, fun i _ => hfresh i, fun i t ht => by simp [Pool.empty] at ht⟩

lemma Holds.start (hK : Kept S inv fresh others Q E) (h : Holds S inv fresh others Q E p) {u : σ}
    (hu : S.begins p.threads.length c p.shared = some u) : Holds S inv fresh others Q E
      ⟨u, p.threads ++ [⟨c, S.program p.threads.length c⟩]⟩ := by
  obtain ⟨hinv, hothers, hsafe⟩ := hK.begins h.shared (h.fresh _ le_rfl) hu
  refine ⟨hinv, fun i hi => ?_, fun i t ht => ?_⟩
  · simp only [List.length_append, List.length_singleton] at hi
    exact hK.unused i (hothers i (by omega)) (h.fresh i (by omega))
  · obtain hlt | hle := Nat.lt_or_ge i p.threads.length
    · rw [List.getElem?_append_left hlt] at ht
      exact (h.threads i t ht).interfere (hK.trans i) (hothers i hlt.ne)
    · rw [List.getElem?_append_right hle, List.getElem?_singleton] at ht
      split at ht
      case isTrue hi =>
        obtain rfl : p.threads.length = i := by omega
        cases ht
        exact hsafe
      case isFalse => cases ht

lemma Holds.turn (hK : Kept S inv fresh others Q E) (h : Holds S inv fresh others Q E p)
    {t : Thread Op ε α κ} (ht : p.threads[i]? = some t) (hq : turn S p i w t = some q) :
    Holds S inv fresh others Q E q := by
  obtain ⟨hi, hget⟩ := List.getElem?_eq_some_iff.mp ht
  have hsafe := h.threads i t ht
  obtain ⟨r, hrest, rfl⟩ := Option.map_eq_some_iff.mp hq
  cases hrun : t.rest with
  | pure a => simp [hrun, Prog.turn] at hrest
  | raise e => simp [hrun, Prog.turn] at hrest
  | op o k =>
    rw [hrun] at hrest hsafe
    obtain ⟨⟨b, u⟩, hop, rfl⟩ := Option.map_eq_some_iff.mp hrest
    obtain ⟨hu, hk⟩ := hsafe p.shared (hK.refl i _) h.shared w b u hop
    have hothers : ∀ j, j ≠ i → others j p.shared u := fun j hj =>
      hK.operation hj h.shared hu hop
    refine ⟨hu, fun j hj => ?_, fun j t' ht' => ?_⟩
    · rw [List.length_set] at hj
      exact hK.unused j (hothers j (by omega)) (h.fresh j hj)
    · rw [List.getElem?_set] at ht'
      split at ht'
      case isTrue hij =>
        subst hij
        cases ht'
        exact hk
      case isFalse hij =>
        exact (h.threads j t' ht').interfere (hK.trans j) (hothers j (Ne.symm hij))

/-- **A turn keeps what holds.** So does the start of a thread, and what happens around them. -/
theorem Holds.step (hK : Kept S inv fresh others Q E) (e : Event κ ω η)
    (h : Holds S inv fresh others Q E p) (hq : step S p e = some q) :
    Holds S inv fresh others Q E q := by
  cases e with
  | start c =>
    obtain ⟨u, hu, rfl⟩ := Option.map_eq_some_iff.mp hq
    exact h.start hK hu
  | turn i w =>
    obtain ⟨t, ht, hturn⟩ := Option.bind_eq_some_iff.mp hq
    exact h.turn hK ht hturn
  | change e =>
    obtain ⟨u, hu, rfl⟩ := Option.map_eq_some_iff.mp hq
    obtain ⟨hinv, hothers⟩ := hK.surroundings h.shared hu
    exact ⟨hinv, fun i hi => hK.unused i (hothers i) (h.fresh i hi), fun i t ht =>
      (h.threads i t ht).interfere (hK.trans i) (hothers i)⟩

/-- **The rule of the pool.** From a state without threads in which the invariant holds, every
run keeps it, and every thread, wherever it stands, is safe. -/
theorem holds_of_exec (hK : Kept S inv fresh others Q E) {s : σ} (hinv : inv s)
    (hfresh : ∀ i, fresh i s) {es : List (Event κ ω η)}
    (he : exec (ThreadPool.step S) (.empty s) es = some q) : Holds S inv fresh others Q E q :=
  inv_of_exec_all (fun _ e _ h hq => h.step hK e hq) (holds_empty hinv hfresh) he

/-- What a thread that has returned is left with. -/
lemma Holds.returned (hK : Kept S inv fresh others Q E) (h : Holds S inv fresh others Q E p)
    {a : α} (ht : p.threads[i]? = some ⟨c, .pure a⟩) : Q i c a p.shared :=
  h.threads i _ ht p.shared (hK.refl i _)

end Kept

/-! ### Runs under a condition -/

/-- A condition on the operations of the threads. -/
abbrev Condition (Op : Type → Type) (ω σ : Type) : Type 1 :=
  {β : Type} → ℕ → Op β → ω → σ → Bool

variable (S : System Op ε α κ ω η σ) (allows : Condition Op ω σ)

/-- The event is no turn, or the operation of the turn meets the condition. -/
def permits (p : Pool Op ε α κ σ) : Event κ ω η → Bool
  | .turn i w => (p.threads[i]?).all fun t =>
    match t.rest with
    | .op o _ => allows i o w p.shared
    | _ => true
  | _ => true

variable {allows} in
lemma permits_and {allows' : Condition Op ω σ} {p : Pool Op ε α κ σ} {e : Event κ ω η}
    (h : permits allows p e = true) (h' : permits allows' p e = true) :
    permits (fun i o w s => allows i o w s && allows' i o w s) p e = true := by
  cases e with
  | start c => rfl
  | change e => rfl
  | turn i w =>
    rw [permits, Option.all_eq_true] at h h' ⊢
    intro t ht
    have ha := h t ht
    have ha' := h' t ht
    cases hrest : t.rest with
    | pure a => rfl
    | raise e => rfl
    | op o k =>
      rw [hrest] at ha ha'
      exact Bool.and_eq_true_iff.mpr ⟨ha, ha'⟩

/-- The system in which operations that do not meet the condition are not executed. -/
def System.limited : System Op ε α κ ω η σ :=
  { S with run := fun i o w s => if allows i o w s then S.run i o w s else none }

variable {S allows}

lemma step_limited {p : Pool Op ε α κ σ} {e : Event κ ω η} (h : permits allows p e = true) :
    step (S.limited allows) p e = step S p e := by
  cases e with
  | start c => rfl
  | change e => rfl
  | turn i w =>
    refine Option.bind_congr fun t ht => ?_
    rw [permits, ht, Option.all_some] at h
    unfold turn
    cases hrest : t.rest with
    | pure a => rfl
    | raise e => rfl
    | op o k =>
      rw [hrest] at h
      simp only [Prog.turn, System.limited, h, if_true]

/-- A run whose turns meet the condition is one of the limited system. -/
lemma exec_limited {p q : Pool Op ε α κ σ} {es : List (Event κ ω η)}
    (hm : Meets (step S) (fun p e => permits allows p e = true) p es)
    (he : exec (step S) p es = some q) : exec (step (S.limited allows)) p es = some q := by
  induction es generalizing p with
  | nil => exact he
  | cons e es ih =>
    obtain ⟨t, ht, hrest⟩ := exec_cons_eq_some.mp he
    exact exec_cons_eq_some.mpr ⟨t, (step_limited hm.1).trans ht, ih (hm.2 t ht) hrest⟩

/-! ### Changes under a condition -/

section Confined

variable (around : η → σ → Bool)

/-- The event is no change of the surroundings, or one that meets the condition. -/
def tolerates (p : Pool Op ε α κ σ) : Event κ ω η → Bool
  | .change e => around e p.shared
  | _ => true

variable (S) in
/-- The system around which nothing happens that does not meet the condition. -/
def System.confined : System Op ε α κ ω η σ :=
  { S with surroundings := fun e s => if around e s then S.surroundings e s else none }

variable {around}

lemma step_confined {p : Pool Op ε α κ σ} {e : Event κ ω η} (h : tolerates around p e = true) :
    step (S.confined around) p e = step S p e := by
  cases e with
  | start c => rfl
  | turn i w => rfl
  | change e =>
    have h : around e p.shared = true := h
    simp only [step, System.confined, h, if_true]

/-- A run whose turns meet the one condition and whose changes meet the other. -/
lemma exec_confined {p q : Pool Op ε α κ σ} {es : List (Event κ ω η)}
    (hm : Meets (step S) (fun p e => (permits allows p e && tolerates around p e) = true) p es)
    (he : exec (step S) p es = some q) :
    exec (step ((S.limited allows).confined around)) p es = some q := by
  induction es generalizing p with
  | nil => exact he
  | cons e es ih =>
    obtain ⟨t, ht, hrest⟩ := exec_cons_eq_some.mp he
    obtain ⟨hpermits, htolerates⟩ := Bool.and_eq_true_iff.mp hm.1
    have hstep : step ((S.limited allows).confined around) p e = some t :=
      (step_confined htolerates).trans ((step_limited hpermits).trans ht)
    exact exec_cons_eq_some.mpr ⟨t, hstep, ih (hm.2 t ht) hrest⟩

end Confined

end OnAir.ThreadPool
