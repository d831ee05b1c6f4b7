import Mathlib.Order.Defs.Unbundled
import Mathlib.Tactic.Common

/-!
Programs that change a state and may be cut short by an exception.

An exception keeps what was changed before it. A program is described in two ways: by what it
ends in from one state, and by a relation between the states before and after it, whichever way
it ends.
-/

namespace OnAir.Programs

variable {σ ε α β γ : Type} {s : σ} {x : EStateM ε σ α} {f : α → EStateM ε σ β}
  {Q Q' : α → σ → Prop} {E E' : σ → Prop} {R R' : σ → σ → Prop}

/-- The state a program leaves. -/
def final : EStateM.Result ε σ α → σ
  | .ok _ s => s
  | .error _ s => s

/-- A program that goes on from where another one returns. -/
lemma run_bind (x : EStateM ε σ α) (f : α → EStateM ε σ β) (s : σ) :
    (x >>= f) s = match x s with
      | .ok a t => f a t
      | .error e t => .error e t := by
  change EStateM.bind x f s = _
  unfold EStateM.bind
  cases x s <;> rfl

/-! ### From one state -/

/-- From `s` the program ends with a value in `Q`, or with an exception in `E`. -/
def Ends (x : EStateM ε σ α) (s : σ) (Q : α → σ → Prop) (E : σ → Prop) : Prop :=
  match x s with
  | .ok a s' => Q a s'
  | .error _ s' => E s'

@[simp] lemma ends_pure (a : α) : Ends (pure a : EStateM ε σ α) s Q E ↔ Q a s := Iff.rfl

lemma ends_bind {Q : β → σ → Prop} :
    Ends (x >>= f) s Q E ↔ Ends x s (fun a s' => Ends (f a) s' Q E) E := by
  change Ends (EStateM.bind x f) s Q E ↔ _
  unfold Ends EStateM.bind
  cases x s <;> exact Iff.rfl

@[simp] lemma ends_get {Q : σ → σ → Prop} :
    Ends (get : EStateM ε σ σ) s Q E ↔ Q s s := Iff.rfl

@[simp] lemma ends_set {Q : PUnit → σ → Prop} (t : σ) :
    Ends (set t : EStateM ε σ PUnit) s Q E ↔ Q ⟨⟩ t := Iff.rfl

@[simp] lemma ends_modify {Q : PUnit → σ → Prop} (g : σ → σ) :
    Ends (modify g : EStateM ε σ PUnit) s Q E ↔ Q ⟨⟩ (g s) := Iff.rfl

@[simp] lemma ends_throw (e : ε) : Ends (throw e : EStateM ε σ α) s Q E ↔ E s := Iff.rfl

lemma ends_tryCatch {h : ε → EStateM ε σ α} :
    Ends (tryCatch x h) s Q E ↔
      match x s with
      | .ok a s' => Q a s'
      | .error e s' => Ends (h e) s' Q E := by
  change Ends (EStateM.tryCatch x h) s Q E ↔ _
  unfold Ends EStateM.tryCatch
  cases x s <;> exact Iff.rfl

lemma Ends.mono (h : Ends x s Q E) (hQ : ∀ a s', Q a s' → Q' a s') (hE : ∀ s', E s' → E' s') :
    Ends x s Q' E' := by
  unfold Ends at h ⊢
  cases hx : x s with
  | ok a s' => rw [hx] at h; exact hQ a s' h
  | error e s' => rw [hx] at h; exact hE s' h

lemma Ends.and (h : Ends x s Q E) (h' : Ends x s Q' E') :
    Ends x s (fun a t => Q a t ∧ Q' a t) (fun t => E t ∧ E' t) := by
  unfold Ends at *
  cases hx : x s with
  | ok a s' => rw [hx] at h h'; exact ⟨h, h'⟩
  | error e s' => rw [hx] at h h'; exact ⟨h, h'⟩

lemma Ends.bind {P : α → σ → Prop} {Q : β → σ → Prop} (hx : Ends x s P E)
    (hf : ∀ a s', P a s' → Ends (f a) s' Q E) : Ends (x >>= f) s Q E :=
  ends_bind.mpr (hx.mono hf fun _ h => h)

lemma Ends.tryCatch {h : ε → EStateM ε σ α} {F : σ → Prop} (hx : Ends x s Q F)
    (hh : ∀ e s', F s' → Ends (h e) s' Q E) : Ends (tryCatch x h) s Q E := by
  rw [ends_tryCatch]
  unfold Ends at hx
  cases hr : x s with
  | ok a s' => rw [hr] at hx; exact hx
  | error e s' => rw [hr] at hx; exact hh e s' hx

lemma Ends.ite {c : Prop} [Decidable c] {y : EStateM ε σ α} (hx : c → Ends x s Q E)
    (hy : ¬ c → Ends y s Q E) : Ends (if c then x else y) s Q E := by
  split_ifs with h
  · exact hx h
  · exact hy h

/-- A program that goes on, knowing how it came there. -/
lemma Ends.bindEq {P : α → σ → Prop} {Q : β → σ → Prop} (hx : Ends x s P E)
    (hf : ∀ a s', x s = .ok a s' → P a s' → Ends (f a) s' Q E) : Ends (x >>= f) s Q E := by
  rw [ends_bind]
  unfold Ends at hx ⊢
  cases hr : x s with
  | ok a s' => rw [hr] at hx; exact hf a s' hr hx
  | error e s' => rw [hr] at hx; exact hx

lemma Ends.final {P : σ → Prop} (h : Ends x s (fun _ => P) P) : P (final (x s)) := by
  unfold Ends at h
  cases hx : x s with
  | ok a s' => rw [hx] at h; exact h
  | error e s' => rw [hx] at h; exact h

/-! ### Programs that only look outside -/

/-- The program neither looks at the state nor changes it. -/
def Stateless (x : EStateM ε σ α) : Prop :=
  ∃ r : Except ε α, ∀ s, x s = match r with
    | .ok a => .ok a s
    | .error e => .error e s

lemma Stateless.pure (a : α) : Stateless (pure a : EStateM ε σ α) := ⟨.ok a, fun _ => rfl⟩

lemma Stateless.throw (e : ε) : Stateless (throw e : EStateM ε σ α) := ⟨.error e, fun _ => rfl⟩

lemma Stateless.bind (hx : Stateless x) (hf : ∀ a, Stateless (f a)) : Stateless (x >>= f) := by
  obtain ⟨r, hr⟩ := hx
  cases r with
  | error e =>
    refine ⟨.error e, fun s => ?_⟩
    change EStateM.bind x f s = _
    rw [EStateM.bind, hr s]
  | ok a =>
    obtain ⟨q, hq⟩ := hf a
    refine ⟨q, fun s => ?_⟩
    change EStateM.bind x f s = _
    rw [EStateM.bind, hr s]
    exact hq s

lemma Stateless.ite {c : Prop} [Decidable c] {y : EStateM ε σ α} (hx : c → Stateless x)
    (hy : ¬ c → Stateless y) : Stateless (if c then x else y) := by
  split_ifs with h
  · exact hx h
  · exact hy h

/-- It ends from one state as it does from another. -/
lemma Stateless.ends (h : Stateless x) (s t : σ) :
    Ends x s (fun a s' => s' = s ∧ x t = .ok a t) (fun s' => s' = s ∧ ∃ e, x t = .error e t) := by
  obtain ⟨r, hr⟩ := h
  unfold Ends
  rw [hr s, hr t]
  cases r with
  | ok a => exact ⟨rfl, rfl⟩
  | error e => exact ⟨rfl, e, rfl⟩

/-! ### Between the states before and after -/

/-- However it ends, the program moves along `R`. -/
structure Moves (R : σ → σ → Prop) (x : EStateM ε σ α) : Prop where
  ends : ∀ s, Ends x s (fun _ => R s) (R s)

lemma Moves.final (h : Moves R x) (s : σ) : R s (final (x s)) := Ends.final (h.ends s)

lemma Moves.ok (h : Moves R x) {a : α} {s' : σ} (hx : x s = .ok a s') : R s s' := by
  have hs := h.final s
  rwa [hx] at hs

lemma Moves.mono (h : Moves R x) (hR : ∀ s s', R s s' → R' s s') : Moves R' x :=
  ⟨fun s => (h.ends s).mono (fun _ => hR s) (hR s)⟩

section Preorder

variable [IsPreorder σ R]

/-- A program that goes on from where `R` has come. -/
lemma Moves.after {s₀ : σ} (h : Moves R x) (hs : R s₀ s) : Ends x s (fun _ => R s₀) (R s₀) :=
  (h.ends s).mono (fun _ _ h' => trans_of R hs h') fun _ h' => trans_of R hs h'

lemma Moves.pure (a : α) : Moves R (pure a : EStateM ε σ α) := ⟨fun s => refl_of R s⟩

lemma Moves.get : Moves R (get : EStateM ε σ σ) := ⟨fun s => refl_of R s⟩

lemma Moves.throw (e : ε) : Moves R (throw e : EStateM ε σ α) := ⟨fun s => refl_of R s⟩

lemma Moves.bind (hx : Moves R x) (hf : ∀ a, Moves R (f a)) : Moves R (x >>= f) :=
  ⟨fun s => (hx.ends s).bind fun a _ h =>
    (hf a).after h⟩

lemma Moves.bindGet {f : σ → EStateM ε σ β} (hf : ∀ s, Moves R (f s)) :
    Moves R (MonadState.get >>= f) :=
  Moves.bind Moves.get hf

lemma Moves.bindModify {g : σ → σ} {f : PUnit → EStateM ε σ β} (h : ∀ s, R s (g s))
    (hf : ∀ u, Moves R (f u)) : Moves R (modify g >>= f) :=
  Moves.bind ⟨fun s => h s⟩ hf

lemma Moves.tryCatch {h : ε → EStateM ε σ α} (hx : Moves R x) (hh : ∀ e, Moves R (h e)) :
    Moves R (tryCatch x h) := by
  refine ⟨fun s => ?_⟩
  rw [ends_tryCatch]
  have hs := hx.ends s
  unfold Ends at hs
  cases hr : x s with
  | ok a s' => rw [hr] at hs; exact hs
  | error e s' =>
    rw [hr] at hs
    exact (hh e).after hs

lemma Moves.forM {g : α → EStateM ε σ PUnit} (as : List α) (hg : ∀ a ∈ as, Moves R (g a)) :
    Moves R (as.forM g) := by
  induction as with
  | nil => exact Moves.pure _
  | cons a as ih =>
    rw [List.forM_eq_forM, List.forM_cons]
    exact Moves.bind (hg a (by simp)) fun _ => ih fun b hb => hg b (by simp [hb])

end Preorder

lemma Moves.modify {g : σ → σ} (h : ∀ s, R s (g s)) :
    Moves R (modify g : EStateM ε σ PUnit) := ⟨fun s => h s⟩

lemma Moves.ite {c : Prop} [Decidable c] {y : EStateM ε σ α} (hx : c → Moves R x)
    (hy : ¬ c → Moves R y) : Moves R (if c then x else y) := by
  split_ifs with h
  · exact hx h
  · exact hy h

/-- An assertion that held before holds afterwards. -/
def Keeps (P : σ → Prop) (s s' : σ) : Prop := P s → P s'

instance (P : σ → Prop) : IsPreorder σ (Keeps P) where
  refl _ h := h
  trans _ _ _ h h' hs := h' (h hs)

lemma Moves.keeps {P : σ → Prop} (h : Moves (Keeps P) x) (hs : P s) : Ends x s (fun _ => P) P :=
  (h.ends s).mono (fun _ _ h' => h' hs) fun _ h' => h' hs

/-! ### Programs that return -/

/-- The program returns from every state. -/
structure Total (x : EStateM ε σ α) : Prop where
  ends : ∀ s, Ends x s (fun _ _ => True) fun _ => False

lemma Total.pure (a : α) : Total (pure a : EStateM ε σ α) := ⟨fun _ => trivial⟩

lemma Total.modify (g : σ → σ) : Total (modify g : EStateM ε σ PUnit) := ⟨fun _ => trivial⟩

lemma Total.bind (hx : Total x) (hf : ∀ a, Total (f a)) : Total (x >>= f) :=
  ⟨fun s => (hx.ends s).bind fun a t _ => (hf a).ends t⟩

lemma Total.bindGet {f : σ → EStateM ε σ β} (hf : ∀ s, Total (f s)) :
    Total (MonadState.get >>= f) :=
  ⟨fun s => (hf s).ends s⟩

lemma Total.ite {c : Prop} [Decidable c] {y : EStateM ε σ α} (hx : c → Total x)
    (hy : ¬ c → Total y) : Total (if c then x else y) := by
  split_ifs with h
  · exact hx h
  · exact hy h

lemma Total.tryCatch {h : ε → EStateM ε σ α} (hh : ∀ e, Total (h e)) : Total (tryCatch x h) :=
  ⟨fun s => Ends.tryCatch (F := fun _ => True) (by unfold Ends; split <;> trivial)
    fun e t _ => (hh e).ends t⟩

lemma Total.forM {g : α → EStateM ε σ PUnit} (as : List α) (hg : ∀ a ∈ as, Total (g a)) :
    Total (as.forM g) := by
  induction as with
  | nil => exact Total.pure _
  | cons a as ih =>
    rw [List.forM_eq_forM, List.forM_cons]
    exact Total.bind (hg a (by simp)) fun _ => ih fun b hb => hg b (by simp [hb])

/-- The program returns from `s`. -/
def Returns (x : EStateM ε σ α) (s : σ) : Prop := Ends x s (fun _ _ => True) fun _ => False

lemma returns_iff : Returns x s ↔ ∃ a t, x s = .ok a t := by
  unfold Returns Ends
  cases x s with
  | ok a t => exact iff_of_true trivial ⟨a, t, rfl⟩
  | error e t => exact iff_of_false id fun ⟨_, _, h⟩ => by cases h

/-- One program after the other returns if the second returns from where the first leaves. -/
lemma returns_after {y : EStateM ε σ β} :
    Returns (x >>= fun _ => y) s ↔ Returns x s ∧ Returns y (final (x s)) := by
  unfold Returns
  rw [ends_bind]
  unfold Ends
  cases x s with
  | ok a t => exact (iff_of_eq (true_and _)).symm
  | error e t => exact (iff_of_eq (false_and _)).symm

/-- Each program of a list meets a condition where it is come to. -/
def Along (run : α → EStateM ε σ β) (fits : α → σ → Prop) : List α → σ → Prop
  | [], _ => True
  | a :: as, s => fits a s ∧ Along run fits as (Programs.final (run a s))

lemma returns_forM {run : α → EStateM ε σ PUnit} {fits : α → σ → Prop} {as : List α}
    (h : ∀ a ∈ as, ∀ s, Returns (run a) s ↔ fits a s) (s : σ) :
    Returns (as.forM run) s ↔ Along run fits as s := by
  induction as generalizing s with
  | nil => exact Iff.rfl
  | cons a as ih =>
    rw [List.forM_eq_forM, List.forM_cons, returns_after, Along, h a (by simp)]
    exact and_congr_right fun _ => ih (fun b hb => h b (by simp [hb])) _

/-- Each program of a list meets a condition where it is come to, and what the last returns in
meets `last`. -/
def Onward (run : α → EStateM ε σ β) (fits : α → σ → Prop) (last : σ → Prop) : List α → σ → Prop
  | [], s => last s
  | a :: as, s => fits a s ∧
    match run a s with
    | .ok _ t => Onward run fits last as t
    | .error _ _ => True

instance decidableOnward {run : α → EStateM ε σ β} {fits : α → σ → Prop} {last : σ → Prop}
    [∀ a s, Decidable (fits a s)] [DecidablePred last] :
    ∀ (as : List α) (s : σ), Decidable (Onward run fits last as s)
  | [], s => inferInstanceAs (Decidable (last s))
  | a :: as, s =>
    have : Decidable (match run a s with
        | .ok _ t => Onward run fits last as t
        | .error _ _ => True) :=
      match run a s with
      | .ok _ t => decidableOnward as t
      | .error _ _ => isTrue trivial
    inferInstanceAs (Decidable (fits a s ∧ _))

/-- The first program of a list, and the others from where it returns. -/
lemma Onward.step {run : α → EStateM ε σ PUnit} {fits : α → σ → Prop} {P E last : σ → Prop}
    {Q : PUnit → σ → Prop} {a : α} {as : List α} (hon : Onward run fits last (a :: as) s)
    (ha : fits a s → Ends (run a) s (fun _ => P) E)
    (hrest : ∀ t, P t → Onward run fits last as t → Ends (as.forM run) t Q E) :
    Ends ((a :: as).forM run) s Q E := by
  rw [List.forM_eq_forM, List.forM_cons]
  refine (ha hon.1).bindEq fun _ t ht hP => ?_
  have has := hon.2
  rw [ht] at has
  exact hrest t hP has

/-- What every program of a list keeps where it meets its condition, the list keeps. -/
lemma Onward.ends {run : α → EStateM ε σ PUnit} {fits : α → σ → Prop} {P last : σ → Prop}
    {as : List α}
    (h : ∀ a ∈ as, ∀ s, P s → fits a s → Ends (run a) s (fun _ => P) P) (hs : P s)
    (hon : Onward run fits last as s) :
    Ends (as.forM run) s (fun _ t => P t ∧ last t) P := by
  induction as generalizing s with
  | nil => exact ⟨hs, hon⟩
  | cons a as ih =>
    exact hon.step (h a (by simp) s hs) fun t ht hrest =>
      ih (fun b hb => h b (by simp [hb])) ht hrest

end OnAir.Programs
