import Mathlib.Data.Fintype.Card
import Mathlib.Tactic.Common

/-!
Runs of a partial step function, and the rules by which an invariant is carried along them.

A step takes a state and a label and may be refused. A run executes a list of labels from a
state. A condition on steps looks at the state a label is executed in; a run meets it when
every one of its steps does.
-/

namespace OnAir.Runs

variable {σ α : Type*}

/-- The state after executing the labels in order, if no step is refused. -/
def exec (step : σ → α → Option σ) : σ → List α → Option σ
  | s, [] => some s
  | s, a :: as => (step s a).bind fun s' => exec step s' as

/-- Every label meets `ok` in the state it is executed in. -/
def Meets (step : σ → α → Option σ) (ok : σ → α → Prop) : σ → List α → Prop
  | _, [] => True
  | s, a :: as => ok s a ∧ ∀ s' ∈ step s a, Meets step ok s' as

variable {step : σ → α → Option σ} {ok ok' : σ → α → Prop} {s s' : σ} {a : α} {as : List α}

@[simp] lemma exec_nil (s : σ) : exec step s [] = some s := rfl

lemma exec_cons : exec step s (a :: as) = (step s a).bind fun t => exec step t as := rfl

lemma exec_cons_eq_some :
    exec step s (a :: as) = some s' ↔ ∃ t, step s a = some t ∧ exec step t as = some s' := by
  rw [exec_cons, Option.bind_eq_some_iff]

lemma exec_append (as bs : List α) (s : σ) :
    exec step s (as ++ bs) = (exec step s as).bind fun t => exec step t bs := by
  induction as generalizing s with
  | nil => rfl
  | cons a as ih =>
    rw [List.cons_append, exec_cons, exec_cons, Option.bind_assoc]
    exact congrArg _ (funext ih)

instance decidableMeets [∀ s a, Decidable (ok s a)] :
    ∀ (s : σ) (as : List α), Decidable (Meets step ok s as)
  | _, [] => isTrue trivial
  | s, a :: as =>
    match h : step s a with
    | none => decidable_of_iff (ok s a) (by simp [Meets, h])
    | some t =>
      have := decidableMeets t as
      decidable_of_iff (ok s a ∧ Meets step ok t as) (by simp [Meets, h])

/-- **The invariant rule.** What every step that meets the condition preserves holds in
every state such a run reaches. -/
theorem inv_of_exec {P : σ → Prop}
    (hstep : ∀ s a s', P s → ok s a → step s a = some s' → P s') :
    ∀ {s : σ} {as : List α} {s' : σ}, P s → Meets step ok s as → exec step s as = some s' → P s'
  | s, [], s', hP, _, he => by
    obtain rfl : s = s' := by simpa using he
    exact hP
  | s, a :: as, s', hP, hm, he => by
    obtain ⟨t, ht, he'⟩ := exec_cons_eq_some.mp he
    exact inv_of_exec hstep (hstep s a t hP hm.1 ht) (hm.2 t ht) he'

/-- The invariant rule without a condition on the steps. -/
theorem inv_of_exec_all {P : σ → Prop} (hstep : ∀ s a s', P s → step s a = some s' → P s')
    (hP : P s) (he : exec step s as = some s') : P s' := by
  induction as generalizing s with
  | nil =>
    obtain rfl : s = s' := by simpa using he
    exact hP
  | cons a as ih =>
    obtain ⟨t, ht, he'⟩ := exec_cons_eq_some.mp he
    exact ih (hstep s a t hP ht) he'

/-- The invariant rule of a loop. -/
lemma inv_of_foldl {β : Type*} {P : σ → Prop} {f : σ → β → σ} (hf : ∀ s b, P s → P (f s b))
    (bs : List β) (hP : P s) : P (bs.foldl f s) := by
  induction bs generalizing s with
  | nil => exact hP
  | cons b bs ih => exact ih (hf s b hP)

lemma Meets.mono (h : ∀ s a, ok s a → ok' s a) :
    ∀ {s : σ} {as : List α}, Meets step ok s as → Meets step ok' s as
  | _, [], _ => trivial
  | s, a :: _, hm => ⟨h s a hm.1, fun t ht => (hm.2 t ht).mono h⟩

lemma meets_append {as bs : List α} :
    Meets step ok s (as ++ bs) ↔
      Meets step ok s as ∧ ∀ t, exec step s as = some t → Meets step ok t bs := by
  induction as generalizing s with
  | nil => simp [Meets]
  | cons a as ih =>
    simp only [List.cons_append, Meets, ih, exec_cons, Option.bind_eq_some_iff, Option.mem_def]
    constructor
    · rintro ⟨ha, hrest⟩
      exact ⟨⟨ha, fun t ht => (hrest t ht).1⟩, fun u ⟨t, ht, hu⟩ => (hrest t ht).2 u hu⟩
    · rintro ⟨⟨ha, hrest⟩, hbs⟩
      exact ⟨ha, fun t ht => ⟨hrest t ht, fun u hu => hbs u ⟨t, ht, hu⟩⟩⟩

/-- What a condition gives in the states of an invariant holds along the run. -/
lemma Meets.mono_of_inv {P : σ → Prop} (hstep : ∀ s a s', P s → ok s a → step s a = some s' → P s')
    (h : ∀ s a, P s → ok s a → ok' s a) :
    ∀ {s : σ} {as : List α}, P s → Meets step ok s as → Meets step ok' s as
  | _, [], _, _ => trivial
  | s, a :: _, hP, hm => ⟨h s a hP hm.1, fun t ht =>
    (hm.2 t ht).mono_of_inv hstep h (hstep s a t hP hm.1 ht)⟩

/-- Two conditions that agree on the steps taken in the states of an invariant agree on runs. -/
lemma meets_congr_of_inv {P : σ → Prop}
    (hstep : ∀ s a s', P s → ok s a → step s a = some s' → P s')
    (h : ∀ s a s', P s → step s a = some s' → (ok s a ↔ ok' s a)) :
    ∀ {s : σ} {as : List α} {s' : σ}, P s → exec step s as = some s' →
      (Meets step ok s as ↔ Meets step ok' s as)
  | _, [], _, _, _ => Iff.rfl
  | s, a :: as, s', hP, he => by
    obtain ⟨t, ht, he'⟩ := exec_cons_eq_some.mp he
    have ha := h s a t hP ht
    simp only [Meets, ht, Option.mem_def, Option.some.injEq, forall_eq']
    constructor
    · rintro ⟨hok, hm⟩
      exact ⟨ha.mp hok, (meets_congr_of_inv hstep h (hstep s a t hP hok ht) he').mp hm⟩
    · rintro ⟨hok, hm⟩
      have hok := ha.mpr hok
      exact ⟨hok, (meets_congr_of_inv hstep h (hstep s a t hP hok ht) he').mpr hm⟩

/-- **The rule of exact conditions.** Where the steps that meet a condition keep an invariant, the
invariant gives a property, and a step that does not meet the condition breaks the property, a run
has the property at every moment exactly when all its steps meet the condition. -/
theorem always_iff_meets {I P : σ → Prop} (hstep : ∀ s a t, I s → ok s a → step s a = some t → I t)
    (hP : ∀ s, I s → P s) (hok : ∀ s a t, I s → step s a = some t → P t → ok s a)
    (hs : I s) (he : exec step s as = some s') :
    (∀ pre, pre <+: as → ∀ t, exec step s pre = some t → P t) ↔ Meets step ok s as := by
  induction as generalizing s with
  | nil =>
    refine iff_of_true (fun pre hpre t ht => ?_) trivial
    rw [List.prefix_nil.mp hpre] at ht
    cases ht
    exact hP s hs
  | cons a as ih =>
    obtain ⟨u, hu, he'⟩ := exec_cons_eq_some.mp he
    constructor
    · intro h
      have hfirst : exec step s [a] = some u := by
        rw [exec_cons, hu]
        rfl
      have ha : ok s a := hok s a u hs hu (h [a] (List.prefix_append [a] as) u hfirst)
      refine ⟨ha, fun v hv => ?_⟩
      obtain rfl := Option.some.inj (hu.symm.trans hv)
      refine (ih (hstep s a u hs ha hu) he').mp fun pre hpre t ht => ?_
      refine h (a :: pre) ((List.prefix_cons_inj a).mpr hpre) t ?_
      rw [exec_cons, hu]
      exact ht
    · rintro ⟨ha, hrest⟩ pre hpre t ht
      cases pre with
      | nil =>
        cases ht
        exact hP s hs
      | cons b pre =>
        obtain ⟨rfl, htail⟩ := List.cons_prefix_cons.mp hpre
        rw [exec_cons, hu] at ht
        exact (ih (hstep s b u hs ha hu) he').mpr (hrest u hu) pre htail t ht

/-- A condition on the labels alone. -/
lemma Meets.and_of_mem {q : α → Prop} :
    ∀ {s : σ} {as : List α}, Meets step ok s as → (∀ a ∈ as, q a) →
      Meets step (fun s a => ok s a ∧ q a) s as
  | _, [], _, _ => trivial
  | _, a :: _, hm, hq => ⟨⟨hm.1, hq a List.mem_cons_self⟩, fun t ht =>
    (hm.2 t ht).and_of_mem fun b hb => hq b (List.mem_cons_of_mem _ hb)⟩

end OnAir.Runs
