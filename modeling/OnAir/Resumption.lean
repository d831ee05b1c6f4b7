import OnAir.Runs

/-!
Programs that share a state, one operation at a time, and what a program keeps while others take
their turns in between.

An operation is executed by `run` with what the environment answers, and may have to wait. An
assertion about the rest of a program is closed under what the others do, so that it may be
used wherever the program takes its next turn.
-/

namespace OnAir.Resumption

/-- A program over the operations `Op` that returns an `α` or raises an `ε`. -/
inductive Prog (Op : Type → Type) (ε α : Type) : Type 1
  | pure (a : α)
  | raise (e : ε)
  | op {β : Type} (o : Op β) (k : β → Prog Op ε α)

section Monad

variable {Op : Type → Type} {ε α β : Type}

def Prog.bind : Prog Op ε α → (α → Prog Op ε β) → Prog Op ε β
  | .pure a, f => f a
  | .raise e, _ => .raise e
  | .op o k, f => .op o fun b => (k b).bind f

def Prog.tryCatch : Prog Op ε α → (ε → Prog Op ε α) → Prog Op ε α
  | .pure a, _ => .pure a
  | .raise e, handler => handler e
  | .op o k, handler => .op o fun b => (k b).tryCatch handler

instance : Monad (Prog Op ε) where
  pure := Prog.pure
  bind := Prog.bind

instance : MonadExceptOf ε (Prog Op ε) where
  throw := Prog.raise
  tryCatch := Prog.tryCatch

def perform (o : Op α) : Prog Op ε α := .op o .pure

/-- A program that has neither returned nor raised. -/
def Prog.waits : Prog Op ε α → Bool
  | .op _ _ => true
  | _ => false

end Monad

variable {Op : Type → Type} {ε α β ω : Type} {σ : Type*}

/-- One turn of a program. -/
def Prog.turn (run : {β : Type} → Op β → ω → σ → Option (β × σ)) (w : ω) (s : σ) :
    Prog Op ε α → Option (Prog Op ε α × σ)
  | .op o k => (run o w s).map fun r => (k r.1, r.2)
  | _ => none

/-! ### What a program keeps -/

section Safe

variable (run : {β : Type} → Op β → ω → σ → Option (β × σ)) (inv : σ → Prop)
  (others : σ → σ → Prop)

/-- Wherever the program takes its turns between those of the others, it keeps the invariant, and
ends in `Q` or raises in `E`. -/
def Safe (Q : α → σ → Prop) (E : ε → σ → Prop) : Prog Op ε α → σ → Prop
  | .pure a, s => ∀ t, others s t → Q a t
  | .raise e, s => ∀ t, others s t → E e t
  | .op o k, s => ∀ t, others s t → inv t → ∀ w b u, run o w t = some (b, u) →
      inv u ∧ Safe Q E (k b) u

variable {run : {β : Type} → Op β → ω → σ → Option (β × σ)} {inv : σ → Prop}
  {others : σ → σ → Prop} {Q Q' : α → σ → Prop} {E E' : ε → σ → Prop} {s t : σ}
  {p : Prog Op ε α}

/-- The others take their turns. -/
lemma Safe.interfere (htrans : ∀ {s t u}, others s t → others t u → others s u)
    (h : Safe run inv others Q E p s) (ht : others s t) : Safe run inv others Q E p t := by
  cases p with
  | pure a => exact fun u hu => h u (htrans ht hu)
  | raise e => exact fun u hu => h u (htrans ht hu)
  | op o k => exact fun u hu => h u (htrans ht hu)

lemma Safe.mono (hQ : ∀ a s, Q a s → Q' a s) (hE : ∀ e s, E e s → E' e s)
    (h : Safe run inv others Q E p s) : Safe run inv others Q' E' p s := by
  induction p generalizing s with
  | pure a => exact fun t ht => hQ a t (h t ht)
  | raise e => exact fun t ht => hE e t (h t ht)
  | op o k ih =>
    intro t ht hinv w b u hrun
    obtain ⟨hu, hsafe⟩ := h t ht hinv w b u hrun
    exact ⟨hu, ih b hsafe⟩

lemma Safe.bind {R : β → σ → Prop} {f : α → Prog Op ε β} (hrefl : ∀ s, others s s)
    (h : Safe run inv others Q E p s)
    (hf : ∀ a s, Q a s → Safe run inv others R E (f a) s) :
    Safe run inv others R E (p >>= f) s := by
  induction p generalizing s with
  | pure a => exact hf a s (h s (hrefl s))
  | raise e => exact h
  | op o k ih =>
    intro t ht hinv w b u hrun
    obtain ⟨hu, hsafe⟩ := h t ht hinv w b u hrun
    exact ⟨hu, ih b hsafe⟩

/-- The first part of a safe program is safe. -/
lemma Safe.of_bind {R : β → σ → Prop} {f : α → Prog Op ε β}
    (h : Safe run inv others R E (p >>= f) s) :
    Safe run inv others (fun _ _ => True) (fun _ _ => True) p s := by
  induction p generalizing s with
  | pure a => exact fun _ _ => trivial
  | raise e => exact fun _ _ => trivial
  | op o k ih =>
    intro t ht hinv w b u hrun
    obtain ⟨hu, hsafe⟩ := h t ht hinv w b u hrun
    exact ⟨hu, ih b hsafe⟩

lemma Safe.of_tryCatch {handler : ε → Prog Op ε α}
    (h : Safe run inv others Q E (p.tryCatch handler) s) :
    Safe run inv others (fun _ _ => True) (fun _ _ => True) p s := by
  induction p generalizing s with
  | pure a => exact fun _ _ => trivial
  | raise e => exact fun _ _ => trivial
  | op o k ih =>
    intro t ht hinv w b u hrun
    obtain ⟨hu, hsafe⟩ := h t ht hinv w b u hrun
    exact ⟨hu, ih b hsafe⟩

lemma Safe.tryCatch {F : ε → σ → Prop} {handler : ε → Prog Op ε α} (hrefl : ∀ s, others s s)
    (h : Safe run inv others Q F p s)
    (hf : ∀ e s, F e s → Safe run inv others Q E (handler e) s) :
    Safe run inv others Q E (p.tryCatch handler) s := by
  induction p generalizing s with
  | pure a => exact h
  | raise e => exact hf e s (h s (hrefl s))
  | op o k ih =>
    intro t ht hinv w b u hrun
    obtain ⟨hu, hsafe⟩ := h t ht hinv w b u hrun
    exact ⟨hu, ih b hsafe⟩

/-- What every operation keeps, and the others leave alone, is kept. -/
lemma Safe.frame {R : σ → Prop} (hothers : ∀ s t, others s t → R s → R t)
    (hrun : ∀ {β : Type} (o : Op β) w s b t, run o w s = some (b, t) → R s → R t)
    (h : Safe run inv others Q E p s) (hs : R s) :
    Safe run inv others (fun a s => Q a s ∧ R s) (fun e s => E e s ∧ R s) p s := by
  induction p generalizing s with
  | pure a => exact fun t ht => ⟨h t ht, hothers s t ht hs⟩
  | raise e => exact fun t ht => ⟨h t ht, hothers s t ht hs⟩
  | op o k ih =>
    intro t ht hinv w b u hu
    obtain ⟨hu', hsafe⟩ := h t ht hinv w b u hu
    exact ⟨hu', ih b hsafe (hrun o w t b u hu (hothers s t ht hs))⟩

/-- An assertion that the others leave alone. -/
def Stable (others : σ → σ → Prop) (P : σ → Prop) : Prop := ∀ s t, others s t → P s → P t

/-! ### Triples -/

variable (run inv others) in
/-- From `P` on, the program is safe. -/
def Triple (P : σ → Prop) (p : Prog Op ε α) (Q : α → σ → Prop) (E : ε → σ → Prop) : Prop :=
  ∀ s, P s → Safe run inv others Q E p s

variable {P P' : σ → Prop}

lemma Triple.pure {a : α} (hP : Stable others P) (h : ∀ s, P s → Q a s) :
    Triple run inv others P (Pure.pure a : Prog Op ε α) Q E :=
  fun s hs t ht => h t (hP s t ht hs)

lemma Triple.raise {e : ε} (hP : Stable others P) (h : ∀ s, P s → E e s) :
    Triple run inv others P (.raise e : Prog Op ε α) Q E :=
  fun s hs t ht => h t (hP s t ht hs)

/-- One operation, from a stable assertion to another one. -/
lemma Triple.perform {o : Op α} (hP : Stable others P) (hQ : ∀ a, Stable others (Q a))
    (hop : ∀ s w a u, inv s → P s → run o w s = some (a, u) → inv u ∧ Q a u) :
    Triple run inv others P (perform o : Prog Op ε α) Q E := by
  intro s hs t ht hinv w a u hrun
  obtain ⟨hu, hq⟩ := hop t w a u hinv (hP s t ht hs) hrun
  exact ⟨hu, fun v hv => hQ a u v hv hq⟩

lemma Triple.bind {R : β → σ → Prop} {f : α → Prog Op ε β} (hrefl : ∀ s, others s s)
    (h : Triple run inv others P p Q E) (hf : ∀ a, Triple run inv others (Q a) (f a) R E) :
    Triple run inv others P (p >>= f) R E :=
  fun s hs => (h s hs).bind hrefl hf

lemma Triple.tryCatch {F : ε → σ → Prop} {handler : ε → Prog Op ε α} (hrefl : ∀ s, others s s)
    (h : Triple run inv others P p Q F) (hf : ∀ e, Triple run inv others (F e) (handler e) Q E) :
    Triple run inv others P (p.tryCatch handler) Q E :=
  fun s hs => (h s hs).tryCatch hrefl hf

lemma Triple.conseq (h : Triple run inv others P p Q E) (hP : ∀ s, P' s → P s)
    (hQ : ∀ a s, Q a s → Q' a s) (hE : ∀ e s, E e s → E' e s) :
    Triple run inv others P' p Q' E' :=
  fun s hs => (h s (hP s hs)).mono hQ hE

/-- A fact that does not depend on the state. -/
lemma Triple.of_fact {φ : Prop} (h : φ → Triple run inv others P p Q E) :
    Triple run inv others (fun s => φ ∧ P s) p Q E :=
  fun s hs => h hs.1 s hs.2

/-! ### Triples of a program that nobody disturbs -/

lemma stable_eq : Stable Eq P := fun _ _ h hs => h ▸ hs

lemma Triple.pureAlone {a : α} (h : ∀ s, P s → Q a s) :
    Triple run inv Eq P (Pure.pure a : Prog Op ε α) Q E := Triple.pure stable_eq h

lemma Triple.raiseAlone {e : ε} (h : ∀ s, P s → E e s) :
    Triple run inv Eq P (.raise e : Prog Op ε α) Q E := Triple.raise stable_eq h

lemma Triple.performAlone {o : Op α}
    (hop : ∀ s w a u, inv s → P s → run o w s = some (a, u) → inv u ∧ Q a u) :
    Triple run inv Eq P (Resumption.perform o : Prog Op ε α) Q E :=
  Triple.perform stable_eq (fun _ => stable_eq) hop

lemma Triple.bindAlone {R : β → σ → Prop} {f : α → Prog Op ε β}
    (h : Triple run inv Eq P p Q E) (hf : ∀ a, Triple run inv Eq (Q a) (f a) R E) :
    Triple run inv Eq P (p >>= f) R E :=
  h.bind (fun _ => rfl) hf

/-- An operation that answers with what is to be raised. -/
lemma Triple.throwing {o : Op (Except ε α)} {f : Except ε α → Prog Op ε α}
    (hok : ∀ a, f (.ok a) = .pure a) (herror : ∀ e, f (.error e) = .raise e)
    (hop : ∀ s w r u, inv s → P s → run o w s = some (r, u) →
      inv u ∧ match r with
        | .ok a => Q a u
        | .error e => E e u) :
    Triple run inv Eq P (Resumption.perform o >>= f) Q E := by
  refine Triple.bindAlone (Q := fun r s => match r with
    | .ok a => Q a s
    | .error e => E e s) (Triple.performAlone hop) fun r => ?_
  cases r with
  | ok a => exact hok a ▸ Triple.pureAlone fun _ h => h
  | error e => exact herror e ▸ Triple.raiseAlone fun _ h => h

/-- A program that is safe from where it starts is safe wherever its turns lead. -/
lemma Safe.of_exec {ws : List ω} {q : Prog Op ε α} (h : Safe run inv Eq Q E p s) (hs : inv s)
    (he : Runs.exec (fun c w => c.1.turn run w c.2) (p, s) ws = some (q, t)) :
    Safe run inv Eq Q E q t := by
  induction ws generalizing p s with
  | nil =>
    cases he
    exact h
  | cons w ws ih =>
    obtain ⟨⟨p', s'⟩, hturn, he⟩ := Runs.exec_cons_eq_some.mp he
    cases p with
    | pure a => cases hturn
    | raise e => cases hturn
    | op o k =>
      obtain ⟨⟨b, u⟩, hrun, heq⟩ := Option.map_eq_some_iff.mp hturn
      obtain ⟨rfl, rfl⟩ := Prod.mk.inj heq
      obtain ⟨hu, hsafe⟩ := h s rfl hs w b u hrun
      exact ih hsafe hu he

end Safe

end OnAir.Resumption
