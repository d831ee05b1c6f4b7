import OnAir.Resumption

/-!
Programs that run alone: what a run ends in when a script answers its operations, and the weakest
condition under which every run ends well.
-/

namespace OnAir.WeakestPre

open Resumption

variable {Op : Type → Type} {ε α β ω : Type} {σ : Type*}

/-- What is done last, whether the program returns or raises. -/
def finallyDo (p : Prog Op ε α) (f : Prog Op ε Unit) : Prog Op ε α := do
  let a ← p.tryCatch fun e => do
    f
    .raise e
  f
  pure a

variable (run : {β : Type} → Op β → ω → σ → Option (β × σ))

/-- The end of a run whose operations are answered by the script, one after the other. -/
def ends : Prog Op ε α → List ω → σ → Option (Except ε α × σ)
  | .pure a, [], s => some (.ok a, s)
  | .raise e, [], s => some (.error e, s)
  | .op o k, w :: ws, s => (run o w s).bind fun r => ends (k r.1) ws r.2
  | _, _, _ => none

/-- Every run returns in `Q` or raises in `E`. -/
def wp (Q : α → σ → Prop) (E : ε → σ → Prop) : Prog Op ε α → σ → Prop
  | .pure a, s => Q a s
  | .raise e, s => E e s
  | .op o k, s => ∀ w b u, run o w s = some (b, u) → wp Q E (k b) u

variable {run} {p : Prog Op ε α} {f : α → Prog Op ε β} {s t : σ}
  {Q Q' : α → σ → Prop} {E E' : ε → σ → Prop}

/-- **The weakest condition** holds just where every script leads to a good end. -/
theorem wp_iff_ends : wp run Q E p s ↔ ∀ ws r t, ends run p ws s = some (r, t) →
    match r with
    | .ok a => Q a t
    | .error e => E e t := by
  induction p generalizing s with
  | pure a =>
    constructor
    · intro h ws r t hr
      cases ws with
      | nil => cases hr; exact h
      | cons w ws => cases hr
    · exact fun h => h [] (.ok a) s rfl
  | raise e =>
    constructor
    · intro h ws r t hr
      cases ws with
      | nil => cases hr; exact h
      | cons w ws => cases hr
    · exact fun h => h [] (.error e) s rfl
  | op o k ih =>
    constructor
    · intro h ws r t hr
      cases ws with
      | nil => cases hr
      | cons w ws =>
        obtain ⟨⟨b, u⟩, hrun, hr⟩ := Option.bind_eq_some_iff.mp hr
        exact (ih b).mp (h w b u hrun) ws r t hr
    · intro h w b u hrun
      refine (ih b).mpr fun ws r t hr => h (w :: ws) r t ?_
      exact Option.bind_eq_some_iff.mpr ⟨(b, u), hrun, hr⟩

/-! ### Rules -/

@[simp] lemma wp_pure (a : α) : wp run Q E (pure a : Prog Op ε α) s ↔ Q a s := Iff.rfl

@[simp] lemma wp_raise (e : ε) : wp run Q E (.raise e : Prog Op ε α) s ↔ E e s := Iff.rfl

lemma wp_perform (o : Op α) : wp run Q E (perform o) s ↔
    ∀ w a u, run o w s = some (a, u) → Q a u := Iff.rfl

lemma wp_bind {Q : β → σ → Prop} : wp run Q E (p >>= f) s ↔
    wp run (fun a t => wp run Q E (f a) t) E p s := by
  induction p generalizing s with
  | pure a => exact Iff.rfl
  | raise e => exact Iff.rfl
  | op o k ih => exact forall_congr' fun w => forall_congr' fun b => forall_congr' fun u =>
    imp_congr_right fun _ => ih b

lemma wp_tryCatch {handler : ε → Prog Op ε α} : wp run Q E (p.tryCatch handler) s ↔
    wp run Q (fun e t => wp run Q E (handler e) t) p s := by
  induction p generalizing s with
  | pure a => exact Iff.rfl
  | raise e => exact Iff.rfl
  | op o k ih => exact forall_congr' fun w => forall_congr' fun b => forall_congr' fun u =>
    imp_congr_right fun _ => ih b

lemma wp.mono (h : wp run Q E p s) (hQ : ∀ a t, Q a t → Q' a t) (hE : ∀ e t, E e t → E' e t) :
    wp run Q' E' p s := by
  induction p generalizing s with
  | pure a => exact hQ a s h
  | raise e => exact hE e s h
  | op o k ih => exact fun w b u hrun => ih b (h w b u hrun)

lemma wp_congr (hQ : ∀ a t, Q a t ↔ Q' a t) (hE : ∀ e t, E e t ↔ E' e t) :
    wp run Q E p s ↔ wp run Q' E' p s :=
  ⟨fun h => h.mono (fun a t => (hQ a t).mp) fun e t => (hE e t).mp,
    fun h => h.mono (fun a t => (hQ a t).mpr) fun e t => (hE e t).mpr⟩

lemma wp_finallyDo {f : Prog Op ε Unit} : wp run Q E (finallyDo p f) s ↔
    wp run (fun a t => wp run (fun _ => Q a) E f t)
      (fun e t => wp run (fun _ => E e) E f t) p s := by
  unfold finallyDo
  rw [wp_bind, wp_tryCatch]
  refine wp_congr (fun a t => wp_bind) fun e t => ?_
  rw [wp_bind]
  exact Iff.rfl

/-- A run that has returned is one of the program. -/
lemma wp.ran (h : wp run Q E p s) :
    wp run (fun a t => Q a t ∧ ∃ ws, ends run p ws s = some (.ok a, t)) E p s := by
  rw [wp_iff_ends] at h ⊢
  intro ws r t hr
  cases r with
  | ok a => exact ⟨h ws (.ok a) t hr, ws, hr⟩
  | error e => exact h ws (.error e) t hr

/-! ### Operations of a kind -/

/-- The program performs operations of one kind only. -/
def Performs (kind : {β : Type} → Op β → Prop) : Prog Op ε α → Prop
  | .pure _ => True
  | .raise _ => True
  | .op o k => kind o ∧ ∀ b, Performs kind (k b)

variable {kind : {β : Type} → Op β → Prop}

@[simp] lemma performs_pure (a : α) : Performs kind (pure a : Prog Op ε α) := trivial

@[simp] lemma performs_raise (e : ε) : Performs kind (.raise e : Prog Op ε α) := trivial

lemma performs_perform {o : Op α} (h : kind o) : Performs kind (perform o : Prog Op ε α) :=
  ⟨h, fun _ => trivial⟩

lemma Performs.bind (hp : Performs kind p) (hf : ∀ a, Performs kind (f a)) :
    Performs kind (p >>= f) := by
  induction p with
  | pure a => exact hf a
  | raise e => exact trivial
  | op o k ih => exact ⟨hp.1, fun b => ih b (hp.2 b)⟩

lemma Performs.ite {c : Prop} [Decidable c] {q : Prog Op ε α} (hp : c → Performs kind p)
    (hq : ¬ c → Performs kind q) : Performs kind (if c then p else q) := by
  split_ifs with h
  · exact hp h
  · exact hq h

/-- What every operation of the kind keeps, the program keeps. -/
lemma Performs.wp {inv : σ → Prop} (hp : Performs kind p)
    (hop : ∀ {β : Type} (o : Op β) w s b u, kind o → inv s → run o w s = some (b, u) → inv u)
    (hs : inv s) : wp run (fun _ => inv) (fun _ => inv) p s := by
  induction p generalizing s with
  | pure a => exact hs
  | raise e => exact hs
  | op o k ih => exact fun w b u hrun => ih b (hp.2 b) (hop o w s b u hp.1 hs hrun)

end OnAir.WeakestPre
