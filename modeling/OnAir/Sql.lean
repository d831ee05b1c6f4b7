import Mathlib.Data.List.Sort
import Mathlib.Data.Nat.Digits.Defs
import Mathlib.Tactic.Common

/-!
What SQLite's queries take from a list of rows, and its functions on texts.
-/

namespace OnAir.Sql

variable {α : Type*} {lt : α → α → Bool} {a b : α} {l : List α}

/-- `ORDER BY … LIMIT 1`: of rows that are equal in the order, the first. -/
def firstBy (lt : α → α → Bool) : List α → Option α
  | [] => none
  | a :: as =>
    match firstBy lt as with
    | none => some a
    | some b => if lt b a then some b else some a

/-- `ORDER BY …`: rows that are equal in the order stay as they are. -/
def orderBy (lt : α → α → Bool) (l : List α) : List α :=
  l.insertionSort fun a b => !lt b a

lemma firstBy_mem (h : firstBy lt l = some a) : a ∈ l := by
  induction l generalizing a with
  | nil => simp [firstBy] at h
  | cons b l ih =>
    rw [firstBy] at h
    cases hl : firstBy lt l with
    | none => rw [hl] at h; simp_all
    | some c =>
      rw [hl] at h
      have hc := ih hl
      dsimp only at h
      split_ifs at h <;> simp_all

@[simp] lemma firstBy_eq_none : firstBy lt l = none ↔ l = [] := by
  cases l with
  | nil => simp [firstBy]
  | cons b l =>
    rw [firstBy]
    cases firstBy lt l with
    | none => simp
    | some c => dsimp only; split_ifs <;> simp

@[simp] lemma mem_orderBy : a ∈ orderBy lt l ↔ a ∈ l := List.mem_insertionSort _

/-- The first row by a column comes before every other, by the column or else by its place. -/
lemma firstBy_first {β : Type*} [LinearOrder β] {f : α → β} {R : α → α → Prop}
    (h : l.Pairwise R) (hb : firstBy (fun a b => decide (f a < f b)) l = some b) :
    ∀ a ∈ l, a = b ∨ f b < f a ∨ f b = f a ∧ R b a := by
  induction l generalizing b with
  | nil => simp [firstBy] at hb
  | cons x l ih =>
    obtain ⟨hx, hl⟩ := List.pairwise_cons.mp h
    rw [firstBy] at hb
    cases hc : firstBy (fun a b => decide (f a < f b)) l with
    | none =>
      rw [hc] at hb
      obtain rfl := Option.some.inj hb
      rw [firstBy_eq_none.mp hc]
      simp
    | some c =>
      rw [hc] at hb
      dsimp only at hb
      split_ifs at hb with hlt
      · obtain rfl := Option.some.inj hb
        rintro a ha
        rcases List.mem_cons.mp ha with rfl | ha
        · exact .inr (.inl (of_decide_eq_true hlt))
        · exact ih hl hc a ha
      · obtain rfl := Option.some.inj hb
        have hle : f x ≤ f c := by simpa using hlt
        rintro a ha
        rcases List.mem_cons.mp ha with rfl | ha
        · exact .inl rfl
        · have hxa : f x ≤ f a := by
            rcases ih hl hc a ha with rfl | hca | hca
            · exact hle
            · exact hle.trans hca.le
            · exact hle.trans_eq hca.1
          exact .inr (hxa.lt_or_eq.imp id fun heq => ⟨heq, hx a ha⟩)

/-- Rows that are ordered by a column: what is equal there keeps its order. -/
lemma orderBy_pairwise {β : Type*} [LinearOrder β] (f : α → β) {R : α → α → Prop}
    (h : l.Pairwise R) : (orderBy (fun a b => decide (f a < f b)) l).Pairwise
      fun a b => f a < f b ∨ f a = f b ∧ R a b := by
  unfold orderBy
  induction l with
  | nil => exact .nil
  | cons a l ih =>
    obtain ⟨ha, hl⟩ := List.pairwise_cons.mp h
    have hall : ∀ b ∈ l.insertionSort fun a b => !decide (f b < f a), R a b := fun b hb =>
      ha b ((List.mem_insertionSort _).mp hb)
    rw [List.insertionSort_cons]
    generalize (l.insertionSort fun a b => !decide (f b < f a)) = m at ih hall ⊢
    specialize ih hl
    induction m with
    | nil => simp
    | cons b m ihm =>
      obtain ⟨hb, hm⟩ := List.pairwise_cons.mp ih
      rw [List.orderedInsert_cons]
      split_ifs with hab
      · have hle : f a ≤ f b := by simpa using hab
        refine List.pairwise_cons.mpr ⟨fun c hc => ?_, ih⟩
        have hac : f a ≤ f c := by
          rcases List.mem_cons.mp hc with rfl | hc
          · exact hle
          · rcases hb c hc with hlt | ⟨heq, -⟩
            · exact hle.trans hlt.le
            · exact hle.trans_eq heq
        exact hac.lt_or_eq.imp id fun heq => ⟨heq, hall c hc⟩
      · have hlt : f b < f a := by simpa using hab
        refine List.pairwise_cons.mpr ⟨fun c hc => ?_, ihm hm fun c hc => hall c (by simp [hc])⟩
        rcases (List.mem_orderedInsert _).mp hc with rfl | hc
        · exact .inl hlt
        · exact hb c hc

/-- `NULL` before everything else. -/
def nullsFirst [LT α] [DecidableLT α] : Option α → Option α → Bool
  | none, some _ => true
  | some a, some b => a < b
  | _, none => false

/-- `LOWER`, which knows ASCII letters only. -/
def lower (s : String) : String := String.ofList (s.toList.map Char.toLower)

/-- `TRIM(s) <> ''`. -/
def nonBlank (s : String) : Bool := s.toList.any (· ≠ ' ')

/-- `CAST(s AS INTEGER)`: the longest prefix that is a number. -/
def castInteger (s : String) : ℤ :=
  let isBlank := fun c : Char => c = ' ' || (9 ≤ c.toNat && c.toNat ≤ 13)
  let value := fun cs : List Char => (Nat.ofDigitChars 10 (cs.takeWhile Char.isDigit) 0 : ℤ)
  match s.toList.dropWhile isBlank with
  | '-' :: cs => -value cs
  | '+' :: cs => value cs
  | cs => value cs

end OnAir.Sql
