import OnAir.PythonText
import OnAir.Sql

/-!
Texts that are put together from fields: what `str` writes of an integer, which `int` and
`CAST … AS INTEGER` read back, and what is between separators.
-/

namespace OnAir.TextFields

open PythonText

variable {n : ℤ} {c : Char}

/-! ### Integers -/

lemma toList_toString (n : ℤ) : (toString n).toList =
    if n < 0 then '-' :: Nat.toDigits 10 n.natAbs else Nat.toDigits 10 n.natAbs := by
  cases n with
  | ofNat m =>
    rw [if_neg (by simp)]
    exact Nat.toList_repr
  | negSucc m =>
    rw [if_pos (Int.negSucc_lt_zero m)]
    change ("-" ++ Nat.repr (m + 1)).toList = _
    rw [String.toList_append, Nat.toList_repr]
    rfl

lemma isDigit_toDigits {k : ℕ} (h : c ∈ Nat.toDigits 10 k) : c.isDigit :=
  Nat.isDigit_of_mem_toDigits (by decide) (by decide) h

/-- Digits and a sign are all there is. -/
lemma notMem_toString (hc : c.isDigit = false) (hm : c ≠ '-') : c ∉ (toString n).toList := by
  have hdigits : ∀ k : ℕ, c ∉ Nat.toDigits 10 k := fun k h => by
    simp [isDigit_toDigits h] at hc
  rw [toList_toString]
  split_ifs
  · exact fun h => (List.mem_cons.mp h).elim hm (hdigits _)
  · exact hdigits _

/-- A digit is neither a blank nor a sign. -/
lemma isDigit_facts (h : c.isDigit) :
    isSpace c = false ∧ c ≠ '-' ∧ c ≠ '+' ∧ c ≠ '_' ∧ c ≠ ' ' ∧ 48 ≤ c.toNat := by
  have hrange : 48 ≤ c.toNat ∧ c.toNat ≤ 57 := by
    simpa [Char.isDigit, UInt32.le_iff_toNat_le] using h
  refine ⟨?_, ?_, ?_, ?_, ?_, hrange.1⟩
  · simp only [isSpace, Bool.or_eq_false_iff, Bool.and_eq_false_iff, decide_eq_false_iff_not]
    omega
  all_goals
    rintro rfl
    revert hrange
    decide

lemma natOf_toDigits (k : ℕ) : natOf (Nat.toDigits 10 k) = some k := by
  have hsplit : (Nat.toDigits 10 k).splitOn '_' = [Nat.toDigits 10 k] :=
    List.splitOn_eq_singleton Nat.underscore_not_in_toDigits
  have hall : (Nat.toDigits 10 k).all Char.isDigit :=
    List.all_eq_true.mpr fun c hc => isDigit_toDigits hc
  simp [natOf, hsplit, hall, Nat.ofDigitChars_ten_toDigits]

lemma exists_toDigits (k : ℕ) : ∃ c t, Nat.toDigits 10 k = c :: t ∧ c.isDigit := by
  cases h : Nat.toDigits 10 k with
  | nil => exact absurd h Nat.toDigits_ne_nil
  | cons c t => exact ⟨c, t, rfl, isDigit_toDigits (k := k) (by simp [h])⟩

/-- There is nothing to strip around digits. -/
lemma strip_eq_self {cs : List Char} (hhead : ∀ c ∈ cs.head?, isSpace c = false)
    (hlast : ∀ c ∈ cs.getLast?, isSpace c = false) : strip cs = cs := by
  have hdrop : cs.dropWhile isSpace = cs := by
    cases cs with
    | nil => rfl
    | cons c cs => simp [hhead c rfl]
  rw [strip, hdrop, List.rdropWhile_eq_self_iff]
  intro hne
  simpa using hlast _ (List.getLast?_eq_getLast_of_ne_nil hne)

lemma strip_strip (cs : List Char) : strip (strip cs) = strip cs := by
  refine strip_eq_self (fun c hc => ?_) fun c hc => ?_
  · obtain ⟨tail, htail⟩ := List.rdropWhile_prefix isSpace (cs.dropWhile isSpace)
    have hhead : (cs.dropWhile isSpace).head? = some c := by
      rw [← htail, List.head?_append, show (List.rdropWhile isSpace _).head? = some c from hc]
      rfl
    have hnot := List.head?_dropWhile_not isSpace cs
    rw [hhead] at hnot
    exact hnot
  · have hne : strip cs ≠ [] := by
      rintro he
      rw [he] at hc
      cases hc
    have hlast := List.rdropWhile_last_not isSpace (cs.dropWhile isSpace) hne
    rw [Option.mem_def, List.getLast?_eq_getLast_of_ne_nil hne] at hc
    obtain rfl := Option.some.inj hc
    exact Bool.eq_false_iff.mpr hlast

lemma strip_toString (n : ℤ) : strip (toString n).toList = (toString n).toList := by
  have hmem : ∀ c ∈ (toString n).toList, isSpace c = false := by
    intro c hc
    rw [toList_toString] at hc
    split_ifs at hc
    · rcases List.mem_cons.mp hc with rfl | hc
      · decide
      · exact (isDigit_facts (isDigit_toDigits hc)).1
    · exact (isDigit_facts (isDigit_toDigits hc)).1
  exact strip_eq_self (fun c hc => hmem c (List.mem_of_mem_head? hc))
    fun c hc => hmem c (List.mem_of_mem_getLast? hc)

/-- **`int(str(n))` is `n`**. -/
theorem intOf_toString (n : ℤ) : intOf (toString n) = some n := by
  unfold intOf
  rw [strip_toString, toList_toString]
  split_ifs with hn
  · simp only [natOf_toDigits, Option.bind_eq_bind, Option.bind_some, Option.pure_def,
      Option.map_some, Option.some_inj]
    omega
  · obtain ⟨c, t, ht, hc⟩ := exists_toDigits n.natAbs
    obtain ⟨-, hminus, hplus, -⟩ := isDigit_facts hc
    have hnat := natOf_toDigits n.natAbs
    rw [ht] at hnat ⊢
    split
    · simp_all
    · simp_all
    · rw [hnat, Option.map_some, Option.some_inj]
      exact Int.natAbs_of_nonneg (not_lt.mp hn)

lemma toString_injective : Function.Injective (toString : ℤ → String) := fun a b h => by
  have ha := intOf_toString a
  rw [h, intOf_toString] at ha
  exact (Option.some.inj ha).symm

/-! ### Separators -/

section Separators

variable {α : Type*} {a : α} {xs xs' ys ys' : List α} {ls ls' : List (List α)}

/-- The first separator ends the first field. -/
lemma split_first (h : a ∉ xs) (h' : a ∉ xs') (heq : xs ++ a :: ys = xs' ++ a :: ys') :
    xs = xs' ∧ ys = ys' := by
  induction xs generalizing xs' with
  | nil =>
    cases xs' with
    | nil => exact ⟨rfl, (List.cons.inj heq).2⟩
    | cons x xs' => exact absurd (List.cons.inj heq).1 fun hx => h' (by simp [hx])
  | cons x xs ih =>
    cases xs' with
    | nil => exact absurd (List.cons.inj heq).1.symm fun hx => h (by simp [hx])
    | cons x' xs' =>
      obtain ⟨rfl, htail⟩ := List.cons.inj heq
      have ha : a ∉ xs := fun ha => h (List.mem_cons_of_mem _ ha)
      have ha' : a ∉ xs' := fun ha => h' (List.mem_cons_of_mem _ ha)
      obtain ⟨hxs, hys⟩ := ih ha ha' htail
      exact ⟨by rw [hxs], hys⟩

lemma intercalate_ne_nil (hne : ∀ l ∈ ls, l ≠ []) (h : ls ≠ []) : [a].intercalate ls ≠ [] := by
  cases ls with
  | nil => exact absurd rfl h
  | cons l ls =>
    have hl : l ≠ [] := hne l (by simp)
    cases ls with
    | nil => simpa using hl
    | cons l' ls => simp [List.intercalate_cons_cons, hl]

/-- Fields that are not empty can be told from the text they are joined to. -/
lemma intercalate_inj [DecidableEq α] (h : ∀ l ∈ ls, a ∉ l ∧ l ≠ [])
    (h' : ∀ l ∈ ls', a ∉ l ∧ l ≠ []) (heq : [a].intercalate ls = [a].intercalate ls') :
    ls = ls' := by
  by_cases hls : ls = []
  · subst hls
    by_contra hne
    exact intercalate_ne_nil (fun l hl => (h' l hl).2) (Ne.symm hne) heq.symm
  by_cases hls' : ls' = []
  · subst hls'
    exact absurd heq (intercalate_ne_nil (fun l hl => (h l hl).2) hls)
  have hsplit := congrArg (List.splitOn a) heq
  rwa [List.splitOn_intercalate a (fun l hl => (h l hl).1) hls,
    List.splitOn_intercalate a (fun l hl => (h' l hl).1) hls'] at hsplit

end Separators

end OnAir.TextFields
