import Mathlib.Algebra.Order.Ring.Int
import Mathlib.Data.List.Sort
import Mathlib.Tactic.Common
import Std.Data.ExtTreeMap

/-!
Tables with an integer primary key, as SQLite keeps them.

A table maps row ids to rows; two tables with the same rows are equal. A new row of a plain
table gets the id after the largest one in use.
-/

namespace OnAir

open Std

abbrev Table (α : Type*) := ExtTreeMap ℤ α

namespace Table

variable {α β : Type*} {t : Table α} {k j : ℤ} {a : α}

/-- The row id of the next `INSERT`. -/
def nextId (t : Table α) : ℤ :=
  match t.keys.getLast? with
  | none => 1
  | some k => k + 1

/-- The rows in the order of their ids. -/
def rows (t : Table α) : List (ℤ × α) := t.toList

@[simp] lemma lookup_empty (j : ℤ) : (∅ : Table α)[j]? = none := by simp

lemma lookup_insert (t : Table α) (k j : ℤ) (a : α) :
    (t.insert k a)[j]? = if j = k then some a else t[j]? := by
  rw [ExtTreeMap.getElem?_insert]
  by_cases h : j = k
  · simp [h]
  · simp [h, Ne.symm h]

lemma lookup_erase (t : Table α) (k j : ℤ) :
    (t.erase k)[j]? = if j = k then none else t[j]? := by
  rw [ExtTreeMap.getElem?_erase]
  by_cases h : j = k
  · simp [h]
  · simp [h, Ne.symm h]

lemma lookup_modify (t : Table α) (k j : ℤ) (f : α → α) :
    (t.modify k f)[j]? = if j = k then t[j]?.map f else t[j]? := by
  rw [ExtTreeMap.getElem?_modify]
  by_cases h : j = k
  · simp [h]
  · simp [h, Ne.symm h]

lemma mem_rows : (k, a) ∈ rows t ↔ t[k]? = some a :=
  ExtTreeMap.mem_toList_iff_getElem?_eq_some

lemma rows_sorted (t : Table α) : (rows t).Pairwise fun r s => r.1 < s.1 := by
  have h := ExtTreeMap.ordered_keys_toList (t := t)
  exact h.imp fun hlt => by simpa [compare_lt_iff_lt] using hlt

/-- Rows in the order of their ids are determined by their membership. -/
lemma eq_rows {l : List (ℤ × α)} (hl : l.Pairwise fun r s => r.1 < s.1)
    (h : ∀ k a, (k, a) ∈ l ↔ t[k]? = some a) : l = rows t :=
  hl.eq_of_mem_iff (rows_sorted t) fun {r} => (h r.1 r.2).trans mem_rows.symm

/-- A row with an id above all others comes last. -/
lemma rows_insert_last (h : ∀ j b, t[j]? = some b → j < k) :
    rows (t.insert k a) = rows t ++ [(k, a)] := by
  symm
  refine eq_rows ?_ fun j b => ?_
  · refine List.pairwise_append.mpr ⟨rows_sorted t, List.pairwise_singleton _ _, ?_⟩
    rintro ⟨j, b⟩ hj r hr
    obtain rfl := List.mem_singleton.mp hr
    exact h j b (mem_rows.mp hj)
  · rw [lookup_insert, List.mem_append, List.mem_singleton, mem_rows]
    by_cases hjk : j = k
    · subst hjk
      have hnone : t[j]? ≠ some b := fun hb => lt_irrefl _ (h j b hb)
      simp [hnone, eq_comm]
    · simp [hjk]

/-- An update of the rows of one table is an update of its rows in order. -/
lemma rows_modify (t : Table α) (k : ℤ) (f : α → α) :
    rows (t.modify k f) = (rows t).map fun r => if r.1 = k then (r.1, f r.2) else r := by
  symm
  refine eq_rows ?_ fun j b => ?_
  · refine List.pairwise_map.mpr ((rows_sorted t).imp fun {r s} hrs => ?_)
    split_ifs <;> exact hrs
  · rw [lookup_modify, List.mem_map]
    constructor
    · rintro ⟨⟨i, c⟩, hmem, he⟩
      rw [mem_rows] at hmem
      split_ifs at he with hik
      · obtain ⟨rfl, rfl⟩ := Prod.mk.inj he
        simp_all
      · obtain ⟨rfl, rfl⟩ := Prod.mk.inj he
        simp_all
    · intro h
      split_ifs at h with hjk
      · obtain ⟨c, hc, rfl⟩ := Option.map_eq_some_iff.mp h
        exact ⟨(j, c), mem_rows.mpr hc, by simp [hjk]⟩
      · exact ⟨(j, b), mem_rows.mpr h, by simp [hjk]⟩

/-- Where a row stands among the rows in order. -/
lemma mem_take_iff {l : List (ℤ × α)} (hl : l.Pairwise fun r s => r.1 < s.1) {r : ℤ × α}
    (n : ℕ) : r ∈ l.take n ↔ r ∈ l ∧ (l.filter fun s => s.1 < r.1).length < n := by
  induction l generalizing n with
  | nil => simp
  | cons s l ih =>
    obtain ⟨hs, hl⟩ := List.pairwise_cons.mp hl
    cases n with
    | zero => simp
    | succ n =>
      rw [List.take_succ_cons, List.mem_cons, List.mem_cons, ih hl]
      by_cases hrs : r = s
      · subst hrs
        have hnil : l.filter (fun s => s.1 < r.1) = [] :=
          List.filter_eq_nil_iff.mpr fun q hq => by simpa using (hs q hq).le
        simp [hnil]
      · simp only [hrs, false_or, and_congr_right_iff]
        intro hr
        simp [hs r hr]

/-- The id of a new row is above every id in use. -/
lemma lt_nextId (h : t[k]? = some a) : k < nextId t := by
  have hk : k ∈ t.keys :=
    ExtTreeMap.mem_keys.mpr (ExtTreeMap.mem_iff_isSome_getElem?.mpr (by simp [h]))
  have ho := ExtTreeMap.ordered_keys (t := t)
  unfold nextId
  cases hl : t.keys.getLast? with
  | none => rw [List.getLast?_eq_none_iff] at hl; simp [hl] at hk
  | some m =>
    obtain ⟨ks, hks⟩ := List.getLast?_eq_some_iff.mp hl
    rw [hks] at hk ho
    have hle : k ≤ m := by
      rcases List.mem_append.mp hk with hk | hk
      · have := (List.pairwise_append.mp ho).2.2 k hk m (by simp)
        exact (compare_lt_iff_lt.mp this).le
      · exact (List.mem_singleton.mp hk).le
    dsimp only
    omega

/-- The next id is one above the largest. -/
lemma nextId_eq (h : t[k]? = some a) (hmax : ∀ j b, t[j]? = some b → j ≤ k) :
    nextId t = k + 1 := by
  have hlt := lt_nextId h
  unfold nextId at hlt ⊢
  cases hl : t.keys.getLast? with
  | none =>
    have hk : k ∈ t.keys :=
      ExtTreeMap.mem_keys.mpr (ExtTreeMap.mem_iff_isSome_getElem?.mpr (by simp [h]))
    rw [List.getLast?_eq_none_iff.mp hl] at hk
    simp at hk
  | some m =>
    have hm : m ∈ t := ExtTreeMap.mem_keys.mp (List.mem_of_mem_getLast? hl)
    obtain ⟨b, hb⟩ := Option.isSome_iff_exists.mp (ExtTreeMap.mem_iff_isSome_getElem?.mp hm)
    have hle := hmax m b hb
    rw [hl] at hlt
    dsimp only at hlt ⊢
    omega

lemma nextId_insert (t : Table α) (a : α) : nextId (t.insert (nextId t) a) = nextId t + 1 := by
  refine nextId_eq (a := a) (by rw [lookup_insert, if_pos rfl]) fun j b hb => ?_
  rw [lookup_insert] at hb
  split_ifs at hb with hj
  · exact hj.le
  · exact (lt_nextId hb).le

lemma keys_sorted (t : Table α) : t.keys.Pairwise (· < ·) :=
  ExtTreeMap.ordered_keys.imp fun hlt => compare_lt_iff_lt.mp hlt

/-- The next id depends on the ids in use only. -/
lemma nextId_congr {t : Table α} {t' : Table β} (h : ∀ j : ℤ, t'[j]?.isSome = t[j]?.isSome) :
    nextId t' = nextId t := by
  have hmem : ∀ j : ℤ, j ∈ t'.keys ↔ j ∈ t.keys := fun j => by
    rw [ExtTreeMap.mem_keys, ExtTreeMap.mem_keys, ExtTreeMap.mem_iff_isSome_getElem?,
      ExtTreeMap.mem_iff_isSome_getElem?, h]
  have hkeys : t'.keys = t.keys :=
    (keys_sorted t').eq_of_mem_iff (keys_sorted t) fun {j} => hmem j
  unfold nextId
  rw [hkeys]

lemma nextId_modify (t : Table α) (k : ℤ) (f : α → α) : nextId (t.modify k f) = nextId t := by
  refine nextId_congr fun j => ?_
  rw [lookup_modify]
  split_ifs
  · exact Option.isSome_map
  · rfl

lemma nextId_map (t : Table α) (f : ℤ → α → β) : nextId (t.map f) = nextId t :=
  nextId_congr fun j => by rw [ExtTreeMap.getElem?_map, Option.isSome_map]

lemma lookup_nextId (t : Table α) : t[nextId t]? = none := by
  cases h : t[nextId t]? with
  | none => rfl
  | some a => exact absurd (lt_nextId h) (lt_irrefl _)

end Table

end OnAir
