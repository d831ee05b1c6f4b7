import OnAir.Json

/-!
Objects as dictionaries: of a repeated key the last value counts, and the order of the keys does
not matter.

A value whose objects have their keys in strictly increasing order is its own normal form, and
every normal form is such a value.
-/

namespace OnAir.Json

mutual

/-- The value with the last field of every key. -/
def dedup : Value → Value
  | .arr xs => .arr (dedupElems xs)
  | .obj fs => .obj (dedupFields fs)
  | .null => .null
  | .bool b => .bool b
  | .num m p => .num m p
  | .str s => .str s

def dedupElems : List Value → List Value
  | [] => []
  | x :: xs => dedup x :: dedupElems xs

def dedupFields : List (String × Value) → List (String × Value)
  | [] => []
  | (k, x) :: fs => if fs.any (·.1 = k) then dedupFields fs else (k, dedup x) :: dedupFields fs

end

/-- The value that `json.loads` makes of a text, its objects as dictionaries. -/
def normal (x : Value) : Value := sortKeys (dedup x)

mutual

/-- The keys of every object are in strictly increasing order. -/
def inOrder : Value → Bool
  | .arr xs => inOrderElems xs
  | .obj fs => inOrderFields fs
  | _ => true

def inOrderElems : List Value → Bool
  | [] => true
  | x :: xs => inOrder x && inOrderElems xs

def inOrderFields : List (String × Value) → Bool
  | [] => true
  | (k, x) :: fs => fs.all (k < ·.1) && inOrder x && inOrderFields fs

end

/-! ### Values in order -/

lemma insertField_of_lt {f : String × Value} {fs : List (String × Value)}
    (h : fs.all (f.1 < ·.1)) : insertField f fs = f :: fs := by
  cases fs with
  | nil => rfl
  | cons g gs =>
    have hlt : f.1 < g.1 := by
      rw [List.all_cons, Bool.and_eq_true, decide_eq_true_eq] at h
      exact h.1
    exact if_pos hlt.le

mutual

/-- A value in order is its own normal form. -/
lemma normal_of_inOrder : ∀ x : Value, inOrder x → normal x = x
  | .null, _ | .bool _, _ | .num _ _, _ | .str _, _ => rfl
  | .arr xs, h => by
    have hxs := normalElems_of_inOrder xs h
    simp only [normal, dedup, sortKeys, hxs]
  | .obj fs, h => by
    have hfs := normalFields_of_inOrder fs h
    simp only [normal, dedup, sortKeys, hfs]

lemma normalElems_of_inOrder : ∀ xs : List Value, inOrderElems xs →
    sortElems (dedupElems xs) = xs
  | [], _ => rfl
  | x :: xs, h => by
    rw [inOrderElems, Bool.and_eq_true] at h
    have hx := normal_of_inOrder x h.1
    rw [normal] at hx
    simp only [dedupElems, sortElems, hx, normalElems_of_inOrder xs h.2]

lemma normalFields_of_inOrder : ∀ fs : List (String × Value), inOrderFields fs →
    sortFields (dedupFields fs) = fs
  | [], _ => rfl
  | (k, x) :: fs, h => by
    rw [inOrderFields, Bool.and_eq_true, Bool.and_eq_true] at h
    obtain ⟨⟨hk, hx⟩, hfs⟩ := h
    have hnew : fs.any (·.1 = k) = false := by
      rw [List.any_eq_false]
      intro g hg
      have hlt : k < g.1 := by simpa using List.all_eq_true.mp hk g hg
      simpa using hlt.ne'
    have hx' := normal_of_inOrder x hx
    rw [normal] at hx'
    rw [dedupFields, hnew, if_neg (by simp), sortFields, hx', normalFields_of_inOrder fs hfs]
    exact insertField_of_lt hk

end

/-! ### Normal forms -/

lemma mem_insertField {f g : String × Value} {fs : List (String × Value)} :
    g ∈ insertField f fs ↔ g = f ∨ g ∈ fs := by
  induction fs with
  | nil => simp [insertField]
  | cons a fs ih =>
    rw [insertField]
    split_ifs
    · simp
    · simp only [List.mem_cons, ih]
      tauto

lemma inOrder_insertField {f : String × Value} {fs : List (String × Value)}
    (hf : inOrder f.2) (hfs : inOrderFields fs) (hnew : ∀ g ∈ fs, g.1 ≠ f.1) :
    inOrderFields (insertField f fs) := by
  induction fs with
  | nil => simp [insertField, inOrderFields, hf]
  | cons a fs ih =>
    rw [inOrderFields, Bool.and_eq_true, Bool.and_eq_true] at hfs
    obtain ⟨⟨ha, hx⟩, hfs⟩ := hfs
    rw [insertField]
    split_ifs with hle
    · have hlt : f.1 < a.1 := lt_of_le_of_ne hle (hnew a (by simp)).symm
      rw [inOrderFields, inOrderFields, ha, hx, hfs, hf]
      refine Bool.and_eq_true_iff.mpr ⟨Bool.and_eq_true_iff.mpr ⟨?_, rfl⟩, rfl⟩
      rw [List.all_cons, Bool.and_eq_true, decide_eq_true_eq]
      refine ⟨hlt, List.all_eq_true.mpr fun g hg => ?_⟩
      have hag : a.1 < g.1 := by simpa using List.all_eq_true.mp ha g hg
      simpa using hlt.trans hag
    · have hlt : a.1 < f.1 := not_le.mp hle
      rw [inOrderFields, hx, ih hfs fun g hg => hnew g (by simp [hg])]
      refine Bool.and_eq_true_iff.mpr ⟨Bool.and_eq_true_iff.mpr ⟨?_, rfl⟩, rfl⟩
      refine List.all_eq_true.mpr fun g hg => ?_
      rcases mem_insertField.mp hg with rfl | hg
      · simpa using hlt
      · exact List.all_eq_true.mp ha g hg

lemma keys_sortFields {k : String} {fs : List (String × Value)} :
    (∃ g ∈ sortFields fs, g.1 = k) ↔ ∃ g ∈ fs, g.1 = k := by
  induction fs with
  | nil => simp [sortFields]
  | cons f fs ih =>
    obtain ⟨j, x⟩ := f
    rw [sortFields]
    simp only [mem_insertField, List.mem_cons, or_and_right, exists_or, exists_eq_left, ih]

lemma keys_dedupFields {k : String} {fs : List (String × Value)} :
    (∃ g ∈ dedupFields fs, g.1 = k) ↔ ∃ g ∈ fs, g.1 = k := by
  induction fs with
  | nil => simp [dedupFields]
  | cons f fs ih =>
    obtain ⟨j, x⟩ := f
    rw [dedupFields]
    split_ifs with h
    · rw [ih]
      obtain ⟨g, hg, hj⟩ := List.any_eq_true.mp h
      constructor
      · rintro ⟨g, hg, rfl⟩
        exact ⟨g, by simp [hg], rfl⟩
      · rintro ⟨g', hg', rfl⟩
        rcases List.mem_cons.mp hg' with rfl | hg'
        · exact ⟨g, hg, by simpa using hj⟩
        · exact ⟨g', hg', rfl⟩
    · simp only [List.mem_cons, or_and_right, exists_or, exists_eq_left, ih]

mutual

/-- A normal form is in order. -/
lemma inOrder_normal : ∀ x : Value, inOrder (normal x)
  | .null | .bool _ | .num _ _ | .str _ => rfl
  | .arr xs => inOrderElems_normal xs
  | .obj fs => inOrderFields_normal fs

lemma inOrderElems_normal : ∀ xs : List Value, inOrderElems (sortElems (dedupElems xs))
  | [] => rfl
  | x :: xs => by
    have hx := inOrder_normal x
    rw [normal] at hx
    rw [dedupElems, sortElems, inOrderElems, hx, inOrderElems_normal xs]
    rfl

lemma inOrderFields_normal : ∀ fs : List (String × Value),
    inOrderFields (sortFields (dedupFields fs))
  | [] => rfl
  | (k, x) :: fs => by
    rw [dedupFields]
    split_ifs with h
    · exact inOrderFields_normal fs
    · rw [sortFields]
      refine inOrder_insertField (inOrder_normal x) (inOrderFields_normal fs) fun g hg hk => ?_
      obtain ⟨g', hg', hk'⟩ := keys_dedupFields.mp (keys_sortFields.mp ⟨g, hg, hk⟩)
      exact h (List.any_eq_true.mpr ⟨g', hg', by simpa using hk'⟩)

end

/-- **The values that normalising leaves alone** are those in order. -/
theorem normal_eq_iff {x : Value} : normal x = x ↔ inOrder x :=
  ⟨fun h => h ▸ inOrder_normal x, normal_of_inOrder x⟩

/-- Two values with one text are equal. -/
lemma write_injective (ascii : Bool) : Function.Injective (write ascii) := fun x y h => by
  have hx := loads_write ascii x
  rw [h, loads_write] at hx
  exact (Option.some.inj hx).symm

end OnAir.Json
