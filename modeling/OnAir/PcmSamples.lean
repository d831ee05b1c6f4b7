import Mathlib.Algebra.Order.Ring.Rat
import Mathlib.Data.Rat.Floor
import Mathlib.Tactic.Linarith

/-!
Samples of 16 bits in bytes, as `int.from_bytes` and `int.to_bytes` convert them, and the rounding
and clamping before a number is written as one.
-/

namespace OnAir.PcmSamples

abbrev Bytes := List UInt8

def minSample : ℤ := -32768

def maxSample : ℤ := 32767

/-- `int.from_bytes(.., byteorder="little", signed=True)` of two bytes. -/
def ofBytes (low high : UInt8) : ℤ :=
  let n : ℤ := low.toNat + 256 * high.toNat
  if n ≤ maxSample then n else n - 65536

/-- `to_bytes(2, byteorder="little", signed=True)`; `none` where it raises. -/
def toBytes (value : ℤ) : Option Bytes :=
  if minSample ≤ value ∧ value ≤ maxSample then
    some [UInt8.ofNat (value % 65536).toNat, UInt8.ofNat ((value % 65536).toNat / 256)]
  else none

/-- `int(round(value))`: a number half way between two others goes to the even one. -/
def roundEven (value : ℚ) : ℤ :=
  if value - ⌊value⌋ < 1 / 2 ∨ value - ⌊value⌋ = 1 / 2 ∧ ⌊value⌋ % 2 = 0 then ⌊value⌋
  else ⌊value⌋ + 1

/-- A sample at an offset; what lies past the end is silence. -/
def sampleAt (data : Bytes) (offset : ℕ) : ℤ :=
  match data.drop offset with
  | low :: high :: _ => ofBytes low high
  | _ => 0

/-- A number that fits into 16 bits. -/
def InRange (value : ℤ) : Prop := minSample ≤ value ∧ value ≤ maxSample

instance (value : ℤ) : Decidable (InRange value) := inferInstanceAs (Decidable (_ ∧ _))

lemma roundEven_error (value : ℚ) : |(roundEven value : ℚ) - value| ≤ 1 / 2 := by
  have hlow := Int.floor_le value
  have hhigh := Int.lt_floor_add_one value
  unfold roundEven
  split_ifs with h
  · rcases h with hless | ⟨hhalf, -⟩ <;> rw [abs_le] <;> constructor <;> linarith
  · have hless : ¬ value - ⌊value⌋ < 1 / 2 := fun hless => h (.inl hless)
    push_cast
    rw [abs_le]
    constructor <;> linarith

lemma roundEven_intCast (value : ℤ) : roundEven value = value := by
  unfold roundEven
  rw [Int.floor_intCast, sub_self, if_pos (.inl (by norm_num))]

/-- What is written as a sample is read back. -/
lemma sampleAt_of_toBytes {value : ℤ} {bytes : Bytes} (h : toBytes value = some bytes)
    (rest : Bytes) : sampleAt (bytes ++ rest) 0 = value := by
  unfold toBytes at h
  split_ifs at h with hrange
  cases h
  simp only [minSample, maxSample] at hrange
  simp only [sampleAt, List.drop_zero, List.cons_append, ofBytes, UInt8.toNat_ofNat', maxSample]
  split_ifs <;> omega

lemma toBytes_of_inRange {value : ℤ} (h : InRange value) :
    ∃ bytes, toBytes value = some bytes ∧ bytes.length = 2 := ⟨_, if_pos h, rfl⟩

end OnAir.PcmSamples
