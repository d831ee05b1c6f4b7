import Mathlib.Algebra.Order.Group.Unbundled.Int
import Mathlib.Data.List.DropRight
import Mathlib.Data.Nat.Digits.Defs
import Mathlib.Data.Rat.Floor
import Mathlib.Data.String.Basic

/-!
Functions of Python's `str`, `int` and `float`, on the characters they take. Digits are the
ASCII ones, and a float is the number its text stands for.
-/

namespace OnAir.PythonText

/-- `c.isspace()`. -/
def isSpace (c : Char) : Bool :=
  let n := c.toNat
  (9 ≤ n && n ≤ 13) || (28 ≤ n && n ≤ 32) || n = 0x85 || n = 0xa0 || n = 0x1680 ||
    (0x2000 ≤ n && n ≤ 0x200a) || n = 0x2028 || n = 0x2029 || n = 0x202f || n = 0x205f || n = 0x3000

/-- `s.split()`. -/
def words (cs : List Char) : List (List Char) :=
  (cs.splitOnP isSpace).filter fun w => !w.isEmpty

/-- `s.strip()`. -/
def strip (cs : List Char) : List Char := (cs.dropWhile isSpace).rdropWhile isSpace

/-- `" ".join(s.strip().split())`. -/
def squeeze (s : String) : String :=
  String.intercalate " " ((words (strip s.toList)).map String.ofList)

/-- Digits in groups, with an underscore between two of them. -/
def natOf (cs : List Char) : Option ℕ :=
  let groups := cs.splitOn '_'
  if groups.all fun g => !g.isEmpty && g.all Char.isDigit then
    some (Nat.ofDigitChars 10 groups.flatten 0)
  else none

/-- `int(s)`; `none` where it raises. -/
def intOf (s : String) : Option ℤ :=
  match strip s.toList with
  | '-' :: cs => (natOf cs).map fun n => -(n : ℤ)
  | '+' :: cs => (natOf cs).map Int.ofNat
  | cs => (natOf cs).map Int.ofNat

example : intOf " -1_0\n" = some (-10) := by decide +kernel

/-! ### Texts that are compared with words of ASCII letters -/

/-- `s.lower()`, where it is compared with ASCII letters: these are the lower case of the capital
letters and of the Kelvin sign. -/
def lower (s : String) : String :=
  String.ofList (s.toList.map fun c => if c = '\u212a' then 'k' else c.toLower)

/-- `s.strip()` on a string. -/
def trim (s : String) : String := String.ofList (strip s.toList)

/-- `part in s`. -/
def contains (s part : String) : Bool := s.toList.tails.any part.toList.isPrefixOf

/-- `s.replace(old, new)` for a character. -/
def replaceChar (old new : Char) (s : String) : String :=
  String.ofList (s.toList.map fun c => if c = old then new else c)

/-- `s.rstrip(c)` for a character. -/
def rstripChar (c : Char) (s : String) : String :=
  String.ofList (s.toList.rdropWhile (· = c))

/-- `token in {"1", "true", "yes", "on"}` after `strip` and `lower`. -/
def isTruthy (raw : String) : Bool :=
  lower (trim raw) ∈ ["1", "true", "yes", "on"]

/-! ### Floats -/

inductive Float
  | nan
  | inf (negative : Bool)
  | num (q : ℚ)
  deriving DecidableEq, Repr

/-- Groups of digits, with an underscore between two of them. -/
def digitsOf (cs : List Char) : Option (List Char) :=
  let groups := cs.splitOn '_'
  if groups.all fun g => !g.isEmpty && g.all Char.isDigit then some groups.flatten else none

/-- Digits, or nothing. -/
def optionalDigits (cs : List Char) : Option (List Char) :=
  if cs.isEmpty then some [] else digitsOf cs

/-- Digits with a point among them. -/
def mantissaOf (cs : List Char) : Option ℚ :=
  let whole := cs.takeWhile (· ≠ '.')
  let part := (cs.dropWhile (· ≠ '.')).drop 1
  match optionalDigits whole, optionalDigits part with
  | some w, some p =>
    if w.isEmpty && p.isEmpty then none
    else some (Nat.ofDigitChars 10 (w ++ p) 0 / (10 : ℚ) ^ p.length)
  | _, _ => none

/-- What follows the `e` of a float. -/
def exponentOf : List Char → Option ℤ
  | '-' :: cs => (natOf cs).map fun n => -(n : ℤ)
  | '+' :: cs => (natOf cs).map Int.ofNat
  | cs => (natOf cs).map Int.ofNat

/-- Numbers from here on are read as infinite. -/
def maxFloat : ℚ := 2 ^ 1024 - 2 ^ 970

/-- A float without its sign. -/
def unsignedOf (cs : List Char) : Option Float :=
  let word := lower (String.ofList cs)
  if word = "inf" || word = "infinity" then some (.inf false)
  else if word = "nan" then some .nan
  else
    let isE := fun c => c = 'e' || c = 'E'
    let scaled := fun (m : ℚ) (e : ℤ) => if m * 10 ^ e < maxFloat then .num (m * 10 ^ e)
      else .inf false
    match mantissaOf (cs.takeWhile (!isE ·)), cs.dropWhile (!isE ·) with
    | some m, [] => some (scaled m 0)
    | some m, _ :: es => (exponentOf es).map (scaled m)
    | none, _ => none

def Float.neg : Float → Float
  | .nan => .nan
  | .inf n => .inf (!n)
  | .num q => .num (-q)

/-- `float(s)`; `none` where it raises. -/
def floatOf (s : String) : Option Float :=
  match strip s.toList with
  | '-' :: cs => (unsignedOf cs).map Float.neg
  | '+' :: cs => unsignedOf cs
  | cs => unsignedOf cs

/-- How `int` of a float fails. -/
inductive IntError
  | value
  | overflow
  deriving DecidableEq, Repr

/-- `int(float(s))`. -/
def intOfFloat (s : String) : Except IntError ℤ :=
  match floatOf s with
  | none | some .nan => .error .value
  | some (.inf _) => .error .overflow
  | some (.num q) => .ok (q.num.tdiv q.den)

example : floatOf " 1_2.50e-1" = some (.num (5 / 4)) := by decide +kernel

end OnAir.PythonText
