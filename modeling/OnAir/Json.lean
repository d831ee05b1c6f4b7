import Mathlib.Data.Nat.Digits.Defs
import Mathlib.Data.Rat.Defs
import Mathlib.Data.String.Basic
import Mathlib.Tactic.Common
import Mathlib.Tactic.IntervalCases
import Mathlib.Tactic.Positivity

/-!
JSON texts: the values, the compact text of a value with its keys in order, and the reader.

The writer is `json.dumps` without spaces, with or without `ensure_ascii`, the reader is
`json.loads`. A number is a decimal `m / 10 ^ places`; it was written with a point, as a Python
float is, unless `places` is zero. The main result is that reading inverts writing.
-/

namespace OnAir.Json

inductive Value
  | null
  | bool (b : Bool)
  | num (m : ℤ) (places : ℕ)
  | str (s : String)
  | arr (xs : List Value)
  | obj (fields : List (String × Value))

/-! ### Writing -/

def hexDigit (d : ℕ) : Char := if d < 10 then Char.ofNat (48 + d) else Char.ofNat (87 + d)

/-- A code unit, as `\uXXXX`. -/
def escapeUnit (n : ℕ) : List Char :=
  ['\\', 'u', hexDigit (n / 4096), hexDigit (n / 256 % 16), hexDigit (n / 16 % 16),
    hexDigit (n % 16)]

/-- A character in code units: beyond the first plane it takes two. -/
def escapeUnits (c : Char) : List Char :=
  if c.toNat < 0x10000 then escapeUnit c.toNat
  else escapeUnit (0xD800 + (c.toNat - 0x10000) / 1024) ++
    escapeUnit (0xDC00 + (c.toNat - 0x10000) % 1024)

/-- The escapes of `json.encoder`; `ascii` is `ensure_ascii`. -/
def escape (ascii : Bool) (c : Char) : List Char :=
  if c = '"' then ['\\', '"']
  else if c = '\\' then ['\\', '\\']
  else if c = '\n' then ['\\', 'n']
  else if c = '\r' then ['\\', 'r']
  else if c = '\t' then ['\\', 't']
  else if c = '\x08' then ['\\', 'b']
  else if c = '\x0c' then ['\\', 'f']
  else if c.toNat < 32 ∨ ascii = true ∧ 126 < c.toNat then escapeUnits c
  else [c]

def writeStr (ascii : Bool) (s : String) : List Char :=
  '"' :: (s.toList.flatMap (escape ascii) ++ ['"'])

/-- `n` in `p` digits. -/
def pad (p n : ℕ) : List Char :=
  List.replicate (p - (Nat.toDigits 10 n).length) '0' ++ Nat.toDigits 10 n

def writeNat (n p : ℕ) : List Char :=
  if p = 0 then Nat.toDigits 10 n
  else Nat.toDigits 10 (n / 10 ^ p) ++ '.' :: pad p (n % 10 ^ p)

def writeNum (m : ℤ) (p : ℕ) : List Char :=
  if m < 0 then '-' :: writeNat m.natAbs p else writeNat m.natAbs p

mutual

def write (ascii : Bool) : Value → List Char
  | .null => ['n', 'u', 'l', 'l']
  | .bool true => ['t', 'r', 'u', 'e']
  | .bool false => ['f', 'a', 'l', 's', 'e']
  | .num m p => writeNum m p
  | .str s => writeStr ascii s
  | .arr [] => ['[', ']']
  | .arr (x :: xs) => '[' :: (write ascii x ++ writeElems ascii xs)
  | .obj [] => ['\x7b', '\x7d']
  | .obj ((k, x) :: fs) =>
    '\x7b' :: (writeStr ascii k ++ ':' :: (write ascii x ++ writeFields ascii fs))

def writeElems (ascii : Bool) : List Value → List Char
  | [] => [']']
  | x :: xs => ',' :: (write ascii x ++ writeElems ascii xs)

def writeFields (ascii : Bool) : List (String × Value) → List Char
  | [] => ['\x7d']
  | (k, x) :: fs => ',' :: (writeStr ascii k ++ ':' :: (write ascii x ++ writeFields ascii fs))

end

def insertField (f : String × Value) : List (String × Value) → List (String × Value)
  | [] => [f]
  | g :: gs => if f.1 ≤ g.1 then f :: g :: gs else g :: insertField f gs

mutual

/-- The value with the keys of every object in order. -/
def sortKeys : Value → Value
  | .arr xs => .arr (sortElems xs)
  | .obj fs => .obj (sortFields fs)
  | .null => .null
  | .bool b => .bool b
  | .num m p => .num m p
  | .str s => .str s

def sortElems : List Value → List Value
  | [] => []
  | x :: xs => sortKeys x :: sortElems xs

def sortFields : List (String × Value) → List (String × Value)
  | [] => []
  | (k, x) :: fs => insertField (k, sortKeys x) (sortFields fs)

end

/-- `canonical_json`. -/
def canonicalJson (x : Value) : String := String.ofList (write false (sortKeys x))

/-- `json.dumps` without spaces. -/
def dumps (x : Value) : String := String.ofList (write true x)

/-! ### Reading -/

def skipWs : List Char → List Char
  | c :: cs => if c = ' ' ∨ c = '\t' ∨ c = '\n' ∨ c = '\r' then skipWs cs else c :: cs
  | [] => []

def hexVal (c : Char) : Option ℕ :=
  if '0' ≤ c ∧ c ≤ '9' then some (c.toNat - 48)
  else if 'a' ≤ c ∧ c ≤ 'f' then some (c.toNat - 87)
  else if 'A' ≤ c ∧ c ≤ 'F' then some (c.toNat - 55)
  else none

def hex4 (a b c d : Char) : Option ℕ := do
  let a ← hexVal a
  let b ← hexVal b
  let c ← hexVal c
  let d ← hexVal d
  return 4096 * a + 256 * b + 16 * c + d

def unescape (c : Char) : Option Char :=
  if c = '"' then some '"' else if c = '\\' then some '\\' else if c = '/' then some '/'
  else if c = 'b' then some '\x08' else if c = 'f' then some '\x0c'
  else if c = 'n' then some '\n' else if c = 'r' then some '\r'
  else if c = 't' then some '\t' else none

/-- The characters up to the closing quote. -/
def readStr : List Char → Option (List Char × List Char)
  | [] => none
  | '"' :: cs => some ([], cs)
  | '\\' :: 'u' :: a :: b :: c :: d :: cs =>
    match hex4 a b c d with
    | none => none
    | some hi =>
      if 0xD800 ≤ hi ∧ hi < 0xDC00 then
        -- a high surrogate is read together with the low one after it
        match cs with
        | '\\' :: 'u' :: a' :: b' :: c' :: d' :: cs =>
          match hex4 a' b' c' d' with
          | none => none
          | some lo =>
            if 0xDC00 ≤ lo ∧ lo < 0xE000 then
              (readStr cs).map fun r =>
                (Char.ofNat (0x10000 + (hi - 0xD800) * 1024 + (lo - 0xDC00)) :: r.1, r.2)
            else none
        | _ => none
      else if 0xDC00 ≤ hi ∧ hi < 0xE000 then none
      else (readStr cs).map fun r => (Char.ofNat hi :: r.1, r.2)
  | '\\' :: c :: cs => do
    let x ← unescape c
    let r ← readStr cs
    return (x :: r.1, r.2)
  | c :: cs => if c.toNat < 32 then none else (readStr cs).map fun r => (c :: r.1, r.2)

def readDigits : List Char → List Char × List Char
  | c :: cs => if c.isDigit then (c :: (readDigits cs).1, (readDigits cs).2) else ([], c :: cs)
  | [] => ([], [])

/-- The digits before the point: a zero, or digits that do not begin with one. -/
def readInt : List Char → Option (List Char × List Char)
  | '0' :: cs => some (['0'], cs)
  | cs => if (readDigits cs).1 = [] then none else some (readDigits cs)

/-- The digits after a point, if there are some. -/
def readFrac : List Char → List Char × List Char
  | '.' :: cs => if (readDigits cs).1 = [] then ([], '.' :: cs) else readDigits cs
  | cs => ([], cs)

def readExp (cs : List Char) : Option (ℤ × List Char) :=
  match cs with
  | c :: cs =>
    if c = 'e' ∨ c = 'E' then
      let (neg, cs) := match cs with
        | '-' :: cs => (true, cs)
        | '+' :: cs => (false, cs)
        | cs => (false, cs)
      if (readDigits cs).1 = [] then none
      else
        let n : ℤ := Nat.ofDigitChars 10 (readDigits cs).1 0
        some (if neg then -n else n, (readDigits cs).2)
    else none
  | [] => none

/-- A number without its sign, as a decimal. -/
def readNat (cs : List Char) : Option ((ℕ × ℕ) × List Char) := do
  let (ds, cs) ← readInt cs
  let (fs, cs) := readFrac cs
  let m := Nat.ofDigitChars 10 (ds ++ fs) 0
  match readExp cs with
  | some (e, cs) =>
    let places := max 1 (fs.length - e)
    return ((m * 10 ^ (places - (fs.length - e)).toNat, places.toNat), cs)
  | none => return ((m, fs.length), cs)

mutual

def readVal : ℕ → List Char → Option (Value × List Char)
  | 0, _ => none
  | n + 1, cs =>
    match cs with
    | 'n' :: 'u' :: 'l' :: 'l' :: cs => some (.null, cs)
    | 't' :: 'r' :: 'u' :: 'e' :: cs => some (.bool true, cs)
    | 'f' :: 'a' :: 'l' :: 's' :: 'e' :: cs => some (.bool false, cs)
    | '"' :: cs => (readStr cs).map fun r => (.str (String.ofList r.1), r.2)
    | '[' :: cs =>
      match skipWs cs with
      | ']' :: cs => some (.arr [], cs)
      | cs => do
        let (x, cs) ← readVal n cs
        let (xs, cs) ← readElems n (skipWs cs)
        return (.arr (x :: xs), cs)
    | '\x7b' :: cs =>
      match skipWs cs with
      | '\x7d' :: cs => some (.obj [], cs)
      | cs => do
        let (f, cs) ← readField n cs
        let (fs, cs) ← readFields n (skipWs cs)
        return (.obj (f :: fs), cs)
    | '-' :: cs => (readNat cs).map fun r => (.num (-r.1.1) r.1.2, r.2)
    | cs => (readNat cs).map fun r => (.num r.1.1 r.1.2, r.2)

def readElems : ℕ → List Char → Option (List Value × List Char)
  | 0, _ => none
  | n + 1, cs =>
    match cs with
    | ']' :: cs => some ([], cs)
    | ',' :: cs => do
      let (x, cs) ← readVal n (skipWs cs)
      let (xs, cs) ← readElems n (skipWs cs)
      return (x :: xs, cs)
    | _ => none

def readField : ℕ → List Char → Option ((String × Value) × List Char)
  | 0, _ => none
  | n + 1, cs =>
    match cs with
    | '"' :: cs => do
      let (k, cs) ← readStr cs
      match skipWs cs with
      | ':' :: cs => (readVal n (skipWs cs)).map fun r => ((String.ofList k, r.1), r.2)
      | _ => none
    | _ => none

def readFields : ℕ → List Char → Option (List (String × Value) × List Char)
  | 0, _ => none
  | n + 1, cs =>
    match cs with
    | '\x7d' :: cs => some ([], cs)
    | ',' :: cs => do
      let (f, cs) ← readField n (skipWs cs)
      let (fs, cs) ← readFields n (skipWs cs)
      return (f :: fs, cs)
    | _ => none

end

/-- `json.loads`; `none` where it raises. -/
def loads (s : String) : Option Value := do
  let (x, cs) ← readVal (s.length + 1) (skipWs s.toList)
  if skipWs cs = [] then return x else none

/-! ### Python on values -/

namespace Value

/-- `dict(x)` of an object. -/
def fields : Value → Option (List (String × Value))
  | .obj fs => some fs
  | _ => none

/-- The elements of a list. -/
def elems : Value → Option (List Value)
  | .arr xs => some xs
  | _ => none

def text : Value → Option String
  | .str s => some s
  | _ => none

def textOrNull : Value → Option (Option String)
  | .null => some none
  | .str s => some (some s)
  | _ => none

/-- `int(x)` of a number. -/
def toInt : Value → Option ℤ
  | .num m p => some (m.tdiv (10 ^ p))
  | .bool b => some (if b then 1 else 0)
  | _ => none

/-- `float(x)` of a number. -/
def toReal : Value → Option ℚ
  | .num m p => some ((m : ℚ) / 10 ^ p)
  | .bool b => some (if b then 1 else 0)
  | _ => none

/-- `bool(x)`. -/
def truthy : Value → Bool
  | .null => false
  | .bool b => b
  | .num m _ => m != 0
  | .str s => s != ""
  | .arr xs => !xs.isEmpty
  | .obj fs => !fs.isEmpty

/-- `x or d`. -/
def orElse (x d : Value) : Value := if x.truthy then x else d

end Value

lemma orElse_num (m : ℤ) : (Value.num m 0).orElse (.num 0 0) = .num m 0 := by
  by_cases h : m = 0 <;> simp [Value.orElse, Value.truthy, h]

lemma orElse_str (s : String) : (Value.str s).orElse (.str "") = .str s := by
  by_cases h : s = "" <;> simp [Value.orElse, Value.truthy, h]

/-- A value that counts is taken as it is. -/
lemma orElse_of_truthy {x : Value} (h : x.truthy) (d : Value) : x.orElse d = x := if_pos h

/-- `d.get(k, default)`: of a repeated key the last value counts. -/
def getD (fs : List (String × Value)) (k : String) (default : Value) : Value :=
  ((fs.reverse.find? fun f => f.1 = k).map Prod.snd).getD default

/-- `d.get(k)`. -/
def get (fs : List (String × Value)) (k : String) : Value := getD fs k .null

/-! ### Reading what was written: numbers -/

section Numbers

variable {ds r : List Char} {n p : ℕ}

lemma isDigit_of_mem_pad {c : Char} (h : c ∈ pad p n) : c.isDigit := by
  rcases List.mem_append.mp h with h | h
  · obtain rfl := (List.mem_replicate.mp h).2
    decide
  · exact Nat.isDigit_of_mem_toDigits (by decide) (by decide) h

lemma pad_ne_nil : pad p n ≠ [] := by simp [pad]

lemma length_pad (hp : 0 < p) (hn : n < 10 ^ p) : (pad p n).length = p := by
  have h := (Nat.length_toDigits_le_iff (by decide) hp).mpr hn
  simp only [pad, List.length_append, List.length_replicate]
  omega

lemma ofDigitChars_pad (hp : 0 < p) (hn : n < 10 ^ p) (m : ℕ) :
    Nat.ofDigitChars 10 (pad p n) m = 10 ^ p * m + n := by
  rw [Nat.ofDigitChars_eq_ofDigitChars_zero, length_pad hp hn, pad, Nat.ofDigitChars_append,
    Nat.ofDigitChars_replicate_zero, Nat.mul_zero, Nat.ofDigitChars_ten_toDigits]

lemma readDigits_append (hds : ∀ c ∈ ds, c.isDigit) (hr : ∀ c ∈ r.head?, c.isDigit = false) :
    readDigits (ds ++ r) = (ds, r) := by
  induction ds with
  | nil =>
    cases r with
    | nil => rfl
    | cons c cs => simp [readDigits, hr c rfl]
  | cons c ds ih =>
    simp [readDigits, hds c List.mem_cons_self, ih fun x hx => hds x (List.mem_cons_of_mem _ hx)]

/-- A positive number is not written with a leading zero. -/
lemma toDigits_head (n : ℕ) (hn : 0 < n) : ∀ c ∈ (Nat.toDigits 10 n).head?, c ≠ '0' := by
  induction n using Nat.strong_induction_on with
  | _ n ih =>
    by_cases hlt : n < 10
    · rw [Nat.toDigits_of_lt_base hlt]
      interval_cases n <;> simp [Nat.digitChar]
    · rw [Nat.toDigits_of_base_le (by decide) (by omega), List.head?_append_of_ne_nil _
        Nat.toDigits_ne_nil]
      exact ih (n / 10) (by omega) (by omega)

lemma readInt_toDigits (hr : ∀ c ∈ r.head?, c.isDigit = false) :
    readInt (Nat.toDigits 10 n ++ r) = some (Nat.toDigits 10 n, r) := by
  rcases Nat.eq_zero_or_pos n with rfl | hn
  · simp [Nat.toDigits_zero, readInt]
  · have hd : readDigits (Nat.toDigits 10 n ++ r) = (Nat.toDigits 10 n, r) :=
      readDigits_append (fun c hc => Nat.isDigit_of_mem_toDigits (by decide) (by decide) hc) hr
    have hne : Nat.toDigits 10 n ≠ [] := Nat.toDigits_ne_nil
    have hh := toDigits_head n hn
    cases hcs : Nat.toDigits 10 n with
    | nil => exact absurd hcs hne
    | cons c cs =>
      rw [hcs] at hd hh
      have hc : c ≠ '0' := hh c rfl
      rw [List.cons_append] at hd ⊢
      rw [readInt.eq_def]
      split
      · simp_all
      · simp [hd]

/-- What ends a number: no digit, no point and no exponent. -/
def NumEnd (r : List Char) : Prop :=
  ∀ c ∈ r.head?, c.isDigit = false ∧ c ≠ '.' ∧ c ≠ 'e' ∧ c ≠ 'E'

lemma readExp_end (hr : NumEnd r) : readExp r = none := by
  cases r with
  | nil => rfl
  | cons c cs =>
    obtain ⟨-, -, he, hE⟩ := hr c rfl
    simp [readExp, he, hE]

lemma readFrac_end (hr : NumEnd r) : readFrac r = ([], r) := by
  cases r with
  | nil => rfl
  | cons c cs =>
    obtain ⟨-, hp, -⟩ := hr c rfl
    rw [readFrac.eq_def]
    split
    · simp_all
    · rfl

lemma readNat_writeNat (hr : NumEnd r) : readNat (writeNat n p ++ r) = some ((n, p), r) := by
  have hd : ∀ c ∈ r.head?, c.isDigit = false := fun c hc => (hr c hc).1
  unfold writeNat
  split_ifs with hp
  · subst hp
    simp [readNat, readInt_toDigits hd, readFrac_end hr, readExp_end hr,
      Nat.ofDigitChars_ten_toDigits]
  · have hp : 0 < p := by omega
    have hlt : n % 10 ^ p < 10 ^ p := Nat.mod_lt _ (by positivity)
    have hfrac : readFrac ('.' :: (pad p (n % 10 ^ p) ++ r)) = (pad p (n % 10 ^ p), r) := by
      simp [readFrac, readDigits_append (fun c hc => isDigit_of_mem_pad hc) hd, pad_ne_nil]
    have hint : readInt (Nat.toDigits 10 (n / 10 ^ p) ++ '.' :: (pad p (n % 10 ^ p) ++ r)) =
        some (Nat.toDigits 10 (n / 10 ^ p), '.' :: (pad p (n % 10 ^ p) ++ r)) :=
      readInt_toDigits (by simp)
    have hval : Nat.ofDigitChars 10 (Nat.toDigits 10 (n / 10 ^ p) ++ pad p (n % 10 ^ p)) 0 = n := by
      rw [Nat.ofDigitChars_append, Nat.ofDigitChars_ten_toDigits, ofDigitChars_pad hp hlt]
      exact Nat.div_add_mod n (10 ^ p)
    simp [readNat, hint, hfrac, hval, readExp_end hr, length_pad hp hlt]

end Numbers

/-! ### Reading what was written: strings -/

lemma hexVal_hexDigit : ∀ d < 16, hexVal (hexDigit d) = some d := by decide

lemma hex4_hexDigit {n : ℕ} (hn : n < 65536) :
    hex4 (hexDigit (n / 4096)) (hexDigit (n / 256 % 16)) (hexDigit (n / 16 % 16))
      (hexDigit (n % 16)) = some n := by
  have h0 := hexVal_hexDigit (n / 4096) (by omega)
  have h1 := hexVal_hexDigit (n / 256 % 16) (by omega)
  have h2 := hexVal_hexDigit (n / 16 % 16) (by omega)
  have h3 := hexVal_hexDigit (n % 16) (by omega)
  simp only [hex4, h0, h1, h2, h3, Option.bind_eq_bind, Option.bind_some, Option.pure_def,
    Option.some.injEq]
  omega

/-- A code unit outside the surrogates is a character. -/
lemma readStr_escapeUnit {n : ℕ} (hn : n < 65536) (h : n < 0xD800 ∨ 0xE000 ≤ n)
    (cs : List Char) :
    readStr (escapeUnit n ++ cs) = (readStr cs).map fun r => (Char.ofNat n :: r.1, r.2) := by
  have hx := hex4_hexDigit hn
  have hlo : ¬ (0xD800 ≤ n ∧ n < 0xDC00) := by omega
  have hhi : ¬ (0xDC00 ≤ n ∧ n < 0xE000) := by omega
  simp [escapeUnit, readStr, hx, hlo, hhi]

/-- A surrogate pair is a character. -/
lemma readStr_escapeUnit_pair {hi lo : ℕ} (hhi : hi < 1024) (hlo : lo < 1024) (cs : List Char) :
    readStr (escapeUnit (0xD800 + hi) ++ (escapeUnit (0xDC00 + lo) ++ cs)) =
      (readStr cs).map fun r => (Char.ofNat (0x10000 + hi * 1024 + lo) :: r.1, r.2) := by
  have h₁ := hex4_hexDigit (n := 0xD800 + hi) (by omega)
  have h₂ := hex4_hexDigit (n := 0xDC00 + lo) (by omega)
  have hr₁ : 0xD800 ≤ 0xD800 + hi ∧ 0xD800 + hi < 0xDC00 := by omega
  have hr₂ : 0xDC00 ≤ 0xDC00 + lo ∧ 0xDC00 + lo < 0xE000 := by omega
  simp only [escapeUnit, List.cons_append, List.nil_append]
  rw [readStr]
  simp only [h₁, hr₁, and_self, if_true, h₂, hr₂, Nat.add_sub_cancel_left]

lemma readStr_escapeUnits (c : Char) (cs : List Char) :
    readStr (escapeUnits c ++ cs) = (readStr cs).map fun r => (c :: r.1, r.2) := by
  have hv : c.toNat < 0xD800 ∨ 0xDFFF < c.toNat ∧ c.toNat < 0x110000 := c.valid
  unfold escapeUnits
  split_ifs with h
  · rw [readStr_escapeUnit h (by omega), Char.ofNat_toNat]
  · have hc : 0x10000 + (c.toNat - 0x10000) / 1024 * 1024 + (c.toNat - 0x10000) % 1024 =
        c.toNat := by omega
    rw [List.append_assoc, readStr_escapeUnit_pair (by omega) (by omega), hc, Char.ofNat_toNat]

variable {ascii : Bool}

lemma readStr_escape (c : Char) (cs : List Char) :
    readStr (escape ascii c ++ cs) = (readStr cs).map fun r => (c :: r.1, r.2) := by
  unfold escape
  split_ifs with h1 h2 h3 h4 h5 h6 h7 h8
  iterate 7
    · subst_vars
      cases h : readStr cs <;> simp [readStr, unescape, h]
  · exact readStr_escapeUnits c cs
  · rw [List.singleton_append, readStr.eq_def]
    split <;> simp_all

lemma readStr_flatMap (cs r : List Char) :
    readStr (cs.flatMap (escape ascii) ++ '"' :: r) = some (cs, r) := by
  induction cs with
  | nil => simp [readStr]
  | cons c cs ih => simp [List.append_assoc, readStr_escape, ih]

/-! ### Reading what was written: values -/

mutual

def size : Value → ℕ
  | .arr (x :: xs) => 1 + size x + sizeElems xs
  | .obj ((_, x) :: fs) => 2 + size x + sizeFields fs
  | _ => 1

def sizeElems : List Value → ℕ
  | [] => 1
  | x :: xs => 1 + size x + sizeElems xs

def sizeFields : List (String × Value) → ℕ
  | [] => 1
  | (_, x) :: fs => 2 + size x + sizeFields fs

end

lemma length_writeNum_pos (m : ℤ) (p : ℕ) : 0 < (writeNum m p).length := by
  unfold writeNum writeNat
  split_ifs <;> simp [Nat.length_toDigits_pos]

mutual

lemma size_le : ∀ x : Value, size x ≤ (write ascii x).length
  | .null | .bool true | .bool false | .str s | .arr [] | .obj [] => by
    simp [size, write, writeStr]
  | .num m p => by
    have h := length_writeNum_pos m p
    simp only [size, write]
    omega
  | .arr (x :: xs) => by
    have hx := size_le x
    have hxs := sizeElems_le xs
    simp only [size, write, List.length_cons, List.length_append]
    omega
  | .obj ((k, x) :: fs) => by
    have hx := size_le x
    have hfs := sizeFields_le fs
    simp only [size, write, writeStr, List.length_cons, List.length_append]
    omega

lemma sizeElems_le : ∀ xs : List Value, sizeElems xs ≤ (writeElems ascii xs).length
  | [] => by simp [sizeElems, writeElems]
  | x :: xs => by
    have hx := size_le x
    have hxs := sizeElems_le xs
    simp only [sizeElems, writeElems, List.length_cons, List.length_append]
    omega

lemma sizeFields_le : ∀ fs : List (String × Value), sizeFields fs ≤ (writeFields ascii fs).length
  | [] => by simp [sizeFields, writeFields]
  | (k, x) :: fs => by
    have hx := size_le x
    have hfs := sizeFields_le fs
    simp only [sizeFields, writeFields, writeStr, List.length_cons, List.length_append]
    omega

end

lemma skipWs_cons {c : Char} (cs : List Char) (h : c ≠ ' ' ∧ c ≠ '\t' ∧ c ≠ '\n' ∧ c ≠ '\r') :
    skipWs (c :: cs) = c :: cs := by
  simp [skipWs, h]

/-- A value does not begin with a blank or a closing bracket. -/
def Opens (cs : List Char) : Prop :=
  ∃ c t, cs = c :: t ∧ (c ≠ ' ' ∧ c ≠ '\t' ∧ c ≠ '\n' ∧ c ≠ '\r') ∧ c ≠ ']'

lemma opens_cons {c : Char} {t : List Char}
    (h : (c ≠ ' ' ∧ c ≠ '\t' ∧ c ≠ '\n' ∧ c ≠ '\r') ∧ c ≠ ']') : Opens (c :: t) :=
  ⟨c, t, rfl, h⟩

lemma opens_digit {c : Char} {t : List Char} (h : c.isDigit) : Opens (c :: t) := by
  refine opens_cons ⟨⟨?_, ?_, ?_, ?_⟩, ?_⟩ <;> (rintro rfl; revert h; decide)

lemma Opens.skipWs {cs : List Char} (h : Opens cs) (r : List Char) :
    skipWs (cs ++ r) = cs ++ r := by
  obtain ⟨c, t, rfl, hc, -⟩ := h
  exact skipWs_cons _ hc

/-- The digits of a number, taken apart. -/
lemma writeNat_cons (n p : ℕ) : ∃ c t, writeNat n p = c :: t ∧ c.isDigit := by
  have hpos : ∀ k, ∃ c t, Nat.toDigits 10 k = c :: t ∧ c.isDigit := by
    intro k
    cases h : Nat.toDigits 10 k with
    | nil => exact absurd h Nat.toDigits_ne_nil
    | cons c t =>
      exact ⟨c, t, rfl, Nat.isDigit_of_mem_toDigits (b := 10) (n := k) (by decide) (by decide)
        (h ▸ List.mem_cons_self)⟩
  unfold writeNat
  split_ifs
  · exact hpos n
  · obtain ⟨c, t, h, hc⟩ := hpos (n / 10 ^ p)
    exact ⟨c, _, by rw [h, List.cons_append], hc⟩

lemma opens_write (ascii : Bool) : ∀ x : Value, Opens (write ascii x)
  | .null | .bool true | .bool false | .str _ | .arr [] | .arr (_ :: _) | .obj []
  | .obj ((_, _) :: _) => by
    simp only [write, writeStr]
    exact opens_cons (by decide)
  | .num m p => by
    simp only [write, writeNum]
    split_ifs
    · exact opens_cons (by decide)
    · obtain ⟨c, t, h, hc⟩ := writeNat_cons m.natAbs p
      exact h ▸ opens_digit hc

lemma readVal_digits {c : Char} {t : List Char} (hc : c.isDigit) (n : ℕ) :
    readVal (n + 1) (c :: t) = (readNat (c :: t)).map fun r => (.num r.1.1 r.1.2, r.2) := by
  rw [readVal.eq_def]
  dsimp only
  split <;> simp_all

lemma readVal_writeNum (m : ℤ) (p : ℕ) (n : ℕ) {r : List Char} (hr : NumEnd r) :
    readVal (n + 1) (writeNum m p ++ r) = some (.num m p, r) := by
  unfold writeNum
  split_ifs with hm
  · have hneg : -|m| = m := by rw [abs_of_neg hm, neg_neg]
    simp [readVal, readNat_writeNat hr, hneg]
  · have habs : ((m.natAbs : ℕ) : ℤ) = m := by omega
    have h := readNat_writeNat (n := m.natAbs) (p := p) hr
    obtain ⟨c, t, ht, hc⟩ := writeNat_cons m.natAbs p
    rw [ht] at h ⊢
    rw [List.cons_append] at h ⊢
    rw [readVal_digits hc, h]
    simp [habs]

lemma numEnd_cons {c : Char} (r : List Char) (h : c = ',' ∨ c = ']' ∨ c = '\x7d') :
    NumEnd (c :: r) := by
  rintro c' ⟨⟩
  rcases h with rfl | rfl | rfl <;> decide

lemma numEnd_elems (xs : List Value) (r : List Char) : NumEnd (writeElems ascii xs ++ r) := by
  cases xs <;> exact numEnd_cons _ (by decide)

lemma numEnd_fields (fs : List (String × Value)) (r : List Char) :
    NumEnd (writeFields ascii fs ++ r) := by
  cases fs <;> exact numEnd_cons _ (by decide)

lemma skipWs_elems (xs : List Value) (r : List Char) :
    skipWs (writeElems ascii xs ++ r) = writeElems ascii xs ++ r := by
  cases xs <;> exact skipWs_cons _ (by decide)

lemma skipWs_fields (fs : List (String × Value)) (r : List Char) :
    skipWs (writeFields ascii fs ++ r) = writeFields ascii fs ++ r := by
  rcases fs with _ | ⟨⟨k, x⟩, fs⟩ <;> exact skipWs_cons _ (by decide)

mutual

/-- The reader takes off exactly what the writer put there. -/
theorem readVal_write : ∀ (x : Value) (n : ℕ) (r : List Char), size x ≤ n → NumEnd r →
    readVal n (write ascii x ++ r) = some (x, r)
  | x, 0, r, h, _ => by cases x with
      | arr xs => cases xs <;> simp [size] at h
      | obj fs => rcases fs with _ | ⟨⟨k, x⟩, fs⟩ <;> simp [size] at h
      | _ => simp [size] at h
  | .null, n + 1, r, _, _ | .bool true, n + 1, r, _, _ | .bool false, n + 1, r, _, _ => by
    simp [write, readVal]
  | .num m p, n + 1, r, _, hr => by
    rw [write]
    exact readVal_writeNum m p n hr
  | .str s, n + 1, r, _, _ => by simp [write, writeStr, readVal, readStr_flatMap]
  | .arr [], n + 1, r, _, _ => by simp [write, readVal, skipWs_cons]
  | .arr (x :: xs), n + 1, r, h, _ => by
    simp only [size] at h
    have hx := readVal_write x n (writeElems ascii xs ++ r) (by omega) (numEnd_elems xs r)
    have hxs := readElems_write xs n r (by omega)
    have hskip := (opens_write ascii x).skipWs (writeElems ascii xs ++ r)
    obtain ⟨c, t, hw, -, hc⟩ := opens_write ascii x
    rw [hw] at hx hskip
    simp only [write, List.cons_append, List.append_assoc, hw, readVal]
    rw [List.cons_append] at hskip hx
    rw [hskip]
    split
    · simp_all
    · simp [hx, skipWs_elems, hxs]
  | .obj [], n + 1, r, _, _ => by simp [write, readVal, skipWs_cons]
  | .obj ((k, x) :: fs), n + 1, r, h, _ => by
    simp only [size] at h
    have hf := readField_write k x n (writeFields ascii fs ++ r) (by omega) (numEnd_fields fs r)
    have hfs := readFields_write fs n r (by omega)
    simp only [write, writeStr, List.cons_append, List.append_assoc, List.nil_append,
      readVal] at hf ⊢
    rw [skipWs_cons _ (by decide)]
    simp [hf, skipWs_fields, hfs]

theorem readElems_write : ∀ (xs : List Value) (n : ℕ) (r : List Char), sizeElems xs ≤ n →
    readElems n (writeElems ascii xs ++ r) = some (xs, r)
  | xs, 0, r, h => by cases xs <;> simp [sizeElems] at h
  | [], n + 1, r, _ => by simp [writeElems, readElems]
  | x :: xs, n + 1, r, h => by
    simp only [sizeElems] at h
    have hx := readVal_write x n (writeElems ascii xs ++ r) (by omega) (numEnd_elems xs r)
    have hxs := readElems_write xs n r (by omega)
    simp [writeElems, readElems, (opens_write ascii x).skipWs, hx, skipWs_elems, hxs]

theorem readField_write : ∀ (k : String) (x : Value) (n : ℕ) (r : List Char), 1 + size x ≤ n →
    NumEnd r → readField n (writeStr ascii k ++ ':' :: (write ascii x ++ r)) = some ((k, x), r)
  | k, x, 0, r, h, _ => by omega
  | k, x, n + 1, r, h, hr => by
    have hx := readVal_write x n r (by omega) hr
    simp [writeStr, readField, readStr_flatMap, skipWs_cons, (opens_write ascii x).skipWs, hx]

theorem readFields_write : ∀ (fs : List (String × Value)) (n : ℕ) (r : List Char),
    sizeFields fs ≤ n → readFields n (writeFields ascii fs ++ r) = some (fs, r)
  | fs, 0, r, h => by rcases fs with _ | ⟨⟨k, x⟩, fs⟩ <;> simp [sizeFields] at h
  | [], n + 1, r, _ => by simp [writeFields, readFields]
  | (k, x) :: fs, n + 1, r, h => by
    simp only [sizeFields] at h
    have hf := readField_write k x n (writeFields ascii fs ++ r) (by omega) (numEnd_fields fs r)
    have hfs := readFields_write fs n r (by omega)
    have hskip : ∀ t, skipWs (writeStr ascii k ++ t) = writeStr ascii k ++ t :=
      fun t => skipWs_cons _ (by decide)
    simp [writeFields, readFields, hskip, hf, skipWs_fields, hfs]

end

lemma loads_write (ascii : Bool) (x : Value) :
    loads (String.ofList (write ascii x)) = some x := by
  have hsize : size x ≤ (write ascii x).length + 1 := (size_le x).trans (Nat.le_succ _)
  have h : readVal _ (write ascii x ++ []) = some (x, []) :=
    readVal_write x _ [] hsize (by simp [NumEnd])
  have hskip := (opens_write ascii x).skipWs []
  rw [List.append_nil] at h hskip
  simp [loads, hskip, h, skipWs]

/-- **Reading inverts writing**, up to the order of the keys. -/
theorem loads_canonicalJson (x : Value) : loads (canonicalJson x) = some (sortKeys x) :=
  loads_write false (sortKeys x)

/-- **Reading inverts writing.** -/
theorem loads_dumps (x : Value) : loads (dumps x) = some x := loads_write true x

end OnAir.Json
