import OnAir.JsonDict
import OnAir.Runs
import OnAir.Table

/-!
`AuditChain`: hash-linked records of what operators and services did.

The keys of a payload are sorted as Python compares them and written as texts. Where a record is
verified, its payload is read back, and its keys are texts by then.
-/

namespace OnAir.AuditChain

open Json Runs OnAir.Table

/-! ### Payloads -/

/-- A key of a dictionary that `json.dumps` takes; a number without places is an integer. -/
inductive Key
  | str (s : String)
  | num (m : ℤ) (places : ℕ)
  | bool (b : Bool)
  | none
  deriving DecidableEq

inductive PyValue
  | none
  | bool (b : Bool)
  | num (m : ℤ) (places : ℕ)
  | str (s : String)
  | list (xs : List PyValue)
  | dict (items : List (Key × PyValue))

/-- The number under which a key is compared. -/
def Key.value : Key → Option ℚ
  | .num m places => some ((m : ℚ) / 10 ^ places)
  | .bool b => some (if b then 1 else 0)
  | _ => Option.none

/-- `a <= b`; there is no order between a text and a number. -/
def Key.le : Key → Key → Option Bool
  | .str a, .str b => some (a ≤ b)
  | a, b => do
    let x ← a.value
    let y ← b.value
    return x ≤ y

def Key.text : Key → String
  | .str s => s
  | .num m places => String.ofList (writeNum m places)
  | .bool true => "true"
  | .bool false => "false"
  | .none => "null"

def insertItem (f : Key × Value) : List (Key × Value) → Option (List (Key × Value))
  | [] => some [f]
  | g :: gs =>
    match f.1.le g.1 with
    | none => none
    | some true => some (f :: g :: gs)
    | some false => (insertItem f gs).map (g :: ·)

/-- `sorted(items)`. -/
def sortItems : List (Key × Value) → Option (List (Key × Value))
  | [] => some []
  | f :: fs => (sortItems fs).bind (insertItem f)

mutual

/-- What `json.dumps(…, sort_keys=True)` writes of a value. -/
def toJson : PyValue → Option Value
  | .none => some .null
  | .bool b => some (.bool b)
  | .num m places => some (.num m places)
  | .str s => some (.str s)
  | .list xs => (elemsToJson xs).map .arr
  | .dict items => do
    let sorted ← sortItems (← itemsToJson items)
    return .obj (sorted.map fun f => (f.1.text, f.2))

def elemsToJson : List PyValue → Option (List Value)
  | [] => some []
  | x :: xs => do return (← toJson x) :: (← elemsToJson xs)

def itemsToJson : List (Key × PyValue) → Option (List (Key × Value))
  | [] => some []
  | (k, x) :: items => do return (k, ← toJson x) :: (← itemsToJson items)

end

/-- `_canonical` of a value that was read from a text. -/
def canonical (x : Value) : String := canonicalJson (if x.truthy then x else .obj [])

/-- `json.loads` of the column `payload_json`. -/
def parsePayload (text : String) : Option Value :=
  (loads (if text = "" then "\x7b\x7d" else text)).map dedup

/-! ### The table -/

structure AuditRow where
  stationId : Option ℤ
  category : String
  action : String
  actorId : Option ℤ
  payloadJson : String
  previousHash : String
  entryHash : String
  createdAt : String
  deriving DecidableEq, Repr

/-- The arguments of `append`, and what the clock says. -/
structure Call where
  category : String
  action : String
  payload : Option (List (Key × PyValue))
  stationId : Option ℤ
  actorId : Option ℤ
  createdAt : String

/-- What `append` returns. -/
structure Appended where
  id : ℤ
  entryHash : String
  previousHash : String
  createdAt : String
  deriving DecidableEq, Repr

/-- `str(id)`, or nothing. -/
def idText : Option ℤ → String
  | none => ""
  | some n => String.ofList (writeNum n 0)

/-- The text under a hash. -/
def material (previous stationId category action actorId payload createdAt : String) : String :=
  previous ++ "|" ++ stationId ++ "|" ++ category ++ "|" ++ action ++ "|" ++ actorId ++ "|" ++
    payload ++ "|" ++ createdAt

lemma toList_material (previous stationId category action actorId payload createdAt : String) :
    (material previous stationId category action actorId payload createdAt).toList =
      previous.toList ++ '|' :: (stationId.toList ++ '|' :: (category.toList ++
        '|' :: (action.toList ++ '|' :: (actorId.toList ++ '|' :: (payload.toList ++
          '|' :: createdAt.toList))))) := by
  simp [material, String.toList_append]

/-- `payload or {}`, as it is written. -/
def Call.value (c : Call) : Option Value := toJson (.dict (c.payload.getD []))

/-- The text that `append` hashes. -/
def Call.hashed (c : Call) (previous : String) (payload : Value) : String :=
  material previous (idText c.stationId) (if c.category = "" then "operation" else c.category)
    (if c.action = "" then "unknown" else c.action) (idText c.actorId)
    (String.ofList (write false payload)) c.createdAt

/-- The text that `verify` hashes for a row. -/
def AuditRow.hashed (r : AuditRow) (previous : String) : Option String :=
  (parsePayload r.payloadJson).map fun x =>
    material previous (idText r.stationId) r.category r.action (idText r.actorId) (canonical x)
      r.createdAt

section Chain

variable (sha256 : String → String)

/-- `append`; a payload that has no text, or a hash that is in the table, is refused. -/
def append (c : Call) (t : Table AuditRow) : Option (Table AuditRow × Appended) := do
  let previous := ((rows t).getLast?.map (·.2.entryHash)).getD ""
  let payload ← c.value
  let entryHash := sha256 (c.hashed previous payload)
  if (rows t).any (·.2.entryHash = entryHash) then none
  else
    let row := ⟨c.stationId, c.category, c.action, c.actorId,
      String.ofList (write false payload), previous, entryHash, c.createdAt⟩
    return (t.insert (nextId t) row, ⟨nextId t, entryHash, previous, c.createdAt⟩)

/-- What `verify` returns. -/
inductive Verification
  | valid (count : ℕ) (head : String)
  | failed (count : ℕ) (failedId : ℤ)
  deriving DecidableEq, Repr

/-- The loop of `verify`: the last hash, or the row that fails. -/
def verifyFrom : String → List (ℤ × AuditRow) → Option (Except ℤ String)
  | previous, [] => some (.ok previous)
  | previous, (id, r) :: rest => do
    let expected := sha256 (← r.hashed previous)
    if r.previousHash ≠ previous || r.entryHash ≠ expected then return .error id
    else verifyFrom expected rest

def verify (t : Table AuditRow) : Option Verification :=
  (verifyFrom sha256 "" (rows t)).map fun
    | .ok head => .valid (rows t).length head
    | .error id => .failed (rows t).length id

/-- A call of `append`, with the last hash that was returned. -/
def step (s : Table AuditRow × String) (c : Call) : Option (Table AuditRow × String) :=
  (append sha256 c s.1).map fun r => (r.1, r.2.entryHash)

end Chain

end OnAir.AuditChain
