import Mathlib.Data.List.Sort
import OnAir.Json
import OnAir.WeakestPre

/-!
The media mirror: a synchronisation copies the tree of its source into a staged directory,
verifies the copy against the manifest of the source, and puts it in place of the destination,
which is kept under another name as long as that takes.

A synchronisation is a program over single operations on the disk, each of which may fail, and
the service may be killed between any two of them. An operation that fails may have been
done in part: a file may be half copied, and a directory half removed.
-/

namespace OnAir.MediaMirror

open Json Resumption Runs WeakestPre

abbrev Bytes := List UInt8

/-- The files of a directory with their relative paths, in the order of a walk. -/
abbrev Files := List (String × Bytes)

structure Item where
  path : String
  size : ℕ
  sha256 : String
  deriving DecidableEq, Repr

structure Manifest where
  root : String
  manifestHash : String
  itemCount : ℕ
  totalBytes : ℕ
  items : List Item
  deriving DecidableEq, Repr

structure Comparison where
  ready : Bool
  missing : List String
  changed : List String
  extra : List String
  actual : Manifest
  deriving DecidableEq, Repr

section Manifests

variable (sha256 : Bytes → String)

def itemOf (f : String × Bytes) : Item := ⟨f.1, f.2.length, sha256 f.2⟩

def Item.json (i : Item) : Value :=
  .obj [("path", .str i.path), ("size", .num i.size 0), ("sha256", .str i.sha256)]

/-- `manifest`. -/
def manifest (root : String) (t : Files) : Manifest :=
  let items := t.map (itemOf sha256)
  let canonical := dumps (sortKeys (.arr (items.map Item.json)))
  ⟨root, sha256 canonical.toUTF8.toList, items.length, (items.map (·.size)).sum, items⟩

/-- The entry of a path; of a path that occurs twice the last one counts. -/
def lookup (items : List Item) (path : String) : Option Item :=
  items.reverse.find? fun i => i.path = path

/-- `compare`. -/
def compareTo (expected : Manifest) (root : String) (t : Files) : Comparison :=
  let actual := manifest sha256 root t
  let paths := fun items : List Item => (items.map (·.path)).dedup.insertionSort (· ≤ ·)
  let missing := (paths expected.items).filter fun p => (lookup actual.items p).isNone
  let extra := (paths actual.items).filter fun p => (lookup expected.items p).isNone
  let changed := (paths expected.items).filter fun p => (lookup actual.items p).any fun i =>
    (lookup expected.items p).map (·.sha256) ≠ some i.sha256
  ⟨missing.isEmpty && changed.isEmpty, missing, changed, extra, actual⟩

/-- The tree is a full copy of what the manifest lists, and of nothing else. -/
def verifies (expected : Manifest) (t : Files) : Bool :=
  let comparison := compareTo sha256 expected "" t
  comparison.ready && comparison.extra.isEmpty

end Manifests

/-! ### The disk -/

inductive Raised
  | invalidSource
  | unsafePath
  | verificationFailed
  | os
  deriving DecidableEq, Repr

/-- The directories of a synchronisation beside its source. -/
inductive Place
  | destination
  | previous
  /-- its name is new in every synchronisation -/
  | staging
  deriving DecidableEq, Repr

def Place.root : Place → String
  | .destination => "media"
  | .previous => ".media.previous"
  | .staging => ".media.staging"

inductive Op : Type → Type
  /-- the source is a directory other than the destination -/
  | isUsable : Op Bool
  | manifestSource : Op (Except Raised Manifest)
  | makeStaging : Op (Except Raised Unit)
  | copy (item : Item) : Op (Except Raised Unit)
  | compareAt (p : Place) (expected : Manifest) : Op (Except Raised Comparison)
  | isThere (p : Place) : Op Bool
  | removeTree (p : Place) : Op (Except Raised Unit)
  | replace (source target : Place) : Op (Except Raised Unit)
  | discardStaging : Op Unit

/-- What the world answers to an operation. -/
structure Answer where
  /-- the operation goes well -/
  good : Bool
  /-- what the source holds at the moment -/
  source : Files
  /-- what an operation that fails leaves of the directory it works on -/
  left : Option Files
  deriving DecidableEq, Repr

abbrev Program := Prog Op Raised

structure Store where
  disk : Place → Option Files
  /-- the manifests that were taken of sources, the last one first -/
  taken : List Manifest

def setDisk (p : Place) (t : Option Files) (s : Store) : Store :=
  { s with disk := Function.update s.disk p t }

/-- `relative.is_absolute() or ".." in relative.parts`. -/
def isUnsafe (path : String) : Bool :=
  decide (path.toList.head? = some '/') || decide (['.', '.'] ∈ path.toList.splitOn '/')

/-- A walk yields each path once, and only paths below its root. -/
def isWalk (t : Files) : Bool :=
  decide (t.map (·.1)).Nodup && t.all fun f => !isUnsafe f.1

section Operations

variable (sha256 : Bytes → String)

/-- What an operation answers, and the disk after it. -/
def run : {β : Type} → Op β → Answer → Store → Option (β × Store)
  | _, .isUsable, w, s => some (w.good, s)
  | _, .manifestSource, w, s =>
    if !isWalk w.source then none
    else if w.good then
      let m := manifest sha256 "source" w.source
      some (.ok m, { s with taken := m :: s.taken })
    else some (.error .os, s)
  | _, .makeStaging, w, s =>
    if w.good then some (.ok (), setDisk .staging (some []) s) else some (.error .os, s)
  | _, .copy item, w, s =>
    match w.good, w.source.find? (·.1 = item.path) with
    | true, some f => some (.ok (), setDisk .staging ((s.disk .staging).map (· ++ [f])) s)
    | _, _ => some (.error .os, setDisk .staging w.left s)
  | _, .compareAt p expected, w, s =>
    if w.good then some (.ok (compareTo sha256 expected p.root ((s.disk p).getD [])), s)
    else some (.error .os, s)
  | _, .isThere p, _, s => some ((s.disk p).isSome, s)
  | _, .removeTree p, w, s =>
    if w.good then some (.ok (), setDisk p none s) else some (.error .os, setDisk p w.left s)
  | _, .replace source target, w, s =>
    if w.good ∧ (s.disk source).isSome ∧ (s.disk target).isNone then
      some (.ok (), setDisk source none (setDisk target (s.disk source) s))
    else some (.error .os, s)
  | _, .discardStaging, w, s => some ((), setDisk .staging (if w.good then none else w.left) s)

end Operations

/-! ### A synchronisation -/

def throwing {α : Type} (o : Op (Except Raised α)) : Program α := do
  match ← perform o with
  | .ok a => pure a
  | .error e => .raise e

def copyItems : List Item → Program Unit
  | [] => pure ()
  | item :: items => do
    if isUnsafe item.path then .raise .unsafePath
    else
      throwing (.copy item)
      copyItems items

def removeIfThere (p : Place) : Program Unit := do
  if ← perform (.isThere p) then throwing (.removeTree p) else pure ()

/-- The destination is moved out of the way, if it is there. -/
def setAside : Program Unit := do
  if ← perform (.isThere .destination) then throwing (.replace .destination .previous)
  else pure ()

/-- The staged tree comes in the place of the destination. -/
def promote : Program Unit := do
  removeIfThere .previous
  setAside
  throwing (.replace .staging .destination)
  removeIfThere .previous

def stageAndPromote (expected : Manifest) : Program Comparison := do
  copyItems expected.items
  let verified ← throwing (.compareAt .staging expected)
  if !verified.ready || !verified.extra.isEmpty then .raise .verificationFailed
  else
    promote
    throwing (.compareAt .destination expected)

/-- The `finally` of `synchronize`; errors are ignored. -/
def discard : Program Unit := do
  if ← perform (.isThere .staging) then perform .discardStaging else pure ()

/-- `synchronize`. -/
def synchronize : Program Comparison := do
  if ← perform .isUsable then
    let expected ← throwing .manifestSource
    throwing .makeStaging
    finallyDo (stageAndPromote expected) discard
  else .raise .invalidSource

/-! ### Runs -/

/-- A synchronisation in progress, and the destination that it found. -/
structure Call where
  found : Option Files
  program : Program Comparison

/-- A synchronisation that has come to its end. -/
structure Ended where
  found : Option Files
  result : Except Raised Comparison

structure State where
  store : Store
  call : Option Call
  /-- the synchronisation that ended last, unless another one has begun since -/
  ended : Option Ended

inductive Event
  | synchronize
  /-- the next operation of the synchronisation in progress -/
  | advance (w : Answer)
  /-- the service is killed -/
  | kill
  deriving DecidableEq, Repr

/-- A destination, and what an earlier synchronisation may have left beside it. -/
def start (destination : Files) (previous : Option Files) : State :=
  ⟨⟨fun p => match p with
    | .destination => some destination
    | .previous => previous
    | .staging => none, []⟩, none, none⟩

section Runs

variable (sha256 : Bytes → String)

def advance (s : State) (w : Answer) : Option State :=
  s.call.bind fun c =>
    (c.program.turn (run sha256) w s.store).map fun r =>
      match r.1 with
      | .pure a => ⟨r.2, none, some ⟨c.found, .ok a⟩⟩
      | .raise e => ⟨r.2, none, some ⟨c.found, .error e⟩⟩
      | .op o k => ⟨r.2, some { c with program := .op o k }, none⟩

def step (s : State) : Event → Option State
  | .synchronize =>
    if s.call.isSome then none
    else some ⟨setDisk .staging none s.store,
      some ⟨s.store.disk .destination, synchronize⟩, none⟩
  | .advance w => advance sha256 s w
  | .kill => if s.call.isSome then some { s with call := none } else none

end Runs

end OnAir.MediaMirror
