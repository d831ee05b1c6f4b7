import Mathlib.Algebra.Order.Ring.Rat
import Mathlib.Data.List.Sort
import Mathlib.Data.String.Basic
import OnAir.Resumption

/-!
The catalogues of the product folders: each product has a database with one generation of the files
in its folder.

A poll walks the folder, and waits until it has seen the same files twice and none of them is new.
It then writes a generation: in one transaction all items are replaced, and before it commits, the
folder is walked once more. A poll holds the lock of its product, so a product has one at a time. A
request for a rescan comes at any moment.
-/

namespace OnAir.ProductCatalog

open Resumption

/-- `PRODUCT_DIRECTORIES`. -/
inductive Product
  | broadcast
  | juke
  | voting
  | jingles
  | ads
  | emergency
  deriving DecidableEq, Repr

structure MediaFile where
  relativePath : String
  size : ℕ
  modifiedNs : ℤ
  deriving DecidableEq, Repr

inductive Status
  | bootReconcile
  | settling
  | watching
  | retryWait
  | syncing
  | queued
  deriving DecidableEq, Repr

structure ProductState where
  fingerprint : String
  stablePolls : ℕ
  syncedFingerprint : String
  status : Status
  fileCount : ℕ
  lastScanAt : ℚ
  lastSyncAt : ℚ
  generation : ℕ
  retryCount : ℕ
  nextRetryAt : ℚ
  errorCode : String
  lastGoodGeneration : ℕ
  forceRescan : Bool
  deriving DecidableEq, Repr

def ProductState.new : ProductState :=
  ⟨"", 0, "", .bootReconcile, 0, 0, 0, 0, 0, 0, "", 0, false⟩

/-- `ProductCatalogError` with its code, `sqlite3.OperationalError` with whether its text speaks of
a lock, `OSError` and other `sqlite3.Error`s, and the rest. -/
inductive Raised
  | catalog (code : String)
  | operational (locked : Bool)
  | databaseOrOs
  | other
  deriving DecidableEq, Repr

/-! ### The scan -/

/-- What walking a folder comes upon. -/
inductive Found
  | directory (reparse : Bool)
  | file (path : String) (reparse regular : Bool) (size : ℕ) (modifiedNs : ℤ)
  /-- it cannot be looked at -/
  | error (e : Raised)
  deriving DecidableEq, Repr

section Scan

-- `str.casefold`, `audio_upload_extensions` on a path, and `sha256(..).hexdigest`
variable (casefold : String → String) (supported : String → Bool) (hexdigest : String → String)
  (quietSeconds : ℚ)

def keyOf (file : MediaFile) : String := casefold file.relativePath

def scanFiles (now : ℚ) : List Found → List MediaFile → Bool → Except Raised (List MediaFile × Bool)
  | [], records, quiet => .ok (records, quiet)
  | .error e :: _, _, _ => .error e
  | .directory reparse :: found, records, quiet =>
    if reparse then .error (.catalog "media_path_unsafe") else scanFiles now found records quiet
  | .file path reparse regular size modifiedNs :: found, records, quiet =>
    if reparse then .error (.catalog "media_path_unsafe")
    else if !regular then scanFiles now found records quiet
    else if path = "." || "../".toList.isPrefixOf path.toList then
      .error (.catalog "media_path_unsafe")
    else if !supported path then scanFiles now found records quiet
    else if casefold path ∈ records.map (keyOf casefold) then
      .error (.catalog "media_path_case_collision")
    else
      scanFiles now found (records ++ [⟨path, size, modifiedNs⟩])
        (quiet && !decide (now - modifiedNs / 1000000000 < quietSeconds))

def encode (file : MediaFile) : String :=
  file.relativePath ++ "\x00" ++ file.size.repr ++ "\x00" ++ file.modifiedNs.repr ++ "\n"

/-- `records.sort(key=..)`. -/
def sortRecords (records : List MediaFile) : List MediaFile :=
  records.insertionSort fun a b => keyOf casefold a ≤ keyOf casefold b

/-- The fingerprint of some files. -/
def fingerprintOf (records : List MediaFile) : String :=
  hexdigest (String.join ((sortRecords casefold records).map encode))

structure Scanned where
  fingerprint : String
  records : List MediaFile
  quiet : Bool
  deriving DecidableEq, Repr

/-- `_scan`, from what the walk comes upon. -/
def scanned (now : ℚ) (found : List Found) : Except Raised Scanned := do
  let (records, quiet) ← scanFiles casefold supported quietSeconds now found [] true
  return ⟨fingerprintOf casefold hexdigest records, sortRecords casefold records, quiet⟩

end Scan

/-! ### The database -/

structure Meta where
  generation : ℕ
  fingerprint : String
  deriving DecidableEq, Repr

structure Item where
  file : MediaFile
  generation : ℕ
  deriving DecidableEq, Repr

/-- The two tables. A table that is not there yet is empty. -/
structure Database where
  catalogMeta : Option Meta
  catalogItems : List Item
  deriving DecidableEq, Repr

/-- How `COLLATE NOCASE` compares. -/
def nocase (path : String) : String := String.ofList (path.toList.map Char.toLower)

def insertItem (file : MediaFile) (generation : ℕ) (d : Database) : Except Raised Database :=
  if nocase file.relativePath ∈ d.catalogItems.map (nocase ·.file.relativePath) then
    .error .databaseOrOs
  else .ok { d with catalogItems := d.catalogItems ++ [⟨file, generation⟩] }

/-- Every version that was committed, the newest first, and what an open transaction has made of
it. -/
structure Store where
  versions : List Database
  transaction : Option Database
  deriving DecidableEq, Repr

def newest (versions : List Database) : Database := versions.headD ⟨none, []⟩

/-- A statement; without a transaction it is committed at once. -/
def execute (f : Database → Except Raised Database) (s : Store) : Except Raised Store :=
  match s.transaction with
  | some d => (f d).map fun d' => { s with transaction := some d' }
  | none => (f (newest s.versions)).map fun d' => { s with versions := d' :: s.versions }

/-! ### Operations -/

/-- What a service keeps of a product. -/
structure Shared where
  state : ProductState
  store : Store
  /-- a rescan was requested, and no synchronisation that began afterwards has succeeded -/
  pending : Bool
  /-- no rescan was requested since the last synchronisation began -/
  fresh : Bool
  deriving DecidableEq, Repr

/-- What the world answers: the operation goes well, it raises, or the walk of a folder comes upon
something at a time. -/
inductive Outcome
  | ok
  | raises (e : Raised)
  | walked (found : List Found) (now : ℚ)
  deriving DecidableEq, Repr

inductive Op : Type → Type
  /-- what may raise and changes neither the state nor the tables -/
  | attempt : Op (Except Raised Unit)
  | walk : Op (List Found × ℚ)
  | beginImmediate : Op (Except Raised Unit)
  | selectGeneration : Op (Except Raised (Option ℕ))
  | deleteItems : Op (Except Raised Unit)
  | insertItem (file : MediaFile) (generation : ℕ) : Op (Except Raised Unit)
  | upsertMeta (generation : ℕ) (fingerprint : String) : Op (Except Raised Unit)
  | commit : Op (Except Raised Unit)
  | rollback : Op Unit
  | close : Op Unit
  | selectMeta : Op (Except Raised (Option Meta))
  /-- sections under the lock of the states -/
  | delayed (now : ℚ) : Op Bool
  | observe (now : ℚ) (s : Scanned) : Op Bool
  | changed : Op Unit
  | synced (now : ℚ) (fingerprint : String) (generation : ℕ) : Op Unit
  | loaded (m : Meta) : Op Unit
  | markFailure (code : String) (now : ℚ) : Op Unit

abbrev Program := Prog Op Raised

/-- `_mark_failure`. -/
def markFailure (maxRetries : ℕ) (code : String) (now : ℚ) (state : ProductState) : ProductState :=
  let retryCount := state.retryCount + 1
  let rapid : ℚ := min 60 (2 ^ (retryCount - 1))
  { state with
    retryCount
    nextRetryAt := now + (if retryCount ≤ maxRetries then rapid else 300)
    status := .retryWait
    errorCode := code }

/-- What `poll_once` makes of a scan: the state, and whether a generation is to be written. -/
def observe (stablePolls : ℕ) (now : ℚ) (s : Scanned) (state : ProductState) :
    ProductState × Bool :=
  let state := { state with lastScanAt := now, fileCount := s.records.length }
  if s.fingerprint ≠ state.fingerprint then
    ({ state with
      fingerprint := s.fingerprint
      stablePolls := 1
      retryCount := 0
      nextRetryAt := 0
      errorCode := ""
      status := .settling }, false)
  else
    let state := { state with stablePolls := state.stablePolls + 1 }
    if !s.quiet || state.stablePolls < stablePolls then
      ({ state with status := .settling }, false)
    else if !state.forceRescan && s.fingerprint = state.syncedFingerprint then
      ({ state with status := .watching }, false)
    else if now < state.nextRetryAt then ({ state with status := .retryWait }, false)
    else ({ state with status := .syncing }, true)

/-- What `poll_once` notes after a generation was written. -/
def synced (now : ℚ) (fingerprint : String) (generation : ℕ) (state : ProductState) :
    ProductState :=
  { state with
    syncedFingerprint := fingerprint
    lastSyncAt := now
    generation
    lastGoodGeneration := generation
    retryCount := 0
    nextRetryAt := 0
    errorCode := ""
    forceRescan := false
    status := .watching }

/-- `request_rescan` for one product. -/
def requestRescan (s : Shared) : Shared :=
  { s with
    state := { s.state with
      forceRescan := true
      syncedFingerprint := ""
      stablePolls := 0
      retryCount := 0
      nextRetryAt := 0
      errorCode := ""
      status := .queued }
    pending := true
    fresh := false }

section Run

variable (stablePolls maxRetries : ℕ)

/-- A statement, and what it answers. -/
def executed (f : Database → Except Raised Database) (w : Outcome) (s : Shared) :
    Option (Except Raised Unit × Shared) :=
  match w with
  | .ok =>
    match execute f s.store with
    | .ok store => some (.ok (), { s with store })
    | .error e => some (.error e, s)
  | .raises e => some (.error e, s)
  | .walked _ _ => none

def run : {β : Type} → Op β → Outcome → Shared → Option (β × Shared)
  | _, .attempt, w, s =>
    match w with
    | .ok => some (.ok (), s)
    | .raises e => some (.error e, s)
    | .walked _ _ => none
  | _, .walk, w, s =>
    match w with
    | .walked found now => some ((found, now), s)
    | _ => none
  | _, .beginImmediate, w, s =>
    match w with
    | .ok =>
      if s.store.transaction.isSome then some (.error (.operational false), s)
      else some (.ok (), { s with store.transaction := some (newest s.store.versions) })
    | .raises e => some (.error e, s)
    | .walked _ _ => none
  | _, .selectGeneration, w, s =>
    match w with
    | .ok =>
      let d := s.store.transaction.getD (newest s.store.versions)
      some (.ok (d.catalogMeta.map (·.generation)), s)
    | .raises e => some (.error e, s)
    | .walked _ _ => none
  | _, .deleteItems, w, s => executed (fun d => .ok { d with catalogItems := [] }) w s
  | _, .insertItem file generation, w, s => executed (insertItem file generation) w s
  | _, .upsertMeta generation fingerprint, w, s =>
    executed (fun d => .ok { d with catalogMeta := some ⟨generation, fingerprint⟩ }) w s
  | _, .commit, w, s =>
    match w with
    | .ok =>
      match s.store.transaction with
      | some d => some (.ok (), { s with store := ⟨d :: s.store.versions, none⟩ })
      | none => some (.error (.operational false), s)
    | .raises e => some (.error e, s)
    | .walked _ _ => none
  | _, .rollback, w, s =>
    match w with
    | .ok => some ((), { s with store.transaction := none })
    | .raises _ => some ((), s)
    | .walked _ _ => none
  | _, .close, _, s => some ((), { s with store.transaction := none })
  | _, .selectMeta, w, s =>
    match w with
    | .ok => some (.ok (newest s.store.versions).catalogMeta, s)
    | .raises e => some (.error e, s)
    | .walked _ _ => none
  | _, .delayed now, _, s =>
    if s.state.errorCode ≠ "" ∧ now < s.state.nextRetryAt then
      some (true, { s with state.status := .retryWait })
    else some (false, s)
  | _, .observe now scan, _, s =>
    let r := observe stablePolls now scan s.state
    some (r.2, { s with state := r.1, fresh := r.2 || s.fresh })
  | _, .changed, _, s =>
    some ((), { s with state.stablePolls := 0, state.status := .settling, state.errorCode := "" })
  | _, .synced now fingerprint generation, _, s =>
    some ((), { s with
      state := synced now fingerprint generation s.state
      pending := s.pending && !s.fresh })
  | _, .loaded m, _, s =>
    some ((), { s with
      state.generation := m.generation
      state.lastGoodGeneration := m.generation
      state.syncedFingerprint := m.fingerprint })
  | _, .markFailure code now, _, s =>
    some ((), { s with state := markFailure maxRetries code now s.state })

end Run

/-! ### A poll -/

section Programs

variable (casefold : String → String) (supported : String → Bool) (hexdigest : String → String)
  (quietSeconds : ℚ)

def throwing {α : Type} (o : Op (Except Raised α)) : Program α := do
  match ← perform o with
  | .ok a => pure a
  | .error e => .raise e

/-- Paths are looked at and made, the lock of the file is taken, the database is opened, its tables
are made where they are missing, and its integrity is checked. -/
def attempt : Program Unit := throwing .attempt

/-- `_scan`, at a given time or at the time of the walk. -/
def scan (at? : Option ℚ) : Program Scanned := do
  let (found, now) ← perform .walk
  match scanned casefold supported hexdigest quietSeconds (at?.getD now) found with
  | .ok s => pure s
  | .error e => .raise e

def insertItems (generation : ℕ) : List MediaFile → Program Unit
  | [] => pure ()
  | file :: files => do
    throwing (.insertItem file generation)
    insertItems generation files

/-- The transaction of `_write_generation`, and what comes before it. -/
def writeTransaction (current : Scanned) : Program ℕ := do
  attempt
  attempt
  throwing .beginImmediate
  let before ← throwing .selectGeneration
  let generation := before.elim 1 (· + 1)
  throwing .deleteItems
  insertItems generation current.records
  throwing (.upsertMeta generation current.fingerprint)
  attempt
  let final ← scan casefold supported hexdigest quietSeconds none
  if !final.quiet || final.fingerprint ≠ current.fingerprint then
    .raise (.catalog "catalog_snapshot_changed")
  else
    attempt
    throwing .commit
    pure generation

/-- How `_write_generation` ends when its transaction has raised. -/
def abandon (e : Raised) : Program ℕ :=
  match e with
  | .catalog code => do
    perform .rollback
    perform .close
    .raise (.catalog code)
  | .operational locked => do
    perform .rollback
    perform .close
    .raise (.catalog (if locked then "catalog_database_busy" else "catalog_write_failed"))
  | .databaseOrOs => do
    perform .rollback
    perform .close
    .raise (.catalog "catalog_write_failed")
  | .other => do
    perform .close
    .raise .other

/-- What an `OSError` under the lock of the file becomes. -/
def underFileLock {α : Type} (e : Raised) : Program α :=
  .raise (if e = .databaseOrOs then .catalog "catalog_lock_busy" else e)

/-- `_write_generation`. -/
def writeGeneration (fingerprint : String) : Program ℕ := do
  attempt
  (do
    let current ← scan casefold supported hexdigest quietSeconds none
    if !current.quiet || current.fingerprint ≠ fingerprint then
      .raise (.catalog "catalog_snapshot_changed")
    else
      attempt
      let generation ←
        (writeTransaction casefold supported hexdigest quietSeconds current).tryCatch abandon
      perform .close
      pure generation).tryCatch underFileLock

/-- `poll_once` for one product. -/
def pollProduct (now : ℚ) : Program Unit := do
  if ← perform (.delayed now) then pure ()
  else
    let s ← scan casefold supported hexdigest quietSeconds (some now)
    if ← perform (.observe now s) then
      let written ← (do
        let generation ← writeGeneration casefold supported hexdigest quietSeconds s.fingerprint
        pure (some generation)).tryCatch fun e =>
          match e with
          | .catalog code =>
            if code = "catalog_snapshot_changed" then do
              perform .changed
              pure none
            else do
              perform (.markFailure code now)
              pure none
          | e => .raise e
      match written with
      | some generation => perform (.synced now s.fingerprint generation)
      | none => pure ()
    else pure ()

/-- What is raised for one product is noted, and the others are polled. -/
def noteFailure (otherCode : String) (now : ℚ) : Raised → Program Unit
  | .catalog code => perform (.markFailure code now)
  | _ => perform (.markFailure otherCode now)

def pollOnce (now : ℚ) : Program Unit :=
  (pollProduct casefold supported hexdigest quietSeconds now).tryCatch
    (noteFailure "catalog_worker_failed" now)

/-- `_load_existing_catalog`, with `None` for a database that is not there. -/
def loadExistingCatalog (there : Bool) : Program (Option Meta) := do
  attempt
  if there then
    (do
      attempt
      throwing .selectMeta).tryCatch fun e =>
        match e with
        | .operational _ => .raise (.catalog "catalog_boot_check_failed")
        | e => .raise e
  else pure none

/-- `_load_existing_catalogs` for one product. -/
def loadExisting (there : Bool) (now : ℚ) : Program Unit :=
  (do
    match ← loadExistingCatalog there with
    | some m => if m.generation = 0 then pure () else perform (.loaded m)
    | none => pure ()).tryCatch (noteFailure "catalog_boot_check_failed" now)

end Programs

/-! ### Runs -/

/-- What the service has for a product, and the poll or the boot check that holds its lock. -/
structure Machine where
  shared : Shared
  program : Option (Program Unit)

def Machine.new : Machine := ⟨⟨.new, ⟨[], none⟩, false, true⟩, none⟩

inductive Event
  | poll (now : ℚ)
  | loadExisting (there : Bool) (now : ℚ)
  | requestRescan
  /-- the next operation of the poll or the boot check -/
  | advance (w : Outcome)
  /-- the service ends at any moment, and another one is started -/
  | restart
  deriving DecidableEq, Repr

section Runs

variable (casefold : String → String) (supported : String → Bool) (hexdigest : String → String)
  (quietSeconds : ℚ) (stablePolls maxRetries : ℕ)

/-- What another service finds: a transaction that was open is gone. -/
def restarted (s : Shared) : Shared := ⟨.new, ⟨s.store.versions, none⟩, false, true⟩

def advance (m : Machine) (w : Outcome) : Option Machine :=
  m.program.bind fun program =>
    (program.turn (run stablePolls maxRetries) w m.shared).map fun r =>
      ⟨r.2, if r.1.waits then some r.1 else none⟩

def stepProduct (m : Machine) : Event → Option Machine
  | .poll now =>
    if m.program.isSome then none
    else some { m with program := some (pollOnce casefold supported hexdigest quietSeconds now) }
  | .loadExisting there now =>
    if m.program.isSome then none else some { m with program := some (loadExisting there now) }
  | .requestRescan => some { m with shared := requestRescan m.shared }
  | .advance w => advance stablePolls maxRetries m w
  | .restart => some ⟨restarted m.shared, none⟩

/-- The products do not share anything. -/
abbrev State := Product → Machine

def initial : State := fun _ => .new

def step (s : State) (e : Product × Event) : Option State :=
  (stepProduct casefold supported hexdigest quietSeconds stablePolls maxRetries (s e.1) e.2).map
    fun m => Function.update s e.1 m

end Runs

end OnAir.ProductCatalog
