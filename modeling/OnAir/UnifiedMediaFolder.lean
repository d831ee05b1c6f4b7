import OnAir.Resumption

/-!
The unified media folder: a refresh links the files of its sources, and the files that operators
have dropped into a view, into a staged directory, and puts that in place of the view.

A refresh is a program over single operations on the disk, each of which may fail, and the
service may be killed between any two of them. What walking a source yields is part of the source
map, since sources may change between two refreshes.
-/

namespace OnAir.UnifiedMediaFolder

open Resumption Runs

/-- `VIEW_DIRECTORIES`. -/
inductive View
  | broadcast
  | jukeNonTurkish
  | voting
  | jingles
  | ads
  | emergency
  deriving DecidableEq, Repr

def viewDirectories : List View :=
  [.broadcast, .jukeNonTurkish, .voting, .jingles, .ads, .emergency]

/-- The parts of a relative path. -/
abbrev Path := List String

/-- `.replace("\\", "/")`. -/
def slashed (s : String) : String :=
  String.ofList (s.toList.map fun c => if c = '\\' then '/' else c)

def destinationOf (p : Path) : String := slashed ("/".intercalate p)

/-- A file of a directory. -/
structure File where
  path : Path
  inode : ℕ
  symlink : Bool
  /-- a refresh linked it from a source; no function asks for this -/
  linked : Bool
  deriving DecidableEq, Repr

/-- `_SourceSpec`, with the files that a walk of the source yields. -/
structure SourceSpec where
  files : List File
  destination : Path
  deriving DecidableEq, Repr

/-- A source map that was accepted: no view occurs twice. -/
structure SourceMap where
  views : List (View × List SourceSpec)
  nodup : (views.map (·.1)).Nodup

inductive Ownership
  | generated
  | operator
  deriving DecidableEq, Repr

/-- An entry of the manifest. -/
structure Entry where
  view : View
  destination : String
  ownership : Ownership
  deriving DecidableEq, Repr

/-- `UnifiedMediaFolderError` with its code, and `OSError`. -/
inductive Raised
  | media (code : String)
  | os
  deriving DecidableEq, Repr

/-- Where the directory of a view may be; all but the first are named after the run. -/
inductive Place
  | view
  | staged
  | backup
  | failed
  deriving DecidableEq, Repr

/-- What the disk does: the operation goes well, it fails, or it fails after it was done. -/
inductive Outcome
  | ok
  | failed
  | late
  deriving DecidableEq, Repr

inductive Op : Type → Type
  /-- something is created or looked at that is in no directory of a view -/
  | attempt (e : Raised) : Op (Except Raised Unit)
  | makeDirectory (p : Place) (v : View) (existOk : Bool) : Op (Except Raised Unit)
  | listView (v : View) : Op (Option (List File))
  | readManifest : Op (List Entry)
  /-- a hard link in the staged view, and its verification -/
  | link (v : View) (f : File) (e e' : Raised) : Op (Except Raised Unit)
  | isThere (p : Place) (v : View) : Op Bool
  | rename (source target : Place) (v : View) : Op (Except Raised Unit)
  | writeManifest (entries : List Entry) : Op (Except Raised Unit)
  | cleanupStaging : Op Unit

abbrev Program := Prog Op Raised

/-- A refresh in progress, and what loading the source map gave it. -/
structure Call where
  load : Except Raised SourceMap
  program : Program (View → ℕ)

structure Store where
  disk : Place → View → Option (List File)
  manifest : List Entry
  /-- the files that operators have placed and not removed -/
  placed : List (View × File)

structure State where
  store : Store
  call : Option Call
  /-- the source map of the last refresh, when it returned ok -/
  returned : Option SourceMap

def initial : State := ⟨⟨fun _ _ => none, [], []⟩, none, none⟩

section Operations

variable (s : Store)

def setDisk (p : Place) (v : View) (d : Option (List File)) : Store :=
  { s with disk := fun p' v' => if p' = p ∧ v' = v then d else s.disk p' v' }

/-- What an operation answers, and the state after it. -/
def run : {β : Type} → Op β → Outcome → Store → Option (β × Store)
  | _, .attempt e, w, s => some (if w = .ok then .ok () else .error e, s)
  | _, .makeDirectory p v existOk, w, s =>
    if w = .ok ∧ (s.disk p v).isNone then some (.ok (), setDisk s p v (some []))
    else if w = .ok ∧ existOk then some (.ok (), s)
    else some (.error .os, s)
  | _, .listView v, _, s => some (s.disk .view v, s)
  | _, .readManifest, _, s => some (s.manifest, s)
  | _, .link v f e e', w, s =>
    match w with
    | .ok => some (.ok (), setDisk s .staged v ((s.disk .staged v).map (· ++ [f])))
    | .failed => some (.error e, s)
    | .late => some (.error e', setDisk s .staged v ((s.disk .staged v).map (· ++ [f])))
  | _, .isThere p v, _, s => some ((s.disk p v).isSome, s)
  | _, .rename source target v, w, s =>
    if w = .ok ∧ (s.disk source v).isSome ∧ (s.disk target v).isNone then
      some (.ok (), setDisk (setDisk s target v (s.disk source v)) source v none)
    else some (.error .os, s)
  | _, .writeManifest entries, w, s =>
    match w with
    | .ok => some (.ok (), { s with manifest := entries })
    | .failed => some (.error .os, s)
    | .late => some (.error .os, { s with manifest := entries })
  | _, .cleanupStaging, _, s =>
    some ((), { s with disk := fun p v => if p = .staged then none else s.disk p v })

end Operations

/-! ### A refresh -/

section Programs

def throwing {α : Type} (o : Op (Except Raised α)) : Program α := do
  match ← perform o with
  | .ok a => pure a
  | .error e => .raise e

def attempt (e : Raised) : Program Unit := throwing (.attempt e)

/-- `_assert_same_volume`: both paths are looked at, and their devices compared. -/
def assertSameVolume : Program Unit := do
  attempt (.media "media_path_not_accessible")
  attempt (.media "media_path_on_other_volume")

def makeViews : List View → Program Unit
  | [] => pure ()
  | v :: vs => do
    throwing (.makeDirectory .view v true)
    makeViews vs

def ensureLayout : Program Unit := do
  attempt .os
  assertSameVolume
  makeViews viewDirectories
  attempt .os

def loadSourceMap (load : Except Raised SourceMap) : Program SourceMap :=
  match load with
  | .ok m => pure m
  | .error e => .raise e

-- `str.casefold`
variable (casefold : String → String)

def keyOf (e : Entry) : String := casefold (slashed e.destination)

def linkedTo (destination : Path) (f : File) : File :=
  ⟨destination ++ f.path, f.inode, false, true⟩

/-- The files of one source, and the entries of the view before them. -/
def stageSource (v : View) (destination : Path) : List File → List Entry → Program (List Entry)
  | [], entries => pure entries
  | f :: files, entries => do
    if f.symlink then .raise (.media "source_symlink_not_allowed")
    else
      let target := linkedTo destination f
      if casefold (destinationOf target.path) ∈ entries.map (casefold ·.destination) then
        .raise (.media "source_map_target_collision")
      else
        attempt .os
        assertSameVolume
        throwing (.link v target (.media "hardlink_publish_failed")
          (.media "hardlink_verification_failed"))
        stageSource v destination files (entries ++ [⟨v, destinationOf target.path, .generated⟩])

def buildStagedView (v : View) : List SourceSpec → List Entry → Program (List Entry)
  | [], entries => pure entries
  | spec :: specs, entries => do
    assertSameVolume
    let entries ← stageSource casefold v spec.destination spec.files entries
    buildStagedView v specs entries

/-- `_previous_generated_destinations`. -/
def previousGenerated (manifest : List Entry) (v : View) : List String :=
  (manifest.filter fun e => e.ownership = .generated ∧ e.view = v).map (keyOf casefold)

def carryFiles (v : View) (generated prior : List String) :
    List File → List Entry → Program (List Entry)
  | [], carried => pure carried
  | f :: files, carried => do
    if f.symlink then .raise (.media "source_symlink_not_allowed")
    else if casefold (destinationOf f.path) ∈ prior then
      carryFiles v generated prior files carried
    else if casefold (destinationOf f.path) ∈ generated then
      .raise (.media "operator_file_target_collision")
    else
      attempt .os
      assertSameVolume
      throwing (.link v f (.media "operator_hardlink_publish_failed")
        (.media "operator_hardlink_verification_failed"))
      carryFiles v generated prior files (carried ++ [⟨v, destinationOf f.path, .operator⟩])

def carryOperatorFiles (v : View) (generated prior : List String) : Program (List Entry) := do
  match ← perform (.listView v) with
  | none => pure []
  | some files =>
    assertSameVolume
    carryFiles casefold v generated prior files []

def stageViews (prior : View → List String) :
    List (View × List SourceSpec) → Program (List Entry)
  | [] => pure []
  | (v, specs) :: views => do
    throwing (.makeDirectory .staged v false)
    let generated ← buildStagedView casefold v specs []
    let operator ← carryOperatorFiles casefold v (generated.map (casefold ·.destination)) (prior v)
    let rest ← stageViews prior views
    pure (generated ++ operator ++ rest)

/-- `_exists`. -/
def pathExists (p : Place) (v : View) : Program Bool := perform (.isThere p v)

/-- `os.replace` of a directory that exists. -/
def replaceIfThere (source target : Place) (v : View) : Program Unit := do
  if ← pathExists source v then throwing (.rename source target v) else pure ()

/-- A view that was published is put back, as far as the disk allows. -/
def rollback : List View → Program Unit
  | [] => pure ()
  | v :: vs => do
    (do
      replaceIfThere .view .failed v
      replaceIfThere .backup .view v).tryCatch fun _ => pure ()
    rollback vs

def publishView (v : View) : Program Unit := do
  replaceIfThere .view .backup v
  throwing (.rename .staged .view v)

/-- `_publish_views`, with the views published before, the last one first. -/
def publishViews : List View → List View → Program Unit
  | _, [] => pure ()
  | published, v :: vs => do
    (publishView v).tryCatch fun _ => do
      rollback published
      .raise (.media "atomic_publish_failed")
    publishViews (v :: published) vs

def stageAndPublish (load : Except Raised SourceMap) : Program (List Entry) := do
  ensureLayout
  let map ← loadSourceMap load
  attempt .os
  attempt .os
  let manifest ← perform .readManifest
  let entries ← stageViews casefold (previousGenerated casefold manifest) map.views
  publishViews [] (map.views.map (·.1))
  pure entries

/-- What is raised when a refresh fails before it has published. -/
def failRefresh (e : Raised) : Program (List Entry) := do
  perform .cleanupStaging
  match e with
  | .media code => .raise (.media code)
  | .os => .raise (.media "media_refresh_failed")

/-- The answer is the number of files of each view. -/
def refresh (load : Except Raised SourceMap) : Program (View → ℕ) := do
  let entries ← (stageAndPublish casefold load).tryCatch failRefresh
  throwing (.writeManifest entries)
  perform .cleanupStaging
  pure fun v => (entries.filter fun e => e.view = v).length

end Programs

/-! ### Runs -/

inductive Event
  | refresh (load : Except Raised SourceMap)
  /-- the next operation of the refresh in progress -/
  | advance (w : Outcome)
  /-- the service is killed -/
  | crash
  /-- an operator places a file in a view -/
  | place (v : View) (path : Path) (inode : ℕ) (symlink : Bool)
  /-- an operator removes a file that operators have placed -/
  | remove (v : View) (path : Path)

section Runs

variable (casefold : String → String) (s : State)

def advance (w : Outcome) : Option State :=
  s.call.bind fun c =>
    (c.program.turn run w s.store).map fun r =>
      match r.1 with
      | .pure _ => ⟨r.2, none, c.load.toOption⟩
      | .raise _ => ⟨r.2, none, none⟩
      | .op o k => ⟨r.2, some { c with program := .op o k }, none⟩

/-- The directories of a run have names that no run had before. -/
def newRun (s : Store) : Store :=
  { s with disk := fun p v => if p = .view then s.disk p v else none }

def place (s : Store) (v : View) (f : File) : Option Store :=
  (s.disk .view v).bind fun d =>
    if f.path ∈ d.map (·.path) then none
    else some { setDisk s .view v (some (d ++ [f])) with placed := s.placed ++ [(v, f)] }

def remove (s : Store) (v : View) (path : Path) : Option Store :=
  (s.disk .view v).map fun d =>
    { setDisk s .view v (some (d.filter fun f => f.path ≠ path || f.linked)) with
      placed := s.placed.filter fun p => p.1 ≠ v || p.2.path ≠ path }

def step (s : State) : Event → Option State
  | .refresh load =>
    if s.call.isSome then none
    else some ⟨newRun s.store, some ⟨load, refresh casefold load⟩, none⟩
  | .advance w => advance s w
  | .crash => if s.call.isSome then some { s with call := none } else none
  | .place v path inode symlink =>
    if s.call.isSome then none
    else (place s.store v ⟨path, inode, symlink, false⟩).map fun t => { s with store := t }
  | .remove v path =>
    if s.call.isSome then none
    else (remove s.store v path).map fun t => { s with store := t }

end Runs

end OnAir.UnifiedMediaFolder
