import OnAir.RequestPermissions
import OnAir.ThreadPool

/-!
The program workspace of a station: its queue, the source it is played from, and the show that has
claimed it.

A claim is two rows of the station's settings. Calls that claim and release the workspace run on
connections of their own, statement by statement; a connection that has written and not committed
keeps every other one from writing.
-/

namespace OnAir.ProgramWorkspace

open PythonText RequestPermissions Resumption ThreadPool

/-! ### The rows -/

inductive Source
  | automation
  | host
  deriving DecidableEq, Repr

structure Claim where
  showId : ℤ
  userId : Option ℤ
  deriving DecidableEq, Repr

/-- An item of the queue, with the claim under which it was put there. -/
structure Item where
  trackId : ℤ
  under : Option Claim
  deriving DecidableEq, Repr

/-- The queue of the station and the rows `program_workspace_show_id`, `program_workspace_user_id`
and `program_queue_source` of its settings. -/
structure Workspace where
  showRow : Option ℤ
  userRow : Option ℤ
  items : List Item
  source : Option Source
  deriving DecidableEq, Repr

/-- `_get_program_workspace_claim`, of the two rows. -/
def claimOfRows : Option ℤ × Option ℤ → Option Claim
  | (none, none) => none
  | (showRow, userRow) =>
    let showId := showRow.getD 0
    let userId := userRow.getD 0
    if showId ≤ 0 then none else some ⟨showId, if 0 < userId then some userId else none⟩

namespace Workspace

variable (w : Workspace)

def claimRows : Option ℤ × Option ℤ := (w.showRow, w.userRow)

def claim : Option Claim := claimOfRows w.claimRows

def getSource : Source := w.source.getD .automation

end Workspace

/-! ### Statements -/

inductive Raised
  | http (status : ℕ) (detail : String)
  | database
  deriving DecidableEq, Repr

abbrev Answer := Except Raised

/-- The statements of the calls. -/
inductive Op : Type → Type
  /-- the show of the active session of the station -/
  | activeSession : Op (Answer (Option ℤ))
  /-- the station of a show -/
  | getShow (showId : ℤ) : Op (Answer (Option ℤ))
  | claimRows : Op (Answer (Option ℤ × Option ℤ))
  | listItems : Op (Answer (List Item))
  | getSource : Op (Answer Source)
  | deleteItems : Op (Answer Unit)
  | upsertSource (source : Source) : Op (Answer Unit)
  | upsertShow (showId : ℤ) : Op (Answer Unit)
  | upsertUser (userId : ℤ) : Op (Answer Unit)
  | deleteClaim : Op (Answer Unit)
  | commit : Op (Answer Unit)

abbrev Program := Prog Op Raised

/-- `cur.execute(…)`. -/
def execute {α : Type} (o : Op (Answer α)) : Program α := do
  match ← perform o with
  | .ok a => pure a
  | .error e => .raise e

/-! ### The functions -/

structure Account extends User where
  id : ℤ
  positive : 0 < id

def userHasShowPermission (u : User) (showId : ℤ) (key : String) : Bool :=
  key ∈ normalizePermissionValues (u.showPermissions[showId]?.getD [])

/-- `_user_is_station_admin`. -/
def userIsStationAdmin (u : User) : Bool := lower (trim u.role) = "admin" || isAdmin u

/-- The two permissions that give access to the workspace of a show. -/
def hasWorkspacePermission (u : User) (showId : ℤ) : Bool :=
  userHasShowPermission u showId "show.broadcast" ||
    userHasShowPermission u showId "show.queue_edit"

abbrev Snapshot := List Item × Source

/-- `_program_queue_snapshot`. -/
def programQueueSnapshot : Program Snapshot := do
  let items ← execute .listItems
  let source ← execute .getSource
  return (items, source)

/-- `_resolve_program_action_show_id`. -/
def resolveProgramActionShowId (stationId requestedId : ℤ) : Program ℤ := do
  match ← execute .activeSession with
  | some activeShowId =>
    if 0 < requestedId ∧ requestedId ≠ activeShowId then
      .raise (.http 409 "Active session belongs to a different show")
    else return activeShowId
  | none =>
    if requestedId ≤ 0 then
      .raise (.http 400 "show_id is required when no active show session exists")
    else
      match ← execute (.getShow requestedId) with
      | none => .raise (.http 404 "Show not found")
      | some station =>
        if station ≠ stationId then
          .raise (.http 400 "show_id does not belong to this station")
        else return requestedId

/-- `_set_program_workspace_claim`. -/
def setProgramWorkspaceClaim (showId userId : ℤ) : Program Unit := do
  execute (.upsertShow showId)
  execute (.upsertUser userId)
  execute .commit

/-- `_clear_program_workspace_claim`. -/
def clearProgramWorkspaceClaim : Program Unit := do
  execute .deleteClaim
  execute .commit

/-- `ProgramQueueRepository.clear`. -/
def clear : Program Unit := do
  execute .deleteItems
  execute .commit

/-- `ProgramQueueRepository.set_source`. -/
def setSource (source : Source) : Program Unit := do
  execute (.upsertSource source)
  execute .commit

def workspaceIdle (items : List Item) (source : Source) : Bool :=
  items = [] && source = .automation

/-- Whether a claim of the show `showId` by `u` may take the place of the one that was found. -/
def canReplaceClaim (u : Account) (showId : ℤ) (force : Bool) (claim : Option Claim)
    (idle : Bool) : Bool :=
  match claim with
  | none => true
  | some c => c.showId = showId || userIsStationAdmin u.toUser || c.userId.getD 0 = u.id ||
      idle || force

/-- The workspace is claimed once nothing is in the way. -/
def takeProgramWorkspace (u : Account) (showId : ℤ) (claim : Option Claim) : Program Snapshot := do
  if claim.map (·.showId) ≠ some showId then do
    clear
    setSource .automation
    setProgramWorkspaceClaim showId u.id
    programQueueSnapshot
  else do
    setProgramWorkspaceClaim showId u.id
    programQueueSnapshot

/-- `_claim_program_workspace`, from its permission check on. -/
def claimResolved (u : Account) (showId : ℤ) (force : Bool) : Program Snapshot := do
  match ← execute .activeSession with
  | some activeShowId =>
    if activeShowId ≠ showId then
      .raise (.http 409 "Another show is already active on this station")
    else do
      setProgramWorkspaceClaim showId u.id
      programQueueSnapshot
  | none =>
    let claim := claimOfRows (← execute .claimRows)
    let (items, source) ← programQueueSnapshot
    if canReplaceClaim u showId force claim (workspaceIdle items source) then
      takeProgramWorkspace u showId claim
    else .raise (.http 409 "Program workspace is currently claimed by another show")

/-- `_claim_program_workspace`. -/
def claimProgramWorkspace (u : Account) (stationId showId : ℤ) (force : Bool) :
    Program Snapshot := do
  let resolved ← resolveProgramActionShowId stationId showId
  if userIsStationAdmin u.toUser || hasWorkspacePermission u.toUser resolved then
    claimResolved u resolved force
  else .raise (.http 403 "Forbidden")

/-- `_release_program_workspace`, once a claim is found. -/
def releaseClaimed (u : Account) (showId : ℤ) (claim : Claim) : Program Snapshot :=
  if 0 < showId ∧ showId ≠ claim.showId then
    .raise (.http 409 "Program workspace is claimed by another show")
  else if !userIsStationAdmin u.toUser && !(claim.userId.getD 0 = u.id ||
      hasWorkspacePermission u.toUser claim.showId) then
    .raise (.http 403 "Forbidden")
  else do
    clear
    setSource .automation
    clearProgramWorkspaceClaim
    programQueueSnapshot

/-- `_release_program_workspace`; a `show_id` that is not given is 0. -/
def releaseProgramWorkspace (u : Account) (showId : ℤ) : Program Snapshot := do
  match ← execute .activeSession with
  | some _ => .raise (.http 409 "An active show session is using this station")
  | none =>
    match claimOfRows (← execute .claimRows) with
    | none => do
      clear
      setSource .automation
      programQueueSnapshot
    | some claim => releaseClaimed u showId claim

/-! ### Connections -/

inductive Kind
  | claim
  | release
  deriving DecidableEq, Repr

/-- A call of a user who is not an administrator, without `force`. -/
structure Call where
  kind : Kind
  user : Account
  showId : ℤ
  nonAdmin : userIsStationAdmin user.toUser = false

def Call.program (stationId : ℤ) (c : Call) : Program Snapshot :=
  match c.kind with
  | .claim => claimProgramWorkspace c.user stationId c.showId false
  | .release => releaseProgramWorkspace c.user c.showId

/-- What a call has done to the workspace. -/
inductive Write
  | cleared
  | claimed (showId : ℤ)
  | released
  deriving DecidableEq, Repr

/-- A write of a call, and the workspace as it stood at that moment. `found` is the workspace in
which the call read the claim, unless somebody else has written since. -/
structure Entry where
  call : ℕ
  write : Write
  before : Workspace
  found : Option Workspace
  deriving DecidableEq, Repr

/-- The database as far as the calls use it, the connection that is writing and what it has
written, and a record of calls, readings and writes. -/
structure State where
  session : Option ℤ
  shows : Table ℤ
  stored : Workspace
  tx : Option (ℕ × Workspace)
  calls : List (ℕ × Call)
  found : ℕ → Option Workspace
  log : List Entry

/-- No show session is active, and nobody has called. -/
def State.start (shows : Table ℤ) (w : Workspace) : State :=
  ⟨none, shows, w, none, [], fun _ => none, []⟩

variable (i : ℕ) (s : State)

/-- What connection `i` sees. -/
def State.view : Workspace :=
  match s.tx with
  | some (j, w) => if j = i then w else s.stored
  | none => s.stored

/-- A connection that wants to write waits for the one that is writing. -/
def State.mayWrite : Bool :=
  match s.tx with
  | some (j, _) => j = i
  | none => true

def State.write (f : Workspace → Workspace) : Option (Unit × State) :=
  if s.mayWrite i then some ((), { s with tx := some (i, f (s.view i)) }) else none

def State.logged (write : Write) : State :=
  { s with log := ⟨i, write, s.view i, s.found i⟩ :: s.log }

/-- What others have found is not what stands any more. -/
def State.commit : State :=
  match s.tx with
  | some (j, w) =>
    if j = i then
      { s with
        stored := w
        tx := none
        found := fun k => if k = i then s.found k else none }
    else s
  | none => s

/-- An exception ends the call, and its connection is closed. -/
def State.rollBack : State :=
  { s with tx := s.tx.filter (·.1 ≠ i) }

inductive World
  | runs
  | fails
  deriving DecidableEq, Repr

/-- A statement is executed, or raises. -/
def attempt {β : Type} (w : World) (answer : Option (β × State)) : Option (Answer β × State) :=
  match w with
  | .runs => answer.map fun r => (.ok r.1, r.2)
  | .fails => some (.error .database, s.rollBack i)

def run {β : Type} (i : ℕ) (o : Op β) (w : World) (s : State) : Option (β × State) :=
  match o with
  | .activeSession => attempt i s w (some (s.session, s))
  | .getShow showId => attempt i s w (some (s.shows[showId]?, s))
  | .claimRows => attempt i s w (some ((s.view i).claimRows,
      { s with found := Function.update s.found i (some (s.view i)) }))
  | .listItems => attempt i s w (some ((s.view i).items, s))
  | .getSource => attempt i s w (some ((s.view i).getSource, s))
  | .deleteItems => attempt i s w ((s.logged i .cleared).write i fun v => { v with items := [] })
  | .upsertSource source => attempt i s w (s.write i fun v => { v with source := some source })
  | .upsertShow showId => attempt i s w
      ((s.logged i (.claimed showId)).write i fun v => { v with showRow := some showId })
  | .upsertUser userId => attempt i s w (s.write i fun v => { v with userRow := some userId })
  | .deleteClaim => attempt i s w ((s.logged i .released).write i fun v =>
    { v with
      showRow := none
      userRow := none })
  | .commit => attempt i s w (some ((), s.commit i))

/-- What the other endpoints and the worker of the station do to the queue and its source. -/
inductive Edit
  | enqueue (trackId : ℤ)
  | dequeue
  | setSource (source : Source)
  deriving DecidableEq, Repr

def Workspace.edit (w : Workspace) : Edit → Workspace
  | .enqueue trackId => { w with items := w.items ++ [⟨trackId, w.claim⟩] }
  | .dequeue => { w with items := w.items.tail }
  | .setSource source => { w with source := some source }

def edit (e : Edit) (s : State) : Option State :=
  if s.tx = none then some { s with
    stored := s.stored.edit e
    found := fun _ => none } else none

/-- The calls on the workspace of the station `stationId`. -/
def system (stationId : ℤ) : System Op Raised Snapshot Call World Edit State where
  program _ c := c.program stationId
  begins i c s := some { s with calls := (i, c) :: s.calls }
  run i := run i
  surroundings := edit

end OnAir.ProgramWorkspace
