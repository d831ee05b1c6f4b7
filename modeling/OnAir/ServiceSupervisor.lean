import OnAir.ThreadPool

/-!
The supervisor of the service host: one loop for each definition, which starts a child, waits for
it and starts it again after a delay, and the stop of the service.

A child is registered after it has been started, and let go of when its round ends, whatever has
ended it. The stop kills the children that are registered, and then cancels the loops.
-/

namespace OnAir.ServiceSupervisor

open Resumption ThreadPool

/-- A row of the configuration; the ids of its rows are distinct. -/
structure Definition where
  id : String
  restartOnExit : Bool
  deriving DecidableEq, Repr

inductive Raised
  /-- `OperationCanceledException` -/
  | cancelled
  | failed
  deriving DecidableEq, Repr

abbrev Answer := Except Raised

/-- What loops and stop do with the surroundings. -/
inductive Op : Type → Type
  | isCancellationRequested : Op Bool
  | startProcess (d : Definition) : Op (Answer ℕ)
  | hasExited (n : ℕ) : Op (Answer Bool)
  | register (id : String) (n : ℕ) : Op (Answer Unit)
  | publishState : Op (Answer Unit)
  /-- a line of the log -/
  | write : Op (Answer Unit)
  | waitForExit (n : ℕ) : Op (Answer Unit)
  /-- the output of the child has been written to the log -/
  | drained : Op (Answer Unit)
  | delay : Op (Answer Unit)
  | unregister (id : String) : Op Unit
  | dispose (n : ℕ) : Op Unit
  /-- the task of a loop is over -/
  | complete : Op Unit
  | activeProcesses : Op (List ℕ)
  | kill (n : ℕ) : Op (Answer Unit)
  /-- `WaitForExitAsync` of the stop -/
  | awaitExit (n : ℕ) : Op (Answer Unit)
  | cancel : Op Unit
  /-- the end of the loops is awaited, up to the timeout of the host -/
  | awaitExecute : Op Unit

abbrev Program := Prog Op Raised

def execute {α : Type} (o : Op (Answer α)) : Program α := do
  match ← perform o with
  | .ok a => pure a
  | .error e => .raise e

/-! ### The loop -/

/-- Whether another round follows. -/
inductive Next
  | again
  | leaves
  deriving DecidableEq, Repr

/-- What follows the end of a child, or an exception: the delay before the next round, if there
is going to be one. -/
def afterwards (d : Definition) : Program Next := do
  execute .publishState
  execute .write
  if d.restartOnExit then
    execute .delay
    return .again
  else return .leaves

/-- A round, from the start of its child on. -/
def watch (d : Definition) (n : ℕ) : Program Next := do
  if ← execute (.hasExited n) then .raise .failed
  else
    execute (.register d.id n)
    execute .publishState
    execute .write
    execute (.waitForExit n)
    execute .drained
    afterwards d

/-- What is done about an exception of a round. -/
def recover (d : Definition) : Raised → Program Next
  | .cancelled => do
    if ← perform .isCancellationRequested then return .leaves else afterwards d
  | .failed => afterwards d

/-- The child is let go of. -/
def letGo (d : Definition) (n : ℕ) : Program Unit := do
  perform (.unregister d.id)
  perform (.dispose n)

/-- A child that has been started, if it could be. -/
def tryStart (d : Definition) : Program (Option ℕ) := Prog.tryCatch (do
  let n ← execute (.startProcess d)
  return some n) fun _ => return none

/-- A round of the loop. -/
def round (d : Definition) : Program Next := do
  match ← tryStart d with
  | none => recover d .failed
  | some n =>
    let next ← ((watch d n).tryCatch (recover d)).tryCatch fun e => do
      letGo d n
      .raise e
    letGo d n
    return next

def rounds (d : Definition) : ℕ → Program Unit
  | 0 => return ()
  | k + 1 => do
    if ← perform .isCancellationRequested then return ()
    else match ← round d with
      | .again => rounds d k
      | .leaves => return ()

/-- `SuperviseAsync`, for at most so many rounds. -/
def superviseAsync (d : Definition) (k : ℕ) : Program Unit := do
  (rounds d k).tryCatch fun e => do
    perform .complete
    .raise e
  perform .complete

/-! ### The stop -/

/-- `TryTerminateProcessTree`. -/
def tryTerminateProcessTree (n : ℕ) : Program Unit :=
  (execute (.kill n)).tryCatch fun _ => execute .write

def terminateAll : List ℕ → Program Unit
  | [] => return ()
  | n :: ns => do
    tryTerminateProcessTree n
    terminateAll ns

def awaitAll : List ℕ → Program Unit
  | [] => return ()
  | n :: ns => do
    execute (.awaitExit n)
    awaitAll ns

/-- `StopAsync`. -/
def stopAsync : Program Unit := do
  execute .write
  let processes ← perform .activeProcesses
  terminateAll processes
  awaitAll processes
  perform .cancel
  perform .awaitExecute
  execute .publishState

/-! ### Tasks -/

inductive Call
  | supervise (d : Definition) (k : ℕ)
  | stop
  deriving DecidableEq, Repr

def Call.program : Call → Program Unit
  | .supervise d k => superviseAsync d k
  | .stop => stopAsync

/-- A process that has been started for a definition, by the loop with the number `holder`. -/
structure Process where
  id : String
  holder : ℕ
  alive : Bool
  deriving DecidableEq, Repr

/-- A process is its place in the list. The state remembers, beside registrations and handles,
which loops have not seen a request to stop. -/
structure State where
  processes : List Process
  /-- `_activeProcesses` -/
  registered : List (String × ℕ)
  disposed : List ℕ
  stopping : Bool
  /-- the loop of a definition -/
  loops : String → Option ℕ
  /-- loops that are not over -/
  tasks : List ℕ
  inside : List ℕ

def State.start : State := ⟨[], [], [], false, fun _ => none, [], []⟩

def State.alive (s : State) (n : ℕ) : Bool := s.processes[n]?.any (·.alive)

def State.exits (s : State) (n : ℕ) : State :=
  { s with processes := s.processes.modify n fun p => { p with alive := false } }

def State.starts (s : State) (i : ℕ) (d : Definition) : State :=
  { s with processes := s.processes ++ [⟨d.id, i, true⟩] }

def State.enters (s : State) (i : ℕ) : State :=
  if s.stopping then s else { s with inside := i :: s.inside }

def State.completes (s : State) (i : ℕ) : State :=
  { s with
    tasks := s.tasks.filter (· ≠ i)
    inside := s.inside.filter (· ≠ i) }

def State.unregisters (s : State) (id : String) : State :=
  { s with registered := s.registered.filter (·.1 ≠ id) }

def State.registers (s : State) (id : String) (n : ℕ) : State :=
  { s.unregisters id with registered := (id, n) :: (s.unregisters id).registered }

/-- What the surroundings answer: an operation fails, or it succeeds and is not cut short. -/
inductive World
  | fails
  | yes
  | no
  deriving DecidableEq, Repr

/-- An operation fails, or is executed. -/
def attempt {β : Type} (w : World) (s : State) (answer : Option (Answer β × State)) :
    Option (Answer β × State) :=
  match w with
  | .fails => some (.error .failed, s)
  | _ => answer

/-- The operations; waiting for a child, for a delay and for the loops can be cut short. A child
that is killed exits at once, or later. -/
def run {β : Type} (i : ℕ) (o : Op β) (w : World) (s : State) : Option (β × State) :=
  match o with
  | .isCancellationRequested => some (s.stopping, s.enters i)
  | .startProcess d => attempt w s (some (.ok s.processes.length, s.starts i d))
  | .hasExited n => attempt w s (some (.ok (!s.alive n), s))
  | .register id n => attempt w s (some (.ok (), s.registers id n))
  | .publishState | .write | .drained => attempt w s (some (.ok (), s))
  | .waitForExit n => attempt w s (
      if s.stopping && w = .no then some (.error .cancelled, s)
      else if s.alive n then none else some (.ok (), s))
  | .delay => attempt w s (
      if s.stopping && w = .no then some (.error .cancelled, s) else some (.ok (), s))
  | .unregister id => some ((), s.unregisters id)
  | .dispose n => some ((), { s with disposed := n :: s.disposed })
  | .complete => some ((), s.completes i)
  | .activeProcesses => some (s.registered.map (·.2), s)
  | .kill n => attempt w s (
      if n ∈ s.disposed then some (.error .failed, s)
      else some (.ok (), if w = .no then s else s.exits n))
  | .awaitExit n =>
    if n ∈ s.disposed || !s.alive n then some (.ok (), s)
    else if w = .no then some (.error .cancelled, s) else none
  | .cancel => some ((), { s with stopping := true })
  | .awaitExecute => if s.tasks.isEmpty || w = .no then some ((), s) else none

/-- A definition has one loop. -/
def begins (i : ℕ) (c : Call) (s : State) : Option State :=
  match c with
  | .supervise d _ =>
    if s.loops d.id = none then
      some { s with
        loops := Function.update s.loops d.id (some i)
        tasks := i :: s.tasks }
    else none
  | .stop => some s

/-- A child exits. -/
def around (n : ℕ) (s : State) : Option State := some (s.exits n)

def system : System Op Raised Unit Call World ℕ State where
  program _ c := c.program
  begins := begins
  run i := run i
  surroundings := around

/-- Loops and stops from a state in which nothing has been started. -/
abbrev step := ThreadPool.step system

abbrev initial : Pool Op Raised Unit Call State := .empty .start

end OnAir.ServiceSupervisor
