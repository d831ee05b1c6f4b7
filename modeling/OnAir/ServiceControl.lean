import OnAir.PythonText
import OnAir.ThreadPool

/-!
The control of managed services: requests that start, stop and restart one, and what starts the
enabled ones when the application does.

A start makes its checks, spawns a process and records it, in turns of its own. Which processes
run is known from the handles in memory and, once the application has been started again, from a
ledger with their identities.
-/

namespace OnAir.ServiceControl

open PythonText Resumption ThreadPool

/-! ### Services -/

inductive ServiceId
  | ollamaRuntime
  | rtaiSharedAi
  | rtaiSupervisor
  | votingAgent
  | votingBackend
  | jukeMediaAgent
  | jukeBackend
  deriving DecidableEq, Repr

inductive Mount
  | ai
  | event
  deriving DecidableEq, Repr

inductive Kind
  | ollama
  | rtaiService
  | node
  deriving DecidableEq, Repr

/-- `SERVICE_DEFINITIONS`, in their order. -/
def serviceDefinitions : List ServiceId :=
  [.ollamaRuntime, .rtaiSharedAi, .rtaiSupervisor, .votingAgent, .votingBackend, .jukeMediaAgent,
    .jukeBackend]

def ServiceId.kind : ServiceId → Kind
  | .ollamaRuntime => .ollama
  | .rtaiSharedAi | .rtaiSupervisor => .rtaiService
  | _ => .node

/-- The mounts of the definitions. -/
def ServiceId.mounts : ServiceId → List Mount
  | .rtaiSupervisor => [.ai, .event]
  | .votingAgent => [.ai]
  | _ => []

/-- `SCM_OWNED_SERVICE_IDS`. -/
def ServiceId.scmOwned : ServiceId → Bool
  | .jukeMediaAgent | .votingAgent => true
  | _ => false

structure Config where
  enabled : Bool
  autoStart : Bool
  configPath : String

abbrev Settings := ServiceId → Config

/-! ### Configuration files -/

inductive EnvFile
  | missing
  | unreadable
  | undecodable
  | text (t : String)
  deriving DecidableEq, Repr

inductive Raised
  | http (status : ℕ) (detail : String)
  | os
  | value
  deriving DecidableEq, Repr

/-- Where `str.splitlines` splits. -/
def isLineBreak (c : Char) : Bool :=
  let n := c.toNat
  (10 ≤ n && n ≤ 13) || (28 ≤ n && n ≤ 30) || n = 0x85 || n = 0x2028 || n = 0x2029

/-- `cs.strip(c)` for a character. -/
def stripChar (c : Char) (cs : List Char) : List Char :=
  (cs.dropWhile (· = c)).rdropWhile (· = c)

/-- `cs.isalnum()`, on ASCII. -/
def isAlnum (cs : List Char) : Bool := !cs.isEmpty && cs.all Char.isAlphanum

/-- What a line of `_read_env` assigns to which key. -/
def envEntry (raw : List Char) : Option (List Char × List Char) :=
  let line := strip raw
  if line.isEmpty || line.head? = some '#' || '=' ∉ line then none
  else
    let key := strip (line.takeWhile (· ≠ '='))
    let value := strip ((line.dropWhile (· ≠ '=')).drop 1)
    if isAlnum (key.filter (· ≠ '_')) then some (key, stripChar '\'' (stripChar '"' value))
    else none

/-- `_read_env(path).get(key)`, the last of the values if there are several. -/
def envValue (key : String) (t : String) : String :=
  let entries := (t.toList.splitOnP isLineBreak).filterMap envEntry
  String.ofList ((entries.reverse.lookup key.toList).getD [])

/-- `_service_mounts`. -/
def serviceMounts (files : String → EnvFile) (sid : ServiceId) (config : Config) :
    Except Raised (List Mount) :=
  if sid ≠ .jukeMediaAgent || config.configPath = "" then .ok sid.mounts
  else match files config.configPath with
    | .missing | .unreadable => .ok sid.mounts
    | .undecodable => .error .value
    | .text t =>
      .ok (if isTruthy (envValue "AI_MIRROR_ENABLED" t) then sid.mounts ++ [.ai] else sid.mounts)

example : envValue "AI_MIRROR_ENABLED" "# juke\nAI_MIRROR_ENABLED = 'on'\n" = "on" := by
  decide +kernel

/-- The mounts of a service that is started now. -/
def configuredMounts (files : String → EnvFile) (sid : ServiceId) (config : Config) :
    List Mount :=
  match serviceMounts files sid config with
  | .ok mounts => mounts
  | .error _ => sid.mounts

def common (ms ns : List Mount) : Bool := ms.any (· ∈ ns)

/-! ### Processes -/

/-- A process that has been started for a service, with the mounts that were configured then. -/
structure Process where
  service : ServiceId
  mounts : List Mount
  pid : ℕ
  alive : Bool
  deriving DecidableEq, Repr

structure Details where
  creationDate : String
  executablePath : String
  commandLine : String
  deriving DecidableEq, Repr

/-- An entry of the ledger, with the process that it has been written for. -/
structure Record where
  pid : ℕ
  fingerprint : String
  process : ℕ
  deriving DecidableEq, Repr

structure Setup where
  /-- `str.lower` -/
  lowercase : String → String
  sha256 : String → String

/-- `_process_fingerprint`. -/
def Setup.processFingerprint (setup : Setup) (d : Details) : String :=
  setup.sha256 (String.intercalate "\n"
    [d.creationDate, setup.lowercase d.executablePath, d.commandLine])

/-- A process is its place in the list. The state remembers, beside files, handles and ledger,
which processes have never been recorded, and which had been when a thread looked for the service
that it is about to start. -/
structure State where
  files : String → EnvFile
  processes : List Process
  /-- `_PROCESSES` -/
  registry : ServiceId → Option ℕ
  ledger : ServiceId → Option Record
  unrecorded : List ℕ
  seen : ℕ → List ℕ
  epoch : ℕ
  /-- the epoch in which a thread has begun -/
  born : ℕ → ℕ

def State.start (files : String → EnvFile) : State :=
  ⟨files, [], fun _ => none, fun _ => none, [], fun _ => [], 0, fun _ => 0⟩

def State.alive (s : State) (n : ℕ) : Bool := s.processes[n]?.any (·.alive)

def State.exits (s : State) (n : ℕ) : State :=
  { s with processes := s.processes.modify n fun p => { p with alive := false } }

/-- The handle of a service, if it is one of a running process. -/
def State.registered (s : State) (sid : ServiceId) : Option ℕ := (s.registry sid).filter s.alive

/-- The process that a service is known by. -/
def State.found (s : State) (sid : ServiceId) : Option ℕ :=
  (s.registered sid).or ((s.ledger sid).map (·.process))

def State.forgetHandle (s : State) (sid : ServiceId) : State :=
  { s with registry := Function.update s.registry sid none }

def State.forgetRecord (s : State) (sid : ServiceId) : State :=
  { s with ledger := Function.update s.ledger sid none }

/-- The processes that have been recorded. -/
def State.recorded (s : State) : List ℕ :=
  (List.range s.processes.length).filter (· ∉ s.unrecorded)

/-! ### Operations -/

abbrev Answer := Except Raised

/-- What a start, a stop and a look at a service do with the surroundings. -/
inductive Op : Type → Type
  /-- whether sources, settings, tools and the health of services are as they have to be -/
  | ask : Op (Answer Bool)
  /-- the pid of a service that runs; the caller may be about to start it -/
  | trackedProcess (sid : ServiceId) (starts : Bool) : Op (Answer (Option ℕ))
  | serviceMounts (sid : ServiceId) (config : Config) : Op (Answer (List Mount))
  /-- the caller has found that nobody owns the mounts `requested` -/
  | popen (sid : ServiceId) (config : Config) (requested : List Mount) : Op (Answer ℕ)
  /-- `proc.poll() is None` -/
  | poll (n : ℕ) : Op (Answer Bool)
  | processDetails (n : ℕ) : Op (Answer (Option Details))
  | terminate (n : ℕ) : Op (Answer Unit)
  | record (sid : ServiceId) (n : ℕ) (details : Details) : Op (Answer Unit)
  /-- `_stop`, which holds the lock throughout -/
  | stop (sid : ServiceId) : Op (Answer Unit)

abbrev Program := Prog Op Raised

def execute {α : Type} (o : Op (Answer α)) : Program α := do
  match ← perform o with
  | .ok a => pure a
  | .error e => .raise e

/-! ### The requests -/

/-- A request is refused unless a condition holds. -/
def demand (b : Bool) (detail : String) : Program Unit :=
  if b then return () else .raise (.http 409 detail)

/-- The services among `others` whose mounts are looked at and, if they share one with those that
are requested, whose process is. -/
def mountConflictAmong (settings : Settings) (sid : ServiceId) (requested : List Mount) :
    List ServiceId → Program (Option ServiceId)
  | [] => return none
  | other :: others =>
    if other = sid then mountConflictAmong settings sid requested others
    else do
      let mounts ← execute (.serviceMounts other (settings other))
      if common requested mounts then
        match ← execute (.trackedProcess other false) with
        | some _ => return some other
        | none => mountConflictAmong settings sid requested others
      else mountConflictAmong settings sid requested others

/-- `_mount_conflict`, for the mounts that its caller has read. -/
def mountConflict (settings : Settings) (sid : ServiceId) (requested : List Mount) :
    Program (Option ServiceId) :=
  if requested.isEmpty then return none
  else mountConflictAmong settings sid requested serviceDefinitions

def ServiceId.name : ServiceId → String
  | .ollamaRuntime => "ollama_runtime"
  | .rtaiSharedAi => "rtai_shared_ai"
  | .rtaiSupervisor => "rtai_supervisor"
  | .votingAgent => "voting_agent"
  | .votingBackend => "voting_backend"
  | .jukeMediaAgent => "juke_media_agent"
  | .jukeBackend => "juke_backend"

/-- What is missing when there is no command for a service. -/
def Kind.missingTool : Kind → String
  | .ollama => "ollama_not_installed"
  | .rtaiService => "powershell_not_found"
  | .node => "node_not_found"

/-- Ollama does not run outside. -/
def demandOwnOllama (sid : ServiceId) : Program Unit :=
  if sid.kind = .ollama then do
    match ← execute (.trackedProcess sid false) with
    | some _ => return ()
    | none => demand (← execute .ask) "ollama_already_running_outside_onair"
  else return ()

def configReady (sid : ServiceId) : Program Bool :=
  if sid.kind = .ollama then return true else execute .ask

/-- The supervisor needs the shared AI. -/
def demandSharedAi (sid : ServiceId) : Program Unit :=
  if sid = .rtaiSupervisor then do
    let _ ← execute (.trackedProcess .rtaiSharedAi false)
    demand (← execute .ask) "shared_ai_not_healthy"
  else return ()

/-- A process that cannot be spawned. -/
def launchFailed : Raised → Program ℕ
  | .os => .raise (.http 409 "service_launch_failed")
  | e => .raise e

/-- From the spawn of a process to its record. -/
def launch (sid : ServiceId) (config : Config) (requested : List Mount) : Program ℕ := do
  let n ← (execute (.popen sid config requested)).tryCatch launchFailed
  demand (← execute (.poll n)) "service_exited_on_start"
  match ← execute (.processDetails n) with
  | none =>
    execute (.terminate n)
    .raise (.http 409 "process_tracking_failed")
  | some details =>
    execute (.record sid n details)
    return n

/-- `_start`; what it returns is the process. -/
def start (settings : Settings) (sid : ServiceId) : Program ℕ := do
  demand (settings sid).enabled "service_disabled"
  demand (← execute .ask) "service_source_not_ready"
  demandOwnOllama sid
  demand (← configReady sid) "service_config_not_ready"
  demand (← execute (.trackedProcess sid true)).isNone "service_already_running"
  let requested ← execute (.serviceMounts sid (settings sid))
  match ← mountConflict settings sid requested with
  | some other => .raise (.http 409 ("mount_owned_by:" ++ other.name))
  | none =>
    demandSharedAi sid
    demand (← execute .ask) sid.kind.missingTool
    launch sid (settings sid) requested

inductive Action
  | check
  | start
  | stop
  | restart
  deriving DecidableEq, Repr

/-- `CONFIRMATIONS`. -/
def Action.confirmation : Action → Option String
  | .check => none
  | .start => some "START SERVICE"
  | .stop => some "STOP SERVICE"
  | .restart => some "RESTART SERVICE"

/-- What a call returns: whether a service runs, the process that has been started, or the
services. -/
inductive Outcome
  | checked (pid : Option ℕ)
  | started (n : ℕ)
  | stopped
  | autoStarted (services : List ServiceId)
  deriving DecidableEq, Repr

def act (settings : Settings) (sid : ServiceId) : Action → Program Outcome
  | .check => do return .checked (← execute (.trackedProcess sid false))
  | .start => do return .started (← start settings sid)
  | .stop => do
    execute (.stop sid)
    return .stopped
  | .restart => do
    execute (.stop sid)
    return .started (← start settings sid)

/-- `perform_action`. -/
def performAction (settings : Settings) (sid : ServiceId) (action : Action)
    (confirmation : String) : Program Outcome :=
  if action.confirmation.all (· = confirmation) then act settings sid action
  else .raise (.http 400 "confirmation_required")

/-- An answer that is an error of a request is passed over. -/
def passOver : Raised → Program (List ServiceId)
  | .http _ _ => return []
  | e => .raise e

def autoStartAmong (settings : Settings) : List ServiceId → Program (List ServiceId)
  | [] => return []
  | sid :: services =>
    if (settings sid).enabled && (settings sid).autoStart && !sid.scmOwned then do
      let started ← Prog.tryCatch (do
        let _ ← start settings sid
        return [sid]) passOver
      return started ++ (← autoStartAmong settings services)
    else autoStartAmong settings services

/-- `auto_start_enabled`. -/
def autoStartEnabled (settings : Settings) : Program (List ServiceId) :=
  autoStartAmong settings serviceDefinitions

inductive Call
  | performAction (settings : Settings) (sid : ServiceId) (action : Action)
    (confirmation : String)
  | autoStartEnabled (settings : Settings)

def Call.program : Call → Program Outcome
  | .performAction settings sid action confirmation =>
    ServiceControl.performAction settings sid action confirmation
  | .autoStartEnabled settings => do
    return .autoStarted (← ServiceControl.autoStartEnabled settings)

/-! ### What the operations do -/

/-- What the surroundings answer: the operation raises at once, the answer is a yes (or a process
is ended that is asked to), the ledger can be saved, and what is known of a process. -/
structure World where
  raises : Option Raised
  yes : Bool
  saves : Bool
  details : Option Details
  /-- asked a second time -/
  again : Option Details
  pid : ℕ
  deriving DecidableEq, Repr

section Operations

variable (setup : Setup)

/-- The fingerprint of the process with the pid of a record is that of the record. -/
def Record.recognizedBy (r : Record) (details : Option Details) : Bool :=
  r.pid ≠ 0 && details.any fun d => setup.processFingerprint d = r.fingerprint

/-- `_tracked_process`. -/
def State.tracked (w : World) (sid : ServiceId) (s : State) : Answer (Option ℕ) × State :=
  match s.registered sid with
  | some n => (.ok (s.processes[n]?.map (·.pid)), s)
  | none =>
    match s.ledger sid with
    | none => (.ok none, s.forgetHandle sid)
    | some r =>
      if r.recognizedBy setup w.details then (.ok (some r.pid), s.forgetHandle sid)
      else if w.saves then (.ok none, (s.forgetHandle sid).forgetRecord sid)
      else (.error .os, s.forgetHandle sid)

/-- The recorded identity is that of the process which is going to be stopped. -/
def State.identified (w : World) (sid : ServiceId) (s : State) : Bool :=
  w.again.any fun d =>
    setup.processFingerprint d = ((s.ledger sid).map (·.fingerprint)).getD ""

/-- The process of a service is ended, if that succeeds, and forgotten. -/
def State.ends (w : World) (sid : ServiceId) (s : State) : State :=
  let t := match s.found sid with
    | some n => if w.yes then s.exits n else s
    | none => s
  if w.saves then (t.forgetHandle sid).forgetRecord sid else t.forgetHandle sid

/-- `_stop`. -/
def State.stop (w : World) (sid : ServiceId) (s : State) : Answer Unit × State :=
  match s.tracked setup w sid with
  | (.error e, t) => (.error e, t)
  | (.ok pid, t) =>
    if pid.getD 0 = 0 then (.error (.http 409 "service_not_running"), t)
    else if t.identified setup w sid then
      (if w.saves then .ok () else .error .os, t.ends w sid)
    else (.error (.http 409 "process_identity_changed"), t)

/-- The process is started, with the mounts that are configured now. -/
def State.spawn (w : World) (sid : ServiceId) (config : Config) (s : State) : State :=
  { s with
    processes := s.processes ++ [⟨sid, configuredMounts s.files sid config, w.pid, true⟩]
    unrecorded := s.processes.length :: s.unrecorded }

/-- The handle is kept in memory, and the identity in the ledger. -/
def State.record (w : World) (sid : ServiceId) (n : ℕ) (details : Details) (s : State) : State :=
  { s with
    registry := Function.update s.registry sid (some n)
    ledger := if w.saves then
        Function.update s.ledger sid (some
          ⟨(s.processes[n]?.map (·.pid)).getD 0, setup.processFingerprint details, n⟩)
      else s.ledger
    unrecorded := s.unrecorded.filter (· ≠ n) }

/-- A thread that is about to start a service remembers what has been recorded. -/
def State.looks (i : ℕ) (starts : Bool) (s : State) : State :=
  if starts then { s with seen := Function.update s.seen i s.recorded } else s

def answer {β : Type} (i : ℕ) (o : Op β) (w : World) (s : State) : β × State :=
  match o with
  | .ask => (.ok w.yes, s)
  | .trackedProcess sid starts => (s.looks i starts).tracked setup w sid
  | .serviceMounts sid config => (serviceMounts s.files sid config, s)
  | .popen sid config _ => (.ok s.processes.length, s.spawn w sid config)
  | .poll n => (.ok (s.alive n), s)
  | .processDetails _ => (.ok w.details, s)
  | .terminate n => (.ok (), if w.yes then s.exits n else s)
  | .record sid n details =>
    (if w.saves then .ok () else .error .os, s.record setup w sid n details)
  | .stop sid => s.stop setup w sid

/-- What is answered when an operation raises. -/
def refusal {β : Type} (o : Op β) (e : Raised) : β :=
  match o with
  | .ask | .trackedProcess _ _ | .serviceMounts _ _ | .popen _ _ _ | .poll _
  | .processDetails _ | .terminate _ | .record _ _ _ | .stop _ => .error e

/-- The threads of an application that has ended take no more turns. -/
def run {β : Type} (i : ℕ) (o : Op β) (w : World) (s : State) : Option (β × State) :=
  if s.born i = s.epoch then
    some (match w.raises with
      | some e => (refusal o e, s)
      | none => answer setup i o w s)
  else none

inductive Around
  | edit (path : String) (file : EnvFile)
  | exits (n : ℕ)
  /-- the application ends and is started again -/
  | restart
  deriving DecidableEq, Repr

def around (e : Around) (s : State) : Option State :=
  match e with
  | .edit path file => some { s with files := Function.update s.files path file }
  | .exits n => some (s.exits n)
  | .restart => some { s with registry := fun _ => none, epoch := s.epoch + 1 }

def begins (i : ℕ) (_ : Call) (s : State) : Option State :=
  some { s with born := Function.update s.born i s.epoch }

def system : System Op Raised Outcome Call World Around State where
  program _ c := c.program
  begins := begins
  run i := run setup i
  surroundings := around

/-- Requests from a state in which no service has been started. -/
abbrev step := ThreadPool.step (system setup)

abbrev initial (files : String → EnvFile) : Pool Op Raised Outcome Call State :=
  .empty (.start files)

end Operations

end OnAir.ServiceControl
