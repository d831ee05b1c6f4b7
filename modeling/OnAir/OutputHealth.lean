import OnAir.StationRuntime
import OnAir.WorkerEnv

/-!
What a station runtime reports about its outputs, and how the calls of the registry come to it.

The registry makes the calls of a station one at a time. A call sets the flags of the two outputs,
and so do the threads that write to the sinks, at any time; processes and sinks end by
themselves. How the outside answers a call is given with the call.
-/

namespace OnAir.OutputHealth

open Programs StationRuntime WorkerEnv

/-! ### The state of a station -/

inductive Branch
  | icecast
  | local
  deriving DecidableEq, Repr

def Branch.name : Branch → String
  | .icecast => "icecast"
  | .local => "local"

/-- The attributes of a `StationRuntime` that its status depends on: processes and sinks where
there are any, and whether they run. The registry keeps the outputs it requires beside it. -/
structure Station where
  registered : Bool
  ffmpegBin : Bool
  ffplayBin : Bool
  process : Option Bool
  localProcess : Option Bool
  sinks : Branch → Option Bool
  backend : Backend
  /-- the flags of the `OutputHealthRouter` -/
  router : Branch → Bool
  activeCfg : Option Cfg
  requiredOutputs : Option (List (String × Bool))
  /-- how the outside answers the rest of a call -/
  answers : List Outcome

def initial : Station where
  registered := false
  ffmpegBin := false
  ffplayBin := false
  process := none
  localProcess := none
  sinks _ := none
  backend := .none
  router _ := true
  activeCfg := none
  requiredOutputs := none
  answers := []

abbrev Call := EStateM Raised Station

/-- The outside answers; what it is not told to do otherwise goes well. -/
def answer : Call Outcome := do
  let s ← get
  set { s with answers := s.answers.tail }
  return s.answers.headD .ok

def ask : Call Bool := return (← answer) = .ok

def spawn : Call Unit := do
  match ← answer with
  | .ok => pure ()
  | .missing => throw .missing
  | .failed => throw .failed

section Updates

variable (b : Branch) (s : Station)

def setBranchHealth (healthy : Bool) : Station :=
  { s with router := Function.update s.router b healthy }

def setSink (sink : Option Bool) : Station :=
  { s with sinks := Function.update s.sinks b sink }

/-- The flags of both outputs are set. -/
def setBranches (icecast loc : Bool) : Station :=
  setBranchHealth .local (setBranchHealth .icecast s icecast) loc

/-- No program and no request; both outputs are off. -/
def clearProgram : Station :=
  setBranches { s with
    process := none
    backend := .none
    activeCfg := none } false false

def clearActive : Station := { clearProgram s with localProcess := none }

end Updates

/-! ### Sinks -/

def ensureIcecastSink (cfg : Cfg) : Call Bool := do
  if !cfg.icecastEnabled || !(← get).ffmpegBin then return false
  else if ← ask then
    modify fun s => setBranchHealth .icecast (setSink .icecast s (some true)) true
    return true
  else
    modify fun s => setBranchHealth .icecast (setSink .icecast s (some false)) false
    return false

def ensureLocalSink (cfg : Cfg) : Call Bool := do
  if !cfg.localOutputEnabled || !(← get).ffplayBin then return false
  else
    match ← answer with
    | .ok =>
      modify fun s => setBranchHealth .local (setSink .local s (some true)) true
      return true
    | .missing =>
      modify fun s => setBranchHealth .local (setSink .local s (some false)) false
      return false
    | .failed =>
      modify fun s => setSink .local s (some false)
      throw .failed

def releaseDisabledSinks (cfg : Cfg) (s : Station) : Station :=
  let s := if cfg.icecastEnabled then s else setSink .icecast s none
  if cfg.localOutputEnabled then s else setSink .local s none

def stopSinks (s : Station) : Station := setSink .local (setSink .icecast s none) none

/-! ### Producers -/

def spawnIcecastPcmProducer (cfg : Cfg) : Call Unit := do
  if !(← ensureIcecastSink cfg) then throw .missing
  else if !(← get).ffmpegBin then throw .missing
  else spawn

def spawnLocalPcmProducer (cfg : Cfg) : Call Unit := do
  if !(← ensureLocalSink cfg) then throw .missing
  else if !(← get).ffmpegBin then throw .missing
  else spawn

def spawnProducer : Call Unit := do
  if !(← get).ffmpegBin then throw .missing
  else spawn

/-- `self._process = …`. -/
def setProcess (s : Station) : Station := { s with process := some true }

def launchLiveMixState (cfg : Cfg) : Call Unit := do
  if !cfg.icecastEnabled && !cfg.localOutputEnabled then throw .failed
  else
    let icecastEnabled ← ensureIcecastSink cfg
    let localEnabled ← ensureLocalSink cfg
    if !icecastEnabled && !localEnabled then throw .missing
    else
      modify fun s => { s with localProcess := none }
      spawnProducer
      modify fun s => setBranches { setProcess s with
        backend := .liveMix
        activeCfg := some cfg } icecastEnabled localEnabled

/-- An Icecast stream is on. -/
def launchIcecast (cfg : Cfg) (s : Station) : Station :=
  setBranches { setProcess s with
    backend := .ffmpeg
    activeCfg := some cfg } true false

/-- GStreamer cannot start at an offset. -/
def launchGst (cfg : Cfg) (atOffset : Bool) : Call Bool := do
  if atOffset then return false
  else
    match ← answer with
    | .ok =>
      modify fun s => setBranches { setProcess s with
        backend := .gst
        activeCfg := some cfg } cfg.icecastEnabled cfg.localOutputEnabled
      return true
    | .missing => return false
    | .failed => throw .failed

def launchIcecastOnly (cfg : Cfg) : Call Unit := do
  if !(← ensureIcecastSink cfg) then throw .missing
  else spawnIcecastPcmProducer cfg

/-- The local output beside Icecast. -/
def launchMonitor (cfg : Cfg) : Call Unit := do
  spawnLocalPcmProducer cfg
  modify fun s => setBranchHealth .local { s with localProcess := some true } true

def dropMonitor (s : Station) : Station :=
  setBranchHealth .local { s with localProcess := none } false

def launchBeside (cfg : Cfg) (localEnabled : Bool) : Call Unit := do
  spawnIcecastPcmProducer cfg
  modify (launchIcecast cfg)
  if localEnabled then tryCatch (launchMonitor cfg) fun _ => modify dropMonitor
  else pure ()

def launchLocal (cfg : Cfg) : Call Unit := do
  spawnLocalPcmProducer cfg
  modify fun s => setBranches { setProcess s with
    backend := .ffmpegLocal
    activeCfg := some cfg } false true

/-- Without GStreamer. -/
def launchFfmpeg (cfg : Cfg) : Call Unit := do
  let icecastEnabled ← ensureIcecastSink cfg
  let localEnabled ← ensureLocalSink cfg
  modify fun s => { s with localProcess := none }
  if cfg.icecastEnabled then
    if !icecastEnabled then throw .missing else launchBeside cfg localEnabled
  else if !(← get).ffmpegBin || !localEnabled then throw .missing
  else launchLocal cfg

def launchSteadyState (cfg : Cfg) (atOffset : Bool) : Call Unit := do
  if !cfg.icecastEnabled && !cfg.localOutputEnabled then throw .failed
  else if cfg.icecastEnabled && !cfg.localOutputEnabled then
    tryCatch (launchIcecastOnly cfg) fun e => do
      modify clearProgram
      throw e
    modify (launchIcecast cfg)
  else if ← launchGst cfg atOffset then pure ()
  else launchFfmpeg cfg

def restartWith (cfg : Cfg) (atOffset : Bool) : Call Unit := do
  modify clearActive
  modify (releaseDisabledSinks cfg)
  if ← ask then launchLiveMixState cfg else launchSteadyState cfg atOffset

/-- The producers of a transition. -/
def startTransition (icecastEnabled localEnabled : Bool) : Call (Option Bool) := do
  if icecastEnabled then
    spawnProducer
    if localEnabled then
      spawnProducer
      return some true
    else return none
  else if localEnabled then
    spawnProducer
    return none
  else throw .failed

def swapProducers (cfg : Cfg) (icecastEnabled localEnabled : Bool) : Call Unit := do
  modify fun s => { s with
    process := none
    localProcess := none }
  let localProcess ← startTransition icecastEnabled localEnabled
  modify fun s => setBranches { setProcess s with
    localProcess := localProcess
    backend := .ffmpegTransition
    activeCfg := some cfg } icecastEnabled localEnabled

def startCrossfade (cfg : Cfg) : Call Unit := do
  let s ← get
  if s.activeCfg.isNone || !s.ffmpegBin then throw .failed
  else
    let icecastEnabled ← ensureIcecastSink cfg
    let localEnabled ← ensureLocalSink cfg
    if cfg.localOutputEnabled && !localEnabled && !cfg.icecastEnabled then throw .failed
    else if cfg.icecastEnabled && !icecastEnabled && !localEnabled then throw .failed
    else
      tryCatch (swapProducers cfg icecastEnabled localEnabled) fun e => do
        modify clearActive
        throw e

/-! ### The calls of the registry -/

section Status

variable (s : Station)

def programRunning : Bool := s.process = some true

def sinkRunning (b : Branch) : Bool := s.sinks b = some true

/-- `_local_monitor_process`, and whether it runs. -/
def localMonitorProcess : Option Bool :=
  match s.localProcess with
  | some runs => some runs
  | none =>
    if s.activeCfg.any (·.localOutputEnabled) &&
        (s.backend = .ffmpegLocal || s.backend = .ffmpegTransition) then s.process
    else none

def localProgramRunning : Bool := localMonitorProcess s = some true

def canCrossfade (next : Cfg) : Bool :=
  s.activeCfg.any fun current => programRunning s && 0 < next.crossfadeSeconds &&
    normalizeTrackType current.trackType = "music" && normalizeTrackType next.trackType = "music"

end Status

/-- `_transition_backend_supported`. -/
def transitionBackendSupported (cfg : Cfg) : Call Bool := do
  let s ← get
  if !s.ffmpegBin then return false
  else if cfg.localOutputEnabled && !cfg.icecastEnabled && !s.ffplayBin then return false
  else return !(← ask)

/-- A running program is replaced. -/
def replace (cfg : Cfg) (atOffset liveMixRequested : Bool) : Call Unit := do
  let s ← get
  if s.activeCfg.map signature = some (signature cfg) then
    modify fun s => { s with activeCfg := some cfg }
    if atOffset then restartWith cfg true
    else if liveMixRequested && s.backend ≠ .liveMix then restartWith cfg (← ask)
    else pure ()
  else if liveMixRequested then restartWith cfg atOffset
  else if !atOffset && canCrossfade s cfg then
    if ← transitionBackendSupported cfg then
      tryCatch (startCrossfade cfg) fun _ => restartWith cfg atOffset
    else restartWith cfg atOffset
  else restartWith cfg atOffset

/-- What an ended program has left behind. -/
def clearEnded (cfg : Cfg) (s : Station) : Station :=
  if s.process.isSome || s.localProcess.isSome then releaseDisabledSinks cfg (clearActive s)
  else s

def start (cfg : Cfg) (atOffset : Bool) : Call Unit := do
  let ffmpeg ← ask
  let ffplay ← ask
  modify fun s => { s with
    ffmpegBin := ffmpeg
    ffplayBin := ffplay }
  let liveMixRequested ← ask
  if programRunning (← get) then replace cfg atOffset liveMixRequested
  else
    modify (clearEnded cfg)
    if liveMixRequested then launchLiveMixState cfg else launchSteadyState cfg atOffset

/-- `recover_outputs`. -/
def recoverOutputs : Call Unit := do
  match (← get).activeCfg with
  | none => throw .failed
  | some cfg => restartWith cfg (← ask)

/-- The outputs that a request asks for, with the mounts it streams to besides. -/
def outputsOf (cfg : Cfg) (extraMounts : List String) : List (String × Bool) :=
  ("icecast", cfg.icecastEnabled) :: ("local", cfg.localOutputEnabled) ::
    extraMounts.map fun mount => ("icecast:" ++ mount, true)

def startStation (cfg : Cfg) (extraMounts : List String) (atOffset : Bool) : Call Unit := do
  modify fun s => { s with registered := true }
  start cfg atOffset
  modify fun s => { s with requiredOutputs := some (outputsOf cfg extraMounts) }

def stopStation (s : Station) : Station :=
  if s.registered then stopSinks (clearActive s) else s

/-- What raises is noted for the next attempt. -/
def recoverStation : Call Unit := do
  if (← get).registered then tryCatch recoverOutputs fun _ => pure ()
  else pure ()

/-! ### The status -/

section Status

variable (s : Station)

/-- `_program_pcm_health`; `late` says that no audio has come for too long. -/
def programPcmStalled (late : Bool) : Bool :=
  (s.backend = .ffmpeg || s.backend = .liveMix) && programRunning s && late

/-- `_output_feed_active`. -/
def outputFeedActive (late : Bool) : Bool :=
  let stalled := programPcmStalled s late
  let icecast := s.router .icecast && sinkRunning s .icecast
  let loc := s.router .local && sinkRunning s .local
  match s.backend with
  | .ffmpeg | .ffmpegTransition => icecast && !stalled || loc
  | .ffmpegLocal => sinkRunning s .local && programRunning s
  | .liveMix => programRunning s && !stalled && (icecast || loc)
  | _ => programRunning s

/-- `branch_health`. -/
def branchHealth (late : Bool) (b : Branch) : Bool :=
  let stalled := programPcmStalled s late
  let running := sinkRunning s b
  match s.backend, b with
  | .ffmpeg, .icecast | .ffmpegTransition, .icecast => s.router b && running && !stalled
  | .ffmpeg, .local | .ffmpegTransition, .local => s.router b && running && localProgramRunning s
  | .ffmpegLocal, .icecast => false
  | .ffmpegLocal, .local => s.router b && programRunning s && running
  | .liveMix, _ => s.router b && programRunning s && running && !stalled
  | _, _ => s.router b

/-- `status` of the registry. -/
def runtimeStatus (late : Bool) : RuntimeStatus :=
  let requiredOutputs := s.requiredOutputs.getD [("icecast", true), ("local", false)]
  if s.registered then
    { branchHealth := some [("icecast", branchHealth s late .icecast),
        ("local", branchHealth s late .local)]
      requiredOutputs := some requiredOutputs
      programRunning := some (programRunning s)
      running := outputFeedActive s late
      activeInputUri := (s.activeCfg.map (·.inputUri)).getD "" }
  else
    { branchHealth := some [("icecast", false), ("local", false)]
      requiredOutputs := some requiredOutputs
      programRunning := some false
      running := false
      activeInputUri := "" }

end Status

/-! ### Runs -/

inductive Event
  | startStation (cfg : Cfg) (extraMounts : List String) (atOffset : Bool) (answers : List Outcome)
  | recoverStation (answers : List Outcome)
  | stopStation
  /-- the program process ends by itself, or the one beside it does -/
  | exit (role : Role)
  /-- a sink is found running, or not -/
  | sinkRuns (b : Branch) (runs : Bool)
  /-- a thread has written to the sink of an output, or failed to -/
  | carried (b : Branch) (healthy : Bool)
  deriving DecidableEq, Repr

/-- A call with the answers it gets; what it raises is passed on. -/
def made {α : Type} (call : Call α) (answers : List Outcome) (s : Station) : Station :=
  { final (call { s with answers := answers }) with answers := [] }

/-- A thread finds the sink it writes to healthy only while it runs. -/
def step (s : Station) : Event → Option Station
  | .startStation cfg extraMounts atOffset answers =>
    some (made (startStation cfg extraMounts atOffset) answers s)
  | .recoverStation answers => some (made recoverStation answers s)
  | .stopStation => some (stopStation s)
  | .exit .program => some { s with process := s.process.map fun _ => false }
  | .exit .monitor => some { s with localProcess := s.localProcess.map fun _ => false }
  | .sinkRuns b runs => some (setSink b s ((s.sinks b).map fun _ => runs))
  | .carried b healthy => if healthy && !sinkRunning s b then none
    else some (setBranchHealth b s healthy)

end OnAir.OutputHealth
