import OnAir.PythonText
import OnAir.Resumption

/-!
The runtime of a station: the processes that decode the program, the threads that carry their
audio to the sinks, and the calls that replace one producer by the next.

A call is a program over single accesses to the runtime and to the processes, so that threads,
processes and other calls take their turns between any two of them. A chunk of audio is named by
the producer it was read from; producers are numbered as they are started.
-/

namespace OnAir.StationRuntime

open Resumption Runs

structure Cfg where
  inputUri : String
  icecastEnabled : Bool
  icecastHost : String
  icecastPort : ℤ
  icecastMount : String
  icecastUser : String
  icecastPassword : String
  streamCodecProfile : String
  streamBitrateKbps : ℤ
  localOutputEnabled : Bool
  outputDeviceId : String
  outputGainDb : ℚ
  streamTitle : String
  streamArtist : String
  trackType : String
  crossfadeSeconds : ℚ
  deriving DecidableEq, Repr

def normalizeTrackType (raw : String) : String :=
  let token := PythonText.lower (PythonText.trim raw)
  if token ∈ ["ad", "ads", "advertisement", "advertisements"] then "ad"
  else if token ∈ ["music", "jingle", "announcement", "station_id", "show", "startup"] then token
  else "music"

/-- `_signature`: the request without the length of the crossfade. -/
def signature (cfg : Cfg) : Cfg :=
  { cfg with trackType := normalizeTrackType cfg.trackType, crossfadeSeconds := 0 }

/-- `_cfg_signature` of the Icecast sink. -/
def sinkSignature (cfg : Cfg) : String × ℤ × String × String × String :=
  let mount := PythonText.strip cfg.icecastMount.toList
  let mount := if mount ≠ [] ∧ mount.head? ≠ some '/' then '/' :: mount else mount
  (PythonText.trim cfg.icecastHost, cfg.icecastPort,
    if mount = [] then "/stream" else String.ofList mount,
    PythonText.trim cfg.icecastUser, cfg.icecastPassword)

inductive Backend
  | none
  | ffmpeg
  | ffmpegLocal
  | ffmpegTransition
  | gst
  | liveMix
  deriving DecidableEq, Repr

/-- The attributes of a `StationRuntime`, processes and sinks by number. -/
structure Runtime where
  /-- a start has made the runtime known to the registry -/
  registered : Bool
  ffmpegBin : Bool
  ffplayBin : Bool
  process : Option ℕ
  localProcess : Option ℕ
  icecastSink : Option ℕ
  localSink : Option ℕ
  backend : Backend
  activeSignature : Option Cfg
  activeCfg : Option Cfg
  playoutGeneration : ℕ
  liveMixStop : Bool
  icecastPipeStop : Bool
  ownedProcesses : List ℕ
  deriving DecidableEq, Repr

/-- What a producer is started for. -/
inductive Role
  | program
  | monitor
  deriving DecidableEq, Repr

inductive Output
  /-- a pipe that a thread of the runtime reads -/
  | pipe
  /-- the pipe of the process of a sink that ran then -/
  | sink (x run : ℕ)
  /-- an output of its own -/
  | own
  deriving DecidableEq, Repr

structure Producer where
  role : Role
  output : Output
  alive : Bool
  deriving DecidableEq, Repr

inductive SinkKind
  | icecast
  | local
  deriving DecidableEq, Repr

/-- A sink object, its process and what was written to it, the last chunk first. -/
structure Sink where
  kind : SinkKind
  /-- the process, by the number of its start -/
  process : Option ℕ
  alive : Bool
  starts : ℕ
  signature : Option (String × ℤ × String × String × String)
  queue : List ℕ
  writerStop : Bool
  written : List ℕ
  deriving DecidableEq, Repr

inductive WriterPhase
  | top
  | getting
  | holding (chunk : ℕ)
  | ended
  deriving DecidableEq, Repr

structure Writer where
  sink : ℕ
  phase : WriterPhase
  deriving DecidableEq, Repr

inductive LoopKind
  /-- `_icecast_pipe_loop`, with its sink -/
  | pipe (sink : ℕ)
  /-- `_live_mix_loop` -/
  | mix
  deriving DecidableEq, Repr

inductive LoopPhase
  | top
  | reading
  /-- has a chunk -/
  | holding
  /-- has looked up the sinks -/
  | aimed (targets : List ℕ)
  /-- has the lock, and has found its generation current -/
  | writing (targets : List ℕ)
  | ended
  deriving DecidableEq, Repr

structure Loop where
  kind : LoopKind
  producer : ℕ
  generation : ℕ
  phase : LoopPhase
  deriving DecidableEq, Repr

/-- What is outside a step does: it goes well, what is asked for is missing, or it fails. -/
inductive Outcome
  | ok
  | missing
  | failed
  deriving DecidableEq, Repr

/-- `FileNotFoundError`, and other exceptions. -/
inductive Raised
  | missing
  | failed
  deriving DecidableEq, Repr

/-- One access to the runtime, a process, a sink or a thread. -/
inductive Op : Type → Type
  | get : Op Runtime
  | set (f : Runtime → Runtime) : Op Unit
  /-- a question that the code around the runtime answers -/
  | ask : Op Bool
  | isAlive (k : ℕ) : Op Bool
  | terminate (k : ℕ) : Op Unit
  | spawn (role : Role) (output : Output) : Op (Except Raised ℕ)
  | newSink (kind : SinkKind) : Op ℕ
  | getSink (x : ℕ) : Op (Option Sink)
  | setSink (x : ℕ) (f : Sink → Sink) : Op Unit
  | spawnSink (x : ℕ) : Op (Except Raised Unit)
  | startWriter (x : ℕ) : Op Unit
  | startLoop (kind : LoopKind) (producer generation : ℕ) : Op Unit

abbrev Program := Prog Op Raised

/-- A call, and whether it holds the operation lock of the station. -/
structure Call where
  locks : Bool
  program : Program Unit

structure Store where
  runtime : Runtime
  producers : List Producer
  sinks : List Sink
  writers : List Writer
  loops : List Loop
  calls : List Call
  /-- no producer was given the pipe of a sink, and no writer started, while older audio was on
  its way there -/
  clean : Bool

def initial : Store where
  runtime := ⟨false, false, false, none, none, none, none, .none, none, none, 0, false, false, []⟩
  producers := []
  sinks := []
  writers := []
  loops := []
  calls := []
  clean := true

/-! ### Operations -/

section Operations

variable (s : Store)

def isAlive (k : ℕ) : Bool := (s.producers[k]?).any (·.alive)

/-- The sinks a loop may write to. -/
def Loop.reaches (l : Loop) (x : ℕ) : Bool :=
  match l.kind with
  | .pipe y => x = y
  | .mix => true

/-- A loop that may still write to a sink. -/
def mayWrite (x : ℕ) (l : Loop) : Bool :=
  match l.phase with
  | .ended => false
  | .writing targets => x ∈ targets || (l.generation = s.runtime.playoutGeneration && l.reaches x)
  | _ => l.generation = s.runtime.playoutGeneration && l.reaches x

def Writer.holds (v : Writer) : Bool :=
  match v.phase with
  | .holding _ => true
  | _ => false

/-- No audio is on its way to a sink. -/
def isQuiet (x : ℕ) : Bool :=
  (s.sinks[x]?).all (·.queue = []) && (s.writers.all fun v => v.sink ≠ x || !v.holds) &&
    s.loops.all fun l => !mayWrite s x l

def writersEnded (x : ℕ) : Bool := s.writers.all fun v => v.sink ≠ x || v.phase = .ended

def setProducer (k : ℕ) (f : Producer → Producer) : Store :=
  { s with producers := s.producers.modify k f }

def setSink (x : ℕ) (f : Sink → Sink) : Store := { s with sinks := s.sinks.modify x f }

/-- What an operation answers, and the state after it. -/
def run : {β : Type} → Op β → Outcome → Store → Option (β × Store)
  | _, .get, _, s => some (s.runtime, s)
  | _, .set f, _, s => some ((), { s with runtime := f s.runtime })
  | _, .ask, w, s => some (w = .ok, s)
  | _, .isAlive k, _, s => some (isAlive s k, s)
  | _, .terminate k, _, s => some ((), setProducer s k fun p => { p with alive := false })
  | _, .spawn role output, w, s =>
    match w with
    | .ok => some (.ok s.producers.length, { s with
        producers := s.producers ++ [⟨role, output, true⟩]
        clean := s.clean && match output with
          | .sink x _ => isQuiet s x
          | _ => true })
    | .missing => some (.error .missing, s)
    | .failed => some (.error .failed, s)
  | _, .newSink kind, _, s => some (s.sinks.length,
      { s with sinks := s.sinks ++ [⟨kind, none, false, 0, none, [], false, []⟩] })
  | _, .getSink x, _, s => some (s.sinks[x]?, s)
  | _, .setSink x f, _, s => some ((), setSink s x f)
  | _, .spawnSink x, w, s =>
    match w with
    | .ok => some (.ok (), setSink s x fun y =>
      { y with process := some y.starts, alive := true, starts := y.starts + 1 })
    | .missing => some (.error .missing, s)
    | .failed => some (.error .failed, s)
  | _, .startWriter x, _, s => some ((), { s with
      writers := s.writers ++ [⟨x, .top⟩]
      clean := s.clean && writersEnded s x })
  | _, .startLoop kind producer generation, _, s =>
    some ((), { s with loops := s.loops ++ [⟨kind, producer, generation, .top⟩] })

end Operations

/-! ### Sinks -/

section Programs

def get : Program Runtime := perform .get

def set (f : Runtime → Runtime) : Program Unit := perform (.set f)

def ask : Program Bool := perform .ask

def throwing {α : Type} (o : Op (Except Raised α)) : Program α := do
  match ← perform o with
  | .ok a => pure a
  | .error e => .raise e

/-- The entries of a list that are alive, one after the other. -/
def aliveOnes : List ℕ → Program (List ℕ)
  | [] => pure []
  | k :: ks => do
    let alive ← perform (.isAlive k)
    let rest ← aliveOnes ks
    pure (if alive then k :: rest else rest)

def spawnProcess (role : Role) (output : Output) : Program ℕ := do
  let k ← throwing (.spawn role output)
  let owned ← aliveOnes (← get).ownedProcesses
  set fun r => { r with ownedProcesses := owned }
  set fun r => { r with ownedProcesses := r.ownedProcesses ++ [k] }
  pure k

def terminateProcess : Option ℕ → Program Unit
  | none => pure ()
  | some k => perform (.terminate k)

/-- `stop` of a sink; the writer of an Icecast sink may outlive it. -/
def stopSink (x : ℕ) : Program Unit := do
  perform (.setSink x fun y => { y with writerStop := true })
  perform (.setSink x fun y => { y with process := none, alive := false, signature := none })
  perform (.setSink x fun y => { y with queue := [] })

/-- `IcecastAudioSink.ensure_started`. -/
def startIcecastSink (x : ℕ) (cfg : Cfg) : Program Unit := do
  let mountHealthy ← ask
  let y ← perform (.getSink x)
  if y.any fun y => y.process.isSome && y.alive && mountHealthy &&
      y.signature = some (sinkSignature cfg) then pure ()
  else
    stopSink x
    throwing (.spawnSink x)
    let exited ← ask
    if exited then
      perform (.setSink x fun y => { y with process := none, alive := false, signature := none })
      .raise .failed
    else
      perform (.setSink x fun y => { y with signature := some (sinkSignature cfg) })
      perform (.setSink x fun y => { y with writerStop := false })
      perform (.setSink x fun y => { y with queue := [] })
      perform (.startWriter x)

def stopLocalSink (x : ℕ) : Program Unit :=
  perform (.setSink x fun y => { y with process := none, alive := false })

/-- `LocalAudioSink.ensure_started`. -/
def startLocalSink (x : ℕ) : Program Unit := do
  let y ← perform (.getSink x)
  if y.any fun y => y.process.isSome && y.alive then pure ()
  else
    stopLocalSink x
    throwing (.spawnSink x)

def newIcecastSink : Program Unit := do
  if (← get).icecastSink.isNone then
    let x ← perform (.newSink .icecast)
    set fun r => { r with icecastSink := some x }
  else pure ()

def ensureIcecastSink (cfg : Cfg) : Program Bool := do
  if !cfg.icecastEnabled || !(← get).ffmpegBin then pure false
  else
    newIcecastSink
    match (← get).icecastSink with
    | none => pure false
    | some x => (do startIcecastSink x cfg; pure true).tryCatch fun _ => pure false

/-- A player that is to be named after another station is given up. -/
def dropRenamedSink (renamed : Bool) : Program Unit := do
  match (← get).localSink with
  | some x =>
    if renamed then
      stopLocalSink x
      set fun r => { r with localSink := none }
    else pure ()
  | none => pure ()

def newLocalSink : Program Unit := do
  if (← get).localSink.isNone then
    let x ← perform (.newSink .local)
    set fun r => { r with localSink := some x }
  else pure ()

def ensureLocalSink (cfg : Cfg) : Program Bool := do
  if !cfg.localOutputEnabled || !(← get).ffplayBin then pure false
  else
    dropRenamedSink (← ask)
    newLocalSink
    match (← get).localSink with
    | none => pure false
    | some x => (do startLocalSink x; pure true).tryCatch fun e =>
      match e with
      | .missing => pure false
      | .failed => .raise .failed

/-- The pipe of the process of a sink. -/
def sinkStdin (sink : Option ℕ) : Program Output :=
  match sink with
  | none => .raise .failed
  | some x => do
    let y ← perform (.getSink x)
    match y.bind (·.process) with
    | none => .raise .failed
    | some run => pure (.sink x run)

/-- The Icecast sink is stopped, unless it is kept. -/
def releaseIcecastSink (keep : Bool) : Program Unit := do
  match (← get).icecastSink with
  | none => pure ()
  | some x =>
    if keep then pure ()
    else
      stopSink x
      set fun r => { r with icecastSink := none }

def releaseLocalSink (keep : Bool) : Program Unit := do
  match (← get).localSink with
  | none => pure ()
  | some x =>
    if keep then pure ()
    else
      stopLocalSink x
      set fun r => { r with localSink := none }

def stopSinks : Program Unit := do
  releaseIcecastSink false
  releaseLocalSink false

def releaseDisabledSinks (cfg : Cfg) : Program Unit := do
  releaseIcecastSink cfg.icecastEnabled
  releaseLocalSink cfg.localOutputEnabled

/-! ### Producers -/

def nextPlayoutGeneration : Program Unit :=
  set fun r => { r with playoutGeneration := r.playoutGeneration + 1 }

def markActiveRequest (cfg : Cfg) : Program Unit := do
  nextPlayoutGeneration
  set fun r => { r with activeSignature := some (signature cfg) }
  set fun r => { r with activeCfg := some cfg }

/-- The thread is joined with a timeout and may outlive the call. -/
def stopLiveMixWorker : Program Unit := do
  set fun r => { r with liveMixStop := true }
  set fun r => { r with liveMixStop := false }

def stopIcecastPipeWorker : Program Unit := do
  set fun r => { r with icecastPipeStop := true }
  set fun r => { r with icecastPipeStop := false }

def startLiveMixWorker (producer : Option ℕ) : Program Unit := do
  set fun r => { r with liveMixStop := false }
  let generation := (← get).playoutGeneration
  match producer with
  | none => pure ()
  | some k => perform (.startLoop .mix k generation)

/-- The loop ends at once when it is given no producer or no sink. -/
def startIcecastPipeWorker (producer sink : Option ℕ) (generation : ℕ) : Program Unit := do
  stopIcecastPipeWorker
  set fun r => { r with icecastPipeStop := false }
  match producer, sink with
  | some k, some x => perform (.startLoop (.pipe x) k generation)
  | _, _ => pure ()

/-- The program forgets what was active. -/
def clearActive : Program Unit := do
  set fun r => { r with backend := .none }
  set fun r => { r with activeSignature := none }
  set fun r => { r with activeCfg := none }

def stopProducers : Program Unit := do
  nextPlayoutGeneration
  stopLiveMixWorker
  stopIcecastPipeWorker
  terminateProcess (← get).localProcess
  set fun r => { r with localProcess := none }
  terminateProcess (← get).process
  set fun r => { r with process := none }
  clearActive

def spawnIcecastPcmProducer (cfg : Cfg) : Program ℕ := do
  if !(← ensureIcecastSink cfg) then .raise .missing
  else if !(← get).ffmpegBin then .raise .missing
  else
    let _ ← sinkStdin (← get).icecastSink
    spawnProcess .program .pipe

def spawnLocalPcmProducer (cfg : Cfg) (role : Role) : Program ℕ := do
  if !(← ensureLocalSink cfg) then .raise .missing
  else if !(← get).ffmpegBin then .raise .missing
  else
    let output ← sinkStdin (← get).localSink
    spawnProcess role output

def spawnLiveMixProducer : Program ℕ := do
  if !(← get).ffmpegBin then .raise .missing
  else spawnProcess .program .pipe

def spawnCrossfadePcmProducer (sink : Option ℕ) (role : Role) : Program ℕ := do
  if !(← get).ffmpegBin then .raise .missing
  else
    let output ← sinkStdin sink
    spawnProcess role output

def launchLiveMixState (cfg : Cfg) : Program Unit := do
  if !cfg.icecastEnabled && !cfg.localOutputEnabled then .raise .failed
  else
    let icecastEnabled ← ensureIcecastSink cfg
    let localEnabled ← ensureLocalSink cfg
    if !icecastEnabled && !localEnabled then .raise .missing
    else
      set fun r => { r with localProcess := none }
      let k ← spawnLiveMixProducer
      set fun r => { r with process := some k }
      set fun r => { r with backend := .liveMix }
      markActiveRequest cfg
      startLiveMixWorker (← get).process

/-- The producer of an Icecast stream, carried by a thread. -/
def launchIcecast (cfg : Cfg) : Program Unit := do
  set fun r => { r with backend := .ffmpeg }
  markActiveRequest cfg
  let producer := (← get).process
  let sink := (← get).icecastSink
  startIcecastPipeWorker producer sink (← get).playoutGeneration

/-- `self._process = self._spawn_process(gst_cmd)`, unless the start is at an offset. -/
def spawnGst (cfg : Cfg) (atOffset : Bool) : Program Bool := do
  if atOffset then .raise .missing
  else
    let k ← spawnProcess .program .own
    set fun r => { r with process := some k }
    set fun r => { r with backend := .gst }
    markActiveRequest cfg
    pure true

def launchGst (cfg : Cfg) (atOffset : Bool) : Program Bool :=
  (spawnGst cfg atOffset).tryCatch fun e =>
    match e with
    | .missing => pure false
    | .failed => .raise .failed

def launchIcecastOnly (cfg : Cfg) : Program Unit := do
  if !(← ensureIcecastSink cfg) then .raise .missing
  else
    let k ← spawnIcecastPcmProducer cfg
    set fun r => { r with process := some k }

/-- The local output beside Icecast. -/
def launchMonitor (cfg : Cfg) : Program Unit := do
  let k ← spawnLocalPcmProducer cfg .monitor
  set fun r => { r with localProcess := some k }

def launchSteadyState (cfg : Cfg) (atOffset : Bool) : Program Unit := do
  if !cfg.icecastEnabled && !cfg.localOutputEnabled then .raise .failed
  else if cfg.icecastEnabled && !cfg.localOutputEnabled then
    (launchIcecastOnly cfg).tryCatch fun e => do
      set fun r => { r with process := none }
      clearActive
      .raise e
    launchIcecast cfg
  else if ← launchGst cfg atOffset then pure ()
  else
    let icecastEnabled ← ensureIcecastSink cfg
    let localEnabled ← ensureLocalSink cfg
    set fun r => { r with localProcess := none }
    if cfg.icecastEnabled then
      if !icecastEnabled then .raise .missing
      else
        let k ← spawnIcecastPcmProducer cfg
        set fun r => { r with process := some k }
        launchIcecast cfg
        if localEnabled then
          (launchMonitor cfg).tryCatch fun _ => set fun r => { r with localProcess := none }
        else pure ()
    else if !(← get).ffmpegBin || !localEnabled then .raise .missing
    else
      let k ← spawnLocalPcmProducer cfg .program
      set fun r => { r with process := some k }
      set fun r => { r with backend := .ffmpegLocal }
      markActiveRequest cfg

/-- `_should_use_live_mix`: somebody transmits, or a guest is on air. -/
def shouldUseLiveMix : Program Bool := ask

def restartWith (cfg : Cfg) (atOffset : Bool) : Program Unit := do
  stopProducers
  releaseDisabledSinks cfg
  if ← shouldUseLiveMix then launchLiveMixState cfg
  else launchSteadyState cfg atOffset

/-- The producers of a transition: one for the first output, one for the local output beside
Icecast. The sinks are passed on as they are then. -/
def startTransition (icecastEnabled localEnabled : Bool) :
    Program (ℕ × Option ℕ) := do
  if icecastEnabled then
    let k ← spawnCrossfadePcmProducer (← get).icecastSink .program
    if localEnabled then
      let j ← (spawnCrossfadePcmProducer (← get).localSink .monitor).tryCatch fun e => do
        perform (.terminate k)
        Prog.raise e
      pure (k, some j)
    else pure (k, none)
  else if localEnabled then
    let k ← spawnCrossfadePcmProducer (← get).localSink .program
    pure (k, none)
  else Prog.raise .failed

/-- The processes are those the runtime had when the crossfade came to them. -/
def swapProducers (cfg : Cfg) (process localProcess : Option ℕ)
    (icecastEnabled localEnabled : Bool) : Program Unit := do
  terminateProcess localProcess
  set fun r => { r with localProcess := none }
  terminateProcess process
  set fun r => { r with process := none }
  let new ← startTransition icecastEnabled localEnabled
  set fun r => { r with process := some new.1 }
  set fun r => { r with localProcess := new.2 }
  set fun r => { r with backend := .ffmpegTransition }
  markActiveRequest cfg

def startCrossfade (cfg : Cfg) : Program Unit := do
  let r ← get
  if r.activeCfg.isNone || !r.ffmpegBin then .raise .failed
  else
    let icecastEnabled ← ensureIcecastSink cfg
    let localEnabled ← ensureLocalSink cfg
    if cfg.localOutputEnabled && !localEnabled && !cfg.icecastEnabled then .raise .failed
    else if cfg.icecastEnabled && !icecastEnabled && !localEnabled then .raise .failed
    else
      let process := (← get).process
      let localProcess := (← get).localProcess
      (swapProducers cfg process localProcess icecastEnabled localEnabled).tryCatch fun e => do
        set fun r => { r with process := none }
        set fun r => { r with localProcess := none }
        clearActive
        .raise e

/-- `is_running`. -/
def isRunning : Program Bool := do
  match (← get).process with
  | none => pure false
  | some k => perform (.isAlive k)

def canCrossfade (current next : Cfg) : Program Bool := do
  let running ← isRunning
  pure (running && 0 < next.crossfadeSeconds && normalizeTrackType current.trackType = "music" &&
    normalizeTrackType next.trackType = "music")

def transitionBackendSupported (cfg : Cfg) : Program Bool := do
  let r ← get
  if !r.ffmpegBin then pure false
  else if cfg.localOutputEnabled && !cfg.icecastEnabled && !r.ffplayBin then pure false
  else
    let transitionActive ← ask
    pure (!transitionActive)

def mayCrossfade (current : Option Cfg) (next : Cfg) (atOffset : Bool) : Program Bool := do
  match current with
  | none => pure false
  | some current =>
    if atOffset then pure false
    else if ← canCrossfade current next then transitionBackendSupported next
    else pure false

/-! ### Calls -/

/-- A running program is replaced. -/
def replace (cfg : Cfg) (atOffset liveMixRequested : Bool) : Program Unit := do
  let r ← get
  if r.activeSignature = some (signature cfg) then
    set fun r => { r with activeCfg := some cfg }
    if atOffset then restartWith cfg true
    else if liveMixRequested && (← get).backend ≠ .liveMix then
      let offset ← ask
      restartWith cfg offset
    else pure ()
  else if liveMixRequested then restartWith cfg atOffset
  else
    let fades ← mayCrossfade r.activeCfg cfg atOffset
    if fades then (startCrossfade cfg).tryCatch fun _ => restartWith cfg atOffset
    else restartWith cfg atOffset

/-- What an ended program has left behind. -/
def clearEnded (cfg : Cfg) : Program Unit := do
  let process := (← get).process
  if process.isSome || (← get).localProcess.isSome then
    stopProducers
    releaseDisabledSinks cfg
  else pure ()

def start (cfg : Cfg) (atOffset : Bool) : Program Unit := do
  let ffmpeg ← ask
  let ffplay ← ask
  set fun r => { r with ffmpegBin := ffmpeg, ffplayBin := ffplay }
  let liveMixRequested ← shouldUseLiveMix
  if ← isRunning then replace cfg atOffset liveMixRequested
  else
    clearEnded cfg
    if liveMixRequested then launchLiveMixState cfg else launchSteadyState cfg atOffset

def promoteLiveMix : Program Unit := do
  if (← get).backend = .liveMix then pure ()
  else if !(← isRunning) then pure ()
  else
    match (← get).activeCfg with
    | none => pure ()
    | some _ =>
      if !(← shouldUseLiveMix) then pure ()
      else
        match (← get).activeCfg with
        | none => .raise .failed
        | some cfg =>
          let offset ← ask
          restartWith cfg offset

def recoverOutputs : Program Unit := do
  match (← get).activeCfg with
  | none => .raise .failed
  | some cfg =>
    let offset ← ask
    restartWith cfg offset

def terminateAll : List ℕ → Program Unit
  | [] => pure ()
  | k :: ks => do
    perform (.terminate k)
    terminateAll ks

def stop : Program Unit := do
  stopProducers
  stopSinks
  let owned := (← get).ownedProcesses
  set fun r => { r with ownedProcesses := [] }
  terminateAll owned

/-! ### `StationRuntimeRegistry` -/

def startStation (cfg : Cfg) (atOffset : Bool) : Program Unit := do
  set fun r => { r with registered := true }
  start cfg atOffset

def stopStation : Program Unit := do
  if (← get).registered then stop else pure ()

/-- Whether a recovery is due is decided from its own state and from the outputs. -/
def recoverStation : Program Unit := do
  if (← get).registered then
    if ← ask then recoverOutputs else pure ()
  else pure ()

def handleLiveMicStart : Program Unit := do
  if (← get).registered then promoteLiveMix else pure ()

end Programs

/-! ### Runs -/

inductive Event
  /-- a call gets the operation lock of the station -/
  | startStation (cfg : Cfg) (atOffset : Bool)
  | stopStation
  | recoverStation
  /-- the live microphone starts; this call takes no lock -/
  | liveMicStart
  /-- the next access of a call -/
  | advance (i : ℕ) (w : Outcome)
  /-- the next step of a producer loop -/
  | loop (i : ℕ) (w : Outcome)
  /-- the next step of a writer of an Icecast sink -/
  | writer (i : ℕ) (w : Outcome)
  /-- a producer writes a chunk to the pipe it was given -/
  | emit (k : ℕ)
  /-- a producer ends by itself -/
  | exit (k : ℕ)
  /-- the process of a sink ends by itself -/
  | sinkExit (x : ℕ)
  deriving DecidableEq, Repr

section Runs

variable (s : Store)

/-- `accepts_input`. -/
def Sink.accepts (y : Sink) : Bool := y.process.isSome && y.alive

def pcmQueueMaxChunks : ℕ := 64

/-- A chunk is queued for an Icecast sink, or written to a local one; or it is dropped. -/
def writePcm (chunk : ℕ) (ok : Bool) (y : Sink) : Sink :=
  match y.kind with
  | .icecast =>
    if y.accepts && y.queue.length < pcmQueueMaxChunks then { y with queue := y.queue ++ [chunk] }
    else y
  | .local => if y.accepts && ok then { y with written := chunk :: y.written } else y

def pcmOutputTargets : List ℕ := s.runtime.icecastSink.toList ++ s.runtime.localSink.toList

def setLoop (i : ℕ) (p : LoopPhase) : Store :=
  { s with loops := s.loops.modify i fun l => { l with phase := p } }

def isWriting (l : Loop) : Bool :=
  match l.phase with
  | .writing _ => true
  | _ => false

def isStopSet (kind : LoopKind) : Bool :=
  match kind with
  | .pipe _ => s.runtime.icecastPipeStop
  | .mix => s.runtime.liveMixStop

def stepLoop (i : ℕ) (w : Outcome) : Option Store :=
  s.loops[i]?.bind fun l =>
    let current : Bool := l.generation = s.runtime.playoutGeneration
    match l.phase with
    | .top => some (setLoop s i (if isStopSet s l.kind || !current then .ended else .reading))
    | .reading =>
      -- a chunk, nothing yet, or the end of the stream
      some (setLoop s i (match w with
        | .ok => .holding
        | .missing => .top
        | .failed => .ended))
    | .holding =>
      match l.kind with
      | .pipe x => some (setLoop s i (if current then .aimed [x] else .ended))
      | .mix => some (setLoop s i (.aimed (pcmOutputTargets s)))
    | .aimed targets =>
      if !current then some (setLoop s i .top)
      else if s.loops.any isWriting then none
      else some (setLoop s i (.writing targets))
    | .writing (x :: targets) =>
      some (setLoop (setSink s x (writePcm l.producer (w = .ok))) i (.writing targets))
    | .writing [] => some (setLoop s i .top)
    | .ended => none

def setWriter (i : ℕ) (p : WriterPhase) : Store :=
  { s with writers := s.writers.modify i fun v => { v with phase := p } }

def stepWriter (i : ℕ) (w : Outcome) : Option Store :=
  s.writers[i]?.bind fun v =>
    s.sinks[v.sink]?.bind fun y =>
      match v.phase with
      | .top => some (setWriter s i (if y.writerStop then .ended else .getting))
      | .getting =>
        match y.queue with
        | [] => some (setWriter s i .top)
        | chunk :: rest =>
          some (setWriter (setSink s v.sink fun y => { y with queue := rest }) i (.holding chunk))
      | .holding chunk =>
        if !y.accepts then some (setWriter s i .top)
        else if w = .ok then
          some (setWriter
            (setSink s v.sink fun y => { y with written := chunk :: y.written }) i .top)
        else some (setWriter s i .ended)
      | .ended => none

/-- A chunk arrives at the process of a sink that the producer was started for. -/
def emit (k : ℕ) : Option Store :=
  s.producers[k]?.bind fun p =>
    match p.output with
    | .sink x run =>
      if p.alive then
        s.sinks[x]?.bind fun y =>
          if y.process = some run && y.alive then
            some (setSink s x fun y => { y with written := k :: y.written })
          else none
      else none
    | _ => none

def locked : Bool := s.calls.any fun c => c.locks && c.program.waits

def begin (locks : Bool) (program : Program Unit) : Option Store :=
  if locks && locked s then none else some { s with calls := s.calls ++ [⟨locks, program⟩] }

def advance (i : ℕ) (w : Outcome) : Option Store :=
  s.calls[i]?.bind fun c =>
    (c.program.turn run w s).map fun r =>
      { r.2 with calls := s.calls.modify i fun c => { c with program := r.1 } }

def step (s : Store) : Event → Option Store
  | .startStation cfg atOffset => begin s true (startStation cfg atOffset)
  | .stopStation => begin s true stopStation
  | .recoverStation => begin s true recoverStation
  | .liveMicStart => begin s false handleLiveMicStart
  | .advance i w => advance s i w
  | .loop i w => stepLoop s i w
  | .writer i w => stepWriter s i w
  | .emit k => emit s k
  | .exit k => some (setProducer s k fun p => { p with alive := false })
  | .sinkExit x => some (setSink s x fun y => { y with alive := false })

end Runs

end OnAir.StationRuntime
