import OnAir.StationRuntime

/-!
The silence floor of a station: a thread that keeps the sinks fed while no program does.

It goes by the time at which audio of the program last passed through the runtime. A request sets
that time, and so does each chunk that a loop of the runtime reads or has written; a producer that
was given the pipe of a sink passes it by. The calls are those of the runtime, with what they do
to this time and to the thread.
-/

namespace OnAir.SilenceFloor

open Resumption Runs StationRuntime

/-- The operations of the runtime, and those that are added. -/
abbrev Both (Op Extra : Type → Type) (β : Type) : Type := Op β ⊕ Extra β

/-- A program of the runtime as it stands. -/
def inner {Op Extra : Type → Type} {ε α : Type} : Prog Op ε α → Prog (Both Op Extra) ε α
  | .pure a => .pure a
  | .raise e => .raise e
  | .op o k => .op (.inl o) fun b => inner (k b)

/-- One access to the time of the last program audio, or to the thread. -/
inductive FloorOp : Type → Type
  /-- `self._last_program_pcm_monotonic = time.monotonic()` -/
  | noteProgramPcm : FloorOp Unit
  /-- the thread is there, and alive -/
  | isThreadAlive : FloorOp Bool
  | setStop (b : Bool) : FloorOp Unit
  | startThread : FloorOp Unit
  | dropThread : FloorOp Unit

abbrev Program := Prog (Both Op FloorOp) Raised

/-! ### The thread -/

def noteProgramPcm : Program Unit := perform (.inr .noteProgramPcm)

/-- `_start_silence_floor_worker`. -/
def startSilenceFloorWorker : Program Unit := do
  if ← perform (.inr .isThreadAlive) then pure ()
  else
    noteProgramPcm
    perform (.inr (.setStop false))
    perform (.inr .startThread)

/-- `_stop_silence_floor_worker`; the thread is joined with a timeout and may outlive the call. -/
def stopSilenceFloorWorker : Program Unit := do
  perform (.inr (.setStop true))
  perform (.inr .dropThread)
  perform (.inr (.setStop false))

/-! ### The calls -/

def markActiveRequest (cfg : Cfg) : Program Unit := do
  inner (StationRuntime.markActiveRequest cfg)
  noteProgramPcm

def launchLiveMixState (cfg : Cfg) : Program Unit := do
  if !cfg.icecastEnabled && !cfg.localOutputEnabled then .raise .failed
  else
    let icecastEnabled ← inner (ensureIcecastSink cfg)
    let localEnabled ← inner (ensureLocalSink cfg)
    if !icecastEnabled && !localEnabled then .raise .missing
    else
      inner (set fun r => { r with localProcess := none })
      let k ← inner spawnLiveMixProducer
      inner (set fun r => { r with process := some k })
      inner (set fun r => { r with backend := .liveMix })
      markActiveRequest cfg
      inner (startLiveMixWorker (← inner get).process)
      startSilenceFloorWorker

def launchIcecast (cfg : Cfg) : Program Unit := do
  inner (set fun r => { r with backend := .ffmpeg })
  markActiveRequest cfg
  let producer := (← inner get).process
  let sink := (← inner get).icecastSink
  inner (startIcecastPipeWorker producer sink (← inner get).playoutGeneration)
  startSilenceFloorWorker

def spawnGst (cfg : Cfg) (atOffset : Bool) : Program Bool := do
  if atOffset then .raise .missing
  else
    let k ← inner (spawnProcess .program .own)
    inner (set fun r => { r with process := some k })
    inner (set fun r => { r with backend := .gst })
    markActiveRequest cfg
    pure true

def launchGst (cfg : Cfg) (atOffset : Bool) : Program Bool :=
  (spawnGst cfg atOffset).tryCatch fun e =>
    match e with
    | .missing => pure false
    | .failed => .raise .failed

def launchSteadyState (cfg : Cfg) (atOffset : Bool) : Program Unit := do
  if !cfg.icecastEnabled && !cfg.localOutputEnabled then .raise .failed
  else if cfg.icecastEnabled && !cfg.localOutputEnabled then
    inner ((launchIcecastOnly cfg).tryCatch fun e => do
      set fun r => { r with process := none }
      clearActive
      .raise e)
    launchIcecast cfg
  else if ← launchGst cfg atOffset then pure ()
  else
    let icecastEnabled ← inner (ensureIcecastSink cfg)
    let localEnabled ← inner (ensureLocalSink cfg)
    inner (set fun r => { r with localProcess := none })
    if cfg.icecastEnabled then
      if !icecastEnabled then .raise .missing
      else
        let k ← inner (spawnIcecastPcmProducer cfg)
        inner (set fun r => { r with process := some k })
        launchIcecast cfg
        if localEnabled then
          inner ((launchMonitor cfg).tryCatch fun _ =>
            set fun r => { r with localProcess := none })
        else pure ()
    else if !(← inner get).ffmpegBin || !localEnabled then .raise .missing
    else
      let k ← inner (spawnLocalPcmProducer cfg .program)
      inner (set fun r => { r with process := some k })
      inner (set fun r => { r with backend := .ffmpegLocal })
      markActiveRequest cfg

def restartWith (cfg : Cfg) (atOffset : Bool) : Program Unit := do
  inner stopProducers
  inner (releaseDisabledSinks cfg)
  if ← inner shouldUseLiveMix then launchLiveMixState cfg
  else launchSteadyState cfg atOffset

def swapProducers (cfg : Cfg) (process localProcess : Option ℕ)
    (icecastEnabled localEnabled : Bool) : Program Unit := do
  inner (terminateProcess localProcess)
  inner (set fun r => { r with localProcess := none })
  inner (terminateProcess process)
  inner (set fun r => { r with process := none })
  let new ← inner (startTransition icecastEnabled localEnabled)
  inner (set fun r => { r with process := some new.1 })
  inner (set fun r => { r with localProcess := new.2 })
  inner (set fun r => { r with backend := .ffmpegTransition })
  markActiveRequest cfg

def startCrossfade (cfg : Cfg) : Program Unit := do
  let r ← inner get
  if r.activeCfg.isNone || !r.ffmpegBin then .raise .failed
  else
    let icecastEnabled ← inner (ensureIcecastSink cfg)
    let localEnabled ← inner (ensureLocalSink cfg)
    if cfg.localOutputEnabled && !localEnabled && !cfg.icecastEnabled then .raise .failed
    else if cfg.icecastEnabled && !icecastEnabled && !localEnabled then .raise .failed
    else
      let process := (← inner get).process
      let localProcess := (← inner get).localProcess
      (swapProducers cfg process localProcess icecastEnabled localEnabled).tryCatch fun e =>
        inner do
          set fun r => { r with process := none }
          set fun r => { r with localProcess := none }
          clearActive
          .raise e

def replace (cfg : Cfg) (atOffset liveMixRequested : Bool) : Program Unit := do
  let r ← inner get
  if r.activeSignature = some (signature cfg) then
    inner (set fun r => { r with activeCfg := some cfg })
    if atOffset then restartWith cfg true
    else if liveMixRequested && (← inner get).backend ≠ .liveMix then
      let offset ← inner ask
      restartWith cfg offset
    else pure ()
  else if liveMixRequested then restartWith cfg atOffset
  else
    let fades ← inner (mayCrossfade r.activeCfg cfg atOffset)
    if fades then (startCrossfade cfg).tryCatch fun _ => restartWith cfg atOffset
    else restartWith cfg atOffset

def start (cfg : Cfg) (atOffset : Bool) : Program Unit := do
  let ffmpeg ← inner ask
  let ffplay ← inner ask
  inner (set fun r => { r with ffmpegBin := ffmpeg, ffplayBin := ffplay })
  let liveMixRequested ← inner shouldUseLiveMix
  if ← inner isRunning then replace cfg atOffset liveMixRequested
  else
    inner (clearEnded cfg)
    if liveMixRequested then launchLiveMixState cfg else launchSteadyState cfg atOffset

def promoteLiveMix : Program Unit := do
  if (← inner get).backend = .liveMix then pure ()
  else if !(← inner isRunning) then pure ()
  else
    match (← inner get).activeCfg with
    | none => pure ()
    | some _ =>
      if !(← inner shouldUseLiveMix) then pure ()
      else
        match (← inner get).activeCfg with
        | none => .raise .failed
        | some cfg =>
          let offset ← inner ask
          restartWith cfg offset

def recoverOutputs : Program Unit := do
  match (← inner get).activeCfg with
  | none => .raise .failed
  | some cfg =>
    let offset ← inner ask
    restartWith cfg offset

def stop : Program Unit := do
  stopSilenceFloorWorker
  inner StationRuntime.stop

def startStation (cfg : Cfg) (atOffset : Bool) : Program Unit := do
  inner (set fun r => { r with registered := true })
  start cfg atOffset

def stopStation : Program Unit := do
  if (← inner get).registered then stop else pure ()

def recoverStation : Program Unit := do
  if (← inner get).registered then
    if ← inner ask then recoverOutputs else pure ()
  else pure ()

def handleLiveMicStart : Program Unit := do
  if (← inner get).registered then promoteLiveMix else pure ()

/-! ### Runs -/

inductive Phase
  | top
  /-- has found the stop not set -/
  | aiming
  /-- has looked up the sinks -/
  | judging (targets : List ℕ)
  /-- has found that no program audio passed for long enough -/
  | aimed (targets : List ℕ)
  /-- has the lock -/
  | writing (targets : List ℕ)
  | ended
  deriving DecidableEq, Repr

structure Call where
  locks : Bool
  program : Program Unit

/-- A chunk of silence that a sink took, and whether a producer was feeding that sink. -/
structure Silence where
  sink : ℕ
  fed : Bool
  deriving DecidableEq, Repr

structure Station where
  /-- the runtime, its processes and its other threads; the calls are those below -/
  store : Store
  now : ℚ
  lastProgramPcm : ℚ
  floorStop : Bool
  floorThread : Option ℕ
  threads : List Phase
  calls : List Call
  /-- when a producer delivered its last chunk -/
  delivered : ℕ → Option ℚ
  /-- the last one first -/
  silence : List Silence

def initial : Station :=
  ⟨StationRuntime.initial, 0, 0, false, none, [], [], fun _ => none, []⟩

inductive Event
  | startStation (cfg : Cfg) (atOffset : Bool)
  | stopStation
  | recoverStation
  | liveMicStart
  /-- the next access of a call -/
  | advance (i : ℕ) (w : Outcome)
  /-- what the other threads, the producers and the sinks do -/
  | world (e : StationRuntime.Event)
  /-- the next step of a thread of the floor; its waits end at any time -/
  | thread (i : ℕ) (w : Outcome)
  | pass (d : ℚ)
  deriving DecidableEq, Repr

section Runs

variable (s : Station)

/-- What an operation answers, and the station after it. -/
def run : {β : Type} → Both Op FloorOp β → Outcome → Station → Option (β × Station)
  | _, .inl o, w, s => (StationRuntime.run o w s.store).map fun r => (r.1, { s with store := r.2 })
  | _, .inr .noteProgramPcm, _, s => some ((), { s with lastProgramPcm := s.now })
  | _, .inr .isThreadAlive, _, s =>
    some (s.floorThread.any fun i => (s.threads[i]?).any (· ≠ .ended), s)
  | _, .inr (.setStop b), _, s => some ((), { s with floorStop := b })
  | _, .inr .startThread, _, s => some ((),
      { s with threads := s.threads ++ [.top], floorThread := some s.threads.length })
  | _, .inr .dropThread, _, s => some ((), { s with floorThread := none })

/-! #### Who feeds a sink -/

/-- The audio of a producer goes to a sink: the producer has the pipe of its process, or a loop of
the current generation carries it there. -/
def reaches (s : Store) (k x : ℕ) : Bool :=
  (s.producers[k]?).any fun p => p.alive && (s.sinks[x]?).any fun y =>
    match p.output with
    | .sink z run => z = x && y.process = some run && y.alive
    | .pipe => s.loops.any fun l => l.producer = k && l.phase ≠ .ended &&
        l.generation = s.runtime.playoutGeneration && l.reaches x
    | .own => false

/-- A live producer that has begun to deliver feeds the sink. -/
def feeds (k x : ℕ) : Bool := (s.delivered k).isSome && reaches s.store k x

def isFed (x : ℕ) : Bool := (List.range s.store.producers.length).any fun k => feeds s k x

/-! #### The loop of the thread -/

/-- `_SILENCE_FLOOR_AFTER_SECONDS`. -/
def silenceFloorAfterSeconds : ℚ := 1

def isQuiet : Bool := silenceFloorAfterSeconds ≤ s.now - s.lastProgramPcm

def Phase.isWriting : Phase → Bool
  | .writing _ => true
  | _ => false

/-- `_pcm_write_lock` is taken. -/
def lockTaken : Bool :=
  s.store.loops.any StationRuntime.isWriting || s.threads.any Phase.isWriting

/-- The sink takes a chunk; a queue may be full, and a pipe broken. -/
def takes (x : ℕ) (w : Outcome) : Bool := (s.store.sinks[x]?).any (·.accepts) && w = .ok

def setThread (i : ℕ) (p : Phase) : Station := { s with threads := s.threads.set i p }

/-- `_silence_floor_loop`, with `_write_pcm_chunk_to_targets`. -/
def stepThread (i : ℕ) (w : Outcome) : Option Station :=
  s.threads[i]?.bind fun p =>
    match p with
    | .top => some (setThread s i (if s.floorStop then .ended else .aiming))
    | .aiming =>
      let targets := pcmOutputTargets s.store
      some (setThread s i (if targets = [] then .top else .judging targets))
    | .judging targets => some (setThread s i (if isQuiet s then .aimed targets else .top))
    | .aimed targets => if lockTaken s then none else some (setThread s i (.writing targets))
    | .writing (x :: targets) =>
      let written := if takes s x w then ⟨x, isFed s x⟩ :: s.silence else s.silence
      some { setThread s i (.writing targets) with silence := written }
    | .writing [] => some (setThread s i .top)
    | .ended => none

/-! #### The other threads -/

def isWorld : StationRuntime.Event → Bool
  | .loop _ _ | .writer _ _ | .emit _ | .exit _ | .sinkExit _ => true
  | _ => false

/-- A loop waits for the lock while a thread of the floor writes. -/
def isBlocked : StationRuntime.Event → Bool
  | .loop i _ => s.threads.any Phase.isWriting && (s.store.loops[i]?).any fun l =>
    l.generation = s.store.runtime.playoutGeneration && match l.phase with
      | .aimed _ => true
      | _ => false
  | _ => false

/-- The producer that delivers a chunk, to a loop that reads or to the sink it writes to. -/
def deliverer (s : Store) : StationRuntime.Event → Option ℕ
  | .loop i .ok => (s.loops[i]?).bind fun l => if l.phase = .reading then some l.producer else none
  | .emit k => some k
  | _ => none

/-- A loop has read a chunk, or a sink has taken it. -/
def notes (s : Store) : StationRuntime.Event → Bool
  | .loop i .ok => (s.loops[i]?).any fun l => l.phase = .reading || l.phase = .writing []
  | _ => false

def stepWorld (e : StationRuntime.Event) : Option Station :=
  if isWorld e && !isBlocked s e then
    (StationRuntime.step s.store e).map fun t =>
      { s with
        store := t
        lastProgramPcm := if notes s.store e then s.now else s.lastProgramPcm
        delivered := match deliverer s.store e with
          | some k => Function.update s.delivered k (some s.now)
          | none => s.delivered }
  else none

/-! #### The calls -/

def locked : Bool := s.calls.any fun c => c.locks && c.program.waits

def begin (locks : Bool) (program : Program Unit) : Option Station :=
  if locks && locked s then none else some { s with calls := s.calls ++ [⟨locks, program⟩] }

def advance (i : ℕ) (w : Outcome) : Option Station :=
  s.calls[i]?.bind fun c =>
    (c.program.turn run w s).map fun r =>
      { r.2 with calls := s.calls.modify i fun c => { c with program := r.1 } }

def step (s : Station) : Event → Option Station
  | .startStation cfg atOffset => begin s true (startStation cfg atOffset)
  | .stopStation => begin s true stopStation
  | .recoverStation => begin s true recoverStation
  | .liveMicStart => begin s false handleLiveMicStart
  | .advance i w => advance s i w
  | .world e => stepWorld s e
  | .thread i w => stepThread s i w
  | .pass d => if 0 ≤ d then some { s with now := s.now + d } else none

end Runs

/-! ### Steps -/

section Steps

variable {s t : Station}

lemma stepWorld_cases {e : StationRuntime.Event} (h : stepWorld s e = some t) :
    isWorld e = true ∧ StationRuntime.step s.store e = some t.store ∧
      t = { s with
        store := t.store
        lastProgramPcm := if notes s.store e then s.now else s.lastProgramPcm
        delivered := match deliverer s.store e with
          | some k => Function.update s.delivered k (some s.now)
          | none => s.delivered } := by
  unfold stepWorld at h
  by_cases hok : (isWorld e && !isBlocked s e) = true
  · rw [if_pos hok] at h
    obtain ⟨u, hu, rfl⟩ := Option.map_eq_some_iff.mp h
    exact ⟨((Bool.and_eq_true ..).mp hok).1, hu, rfl⟩
  · rw [if_neg hok] at h
    cases h

/-- A thread of the floor changes its place and what it has written. -/
lemma stepThread_same {i : ℕ} {w : Outcome} (h : stepThread s i w = some t) :
    t = { s with threads := t.threads, silence := t.silence } := by
  obtain ⟨p, -, h⟩ := Option.bind_eq_some_iff.mp h
  cases p with
  | aimed targets =>
    dsimp only at h
    split_ifs at h
    obtain rfl := Option.some.inj h
    rfl
  | writing targets =>
    cases targets <;> (obtain rfl := Option.some.inj h; rfl)
  | ended => cases h
  | _ => obtain rfl := Option.some.inj h; rfl

lemma run_store {β : Type} {o : Op β} {w : Outcome} {a : β}
    (h : run (.inl o) w s = some (a, t)) : StationRuntime.run o w s.store = some (a, t.store) ∧
      t = { s with store := t.store } := by
  obtain ⟨⟨_, u⟩, hrun, heq⟩ := Option.map_eq_some_iff.mp h
  obtain ⟨rfl, rfl⟩ := Prod.mk.inj heq
  exact ⟨hrun, rfl⟩

end Steps

end OnAir.SilenceFloor
