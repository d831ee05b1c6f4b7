import OnAir.LiveMicRegistry
import OnAir.Resumption

/-!
The lock of the live input registry, followed through its public operations.

An operation is a program that takes the lock, looks at the stations and writes them, gives the
lock back, and asks the sessions, the factories and the listeners in between. The lock is not
reentrant: whoever holds it and takes it once more waits for itself.
-/

namespace OnAir.MicRegistryLock

open LiveMicRegistry Resumption

/-! ### The registry -/

/-- `_stations`, in the order in which they were added. -/
abbrev Stations := List (ℤ × Station)

def Station.unused : Station := ⟨none, none, none, false, none, ""⟩

def stationOf (stations : Stations) (sid : ℤ) : Station := (stations.lookup sid).getD Station.unused

def setStation (stations : Stations) (sid : ℤ) (st : Station) : Stations :=
  stations.map fun e => if e.1 = sid then (sid, st) else e

inductive Lock
  | free
  | held
  /-- the thread waits for the lock that it holds -/
  | waiting
  deriving DecidableEq, Repr

/-- What a thread works on; `found` is what it found when it took the lock. -/
structure State where
  stations : Stations
  found : Stations
  listeners : List ℕ
  lock : Lock

def State.start (stations : Stations) : State := ⟨stations, stations, [], .free⟩

/-- What a session says of its audio. -/
structure Levels where
  receiving : Bool
  levelDb : ℚ
  peakDb : ℚ
  bufferBytes : ℤ
  lastError : String
  deriving DecidableEq, Repr

/-- `_DEFAULT_STATUS`. -/
def Levels.default : Levels := ⟨false, -60, -60, 0, ""⟩

structure Payload where
  stationId : ℤ
  status : Snapshot
  levels : Levels
  deriving DecidableEq, Repr

structure RenderOptions where
  sourceName : String
  inputFormat : String
  sampleRate : ℤ
  channels : ℤ
  maxBufferBytes : ℤ

/-- `input_format or "s16le"`, and so on. -/
def RenderOptions.resolved (o : RenderOptions) : RenderOptions :=
  { o with
    inputFormat := if o.inputFormat = "" then "s16le" else o.inputFormat
    sampleRate := if o.sampleRate = 0 then 24000 else o.sampleRate
    channels := if o.channels = 0 then 1 else o.channels
    maxBufferBytes := if o.maxBufferBytes = 0 then 480000 else o.maxBufferBytes }

/-! ### Operations -/

inductive Raised
  | runtime (message : String)
  /-- whatever a session or a factory raises -/
  | outside
  deriving DecidableEq, Repr

abbrev Answer := Except Raised

inductive Op : Type → Type
  | acquire : Op Unit
  | release : Op Unit
  | load : Op Stations
  | store (stations : Stations) : Op Unit
  | append (listener : ℕ) : Op Unit
  | sessionFactory (sid : ℤ) : Op (Answer (Option ℕ))
  | renderSessionFactory (sid : ℤ) (o : RenderOptions) : Op (Answer ℕ)
  | running (k : ℕ) : Op (Answer Bool)
  | startSession (k : ℕ) : Op (Answer Unit)
  | stopSession (k : ℕ) : Op (Answer Unit)
  /-- `_stop_rtc` -/
  | stopRtc (k : ℕ) : Op Unit
  | pushChunk (k : ℕ) (chunk : List UInt8) : Op (Answer Unit)
  | readPcm (k : ℕ) (requested : ℤ) : Op (Answer (List UInt8))
  | levels (k : ℕ) : Op (Answer Levels)
  /-- `_notify_listeners` -/
  | notify (event : String) (p : Payload) : Op Unit

/-- What the surroundings answer, and what the other threads make of the stations before the lock
is taken again. -/
structure World where
  raises : Bool
  yes : Bool
  session : Option ℕ
  renderSession : ℕ
  pcm : List UInt8
  levels : Levels
  stations : Stations

/-- The answer of the surroundings. -/
def World.answer {α : Type} (w : World) (a : α) : Answer α :=
  if w.raises then .error .outside else .ok a

def State.acquires (s : State) : State :=
  match s.lock with
  | .free => { s with lock := .held, found := s.stations }
  | _ => { s with lock := .waiting }

def perform {β : Type} (o : Op β) (w : World) (s : State) : β × State :=
  match o with
  | .acquire => ((), s.acquires)
  | .release => ((), { s with lock := .free, stations := w.stations })
  | .load => (s.stations, s)
  | .store stations => ((), { s with stations := stations })
  | .append listener => ((), { s with listeners := s.listeners ++ [listener] })
  | .sessionFactory _ => (w.answer w.session, s)
  | .renderSessionFactory _ _ => (w.answer w.renderSession, s)
  | .running _ => (w.answer w.yes, s)
  | .startSession _ | .stopSession _ | .pushChunk _ _ => (w.answer (), s)
  | .stopRtc _ | .notify _ _ => ((), s)
  | .readPcm _ _ => (w.answer w.pcm, s)
  | .levels _ => (w.answer w.levels, s)

/-- A thread that waits for itself does nothing more. -/
def execute {β : Type} (o : Op β) (w : World) (s : State) : Option (β × State) :=
  if s.lock = .waiting then none else some (perform o w s)

abbrev Program := Prog Op Raised

def op {α : Type} (o : Op α) : Program α := Resumption.perform o

def ask {α : Type} (o : Op (Answer α)) : Program α := do
  match ← op o with
  | .ok a => return a
  | .error e => .raise e

/-! ### The methods -/

/-- `with self._lock`. -/
def withLock {α : Type} (p : Program α) : Program α := do
  op .acquire
  let a ← p.tryCatch fun e => do
    op .release
    .raise e
  op .release
  return a

/-- `except Exception: pass`. -/
def quietly (p : Program Unit) : Program Unit := p.tryCatch fun _ => return ()

/-- `_state_for`. -/
def stateFor (sid : ℤ) : Program Station := do
  let stations ← op .load
  match stations.lookup sid with
  | some st => return st
  | none =>
    op (.store (stations ++ [(sid, Station.unused)]))
    return Station.unused

def write (sid : ℤ) (st : Station) : Program Unit := do
  let stations ← op .load
  op (.store (setStation stations sid st))

/-- A station is changed under the lock; what it was is returned. -/
def exchange (sid : ℤ) (f : Station → Station) : Program Station :=
  withLock do
    let st ← stateFor sid
    write sid (f st)
    return st

def isActive : Option ℕ → Program Bool
  | none => return false
  | some k => ask (.running k)

def snapshot (sid : ℤ) : Program Payload := do
  let (status, source) ← withLock do
    let st ← stateFor sid
    let renderActive ← isActive st.renderSession
    let rtcActive ← isActive st.rtcSession
    let status : Snapshot :=
      { liveInputEnabled :=
          st.transmitting || st.session.isSome || rtcActive || renderActive
        transmitting := st.transmitting
        activeUser := st.activeUser
        transport := if renderActive then .render else if rtcActive then .webrtc else .websocket
        sourceName := st.sourceName }
    return (status,
      if renderActive then st.renderSession
      else if rtcActive then st.rtcSession
      else st.session)
  match source with
  | none => return ⟨sid, status, Levels.default⟩
  | some k => return ⟨sid, status, ← ask (.levels k)⟩

def stop : Option ℕ → Program Unit
  | none => return ()
  | some k => quietly (ask (.stopSession k))

def stopRtc : Option ℕ → Program Unit
  | none => return ()
  | some k => op (.stopRtc k)

/-- The snapshot that the listeners are told of. -/
def announce (event : String) (sid : ℤ) : Program Payload := do
  let p ← snapshot sid
  op (.notify event p)
  return p

def stopAll : Stations → Program Unit
  | [] => return ()
  | (_, st) :: rest => do
    stop st.session
    stopRtc st.rtcSession
    stop st.renderSession
    stopAll rest

def registerListener : Option ℕ → Program Unit
  | none => return ()
  | some listener => op (.append listener)

def reset : Program Unit := do
  let stations ← withLock do
    let stations ← op .load
    op (.store [])
    return stations
  stopAll stations

/-- `_ensure_session`. -/
def ensureSession (sid : ℤ) : Program ℕ := do
  let session ← withLock do
    let st ← stateFor sid
    match st.session with
    | some k => return some k
    | none =>
      let session ← ask (.sessionFactory sid)
      write sid { st with session := session }
      return session
  match session with
  | none => .raise (.runtime "mic session unavailable")
  | some k =>
    if ← ask (.running k) then return k
    else do
      ask (.startSession k)
      return k

def startTransmission (sid : ℤ) (user : User) : Program Payload := do
  let old ← exchange sid fun st => (LiveMicRegistry.startTransmission user st).1
  stopRtc old.rtcSession
  stop old.renderSession
  announce "start" sid

def stopTransmission (sid : ℤ) (userId : Option ℤ) : Program Payload := do
  let _ ← exchange sid fun st => (LiveMicRegistry.stopTransmission userId st).1
  announce "stop" sid

def startRtcSession (sid : ℤ) (k : ℕ) (user : User) : Program Payload := do
  let old ← exchange sid fun st => (LiveMicRegistry.startRtcSession user k st).1
  stop old.session
  stopRtc old.rtcSession
  stop old.renderSession
  announce "start" sid

def stopRtcSession (sid : ℤ) (userId : Option ℤ) : Program Payload := do
  let old ← exchange sid fun st => (LiveMicRegistry.stopRtcSession userId st).1
  stopRtc (if isOwner old userId then old.rtcSession else none)
  announce "stop" sid

def getRtcSession (sid : ℤ) : Program (Option ℕ) :=
  withLock do
    let stations ← op .load
    return (stations.lookup sid).bind (·.rtcSession)

def startRenderTransmission (sid : ℤ) (user : User) (o : RenderOptions) : Program Payload := do
  let k ← ask (.renderSessionFactory sid o.resolved)
  if !(← ask (.running k)) then
    ask (.startSession k)
  let old ← exchange sid fun st =>
    (LiveMicRegistry.startRenderTransmission user o.sourceName k st).1
  stop old.session
  stopRtc old.rtcSession
  stop (old.renderSession.filter (· ≠ k))
  announce "start" sid

def pushRenderChunk (sid : ℤ) (chunk : List UInt8) : Program Payload := do
  let st ← withLock (stateFor sid)
  match st.renderSession with
  | none => .raise (.runtime "render session is not running")
  | some k =>
    if ← ask (.running k) then
      ask (.pushChunk k chunk)
      snapshot sid
    else .raise (.runtime "render session is not running")

/-- The snapshot is taken under the lock if the caller is another user. -/
def releaseOwned (sid : ℤ) (userId : Option ℤ) (f : Station → Station) :
    Program (Payload ⊕ Station) :=
  withLock do
    let st ← stateFor sid
    if isOwner st userId then
      write sid (f st)
      return .inr st
    else return .inl (← snapshot sid)

def stopRenderTransmission (sid : ℤ) (userId : Option ℤ) : Program Payload := do
  match ← releaseOwned sid userId fun st => (LiveMicRegistry.stopRenderTransmission st).1 with
  | .inl p => return p
  | .inr old =>
    stop old.renderSession
    announce "stop" sid

def stopLiveInput (sid : ℤ) (userId : Option ℤ) : Program Payload := do
  match ← releaseOwned sid userId fun st => (LiveMicRegistry.stopLiveInput st).1 with
  | .inl p => return p
  | .inr old =>
    stop old.session
    stopRtc old.rtcSession
    stop old.renderSession
    announce "stop" sid

/-- Whether one of these sessions runs. -/
def anyActive : List ℕ → Program Bool
  | [] => return false
  | k :: ks => do
    if ← ask (.running k) then return true
    else anyActive ks

def pushChunk (sid : ℤ) (chunk : List UInt8) : Program Payload := do
  let st ← withLock (stateFor sid)
  if ← anyActive (st.rtcSession.toList ++ st.renderSession.toList) then snapshot sid
  else do
    let k ← ensureSession sid
    ask (.pushChunk k chunk)
    snapshot sid

def readPcm (sid : ℤ) (numBytes : ℤ) : Program (List UInt8) :=
  if numBytes ≤ 0 then return []
  else do
    let st ← withLock (stateFor sid)
    if ← isActive st.renderSession then ask (.readPcm (st.renderSession.getD 0) numBytes)
    else if ← isActive st.rtcSession then ask (.readPcm (st.rtcSession.getD 0) numBytes)
    else match st.session with
      | none => return List.replicate numBytes.toNat 0
      | some k => ask (.readPcm k numBytes)

/-! ### The public operations -/

inductive Call
  | registerListener (listener : Option ℕ)
  | reset
  | startTransmission (sid : ℤ) (user : User)
  | stopTransmission (sid : ℤ) (userId : Option ℤ)
  | startRtcSession (sid : ℤ) (k : ℕ) (user : User)
  | stopRtcSession (sid : ℤ) (userId : Option ℤ)
  | getRtcSession (sid : ℤ)
  | startRenderTransmission (sid : ℤ) (user : User) (o : RenderOptions)
  | pushRenderChunk (sid : ℤ) (chunk : List UInt8)
  | stopRenderTransmission (sid : ℤ) (userId : Option ℤ)
  | stopLiveInput (sid : ℤ) (userId : Option ℤ)
  | pushChunk (sid : ℤ) (chunk : List UInt8)
  | readPcm (sid : ℤ) (numBytes : ℤ)
  | snapshot (sid : ℤ)

inductive Outcome
  | done
  | payload (p : Payload)
  | rtcSession (k : Option ℕ)
  | pcm (bytes : List UInt8)

def Call.program : Call → Program Outcome
  | .registerListener listener => do
    MicRegistryLock.registerListener listener
    return .done
  | .reset => do
    MicRegistryLock.reset
    return .done
  | .startTransmission sid user => return .payload (← MicRegistryLock.startTransmission sid user)
  | .stopTransmission sid userId =>
    return .payload (← MicRegistryLock.stopTransmission sid userId)
  | .startRtcSession sid k user =>
    return .payload (← MicRegistryLock.startRtcSession sid k user)
  | .stopRtcSession sid userId => return .payload (← MicRegistryLock.stopRtcSession sid userId)
  | .getRtcSession sid => return .rtcSession (← MicRegistryLock.getRtcSession sid)
  | .startRenderTransmission sid user o =>
    return .payload (← MicRegistryLock.startRenderTransmission sid user o)
  | .pushRenderChunk sid chunk => return .payload (← MicRegistryLock.pushRenderChunk sid chunk)
  | .stopRenderTransmission sid userId =>
    return .payload (← MicRegistryLock.stopRenderTransmission sid userId)
  | .stopLiveInput sid userId => return .payload (← MicRegistryLock.stopLiveInput sid userId)
  | .pushChunk sid chunk => return .payload (← MicRegistryLock.pushChunk sid chunk)
  | .readPcm sid numBytes => return .pcm (← MicRegistryLock.readPcm sid numBytes)
  | .snapshot sid => return .payload (← MicRegistryLock.snapshot sid)

end OnAir.MicRegistryLock
