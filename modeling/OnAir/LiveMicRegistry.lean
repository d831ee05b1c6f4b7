import OnAir.PythonText
import OnAir.Runs

/-!
The live input of a station: a microphone session, a WebRTC session or a render session.

The sessions of a station are looked up and swapped under the lock of the registry, and started
and stopped outside it. The stop of a WebRTC session may be left to the event loop. Two of the
calls take a snapshot while they hold the lock, and wait for themselves.
-/

namespace OnAir.LiveMicRegistry

open Runs

structure User where
  id : ℤ
  username : String
  role : String
  deriving DecidableEq, Repr

inductive Transport
  | websocket
  | webrtc
  | render
  deriving DecidableEq, Repr

structure Session where
  transport : Transport
  running : Bool
  deriving DecidableEq, Repr

/-- The state of a station; sessions are named by the order they were made in. -/
structure Station where
  session : Option ℕ
  rtcSession : Option ℕ
  renderSession : Option ℕ
  transmitting : Bool
  activeUser : Option User
  sourceName : String
  deriving DecidableEq, Repr

structure Snapshot where
  liveInputEnabled : Bool
  transmitting : Bool
  activeUser : Option User
  transport : Transport
  sourceName : String
  deriving DecidableEq, Repr

inductive Call
  | startTransmission (user : User)
  | startRtcSession (user : User)
  | startRenderTransmission (user : User) (sourceName : String)
  | pushChunk
  | stopTransmission (userId : Option ℤ)
  | stopRtcSession (userId : Option ℤ)
  | stopRenderTransmission (userId : Option ℤ)
  | stopLiveInput (userId : Option ℤ)
  deriving DecidableEq, Repr

/-- How far a call is. -/
inductive Phase
  | begun
  /-- a start has its session, which runs, and has not registered it -/
  | ready (k : ℕ)
  /-- a chunk looks whether one of these sessions runs -/
  | looking (others : List ℕ)
  | ensured (k : ℕ)
  | pushing (k : ℕ)
  /-- these sessions are still to be stopped -/
  | stopping (old : List ℕ)
  /-- waits for the lock it holds -/
  | waiting
  | returned (snapshot : Snapshot)
  | raised
  deriving DecidableEq, Repr

structure Thread where
  call : Call
  phase : Phase
  deriving DecidableEq, Repr

structure Store where
  station : Station
  sessions : List Session
  /-- the sessions whose stop is left to the event loop -/
  scheduled : List ℕ
  /-- the lock will never be released -/
  deadlocked : Bool
  threads : List Thread
  /-- the live input was stopped, and no start has begun since -/
  quiet : Bool
  deriving DecidableEq, Repr

def start : Store := ⟨⟨none, none, none, false, none, ""⟩, [], [], false, [], false⟩

/-! ### Under the lock -/

section Sections

variable (st : Station)

/-- The registered sessions. -/
def Station.held : List ℕ :=
  st.session.toList ++ st.rtcSession.toList ++ st.renderSession.toList

def Station.transmit (user : User) (sourceName : String) : Station :=
  { st with transmitting := true, activeUser := some user, sourceName := sourceName }

def Station.release : Station :=
  { st with transmitting := false, activeUser := none, sourceName := "" }

def isOwner (userId : Option ℤ) : Bool :=
  match userId, st.activeUser with
  | some id, some user => user.id = id
  | _, _ => true

/-- What a call does under the lock: the state it leaves and the sessions it has to stop. -/
abbrev Section := Station → Station × List ℕ

def startTransmission (user : User) : Section := fun st =>
  ({ st with rtcSession := none, renderSession := none }.transmit user "",
    st.rtcSession.toList ++ st.renderSession.toList)

def startRtcSession (user : User) (k : ℕ) : Section := fun st =>
  ({ st with session := none, rtcSession := some k, renderSession := none }.transmit user "",
    st.held)

/-- `str(source_name or "OmniVoice").strip() or "OmniVoice"`. -/
def sourceText (sourceName : String) : String :=
  let text := String.ofList (PythonText.strip sourceName.toList)
  if text = "" then "OmniVoice" else text

def startRenderTransmission (user : User) (sourceName : String) (k : ℕ) : Section := fun st =>
  ({ st with session := none, rtcSession := none, renderSession := some k }.transmit user
    (sourceText sourceName), st.held)

def stopTransmission (userId : Option ℤ) : Section := fun st =>
  (if isOwner st userId then st.release else st, [])

def stopRtcSession (userId : Option ℤ) : Section := fun st =>
  if isOwner st userId then ({ st with rtcSession := none }.release, st.rtcSession.toList)
  else (st, [])

def stopRenderTransmission : Section := fun st =>
  ({ st with renderSession := none }.release, st.renderSession.toList)

def stopLiveInput : Section := fun st =>
  ({ st with session := none, rtcSession := none, renderSession := none }.release, st.held)

end Sections

/-! ### Threads -/

section Threads

variable (s : Store)

def isRunning (k : ℕ) : Bool := (s.sessions[k]?).any (·.running)

def snapshot : Snapshot :=
  let renderActive := s.station.renderSession.any (isRunning s)
  let rtcActive := s.station.rtcSession.any (isRunning s)
  { liveInputEnabled :=
      s.station.transmitting || s.station.session.isSome || rtcActive || renderActive
    transmitting := s.station.transmitting
    activeUser := s.station.activeUser
    transport := if renderActive then .render else if rtcActive then .webrtc else .websocket
    sourceName := s.station.sourceName }

variable (i : ℕ)

def setPhase (p : Phase) (s : Store) : Store :=
  { s with threads := s.threads.modify i fun t => { t with phase := p } }

def setRunning (k : ℕ) (running : Bool) (s : Store) : Store :=
  { s with sessions := s.sessions.modify k fun x => { x with running := running } }

def addSession (x : Session) (s : Store) : Store := { s with sessions := s.sessions ++ [x] }

def locked (f : Section) (s : Store) : Option Store :=
  if s.deadlocked then none
  else some (setPhase i (.stopping (f s.station).2) { s with station := (f s.station).1 })

/-- The owner goes on; another user's call asks for a snapshot under the lock. -/
def lockedByOwner (userId : Option ℤ) (f : Section) (s : Store) : Option Store :=
  if isOwner s.station userId then locked i f s
  else if s.deadlocked then none
  else some (setPhase i .waiting { s with deadlocked := true })

/-- `_ensure_session`, as far as it holds the lock; the factory may raise. -/
def ensureSession (ok : Bool) : Option Store :=
  if s.deadlocked then none
  else match s.station.session with
    | some k => some (setPhase i (.ensured k) s)
    | none =>
      if ok then some (setPhase i (.ensured s.sessions.length)
        (addSession ⟨.websocket, false⟩
          { s with station := { s.station with session := some s.sessions.length } }))
      else some (setPhase i .raised s)

/-- The next step of a thread. `ok` says whether what is outside the registry does it: a process
starts, a chunk is taken, a WebRTC session is stopped at once. -/
def advance (ok : Bool) : Option Store :=
  s.threads[i]?.bind fun t =>
    match t.phase, t.call with
    | .begun, .startTransmission user => locked i (startTransmission user) s
    | .begun, .startRtcSession _ => none
    | .begun, .startRenderTransmission _ _ =>
      if ok then
        some (setPhase i (.ready s.sessions.length) (addSession ⟨.render, true⟩ s))
      else some (setPhase i .raised s)
    | .ready k, .startRtcSession user => locked i (startRtcSession user k) s
    | .ready k, .startRenderTransmission user sourceName =>
      locked i (startRenderTransmission user sourceName k) s
    | .ready _, _ => none
    | .begun, .pushChunk =>
      if s.deadlocked then none
      else some (setPhase i
        (.looking (s.station.rtcSession.toList ++ s.station.renderSession.toList)) s)
    | .looking (k :: ks), _ =>
      some (setPhase i (if isRunning s k then .stopping [] else .looking ks) s)
    | .looking [], _ => ensureSession s i ok
    | .ensured k, _ =>
      if isRunning s k then some (setPhase i (.pushing k) s)
      else if ok then some (setPhase i (.pushing k) (setRunning k true s))
      else some (setPhase i .raised s)
    | .pushing k, _ =>
      some (setPhase i (if isRunning s k && ok then .stopping [] else .raised) s)
    | .begun, .stopTransmission userId => locked i (stopTransmission userId) s
    | .begun, .stopRtcSession userId => locked i (stopRtcSession userId) s
    | .begun, .stopRenderTransmission userId => lockedByOwner i userId stopRenderTransmission s
    | .begun, .stopLiveInput userId =>
      (lockedByOwner i userId stopLiveInput s).map fun s' =>
        { s' with quiet := s.quiet || isOwner s.station userId }
    | .stopping (k :: ks), _ =>
      if (s.sessions[k]?).any (·.transport = .webrtc) && !ok then
        some (setPhase i (.stopping ks) { s with scheduled := k :: s.scheduled })
      else some (setPhase i (.stopping ks) (setRunning k false s))
    | .stopping [], _ =>
      if s.deadlocked then none else some (setPhase i (.returned (snapshot s)) s)
    | .waiting, _ | .returned _, _ | .raised, _ => none

def begin (call : Call) : Store :=
  match call with
  | .startRtcSession _ =>
    -- the session has answered its offer when it is given to the registry
    { addSession ⟨.webrtc, true⟩ s with
      threads := s.threads ++ [⟨call, .ready s.sessions.length⟩]
      quiet := false }
  | .startTransmission _ | .startRenderTransmission _ _ =>
    { s with threads := s.threads ++ [⟨call, .begun⟩], quiet := false }
  | _ => { s with threads := s.threads ++ [⟨call, .begun⟩] }

end Threads

inductive Event
  | begin (call : Call)
  | advance (i : ℕ) (ok : Bool)
  /-- the event loop stops a session -/
  | stopScheduled (k : ℕ)
  /-- a session ends by itself -/
  | fail (k : ℕ)
  deriving DecidableEq, Repr

def step (s : Store) : Event → Option Store
  | .begin call => some (begin s call)
  | .advance i ok => advance s i ok
  | .stopScheduled k =>
    if k ∈ s.scheduled then
      some { setRunning k false s with scheduled := s.scheduled.erase k }
    else none
  | .fail k => some (setRunning k false s)

end OnAir.LiveMicRegistry
