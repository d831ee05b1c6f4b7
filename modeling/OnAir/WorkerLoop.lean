import OnAir.Runs
import Mathlib.Data.Rat.Defs
import Mathlib.Algebra.Order.Ring.Rat

/-!
The loop that calls the worker of a station over and over, and the two calls that start and
stop it.

A start makes a new state with a thread of its own, unless the registered thread is alive. The
states made so far are numbered, and the number is the identity of the state. Every access to
the registered state happens under the lock; between two of them calls and threads take their
turns in any order.
-/

namespace OnAir.WorkerLoop

def failureBackoffSchedule : List ℚ := [1, 2, 5, 15, 30, 60]

def stopJoinTimeout : ℚ := 15

def failureBackoffSeconds (failureCount : ℕ) (intervalSec : ℚ) : ℚ :=
  let delay := failureBackoffSchedule.getD
    (min (max 1 failureCount - 1) (failureBackoffSchedule.length - 1)) 0
  max (max (1 / 10) intervalSec) delay

/-- Where a loop thread stands in `_loop_entry`. -/
inductive Phase
  /-- `thread.start()` has raised -/
  | unstarted
  | entering
  | testing
  | reading
  /-- in `stop_event.wait` -/
  | waiting (deadline : ℚ)
  | beginning (intervalSec : ℚ)
  | ticking (intervalSec : ℚ)
  | finishing (intervalSec : ℚ)
  /-- in the loop that watches the audio process -/
  | polling (deadline : ℚ)
  | exited
  deriving DecidableEq, Repr

def Phase.isAlive : Phase → Bool
  | .unstarted | .exited => false
  | _ => true

structure Thread where
  phase : Phase
  /-- the state whose stop event the thread watches -/
  watches : ℕ
  deriving DecidableEq, Repr

structure Loop where
  fallbackUri : String
  intervalSec : ℚ
  stopEvent : Bool
  thread : Thread
  ticks : ℕ
  lastObservedQueueSequence : ℤ
  lastError : String
  failureCount : ℕ
  lastBackoffSeconds : ℚ
  nextAttemptMonotonic : ℚ
  tickInProgress : Bool
  deriving DecidableEq, Repr

/-- A call between two of its accesses to the registered state, with its number. -/
inductive Call
  /-- a stop that waits for the thread of a state -/
  | joining (c generation : ℕ) (deadline : ℚ)
  | retiring (c generation : ℕ)
  /-- about to return the status -/
  | reporting (c : ℕ)
  deriving DecidableEq, Repr

structure Status where
  running : Bool
  stopping : Bool
  intervalSec : Option ℚ
  fallbackUri : String
  ticks : ℕ
  lastError : String
  failureCount : ℕ
  lastBackoffSeconds : ℚ
  nextAttemptInSeconds : ℚ
  lastObservedQueueSequence : ℤ
  tickInProgress : Bool
  deriving DecidableEq, Repr

/-- What the calls did: a start and a stop when they first held the lock. -/
inductive Mark
  | started (c : ℕ)
  | stopping (c : ℕ)
  | returned (c : ℕ) (status : Status)
  deriving DecidableEq, Repr

/-- The loops of one station. -/
structure Manager where
  /-- the registered state: `_loops.get(station_id)` -/
  loops : Option ℕ
  /-- every state made so far -/
  generations : List Loop
  /-- `time.monotonic()` -/
  now : ℚ
  calls : List Call
  /-- the last one first -/
  log : List Mark

def init (now : ℚ) : Manager := ⟨none, [], now, [], []⟩

namespace Manager

def registered (m : Manager) : Option Loop := m.loops.bind fun g => m.generations[g]?

/-- `current = self._loops.get(station_id)`, and the fields of it that are set. -/
def setCurrent (f : Loop → Loop) (m : Manager) : Manager :=
  match m.loops with
  | none => m
  | some g => { m with generations := m.generations.modify g f }

def setPhase (g : ℕ) (p : Phase) (m : Manager) : Manager :=
  { m with generations := m.generations.modify g fun l =>
      { l with thread := { l.thread with phase := p } } }

def stopIsSet (m : Manager) (g : ℕ) : Bool := m.generations[g]?.any (·.stopEvent)

end Manager

open Manager

def status (m : Manager) : Status :=
  match m.registered with
  | none => ⟨false, false, none, "", 0, "", 0, 0, 0, 0, false⟩
  | some l =>
    { running := l.thread.phase.isAlive
      stopping := l.stopEvent
      intervalSec := some l.intervalSec
      fallbackUri := l.fallbackUri
      ticks := l.ticks
      lastError := l.lastError
      failureCount := l.failureCount
      lastBackoffSeconds := l.lastBackoffSeconds
      nextAttemptInSeconds := max 0 (l.nextAttemptMonotonic - m.now)
      lastObservedQueueSequence := l.lastObservedQueueSequence
      tickInProgress := l.tickInProgress }

/-! ### The loop thread -/

/-- What a loop thread is answered: the end of the tick, with the sequence it had read or the
text of its exception, and whether the audio process runs, `none` when the question raises. -/
structure Answer where
  tick : Except String ℤ
  running : Option Bool

/-- What the end of a tick notes in the registered state. -/
def noteTick (intervalSec now : ℚ) : Except String ℤ → Loop → Loop
  | .ok sequence, l =>
    { l with
      ticks := l.ticks + 1
      lastError := ""
      failureCount := 0
      lastBackoffSeconds := 0
      nextAttemptMonotonic := 0
      lastObservedQueueSequence := sequence }
  | .error e, l =>
    -- `current.get("interval_sec") or interval_sec`
    let interval := if l.intervalSec = 0 then intervalSec else l.intervalSec
    let backoff := failureBackoffSeconds (l.failureCount + 1) interval
    { l with
      ticks := l.ticks + 1
      lastError := e
      failureCount := l.failureCount + 1
      lastBackoffSeconds := backoff
      nextAttemptMonotonic := now + backoff }

/-- The next step of the thread of state `g`; a wait is refused until it is over. -/
def threadStep (m : Manager) (g : ℕ) (a : Answer) : Option Manager :=
  m.generations[g]?.bind fun l =>
    match l.thread.phase with
    | .unstarted | .exited => none
    | .entering =>
      match m.loops with
      | none => some (m.setPhase g .exited)
      | some g' => some { m with generations := m.generations.modify g fun l =>
        { l with thread := ⟨.testing, g'⟩ } }
    | .testing =>
      some (m.setPhase g (if m.stopIsSet l.thread.watches then .exited else .reading))
    | .reading =>
      match m.registered with
      | none => some (m.setPhase g .exited)
      | some current =>
        let delay := current.nextAttemptMonotonic - m.now
        some (m.setPhase g (if 0 < delay then .waiting (m.now + min delay current.intervalSec)
          else .beginning current.intervalSec))
    | .waiting deadline =>
      if m.stopIsSet l.thread.watches || deadline ≤ m.now then some (m.setPhase g .testing)
      else none
    | .beginning interval =>
      some ((m.setCurrent fun l => { l with tickInProgress := true }).setPhase g
        (.ticking interval))
    | .ticking interval =>
      some ((m.setCurrent (noteTick interval m.now a.tick)).setPhase g (.finishing interval))
    | .finishing interval =>
      let m' := m.setCurrent fun l => { l with tickInProgress := false }
      match a.running with
      | none => some (m'.setPhase g .exited)
      | some true => some (m'.setPhase g (.polling (m.now + interval)))
      | some false => some (m'.setPhase g (.waiting (m.now + interval)))
    | .polling deadline =>
      if m.stopIsSet l.thread.watches || deadline ≤ m.now then some (m.setPhase g .testing)
      else match a.running with
        | none => some (m.setPhase g .exited)
        | some true => some m
        | some false => some (m.setPhase g .testing)

/-! ### The calls -/

def newLoop (g : ℕ) (fallbackUri : String) (intervalSec : ℚ) (spawns : Bool) : Loop :=
  { fallbackUri := fallbackUri
    intervalSec := intervalSec
    stopEvent := false
    thread := ⟨if spawns then .entering else .unstarted, g⟩
    ticks := 0
    lastObservedQueueSequence := 0
    lastError := ""
    failureCount := 0
    lastBackoffSeconds := 0
    nextAttemptMonotonic := 0
    tickInProgress := false }

/-- A call that has held the lock for the first time. -/
def note (mark : ℕ → Mark) (m : Manager) : Manager := { m with log := mark m.log.length :: m.log }

/-- `start` while it holds the lock, with the resolved fallback; the new thread may not spawn. -/
def start (fallbackUri : String) (intervalSec : ℚ) (spawns : Bool) (m : Manager) : Manager :=
  let safeInterval := max (1 / 10) intervalSec
  let c := m.log.length
  let m' := note .started m
  if m.registered.any fun l => l.thread.phase.isAlive then
    { m'.setCurrent (fun l =>
        { l with fallbackUri := fallbackUri, intervalSec := safeInterval }) with
      calls := .reporting c :: m.calls }
  else
    let g := m.generations.length
    { m' with
      loops := some g
      generations := m.generations ++ [newLoop g fallbackUri safeInterval spawns]
      calls := if spawns then .reporting c :: m.calls else m.calls }

/-- `stop` while it holds the lock for the first time. -/
def stop (m : Manager) : Manager :=
  let c := m.log.length
  let m' := note .stopping m
  match m.loops with
  | none => { m' with log := .returned c (status m) :: m'.log }
  | some g =>
    { m'.setCurrent (fun l => { l with stopEvent := true }) with
      calls := .joining c g (m.now + stopJoinTimeout) :: m.calls }

/-- Whether the thread of a state is alive, and whether it was ever started. -/
def isAlive (m : Manager) (g : ℕ) : Bool := m.generations[g]?.any (·.thread.phase.isAlive)
def isUnstarted (m : Manager) (g : ℕ) : Bool :=
  m.generations[g]?.any fun l => l.thread.phase = .unstarted

/-- The next step of the call at place `i`. -/
def callStep (m : Manager) (i : ℕ) : Option Manager :=
  match m.calls[i]? with
  | none => none
  | some (.joining c g deadline) =>
    -- a thread that was never started cannot be joined: the call raises
    if isUnstarted m g then some { m with calls := m.calls.eraseIdx i }
    else if isAlive m g && m.now < deadline then none
    else some { m with calls := m.calls.set i (.retiring c g) }
  | some (.retiring c g) =>
    let m' := { m with calls := m.calls.set i (.reporting c) }
    if m.loops = some g && !isAlive m g then some { m' with loops := none } else some m'
  | some (.reporting c) =>
    some { m with calls := m.calls.eraseIdx i, log := .returned c (status m) :: m.log }

inductive Event
  | clock (now : ℚ)
  | start (fallbackUri : String) (intervalSec : ℚ) (spawns : Bool)
  | stop
  | call (i : ℕ)
  | thread (generation : ℕ) (answer : Answer)

def step (m : Manager) : Event → Option Manager
  | .clock now => if m.now ≤ now then some { m with now := now } else none
  | .start fallbackUri intervalSec spawns => some (start fallbackUri intervalSec spawns m)
  | .stop => some (stop m)
  | .call i => callStep m i
  | .thread g a => threadStep m g a

end OnAir.WorkerLoop
