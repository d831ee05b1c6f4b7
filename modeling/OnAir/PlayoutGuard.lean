import Mathlib.Data.Rat.Defs
import Mathlib.Algebra.Order.Ring.Rat
import Mathlib.Tactic.Linarith
import OnAir.Runs

/-!
The guard that starts the backend again.

Each call probes the backend. One timestamp says since when the answers have been bad, of whatever
kind they are; only a healthy answer clears it. A backend that has stalled is stopped before it is
started again, one that does not answer or answers with errors is not.

What the probe sees, which processes a stop leaves and whether a start succeeds is given with the
call. The processes are those the guard has started.
-/

namespace OnAir.PlayoutGuard

open Runs

/-! ### A call -/

inductive Probe
  | healthy
  | unhealthy
  | stalled
  | unreachable
  deriving DecidableEq, Repr

/-- What comes of the request of `/api/health`. -/
inductive Response
  | status (code : ℕ)
  | timeout
  | failed
  deriving DecidableEq, Repr

/-- `backend_probe_status`. -/
def backendProbeStatus (response : Response) (listening : Bool) : Probe :=
  match response with
  | .status code => if code < 500 then .healthy else .unhealthy
  | .timeout => if listening then .stalled else .unreachable
  | .failed => .unreachable

def backendStartIntervalSec : ℚ := 20

def backendStartGraceSec : ℚ := 120

def backendStallGraceSec : ℚ := 300

structure Guard where
  /-- `backend_bad_since` -/
  badSince : Option ℚ
  /-- `backend_starting_since` -/
  startingSince : Option ℚ
  /-- `last_backend_start` -/
  lastStart : ℚ
  deriving DecidableEq, Repr

/-- `x or y` of numbers. -/
def orElse : Option ℚ → ℚ → ℚ
  | none, y => y
  | some x, y => if x = 0 then y else x

structure Call where
  now : ℚ
  response : Response
  listening : Bool
  /-- the processes that are left by a stop -/
  left : ℕ
  /-- the start succeeds -/
  starts : Bool
  deriving DecidableEq, Repr

def Call.probe (c : Call) : Probe := backendProbeStatus c.response c.listening

/-- A bad answer is remembered. -/
def Guard.note (g : Guard) (now : ℚ) : Guard := { g with badSince := some (g.badSince.getD now) }

/-- After a bad answer the backend is to be started. -/
def Guard.due (g : Guard) (now : ℚ) (status : Probe) : Bool :=
  !(status ≠ .stalled && g.startingSince.isSome &&
      now - orElse g.startingSince now < backendStartGraceSec) &&
    !(status = .stalled && now - orElse g.badSince now < backendStallGraceSec) &&
    backendStartIntervalSec ≤ now - g.lastStart

/-- What a call has done: the processes that were alive when `start_backend` was called. -/
structure Entry where
  time : ℚ
  probe : Probe
  stopped : Bool
  started : Option ℕ
  deriving DecidableEq, Repr

/-- The log is newest first. -/
structure State where
  guard : Guard
  clock : ℚ
  alive : ℕ
  log : List Entry
  deriving DecidableEq, Repr

def initial (clock : ℚ) : State := ⟨⟨none, none, 0⟩, clock, 0, []⟩

/-- `ensure_backend`. -/
def ensureBackend (s : State) (c : Call) : State :=
  let status := c.probe
  if status = .healthy then
    { guard := { s.guard with
        badSince := none
        startingSince := none }
      clock := c.now
      alive := s.alive
      log := ⟨c.now, status, false, none⟩ :: s.log }
  else
    let g := s.guard.note c.now
    if g.due c.now status then
      let stopped := status = .stalled
      let alive := if stopped then min c.left s.alive else s.alive
      { guard := { g with
          lastStart := c.now
          startingSince := some c.now }
        clock := c.now
        alive := if c.starts then alive + 1 else alive
        log := ⟨c.now, status, stopped, some alive⟩ :: s.log }
    else
      { guard := g
        clock := c.now
        alive := s.alive
        log := ⟨c.now, status, false, none⟩ :: s.log }

inductive Event
  | call (c : Call)
  /-- a process exits -/
  | exit
  deriving DecidableEq, Repr

/-- The time does not go back. -/
def step (s : State) : Event → Option State
  | .call c => if s.clock ≤ c.now then some (ensureBackend s c) else none
  | .exit => some { s with alive := s.alive - 1 }

/-! ### Restarts that are justified -/

/-- An entry and those before it: who is stopped was stalled for the whole grace and was not started
in it, no process is alive at a start, and the starts are apart. -/
structure Entry.Justified (e : Entry) (before : List Entry) : Prop where
  stalled : e.stopped = true → ∀ e' ∈ e :: before, e.time - backendStallGraceSec < e'.time →
    e'.probe = .stalled
  settled : e.stopped = true → ∀ e' ∈ before, e.time - backendStallGraceSec < e'.time →
    e'.started = none
  alone : ∀ n ∈ e.started, n = 0
  apart : e.started.isSome → ∀ e' ∈ before, e'.started.isSome →
    e'.time + backendStartIntervalSec ≤ e.time

def Justified : List Entry → Prop
  | [] => True
  | e :: before => e.Justified before ∧ Justified before

/-- The answers since the last healthy one. -/
def sinceHealthy (log : List Entry) : List Entry := log.takeWhile (·.probe ≠ .healthy)

/-- A start comes due only when no process is alive, and a stop before it only when it leaves none,
no other bad answer has come since the last healthy one, and the last start is as long ago as the
grace. -/
def Sound (s : State) : Event → Prop
  | .call c => c.probe ≠ .healthy → (s.guard.note c.now).due c.now c.probe = true →
      if c.probe = .stalled then
        min c.left s.alive = 0 ∧ (∀ e ∈ sinceHealthy s.log, e.probe = .stalled) ∧
          s.guard.lastStart + backendStallGraceSec ≤ c.now
      else s.alive = 0
  | .exit => True

/-- What the state says of the log. -/
structure Invariant (s : State) : Prop where
  justified : Justified s.log
  past : ∀ e ∈ s.log, e.time ≤ s.clock
  /-- the answers before the bad ones are not later than the first of these -/
  bad : ∀ b ∈ s.guard.badSince, ∀ e ∈ s.log, e ∉ sinceHealthy s.log → e.time ≤ b
  good : s.guard.badSince = none → sinceHealthy s.log = []
  starts : ∀ e ∈ s.log, e.started.isSome → e.time ≤ s.guard.lastStart

namespace Invariant

variable {s t : State} {c : Call} {g : Guard} {e : Entry} {alive : ℕ}

lemma initial (clock : ℚ) : Invariant (initial clock) :=
  ⟨trivial, by simp [PlayoutGuard.initial], by simp [PlayoutGuard.initial], fun _ => rfl,
    by simp [PlayoutGuard.initial]⟩

/-- An answer that is healthy or not justifies itself where nothing is started. -/
lemma quiet (he : e.stopped = false) (hs : e.started = none) (before : List Entry) :
    e.Justified before := by
  constructor <;> simp [he, hs]

/-- A bad answer is written down. -/
lemma note (h : Invariant s) (hclock : s.clock ≤ e.time) (hbad : e.probe ≠ .healthy)
    (hjust : e.Justified s.log) (hsince : g.badSince = (s.guard.note e.time).badSince)
    (hlast : s.guard.lastStart ≤ g.lastStart) (hstart : e.started.isSome → e.time ≤ g.lastStart) :
    Invariant ⟨g, e.time, alive, e :: s.log⟩ where
  justified := ⟨hjust, h.justified⟩
  past := List.forall_mem_cons.mpr ⟨le_rfl, fun x hx => (h.past x hx).trans hclock⟩
  bad b hb x hx hout := by
    have hcons : sinceHealthy (e :: s.log) = e :: sinceHealthy s.log := by
      simp [sinceHealthy, hbad]
    dsimp only at hb
    rw [hcons, List.mem_cons, not_or] at hout
    have hx' : x ∈ s.log := (List.mem_cons.mp hx).resolve_left hout.1
    rw [hsince, Guard.note, Option.mem_some_iff] at hb
    cases hold : s.guard.badSince with
    | none => exact hb ▸ hold ▸ (h.past x hx').trans hclock
    | some b' =>
      rw [hold, Option.getD_some] at hb
      exact hb ▸ h.bad b' hold x hx' hout.2
  good hnone := by
    rw [hsince] at hnone
    cases hnone
  starts := List.forall_mem_cons.mpr ⟨hstart, fun x hx hsome => (h.starts x hx hsome).trans hlast⟩

/-- Where a stop is due, the answers have been bad for the whole grace. -/
lemma bad_of_due {now : ℚ} (hdue : (s.guard.note now).due now .stalled = true) :
    s.guard.badSince.getD now ≤ now - backendStallGraceSec := by
  have hgrace : backendStallGraceSec ≤ now - orElse (s.guard.note now).badSince now := by
    simp only [Guard.due, Bool.and_eq_true, Bool.not_eq_true', Bool.and_eq_false_iff] at hdue
    simpa using hdue.1.2
  have hpos : (0 : ℚ) < backendStallGraceSec := by norm_num [backendStallGraceSec]
  unfold orElse Guard.note at hgrace
  dsimp only at hgrace
  split_ifs at hgrace <;> linarith

/-- A call that starts the backend. -/
lemma started (h : Invariant s) (hbad : c.probe ≠ .healthy)
    (hdue : (s.guard.note c.now).due c.now c.probe = true) (hok : Sound s (.call c)) :
    (⟨c.now, c.probe, c.probe = .stalled,
      some (if c.probe = .stalled then min c.left s.alive else s.alive)⟩ : Entry).Justified s.log := by
  have hok := hok hbad hdue
  constructor
  case stalled =>
    intro hstop x hx htime
    have hstalled : c.probe = .stalled := of_decide_eq_true hstop
    rw [if_pos hstalled] at hok
    rcases List.mem_cons.mp hx with rfl | hx
    · exact hstalled
    refine hok.2.1 x (not_not.mp fun hout => ?_)
    -- an answer from before the bad ones is too old
    rw [hstalled] at hdue
    have hgrace := bad_of_due hdue
    cases hsince : s.guard.badSince with
    | none =>
      rw [hsince, Option.getD_none] at hgrace
      norm_num [backendStallGraceSec] at hgrace
    | some b =>
      rw [hsince, Option.getD_some] at hgrace
      have hle := h.bad b hsince x hx hout
      dsimp only at htime
      linarith
  case settled =>
    intro hstop x hx htime
    have hstalled : c.probe = .stalled := of_decide_eq_true hstop
    rw [if_pos hstalled] at hok
    by_contra hsome
    have hlast := h.starts x hx (Option.isSome_iff_ne_none.mpr hsome)
    dsimp only at htime
    linarith [hok.2.2]
  case alone =>
    intro n hn
    obtain rfl := Option.some.inj hn
    split_ifs at hok ⊢ with hstalled
    · exact hok.1
    · exact hok
  case apart =>
    intro _ x hx hsome
    have hinterval : backendStartIntervalSec ≤ c.now - s.guard.lastStart := by
      simp only [Guard.due, Guard.note, Bool.and_eq_true] at hdue
      exact of_decide_eq_true hdue.2
    have hlast := h.starts x hx hsome
    dsimp only
    linarith

lemma call (h : Invariant s) (hclock : s.clock ≤ c.now) (hok : Sound s (.call c)) :
    Invariant (ensureBackend s c) := by
  unfold ensureBackend
  dsimp only
  split
  case isTrue hhealthy =>
    refine ⟨⟨quiet rfl rfl _, h.justified⟩, ?_, nofun, fun _ => by simp [sinceHealthy, hhealthy],
      List.forall_mem_cons.mpr ⟨nofun, h.starts⟩⟩
    exact List.forall_mem_cons.mpr ⟨le_rfl, fun x hx => (h.past x hx).trans hclock⟩
  case isFalse hbad =>
    split
    case isTrue hdue =>
      have hinterval : backendStartIntervalSec ≤ c.now - s.guard.lastStart := by
        simp only [Guard.due, Bool.and_eq_true] at hdue
        exact of_decide_eq_true hdue.2
      have hpos : (0 : ℚ) ≤ backendStartIntervalSec := by norm_num [backendStartIntervalSec]
      refine h.note hclock hbad (h.started hbad hdue hok) rfl ?_ fun _ => le_rfl
      exact sub_nonneg.mp (hpos.trans hinterval)
    case isFalse =>
      exact h.note (e := ⟨c.now, c.probe, false, none⟩) hclock hbad (quiet rfl rfl _) rfl le_rfl
        nofun

/-- **One step** that is sound. -/
theorem step {event : Event} (h : Invariant s) (hok : Sound s event)
    (hstep : step s event = some t) : Invariant t := by
  cases event with
  | call c =>
    simp only [PlayoutGuard.step] at hstep
    split_ifs at hstep with hclock
    obtain rfl := Option.some.inj hstep
    exact h.call hclock hok
  | exit =>
    obtain rfl := Option.some.inj hstep
    exact ⟨h.justified, h.past, h.bad, h.good, h.starts⟩

end Invariant

instance decidableSound : ∀ (s : State) (e : Event), Decidable (Sound s e)
  | _, .call _ => inferInstanceAs (Decidable (_ → _ → ite ..))
  | _, .exit => inferInstanceAs (Decidable True)

variable {clock : ℚ} {events : List Event} {s : State}

/-- **The guard restarts only when justified**, in every run of calls that are sound. -/
theorem restarts_justified (hok : Meets step Sound (initial clock) events)
    (he : exec step (initial clock) events = some s) : Justified s.log := by
  have h : Invariant s :=
    inv_of_exec (fun _ _ _ h hok ht => Invariant.step h hok ht) (.initial clock) hok he
  exact h.justified

def answers (response : Response) (now : ℚ) : Event := .call ⟨now, response, true, 0, true⟩

/-- A backend that does not answer is started, exits, and is started again after the grace. -/
def unreachable : List Event := [answers .failed 60, .exit, answers .failed 200]

theorem restarts_justified_unreachable : ∃ s, exec step (initial 50) unreachable = some s ∧
    s.log.map (·.started) = [some 0, some 0] ∧ Justified s.log := by
  have hrun : (exec step (initial 50) unreachable).map (fun s => s.log.map (·.started)) =
      some [some 0, some 0] := by decide +kernel
  obtain ⟨s, he, hlog⟩ := Option.map_eq_some_iff.mp hrun
  exact ⟨s, he, hlog, restarts_justified (by decide +kernel) he⟩

/-- **Stopped again while it starts.** A backend that has stalled is stopped after the grace, and
again at the next start interval, as nothing has cleared the time since it is bad. -/
theorem stopped_while_starting : ¬∀ (clock : ℚ) (events : List Event) (s : State),
    exec step (initial clock) events = some s → Justified s.log := by
  intro hall
  have hrun : (exec step (initial 0)
      [answers .timeout 10, answers .timeout 310, answers .timeout 330]).map (·.log) =
        some [⟨330, .stalled, true, some 0⟩, ⟨310, .stalled, true, some 0⟩,
          ⟨10, .stalled, false, none⟩] := by decide +kernel
  obtain ⟨s, he, hlog⟩ := Option.map_eq_some_iff.mp hrun
  have h := hall 0 _ s he
  rw [hlog] at h
  exact absurd (h.1.settled rfl ⟨310, .stalled, true, some 0⟩ (by simp)
    (by norm_num [backendStallGraceSec])) nofun

end OnAir.PlayoutGuard
