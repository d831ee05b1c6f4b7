import Mathlib.Logic.Function.Basic
import Mathlib.Tactic.IntervalCases
import Mathlib.Tactic.Linarith
import OnAir.Runs

/-!
The pace at which the outputs of a station are rebuilt.

A call that is not forced waits for the time noted for the next attempt. An attempt that fails
notes a time by the schedule, one that succeeds clears it, and a look that finds the encoder
alive puts it off without an attempt. Starting or stopping the station forgets the record.
Calls of one station run one after another; those of different stations are independent.
-/

namespace OnAir.RecoveryPacing

open Runs

/-- `_OUTPUT_RECOVERY_DELAYS_SECONDS`. -/
def outputRecoveryDelays : List ℚ := [1, 2, 4, 8, 15, 30]

/-- `_OUTPUT_MONITOR_RECHECK_SECONDS`. -/
def outputMonitorRecheck : ℚ := 15

/-- The delay after the failure of an attempt. -/
def delay (attemptCount : ℕ) : ℚ :=
  outputRecoveryDelays.getD (min (attemptCount - 1) (outputRecoveryDelays.length - 1)) 0

structure RecoveryState where
  state : String
  attemptCount : ℕ
  nextAttempt : ℚ
  errorCode : String
  message : String
  deriving DecidableEq, Repr

/-- `_recovery_state`. -/
abbrev Records := ℤ → Option RecoveryState

def monitoring (attemptCount : ℕ) (now : ℚ) : RecoveryState :=
  ⟨"monitoring", attemptCount, now + outputMonitorRecheck, "output_unverified",
    "The encoder and PCM writer are healthy; waiting for listener verification without " ++
      "restarting the source."⟩

def retryWait (attemptCount : ℕ) (now : ℚ) (errorCode : String) : RecoveryState :=
  ⟨"retry_wait", attemptCount, now + delay attemptCount, errorCode,
    "Broadcast output recovery is waiting to retry. Playout state has been preserved."⟩

def recovered (attemptCount : ℕ) : RecoveryState :=
  ⟨"recovered", attemptCount, 0, "", "Required broadcast outputs recovered."⟩

/-- A call, and what the world answers to it. -/
structure Call where
  force : Bool
  /-- the station has a runtime -/
  registered : Bool
  now : ℚ
  /-- `_unverified_icecast_transport_is_flowing` -/
  flowing : Bool
  monitoredAt : ℚ
  /-- when `recover_outputs` is called, and when its outcome is noted -/
  calledAt : ℚ
  endedAt : ℚ
  /-- the error code, unless the outputs are rebuilt and healthy -/
  failure : Option String
  deriving DecidableEq, Repr

/-- A call of `recover_outputs`. -/
structure Attempt where
  number : ℕ
  force : Bool
  calledAt : ℚ
  endedAt : ℚ
  failed : Bool
  deriving DecidableEq, Repr

/-- `_recover_station_unlocked`: the record after the call, and the attempt if there is one. -/
def recoverStation (c : Call) (previous : Option RecoveryState) :
    Option RecoveryState × Option Attempt :=
  let count := (previous.map (·.attemptCount)).getD 0
  if !c.registered then (previous, none)
  else if !c.force && c.now < (previous.map (·.nextAttempt)).getD 0 then (previous, none)
  else if !c.force && c.flowing then (some (monitoring count c.monitoredAt), none)
  else match c.failure with
    | some errorCode => (some (retryWait (count + 1) c.endedAt errorCode),
        some ⟨count + 1, c.force, c.calledAt, c.endedAt, true⟩)
    | none => (some (recovered (count + 1)),
        some ⟨count + 1, c.force, c.calledAt, c.endedAt, false⟩)

/-! ### Stations -/

inductive Entry
  | attempt (a : Attempt)
  | reset
  deriving DecidableEq, Repr

structure Registry where
  records : Records
  /-- the end of the last call of each station -/
  clock : ℤ → ℚ
  /-- the attempts and resets of each station, the last one first -/
  log : ℤ → List Entry

def start (clock : ℤ → ℚ) : Registry := ⟨fun _ => none, clock, fun _ => []⟩

inductive Event
  | recover (station : ℤ) (c : Call)
  /-- the record is dropped when the station starts or stops -/
  | reset (station : ℤ)
  | stopAll

/-- The moments of a call in their order, none of them before `clock`. -/
def Call.Timed (c : Call) (clock : ℚ) : Prop :=
  clock ≤ c.now ∧ c.now ≤ c.monitoredAt ∧ c.monitoredAt ≤ c.calledAt ∧ c.calledAt ≤ c.endedAt

instance (c : Call) (clock : ℚ) : Decidable (c.Timed clock) :=
  inferInstanceAs (Decidable (_ ∧ _ ∧ _ ∧ _))

def step (r : Registry) : Event → Option Registry
  | .recover station c =>
    let result := recoverStation c (r.records station)
    if c.Timed (r.clock station) then
      some ⟨Function.update r.records station result.1,
        Function.update r.clock station c.endedAt,
        Function.update r.log station
          ((result.2.map Entry.attempt).toList ++ r.log station)⟩
    else none
  | .reset station =>
    some { r with
      records := Function.update r.records station none
      log := Function.update r.log station (.reset :: r.log station) }
  | .stopAll => some { r with
      records := fun _ => none
      log := fun station => .reset :: r.log station }

/-! ### The schedule -/

lemma delay_mono : Monotone delay := by
  have hlist : ∀ m ≤ 5, ∀ n ≤ 5, m ≤ n →
      outputRecoveryDelays.getD m 0 ≤ outputRecoveryDelays.getD n 0 := by
    intro m hm n hn
    interval_cases m <;> interval_cases n <;> norm_num [outputRecoveryDelays]
  intro m n hmn
  exact hlist _ (min_le_right ..) _ (min_le_right ..)
    (min_le_min_right _ (Nat.sub_le_sub_right hmn 1))

/-- The attempts since the last reset. -/
def sinceReset : List Entry → ℕ
  | .attempt _ :: older => sinceReset older + 1
  | _ => 0

/-- The time that attempts without force wait for: that of the last of them, if it failed and
nothing but failed attempts has come since. -/
def due : List Entry → Option ℚ
  | .attempt a :: older =>
    if a.failed then if a.force then due older else some (a.endedAt + delay a.number) else none
  | _ => none

/-- Every attempt has the number after the ones since the last reset, ends before `clock` and,
unless it is forced, is made when it is due. -/
def Paced (clock : ℚ) : List Entry → Prop
  | .attempt a :: older => a.number = sinceReset older + 1 ∧ a.endedAt ≤ clock ∧
      (a.force = false → ∀ t ∈ due older, t ≤ a.calledAt) ∧ Paced clock older
  | .reset :: older => Paced clock older
  | [] => True

lemma Paced.mono {clock clock' : ℚ} (h : clock ≤ clock') :
    ∀ {l : List Entry}, Paced clock l → Paced clock' l
  | .attempt _ :: _, hp => ⟨hp.1, hp.2.1.trans h, hp.2.2.1, hp.2.2.2.mono h⟩
  | .reset :: l, hp => Paced.mono (l := l) h hp
  | [], _ => trivial

/-- What is due has been due since the delay of the attempts made. -/
lemma due_le {clock : ℚ} : ∀ {l : List Entry}, Paced clock l → ∀ t ∈ due l,
    t ≤ clock + delay (sinceReset l)
  | .attempt a :: older, ⟨hnumber, hend, _, hold⟩, t, ht => by
    rw [due] at ht
    split_ifs at ht with _ hforce
    · exact (due_le hold t ht).trans (add_le_add_right (delay_mono (Nat.le_succ _)) _)
    · obtain rfl : a.endedAt + delay a.number = t := by simpa using ht
      rw [hnumber]
      exact add_le_add_left hend _
    · simp at ht
  | .reset :: _, _, t, ht => by simp [due] at ht
  | [], _, t, ht => by simp [due] at ht

/-- A record against what the log says. -/
structure Sound (r : Option RecoveryState) (l : List Entry) : Prop where
  count : (r.map (·.attemptCount)).getD 0 = sinceReset l
  wait : ∀ t ∈ due l, t ≤ (r.map (·.nextAttempt)).getD 0

lemma sound_reset (l : List Entry) : Sound none (.reset :: l) where
  count := rfl
  wait t ht := by simp [due] at ht

section Step

variable {c : Call} {r : Option RecoveryState} {l : List Entry} {clock : ℚ}

/-- An attempt carries on the count, and is made when it is due unless it is forced. -/
lemma attempt_recover {a : Attempt} (h : Sound r l) (ht : c.Timed clock)
    (ha : (recoverStation c r).2 = some a) :
    a.number = sinceReset l + 1 ∧ a.endedAt = c.endedAt ∧
      (a.force = false → ∀ t ∈ due l, t ≤ a.calledAt) := by
  obtain ⟨-, hmonitor, hcall, -⟩ := ht
  have hdue : ¬(!c.force && decide (c.now < (r.map (·.nextAttempt)).getD 0)) = true →
      c.force = false → ∀ t ∈ due l, t ≤ c.calledAt := by
    intro hwait hforce t ht
    have hnow : (r.map (·.nextAttempt)).getD 0 ≤ c.now := by simpa [hforce] using hwait
    linarith [h.wait t ht]
  unfold recoverStation at ha
  dsimp only at ha
  split_ifs at ha with _ hwait
  cases hf : c.failure with
  | none =>
    rw [hf] at ha
    obtain rfl := Option.some.inj ha
    exact ⟨congrArg (· + 1) h.count, rfl, hdue hwait⟩
  | some code =>
    rw [hf] at ha
    obtain rfl := Option.some.inj ha
    exact ⟨congrArg (· + 1) h.count, rfl, hdue hwait⟩

/-- The record after a call, whatever the call comes to. -/
lemma sound_recover (h : Sound r l) (hp : Paced clock l) (ht : c.Timed clock) :
    Sound (recoverStation c r).1
      (((recoverStation c r).2.map Entry.attempt).toList ++ l) := by
  obtain ⟨hnow, hmonitor, hcall, hend⟩ := ht
  unfold recoverStation
  dsimp only
  by_cases hreg : c.registered = true
  swap
  · simpa [hreg] using h
  by_cases hwait : (!c.force && decide (c.now < (r.map (·.nextAttempt)).getD 0)) = true
  · simpa [hreg, hwait] using h
  simp only [hreg, hwait, Bool.not_true, if_false, Bool.false_eq_true]
  by_cases hflow : (!c.force && c.flowing) = true
  · simp only [hflow, if_true, Option.map_none, Option.toList_none, List.nil_append]
    -- the look came when the attempt was due, and only puts it off
    have hforce : c.force = false := by simp_all
    have hnext : (r.map (·.nextAttempt)).getD 0 ≤ c.now := by simpa [hforce] using hwait
    refine ⟨by simpa [monitoring] using h.count, fun t ht => ?_⟩
    have hlate := h.wait t ht
    simp only [monitoring, outputMonitorRecheck, Option.map_some, Option.getD_some]
    linarith
  simp only [hflow, if_false, Bool.false_eq_true]
  cases c.failure with
  | none =>
    refine ⟨by simp [recovered, sinceReset, h.count], fun t ht => ?_⟩
    simp [due] at ht
  | some code =>
    refine ⟨by simp [retryWait, sinceReset, h.count], fun t ht => ?_⟩
    simp only [Option.map_some, Option.toList_some, List.singleton_append, due, if_true] at ht
    simp only [retryWait, Option.map_some, Option.getD_some, h.count]
    split_ifs at ht with hforce
    · have hold := due_le hp t ht
      have hlonger := delay_mono (Nat.le_succ (sinceReset l))
      linarith
    · obtain rfl : c.endedAt + delay (sinceReset l + 1) = t := by simpa [h.count] using ht
      exact le_rfl

end Step

/-- What holds of every station. -/
def Inv (s : Registry) : Prop :=
  ∀ station, Sound (s.records station) (s.log station) ∧ Paced (s.clock station) (s.log station)

lemma inv_start (clock : ℤ → ℚ) : Inv (start clock) := fun _ =>
  ⟨⟨rfl, fun t ht => by simp [start, due] at ht⟩, trivial⟩

lemma inv_step {s t : Registry} {e : Event} (h : Inv s) (hs : step s e = some t) : Inv t := by
  intro station
  obtain ⟨hsound, hpaced⟩ := h station
  cases e with
  | recover own c =>
    obtain ⟨htimed, heq⟩ := Option.ite_none_right_eq_some.mp hs
    obtain rfl := Option.some.inj heq
    by_cases hown : station = own
    · subst hown
      simp only [Function.update_self]
      refine ⟨sound_recover hsound hpaced htimed, ?_⟩
      have hlater : s.clock station ≤ c.endedAt := by
        obtain ⟨h1, h2, h3, h4⟩ := htimed
        linarith
      cases ha : (recoverStation c (s.records station)).2 with
      | none => exact hpaced.mono hlater
      | some a =>
        obtain ⟨hnumber, hend, hdue⟩ := attempt_recover hsound htimed ha
        exact ⟨hnumber, hend.le, hdue, hpaced.mono hlater⟩
    · simpa only [Function.update_of_ne hown] using ⟨hsound, hpaced⟩
  | reset own =>
    obtain rfl := Option.some.inj hs
    by_cases hown : station = own
    · subst hown
      simp only [Function.update_self]
      exact ⟨sound_reset _, hpaced⟩
    · simpa only [Function.update_of_ne hown] using ⟨hsound, hpaced⟩
  | stopAll =>
    obtain rfl := Option.some.inj hs
    exact ⟨sound_reset _, hpaced⟩

/-! ### Two attempts -/

/-- Between two attempts without force: forced ones that fail. -/
def Entry.ForcedFailure : Entry → Prop
  | .attempt a => a.force = true ∧ a.failed = true
  | .reset => False

instance (e : Entry) : Decidable e.ForcedFailure := by
  cases e <;> unfold Entry.ForcedFailure <;> infer_instance

lemma due_between {between older : List Entry} {a : Attempt} (hfailed : a.failed = true)
    (hforce : a.force = false) (h : ∀ e ∈ between, e.ForcedFailure) :
    due (between ++ .attempt a :: older) = some (a.endedAt + delay a.number) := by
  induction between with
  | nil => simp [due, hfailed, hforce]
  | cons e between ih =>
    obtain ⟨he, hrest⟩ := List.forall_mem_cons.mp h
    cases e with
    | attempt b => simp [due, he.1, he.2, ih hrest]
    | reset => exact he.elim

lemma Paced.tail {clock : ℚ} {e : Entry} {l : List Entry} (h : Paced clock (e :: l)) :
    Paced clock l := by
  cases e with
  | attempt a => exact h.2.2.2
  | reset => exact h

lemma Paced.of_append {clock : ℚ} {newer l : List Entry} (h : Paced clock (newer ++ l)) :
    Paced clock l := by
  induction newer with
  | nil => exact h
  | cons e newer ih => exact ih h.tail

/-- **Output recovery is paced.** In every run, an attempt has the number after the attempts
since the last reset; and one that is not forced comes at least the delay of the schedule after
the last one that was not forced, if that failed and the attempts in between failed too. -/
theorem recovery_paced {clock : ℤ → ℚ} {es : List Event} {s : Registry}
    (h : exec step (start clock) es = some s) (station : ℤ) (newer older : List Entry)
    (b : Attempt) (hlog : s.log station = newer ++ .attempt b :: older) :
    b.number = sinceReset older + 1 ∧
      (b.force = false → ∀ (between older' : List Entry) (a : Attempt),
        older = between ++ .attempt a :: older' → a.force = false → a.failed = true →
        (∀ e ∈ between, e.ForcedFailure) → a.endedAt + delay a.number ≤ b.calledAt) := by
  have hpaced := ((inv_of_exec_all (fun _ _ _ hi hs => inv_step hi hs) (inv_start clock) h)
    station).2
  rw [hlog] at hpaced
  obtain ⟨hnumber, -, hdue, -⟩ := hpaced.of_append
  refine ⟨hnumber, fun hforce between older' a holder ha hfailed hbetween => ?_⟩
  exact hdue hforce _ (holder ▸ due_between hfailed ha hbetween)

/-- A call at the second `now` that ends at once, with the outputs found dead. -/
def callAt (now : ℚ) (force : Bool) (failure : Option String) : Event :=
  .recover 1 ⟨force, true, now, false, now, now, now, failure⟩

def refused : Option String := some "origin_unreachable"

def attemptAt (number : ℕ) (now : ℚ) (force failed : Bool) : Attempt :=
  ⟨number, force, now, now, failed⟩

/-- A failure, a call that comes too early, and an attempt with the delay between them. -/
theorem recovery_paced_retry :
    ∃ s, exec step (start fun _ => 0)
        [callAt 10 false refused, callAt 10 false refused, callAt 11 false refused] = some s ∧
      s.log 1 = [.attempt (attemptAt 2 11 false true), .attempt (attemptAt 1 10 false true)] ∧
      (10 : ℚ) + delay 1 ≤ 11 := by
  have hrun : ((exec step (start fun _ => 0)
      [callAt 10 false refused, callAt 10 false refused, callAt 11 false refused]).any fun s =>
      decide (s.log 1 =
        [.attempt (attemptAt 2 11 false true), .attempt (attemptAt 1 10 false true)])) = true := by
    decide +kernel
  obtain ⟨s, hs, hlog⟩ := (Option.any_eq_true ..).mp hrun
  have hlog := of_decide_eq_true hlog
  exact ⟨s, hs, hlog, (recovery_paced hs 1 [] [.attempt (attemptAt 1 10 false true)]
    (attemptAt 2 11 false true) hlog).2 rfl [] [] (attemptAt 1 10 false true) rfl rfl rfl
    (by simp)⟩

/-- **A success that is forced clears the wait.** Two failures without force come half a second
apart, where the schedule has a second between them. -/
theorem forced_success_clears :
    ∃ s, exec step (start fun _ => 0)
        [callAt 10 false refused, callAt (41 / 4) true none, callAt (21 / 2) false refused] =
          some s ∧
      s.log 1 = [.attempt (attemptAt 3 (21 / 2) false true),
        .attempt (attemptAt 2 (41 / 4) true false), .attempt (attemptAt 1 10 false true)] ∧
      ¬(10 : ℚ) + delay 1 ≤ 21 / 2 := by
  have hrun : ((exec step (start fun _ => 0)
      [callAt 10 false refused, callAt (41 / 4) true none, callAt (21 / 2) false refused]).any
      fun s => decide (s.log 1 = [.attempt (attemptAt 3 (21 / 2) false true),
        .attempt (attemptAt 2 (41 / 4) true false), .attempt (attemptAt 1 10 false true)])) =
      true := by
    decide +kernel
  obtain ⟨s, hs, hlog⟩ := (Option.any_eq_true ..).mp hrun
  exact ⟨s, hs, of_decide_eq_true hlog, by norm_num [delay, outputRecoveryDelays]⟩

end OnAir.RecoveryPacing
