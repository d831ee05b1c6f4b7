import Mathlib.Data.List.Chain
import OnAir.WorkerEnv

/-!
Restarts of an item that is not heard, and the table that ends them.

The workers of all stations share the table. A key is a station, a source and an item; what is
remembered under it is the number of restarts granted and the time before which there is none.
Times are exact numbers of seconds of the monotonic clock.
-/

namespace OnAir.RestartSuppression

open PlayoutTables

def maxRestartAttemptsPerItem : ℕ := 3

def restartCooldownSec : ℚ := 180

structure Key where
  stationId : ℤ
  source : String
  itemId : ℤ
  deriving DecidableEq, Repr

/-- `_RESTART_SUPPRESSION`. -/
abbrev Table := Key → Option RestartState

/-- `_restart_attempt_allowed` at the time `now`: the answer with its reason, and the table. -/
def restartAttemptAllowed (now : ℚ) (key : Key) (t : Table) : (Bool × String) × Table :=
  match t key with
  | none => ((true, ""), Function.update t key (some ⟨1, now + restartCooldownSec, ""⟩))
  | some r =>
    if maxRestartAttemptsPerItem ≤ r.attempts then
      ((false, "restart_limit_reached"),
        Function.update t key (some { r with reason := "restart_limit_reached" }))
    else if now < r.nextAllowed then
      ((false, "restart_cooldown_active"),
        Function.update t key (some { r with reason := "restart_cooldown_active" }))
    else
      ((true, ""),
        Function.update t key (some ⟨r.attempts + 1, now + restartCooldownSec, ""⟩))

/-! ### One call -/

/-- The counters under a key; the reason of the last refusal is not one of them. -/
def counters (r : Option RestartState) : Option (ℕ × ℚ) :=
  r.map fun r => (r.attempts, r.nextAllowed)

variable {now : ℚ} {key k : Key} {t u : Table}

lemma call_other (h : k ≠ key) : (restartAttemptAllowed now key t).2 k = t k := by
  unfold restartAttemptAllowed
  split
  · exact Function.update_of_ne h ..
  · split_ifs <;> exact Function.update_of_ne h ..

/-- A call reads nothing but what is under its own key. -/
lemma call_congr (now : ℚ) (h : t key = u key) :
    (restartAttemptAllowed now key t).1 = (restartAttemptAllowed now key u).1 ∧
      (restartAttemptAllowed now key t).2 key = (restartAttemptAllowed now key u).2 key := by
  unfold restartAttemptAllowed
  rw [h]
  cases u key with
  | none => simp
  | some r =>
    dsimp only
    split_ifs <;> simp

lemma counters_refused (h : (restartAttemptAllowed now key t).1.1 = false) (k : Key) :
    counters ((restartAttemptAllowed now key t).2 k) = counters (t k) := by
  by_cases hk : k = key
  · subst hk
    revert h
    unfold restartAttemptAllowed
    cases ht : t k with
    | none => simp
    | some r =>
      dsimp only
      split_ifs <;> simp [counters]
  · rw [call_other hk]

/-- The times of the grants so far, in order, against what is under the key. -/
def Paced (grants : List ℚ) : Option RestartState → Prop
  | none => grants = []
  | some r => r.attempts = grants.length ∧ grants.length ≤ maxRestartAttemptsPerItem ∧
      (∀ last ∈ grants.getLast?, r.nextAllowed = last + restartCooldownSec) ∧
      grants.IsChain fun a b => a + restartCooldownSec ≤ b

lemma Paced.limit {grants : List ℚ} {r : Option RestartState} (h : Paced grants r) :
    grants.length ≤ maxRestartAttemptsPerItem := by
  cases r with
  | none =>
    rw [show grants = [] from h]
    exact Nat.zero_le _
  | some r => exact h.2.1

lemma Paced.chain {grants : List ℚ} {r : Option RestartState} (h : Paced grants r) :
    grants.IsChain fun a b => a + restartCooldownSec ≤ b := by
  cases r with
  | none =>
    rw [show grants = [] from h]
    exact .nil
  | some r => exact h.2.2.2

/-- A call of the key keeps the pace, with the time of the call among the grants if it is one. -/
lemma Paced.call {grants : List ℚ} (h : Paced grants (t key)) (now : ℚ) :
    Paced (grants ++ if (restartAttemptAllowed now key t).1.1 then [now] else [])
      ((restartAttemptAllowed now key t).2 key) := by
  unfold restartAttemptAllowed
  cases ht : t key with
  | none =>
    have hg : grants = [] := by simpa [ht, Paced] using h
    subst hg
    simp [Paced, maxRestartAttemptsPerItem]
  | some r =>
    rw [ht] at h
    obtain ⟨hlen, hmax, hnext, hchain⟩ := h
    by_cases hlimit : maxRestartAttemptsPerItem ≤ r.attempts
    · simpa [Paced, hlimit] using ⟨hlen, hmax, hnext, hchain⟩
    by_cases hwait : now < r.nextAllowed
    · simpa [Paced, hlimit, hwait] using ⟨hlen, hmax, hnext, hchain⟩
    -- granted: the cooldown of the last grant is over
    have hroom : grants.length < maxRestartAttemptsPerItem := by omega
    have hgap : ∀ last ∈ grants.getLast?, last + restartCooldownSec ≤ now := by
      intro last hlast
      rw [← hnext last hlast]
      exact not_lt.mp hwait
    simp only [hlimit, hwait, if_false, if_true, Function.update_self]
    refine ⟨?_, ?_, ?_, ?_⟩
    · simp [hlen]
    · rw [List.length_append]
      exact hroom
    · simp
    · simpa [List.isChain_append] using ⟨hchain, hgap⟩

/-! ### Runs -/

structure Call where
  now : ℚ
  key : Key
  deriving DecidableEq, Repr

/-- The table, and the calls so far with their answers. -/
structure Run where
  table : Table
  log : List (Call × Bool)

def start : Run := ⟨fun _ => none, []⟩

def Run.call (r : Run) (c : Call) : Run :=
  let answer := restartAttemptAllowed c.now c.key r.table
  ⟨answer.2, r.log ++ [(c, answer.1.1)]⟩

def run (calls : List Call) : Run := calls.foldl Run.call start

lemma run_snoc (calls : List Call) (c : Call) : run (calls ++ [c]) = (run calls).call c := by
  simp [run]

/-- The times at which the key was granted a restart. -/
def grants (key : Key) (log : List (Call × Bool)) : List ℚ :=
  (log.filter fun e => e.1.key = key ∧ e.2).map fun e => e.1.now

lemma grants_call (r : Run) (c : Call) (key : Key) :
    grants key (r.call c).log = grants key r.log ++
      if c.key = key ∧ (restartAttemptAllowed c.now c.key r.table).1.1 then [c.now] else [] := by
  simp only [grants, Run.call, List.filter_append, List.map_append]
  congr 1
  by_cases hk : c.key = key
  · subst hk
    cases (restartAttemptAllowed c.now c.key r.table).1.1 <;> simp
  · simp [hk]

theorem paced_run (calls : List Call) (key : Key) :
    Paced (grants key (run calls).log) ((run calls).table key) := by
  induction calls using List.reverseRecOn with
  | nil => rfl
  | append_singleton calls c ih =>
    rw [run_snoc, grants_call]
    by_cases hk : c.key = key
    · subst hk
      simpa [Run.call] using ih.call c.now
    · simpa [Run.call, hk, call_other (Ne.symm hk)] using ih

/-- What the calls of one key do, they do without the calls of the others. -/
theorem run_own (calls : List Call) (key : Key) :
    (run (calls.filter (·.key = key))).table key = (run calls).table key ∧
      (run (calls.filter (·.key = key))).log = (run calls).log.filter (·.1.key = key) := by
  induction calls using List.reverseRecOn with
  | nil => exact ⟨rfl, rfl⟩
  | append_singleton calls c ih =>
    obtain ⟨htable, hlog⟩ := ih
    rw [List.filter_append, run_snoc]
    by_cases hk : c.key = key
    · subst hk
      have hsame := call_congr c.now htable
      rw [show [c].filter (fun d => d.key = c.key) = [c] by simp, run_snoc]
      exact ⟨hsame.2, by simp [Run.call, hlog, hsame.1]⟩
    · rw [show [c].filter (fun d => d.key = key) = [] by simp [hk], List.append_nil]
      exact ⟨by simp [Run.call, htable, call_other (Ne.symm hk)], by simp [Run.call, hlog, hk]⟩

/-- **Restart suppression.** Whatever calls are made, at whatever times: every key is granted at
most three restarts, one grant comes at least the cooldown after the one before it, a refusal
leaves the counters of every key as they were, and what happens under a key is what happens
with the calls of that key alone. -/
theorem restarts_suppressed (calls : List Call) (key : Key) :
    (grants key (run calls).log).length ≤ maxRestartAttemptsPerItem ∧
      (grants key (run calls).log).IsChain (fun a b => a + restartCooldownSec ≤ b) ∧
      (∀ c : Call, (restartAttemptAllowed c.now c.key (run calls).table).1.1 = false →
        counters ((run (calls ++ [c])).table key) = counters ((run calls).table key)) ∧
      (run calls).table key = (run (calls.filter (·.key = key))).table key ∧
      (run calls).log.filter (·.1.key = key) = (run (calls.filter (·.key = key))).log := by
  have hpaced := paced_run calls key
  obtain ⟨htable, hlog⟩ := run_own calls key
  refine ⟨hpaced.limit, hpaced.chain, fun c hc => ?_, htable.symm, hlog.symm⟩
  rw [run_snoc]
  exact counters_refused hc key

end OnAir.RestartSuppression
