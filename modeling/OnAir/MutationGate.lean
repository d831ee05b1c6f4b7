import OnAir.HaElection
import OnAir.PythonText

/-!
Two readings of one coordinator: the snapshot, which says whether the node may broadcast, and the
gate in front of every mutation that is journaled.

The snapshot of a leader looks at the deadline of its lease. The gate takes a snapshot and looks at
the role and the quorum in it, which stand until the watchdog or a heartbeat round has run.
-/

namespace OnAir.MutationGate

open HaNode HaGroup HaElection PythonText Runs

/-- What `HaCoordinator` reads for a snapshot. -/
structure HaCoordinator where
  enabled : Bool
  nodeId : Voter
  lastError : String
  node : Node
  deriving DecidableEq, Repr

/-- The payload of `snapshot`. A role of `none` is `standalone`. -/
structure HaSnapshot where
  enabled : Bool
  nodeId : Voter
  role : Option Role
  term : ℕ
  leaderId : Option Voter
  leaseExpiresAt : ℚ
  leaseRemainingSeconds : ℚ
  quorum : Bool
  peerAcks : ℕ
  lastError : String
  safeToBroadcast : Bool
  deriving DecidableEq, Repr

/-- An entry of the audit chain that `require_safe_mutation` appends. -/
structure Override where
  category : String
  action : String
  reason : String
  ha : HaSnapshot
  deriving DecidableEq, Repr

/-- `round(x, 3)`: to the nearest thousandth, and to the even one of two. -/
def roundMillis (x : ℚ) : ℚ :=
  let f := ⌊x * 1000⌋
  let d := x * 1000 - f
  (if d < 1 / 2 then f else if 1 / 2 < d then f + 1 else if f % 2 = 0 then f else f + 1 : ℤ) / 1000

namespace HaCoordinator

/-- `HaSnapshot.as_dict`, on the wall clock. -/
def asDict (c : HaCoordinator) (now : ℚ) : HaSnapshot :=
  let role := if c.enabled then some c.node.role else none
  let quorum := if c.enabled then c.node.quorum else true
  let leaseExpiresAt := if c.enabled then c.node.leaseExpiresAt else 0
  let remaining := if c.enabled then max 0 (leaseExpiresAt - now) else 0
  { enabled := c.enabled
    nodeId := c.nodeId
    role
    term := c.node.term
    leaderId := if c.enabled then c.node.leaderId else some c.nodeId
    leaseExpiresAt
    leaseRemainingSeconds := roundMillis remaining
    quorum
    peerAcks := c.node.peerAcks
    lastError := c.lastError
    safeToBroadcast := !c.enabled || (role = some .leader && quorum && decide (0 < remaining)) }

/-- `snapshot`. The lease of a leader is measured on the monotonic clock. -/
def snapshot (c : HaCoordinator) (now mono : ℚ) : HaSnapshot :=
  if c.enabled ∧ c.node.role = .leader then
    let remaining := max 0 (c.node.leaseDeadline - mono)
    { c.asDict now with
      leaseRemainingSeconds := roundMillis remaining
      safeToBroadcast := c.node.quorum && decide (0 < remaining) }
  else c.asDict now

/-- `require_safe_mutation`, and what it appends to the audit chain. -/
def requireSafeMutation (c : HaCoordinator) (overrideReason : String) (now mono : ℚ) :
    Except String (HaSnapshot × Option Override) :=
  let snapshot := c.snapshot now mono
  if !c.enabled || (snapshot.quorum && snapshot.role = some .leader) then .ok (snapshot, none)
  else if trim overrideReason ≠ "" then
    .ok (snapshot, some ⟨"override", "single_node_mutation", overrideReason, snapshot⟩)
  else .error "ha_replication_not_ready"

variable {c : HaCoordinator} {now mono : ℚ} {reason : String}

/-- The snapshot reports what the lease says. -/
lemma snapshot_safe_iff (he : c.enabled = true) :
    (c.snapshot now mono).safeToBroadcast = true ↔ c.node.Safe mono := by
  unfold snapshot Node.Safe
  split_ifs with h
  · simp [h.2]
  · have hr : c.node.role ≠ .leader := fun hr => h ⟨he, hr⟩
    simp [asDict, he, hr]

/-- Without a reason the gate is open where the flags say so. -/
lemma requireSafeMutation_ok_iff (he : c.enabled = true) (hr : trim reason = "") :
    (∃ r, c.requireSafeMutation reason now mono = .ok r) ↔
      c.node.role = .leader ∧ c.node.quorum = true := by
  have hs : (c.snapshot now mono).quorum = c.node.quorum ∧
      (c.snapshot now mono).role = some c.node.role := by
    unfold snapshot
    split_ifs <;> simp [asDict, he]
  unfold requireSafeMutation
  dsimp only
  rw [hs.1, hs.2]
  by_cases h : c.node.role = .leader ∧ c.node.quorum = true
  · simp [h.1, h.2]
  · rw [if_neg (by simpa [he, and_comm] using h), if_neg (by simp [hr])]
    simpa using h

/-- The gate lets every node through that may broadcast. -/
theorem open_of_safe (he : c.enabled = true) (hr : trim reason = "") (hs : c.node.Safe mono) :
    ∃ r, c.requireSafeMutation reason now mono = .ok r :=
  (requireSafeMutation_ok_iff he hr).mpr ⟨hs.1, hs.2.1⟩

end HaCoordinator

open HaCoordinator

lemma gate_iff {c : HaCoordinator} {now mono : ℚ} {reason : String} (he : c.enabled = true)
    (hr : trim reason = "") :
    (∀ r, c.requireSafeMutation reason now mono = .ok r →
        (c.snapshot now mono).safeToBroadcast = true) ↔
      ¬ (c.node.role = .leader ∧ c.node.quorum = true ∧ c.node.leaseDeadline ≤ mono) := by
  rw [snapshot_safe_iff he, ← exists_imp, requireSafeMutation_ok_iff he hr]
  unfold Node.Safe
  constructor
  · rintro h ⟨hl, hq, hd⟩
    have := (h ⟨hl, hq⟩).2.2
    linarith
  · rintro h ⟨hl, hq⟩
    refine ⟨hl, hq, ?_⟩
    by_contra hd
    exact h ⟨hl, hq, by linarith⟩

/-- **The gate and the snapshot.** Where nobody overrides it, what passes the gate may broadcast,
unless the lease of the leader has run out and its flags still stand. -/
theorem gate_agrees_iff (c : HaCoordinator) (now mono : ℚ) (reason : String)
    (he : c.enabled = true) (hr : trim reason = "") :
    (∀ r, c.requireSafeMutation reason now mono = .ok r →
        (c.snapshot now mono).safeToBroadcast = true) ↔
      ¬ (c.node.role = .leader ∧ c.node.quorum = true ∧ c.node.leaseDeadline ≤ mono) :=
  gate_iff he hr

/-! ### A lease that has run out -/

/-- Node 0 of a group, as its coordinator sees it. -/
def coordinatorOf (w : World) : HaCoordinator := ⟨true, 0, "", w.nodes 0⟩

theorem gate_agrees_within :
    ∃ w ∈ exec (step pair) init firstElection,
      ∀ r, (coordinatorOf w).requireSafeMutation "" 12 12 = .ok r →
        ((coordinatorOf w).snapshot 12 12).safeToBroadcast = true := by
  obtain ⟨w, he, hd⟩ : ∃ w ∈ exec (step pair) init firstElection,
      (coordinatorOf w).node.leaseDeadline = 13 := by
    decide +kernel
  exact ⟨w, he, (gate_agrees_iff (coordinatorOf w) 12 12 "" rfl (by decide)).mpr
    fun h => by rw [hd] at h; exact absurd h.2.2 (by decide)⟩

/-- At 13 the lease of the leader has run out, and the watchdog has not run yet. -/
theorem gate_open_without_lease : ¬ ∀ (cfg : Config), cfg.Paired → ∀ (acts : List Act)
    (w : World), exec (step cfg) init acts = some w → ∀ (now mono : ℚ) (reason : String),
      trim reason = "" → ∀ r, (coordinatorOf w).requireSafeMutation reason now mono = .ok r →
        ((coordinatorOf w).snapshot now mono).safeToBroadcast = true := by
  intro hall
  obtain ⟨w, he, hl, hq, hd⟩ : ∃ w ∈ exec (step pair) init firstElection,
      (coordinatorOf w).node.role = .leader ∧ (coordinatorOf w).node.quorum = true ∧
        (coordinatorOf w).node.leaseDeadline = 13 := by
    decide +kernel
  have hblank : trim "" = "" := by decide
  have hgate := hall pair paired_pair firstElection w he 13 13 "" hblank
  rw [gate_iff rfl hblank, hd] at hgate
  exact hgate ⟨hl, hq, le_rfl⟩

end OnAir.MutationGate
