import Mathlib.Data.Rat.Defs
import Mathlib.Algebra.Order.Ring.Rat
import Mathlib.Data.Fin.VecNotation
import Mathlib.Tactic.Linarith

/-!
One node of the high availability group: what `HaCoordinator` keeps in memory, its row of
`ha_state`, and where its threads stand.

Python runs the election loop, the lease watchdog and every HTTP handler in threads of their
own, and most of what they share is written without the lock. A thread is therefore modelled
by the statements it has still to execute: each of the phases below lies between two groups
of statements, and any other thread may run in between.
-/

namespace OnAir.HaNode

/-- The voters of the group: two broadcast nodes and a witness. -/
abbrev Voter := Fin 3

instance neZero_three : NeZero 3 := ⟨by decide⟩

inductive Role
  | follower
  | leader
  deriving DecidableEq, Repr

/-- The row of `ha_state`. An empty `voted_for` or `leader_id` is `none`. -/
structure HaRow where
  currentTerm : ℕ
  votedFor : Option Voter
  leaderId : Option Voter
  leaderLeaseExpiresAt : ℚ
  deriving DecidableEq, Repr

/-- The body of a heartbeat or of a vote request. -/
inductive Body
  | heartbeat (term : ℕ) (leaderId : Voter) (leaseExpiresAt : ℚ)
  | vote (term : ℕ) (candidateId : Voter)
  deriving DecidableEq, Repr

/-- A request on the wire. `round` numbers the rounds of the sender, so that an answer belongs
to one round. -/
structure Request where
  src : Voter
  dst : Voter
  round : ℕ
  body : Body
  deriving DecidableEq, Repr

/-- A round of `_post_all`: the peers are asked one after the other. `now` is the reading
taken at the top of the loop, `asking` says that the first peer of `todo` has been sent its
request. -/
structure Post where
  body : Body
  round : ℕ
  now : ℚ
  todo : List Voter
  asking : Bool
  acked : List Voter
  deriving DecidableEq, Repr

/-- Where the thread of `_run` stands. -/
inductive RunPhase
  | off
  | waiting
  /-- a new term has been opened in memory -/
  | opened (now : ℚ)
  /-- and stored with the node's own vote -/
  | selfVoted (now : ℚ)
  | posting (p : Post)
  /-- a heartbeat round was acknowledged, the lease is not extended yet -/
  | renewing (p : Post)
  /-- the extended lease is not stored yet -/
  | renewed
  /-- an election was won, the role is not taken yet -/
  | won (p : Post)
  /-- the leadership is not stored yet -/
  | led
  deriving DecidableEq, Repr

/-- Where the thread of `_watchdog_loop` stands. -/
inductive WatchPhase
  | off
  | watching
  | expired
  | cleared
  | fenced
  deriving DecidableEq, Repr

/-- Where a handler stands: `receive_heartbeat` after its guard, after each of its writes, and
`grant_vote` after its guard and after its commit. -/
inductive Stage
  | heartbeatChecked (now : ℚ)
  | heartbeatTerm (now : ℚ)
  | heartbeatLease
  | heartbeatRole
  | voteChecked
  | voteStored
  deriving DecidableEq, Repr

structure Handler where
  request : Request
  stage : Stage
  deriving DecidableEq, Repr

structure Node where
  role : Role
  term : ℕ
  leaderId : Option Voter
  leaseExpiresAt : ℚ
  leaseDeadline : ℚ
  quorum : Bool
  peerAcks : ℕ
  nextElection : ℚ
  round : ℕ
  row : HaRow
  run : RunPhase
  watchdog : WatchPhase
  handlers : List Handler
  deriving DecidableEq, Repr

/-- `CLEANROOM_HA_LEASE_SECONDS`, the peers of each node in the order they are asked, and
which nodes only vote. -/
structure Config where
  leaseSeconds : ℚ
  peers : Voter → List Voter
  witnessOnly : Voter → Bool

/-- A group of three: nobody lists itself or anybody twice. -/
structure Config.Paired (cfg : Config) : Prop where
  lease_pos : 0 < cfg.leaseSeconds
  not_self : ∀ v, v ∉ cfg.peers v
  nodup : ∀ v, (cfg.peers v).Nodup

/-- A node that has never run. -/
def fresh : Node where
  role := .follower
  term := 0
  leaderId := none
  leaseExpiresAt := 0
  leaseDeadline := 0
  quorum := false
  peerAcks := 0
  nextElection := 0
  round := 0
  row := ⟨0, none, none, 0⟩
  run := .off
  watchdog := .off
  handlers := []

namespace Node

/-- `_set_role`. -/
def setRole (n : Node) (role : Role) (quorum : Bool) (leaderId : Option Voter) : Node :=
  { n with
    role, quorum, leaderId
    leaseDeadline := if role = .leader then n.leaseDeadline else 0 }

/-- `_persist`; without a vote the column keeps its value. -/
def persist (n : Node) (votedFor : Option (Option Voter)) : Node :=
  { n with row := ⟨n.term, votedFor.getD n.row.votedFor, n.leaderId, n.leaseExpiresAt⟩ }

/-- `_load_persistent`. -/
def loadPersistent (n : Node) : Node :=
  { n with
    term := n.row.currentTerm
    leaderId := n.row.leaderId
    leaseExpiresAt := n.row.leaderLeaseExpiresAt }

/-- The process ends and a new one begins: memory is lost, the row and the round counter, which
only names connections, are not. -/
def restart (n : Node) : Node :=
  { fresh with row := n.row, round := n.round }

/-- `safe_to_broadcast` of `snapshot()`, read at `mono`. -/
def Safe (n : Node) (mono : ℚ) : Prop :=
  n.role = .leader ∧ n.quorum = true ∧ 0 < n.leaseDeadline - mono

instance (n : Node) (mono : ℚ) : Decidable (n.Safe mono) := by
  unfold Safe; infer_instance

/-- The guard of `receive_heartbeat`. -/
def acceptsHeartbeat (n : Node) (now : ℚ) (term : ℕ) (leaseExpiresAt : ℚ) : Bool :=
  !(decide (term < n.term) || decide (leaseExpiresAt ≤ now))

/-- The guard of `grant_vote`, on the stored row. -/
def grantsVote (n : Node) (now : ℚ) (term : ℕ) (candidateId : Voter) : Bool :=
  !(decide (term < n.row.currentTerm) || decide (now < n.row.leaderLeaseExpiresAt)) &&
    !(decide (term = n.row.currentTerm) &&
      (n.row.votedFor ≠ none && n.row.votedFor ≠ some candidateId))

/-- A lease that has run out at some time stays so. -/
lemma Safe.mono {n : Node} {s t : ℚ} (h : n.Safe t) (hst : s ≤ t) : n.Safe s :=
  ⟨h.1, h.2.1, by have := h.2.2; linarith⟩

@[simp] lemma not_safe_restart (n : Node) (t : ℚ) : ¬ n.restart.Safe t := by
  simp [Safe, restart, fresh]

end Node

end OnAir.HaNode
