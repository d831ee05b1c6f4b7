import OnAir.HaElection
import OnAir.HaThreads

/-!
A heartbeat round against the watchdog.

While a leader waits for the acknowledgements of a round, its lease may run out and the
watchdog takes the role from it. The round looks at the role again once the acknowledgements are
counted, and extends the lease in a second critical section; what it does not see is a watchdog
that runs between the two.
-/

namespace OnAir.LateAcks

open HaNode HaGroup HaElection HaThreads Runs

/-- The phases of a heartbeat round, from its first request to the stored lease. -/
def InRound : RunPhase → Prop
  | .posting p =>
    match p.body with
    | .heartbeat _ _ _ => True
    | .vote _ _ => False
  | .renewing _ | .renewed => True
  | _ => False

/-- The statements of a heartbeat round. -/
def OfRound : Op → Prop
  | .send | .collect | .giveUp | .count | .renew | .persistBeat => True
  | _ => False

/-- A node, and whether the watchdog has fenced it since its last round began. -/
structure Watched where
  node : Node
  fenced : Bool
  deriving DecidableEq

/-- From `m` to `n` the lease was not extended, and neither the quorum nor the lead was set. -/
structure NoMore (v : Voter) (m n : Node) : Prop where
  lease : n.leaseExpiresAt ≤ m.leaseExpiresAt
  deadline : n.leaseDeadline ≤ m.leaseDeadline
  quorum : n.quorum = true → m.quorum = true
  lead : n.leaderId = some v → m.leaderId = some v

variable (cfg : Config) (v : Voter)

/-- A step of the node, recorded. -/
def watched (s : Watched) (a : Act) : Option Watched :=
  (nodeStep cfg v s.node a).map fun n' =>
    { node := n'
      fenced := match a.op with
        | .watchFence => true
        | .beat | .restart => false
        | _ => s.fenced }

/-- A round gives a node that was fenced in it nothing back. -/
def KeepsFence (s : Watched) (a : Act) : Prop :=
  s.fenced = true → InRound s.node.run → OfRound a.op →
    ∀ s' ∈ watched cfg v s a, NoMore v s.node s'.node

/-- The lease is extended by a node that is the leader still. -/
def RenewsAsLeader (s : Watched) (a : Act) : Prop :=
  match a.op, s.node.run with
  | .renew, .renewing _ => s.node.role = .leader
  | _, _ => True

instance : DecidablePred InRound := fun r => by
  unfold InRound
  rcases r with _ | _
  case posting p =>
    dsimp only
    generalize p.body = body
    rcases body with _ | _
    all_goals infer_instance
  all_goals infer_instance

instance : DecidablePred OfRound := fun op => by
  unfold OfRound
  split <;> infer_instance

instance (m n : Node) : Decidable (NoMore v m n) :=
  decidable_of_iff (n.leaseExpiresAt ≤ m.leaseExpiresAt ∧ n.leaseDeadline ≤ m.leaseDeadline ∧
    (n.quorum = true → m.quorum = true) ∧ (n.leaderId = some v → m.leaderId = some v))
    ⟨fun ⟨h1, h2, h3, h4⟩ => ⟨h1, h2, h3, h4⟩, fun h => ⟨h.1, h.2, h.3, h.4⟩⟩

instance (s : Watched) (a : Act) : Decidable (KeepsFence cfg v s a) := by
  unfold KeepsFence
  infer_instance

instance (s : Watched) (a : Act) : Decidable (RenewsAsLeader s a) := by
  unfold RenewsAsLeader
  generalize a.op = op
  generalize s.node.run = phase
  rcases op with _ | _ <;> rcases phase with _ | _
  all_goals infer_instance

variable {cfg} {v} {s s' : Watched} {n n' : Node} {a : Act}

lemma watched_eq_some : watched cfg v s a = some s' ↔
    ∃ n', nodeStep cfg v s.node a = some n' ∧ (⟨n', match a.op with
      | .watchFence => true
      | .beat | .restart => false
      | _ => s.fenced⟩ : Watched) = s' := by
  simp [watched, Option.map_eq_some_iff]

lemma fenced_or (h : watched cfg v s a = some s') (hf : s'.fenced = true) :
    a.op = .watchFence ∨ s.fenced = true ∧ a.op ≠ .beat ∧ a.op ≠ .restart := by
  obtain ⟨n', -, rfl⟩ := watched_eq_some.mp h
  revert hf
  dsimp only
  split <;> simp_all

/-! ### The role during a round -/

/-- A round begins with `beat`, and none of its statements makes a leader. -/
lemma runStep_inRound (h : runStep cfg v n a = some n') (hr : InRound n'.run) :
    a.op = .beat ∨ InRound n.run ∧ n'.role = n.role := by
  revert h hr
  fun_cases runStep cfg v n a <;> intro h <;> cases h <;>
    simp_all [InRound, Node.persist, Node.setRole, Node.loadPersistent]

lemma watchStep_role (h : watchStep n a = some n') (hr : n.role = .follower) :
    n'.role = .follower := by
  revert h hr
  fun_cases watchStep n a <;> intro h <;> cases h <;> simp_all [Node.persist, Node.setRole]

lemma serve_role {mono : ℚ} {hd : Handler} {o : Option Stage}
    (h : serve cfg n mono hd = some (n', o)) (hr : n.role = .follower) : n'.role = .follower := by
  revert h hr
  fun_cases serve cfg n mono hd <;> intro h <;> cases h <;>
    simp_all [Node.persist, Node.setRole]

lemma watchStep_fence (h : watchStep n a = some n') (hop : a.op = .watchFence) :
    n'.role = .follower ∧ n'.quorum = false := by
  revert h hop
  fun_cases watchStep n a <;> intro h <;> cases h <;> simp_all [Node.setRole]

/-- A node that was fenced in the round it is in is a follower. -/
def Demoted (s : Watched) : Prop :=
  s.fenced = true → InRound s.node.run → s.node.role = .follower

theorem demoted_step (hd : Demoted s) (h : watched cfg v s a = some s') : Demoted s' := by
  intro hnow hr
  have hop := fenced_or h hnow
  obtain ⟨n', hn, rfl⟩ := watched_eq_some.mp h
  change n'.role = .follower
  replace hr : InRound n'.run := hr
  rcases hop with hop | ⟨hf, hbeat, hstart⟩
  · have hs : watchStep s.node a = some n' := by simpa [nodeStep, hop] using hn
    exact (watchStep_fence hs hop).1
  cases turn_of_nodeStep hn with
  | restart hop => exact absurd hop hstart
  | send _ hp | collect _ hp _ => exact hd hf (by rw [hp]; exact hr)
  | refuse _ _ | receive _ _ => exact hd hf hr
  | advance _ _ hs | answer _ _ hs =>
    have hrole := serve_role hs (hd hf ((serve_run hs).1 ▸ hr))
    exact hrole
  | watch hs => exact watchStep_role hs (hd hf ((watchStep_run hs).1 ▸ hr))
  | run hs =>
    obtain hop | ⟨hr', hrole⟩ := runStep_inRound hs hr
    · exact absurd hop hbeat
    · rw [hrole]
      exact hd hf hr'

/-! ### What a round may write -/

/-- The only statement of a round that gives a follower anything is the one that extends the
lease. -/
lemma noMore_of_round (h : nodeStep cfg v n a = some n') (hr : InRound n.run) (ho : OfRound a.op)
    (hrole : n.role = .follower) : NoMore v n n' ∨ a.op = .renew ∧ ∃ p, n.run = .renewing p := by
  cases turn_of_nodeStep h with
  | restart hop => simp [hop, OfRound] at ho
  | refuse hop _ | receive hop _ | advance hop _ _ | answer hop _ _ => simp [hop, OfRound] at ho
  | send _ _ | collect _ _ _ => exact .inl ⟨le_rfl, le_rfl, id, id⟩
  | watch hs =>
    revert hs ho
    fun_cases watchStep n a <;> simp_all [OfRound]
  | run hs =>
    revert hs ho hr
    fun_cases runStep cfg v n a <;> intro hr ho h <;> cases h <;>
      simp_all [InRound, OfRound, Node.persist]
    all_goals exact ⟨le_rfl, le_rfl, id, id⟩

/-- **Late acknowledgements.** In a run in which the lease is only extended while the node has
the role of leader still, no statement of a heartbeat round gives anything back to a node that
the watchdog fenced in that round. -/
theorem fence_stands (cfg : Config) (v : Voter) (n : Node) (acts : List Act)
    (hm : Meets (watched cfg v) RenewsAsLeader ⟨n, false⟩ acts) :
    Meets (watched cfg v) (KeepsFence cfg v) ⟨n, false⟩ acts := by
  refine hm.mono_of_inv (P := Demoted) (fun _ _ _ hd _ => demoted_step hd) ?_ (by simp [Demoted])
  intro s a hd hk hf hr ho s' hs
  obtain ⟨n', hn, rfl⟩ := watched_eq_some.mp hs
  obtain h | ⟨hop, p, hp⟩ := noMore_of_round hn hr ho (hd hf hr)
  · exact h
  · have hl : s.node.role = .leader := by simpa [RenewsAsLeader, hop, hp] using hk
    rw [hd hf hr] at hl
    cases hl

/-! ### An acknowledgement that comes late -/

/-- A leader of term 1 whose lease runs to 13 asks for the acknowledgement of the witness. -/
def round : List Act :=
  moves 0 0 [.start] ++ moves 0 7 [.elect, .persistSelf, .postVote, .giveUp, .send, .collect,
    .count, .takeLead, .persistLead] ++ moves 0 8 [.beat, .giveUp, .send, .collect]

/-- The watchdog fences the leader before the acknowledgements are counted. -/
def inTime : List Act :=
  round ++ moves 0 13 [.watchCheck, .watchClear, .watchFence, .count, .watchPersist]

/-- The watchdog fences the leader after they were counted. -/
def tooLate : List Act :=
  round ++ moves 0 13 [.count, .watchCheck, .watchClear, .watchFence, .renew]

theorem fence_stands_inTime :
    (∃ s ∈ exec (watched pair 0) ⟨fresh, false⟩ inTime, s.fenced = true) ∧
      Meets (watched pair 0) (KeepsFence pair 0) ⟨fresh, false⟩ inTime :=
  ⟨by decide +kernel, fence_stands pair 0 fresh inTime (by decide +kernel)⟩

/-- The lease that was set to 0 stands at 14 again. -/
theorem late_ack_resurrects : ¬ ∀ (cfg : Config), cfg.Paired → ∀ (v : Voter) (acts : List Act)
    (s : Watched), exec (watched cfg v) ⟨fresh, false⟩ acts = some s →
      Meets (watched cfg v) (KeepsFence cfg v) ⟨fresh, false⟩ acts := by
  intro hall
  obtain ⟨s, he, -⟩ : ∃ s ∈ exec (watched pair 0) ⟨fresh, false⟩ tooLate,
      s.node.role = .follower ∧ s.node.leaseExpiresAt = 14 ∧ s.node.leaseDeadline = 19 ∧
        s.node.quorum = true ∧ s.node.leaderId = some 0 := by
    decide +kernel
  exact absurd (hall pair paired_pair 0 tooLate s he) (by decide +kernel)

end OnAir.LateAcks
