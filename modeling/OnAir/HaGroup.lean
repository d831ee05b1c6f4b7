import Mathlib.Data.Fintype.Basic
import OnAir.HaNode
import OnAir.Runs

/-!
The group of three: its nodes, the requests that were sent and not yet handled, and the
answers that were given and not yet read.

A step executes the next statements of one thread of one node. A request that is never
received, or whose answer is never collected, is a lost message; one that is received late is a
delayed one. The readings of the two clocks are part of the step.
-/

namespace OnAir.HaGroup

open HaNode Runs

structure World where
  nodes : Voter → Node
  flying : List Request
  answers : List (Request × Bool)

/-- Which thread moves on, or which request a node takes from the wire. -/
inductive Op
  | start
  | restart
  /-- the loop wakes up as the leader -/
  | beat
  /-- the loop wakes up otherwise and opens an election -/
  | elect
  | persistSelf
  | postVote
  | send
  | collect
  | giveUp
  /-- the round is over: its acknowledgements are counted -/
  | count
  | renew
  | persistBeat
  | takeLead
  | persistLead
  | watchCheck
  | watchClear
  | watchFence
  | watchPersist
  | receive (x : Request)
  | advance (h : Handler)
  deriving DecidableEq, Repr

/-- A step of node `node`. `jitter` is what `random.uniform` returned, where it is called. -/
structure Act where
  node : Voter
  now : ℚ
  mono : ℚ
  jitter : ℚ
  op : Op
  deriving DecidableEq, Repr

/-- The range of `random.uniform(lease, lease * 1.5)`. -/
def Config.jitterOk (cfg : Config) (j : ℚ) : Prop :=
  cfg.leaseSeconds ≤ j ∧ j ≤ cfg.leaseSeconds * (3 / 2)

instance (cfg : Config) (j : ℚ) : Decidable (Config.jitterOk cfg j) := by
  unfold Config.jitterOk; infer_instance

def init : World where
  nodes _ := fresh
  flying := []
  answers := []

namespace World

def setNode (w : World) (v : Voter) (n : Node) : World :=
  { w with nodes := Function.update w.nodes v n }

@[simp] lemma setNode_self (w : World) (v : Voter) (n : Node) : (w.setNode v n).nodes v = n := by
  simp [setNode]

lemma setNode_ne (w : World) {u v : Voter} (n : Node) (h : u ≠ v) :
    (w.setNode v n).nodes u = w.nodes u := by
  simp [setNode, h]

@[simp] lemma setNode_flying (w : World) (v : Voter) (n : Node) :
    (w.setNode v n).flying = w.flying := rfl

@[simp] lemma setNode_answers (w : World) (v : Voter) (n : Node) :
    (w.setNode v n).answers = w.answers := rfl

end World

variable (cfg : Config)

/-- The election loop of node `v`, whose state is `n`; `none` where the step is not its
next. The steps that only touch the node. -/
def runStep (v : Voter) (n : Node) (a : Act) : Option Node :=
  match a.op, n.run with
  | .start, .off =>
    if cfg.witnessOnly v = false ∧ Config.jitterOk cfg a.jitter then
      some { n.loadPersistent with
        run := .waiting, watchdog := .watching, nextElection := a.mono + a.jitter }
    else none
  | .beat, .waiting =>
    if n.role = .leader then
      some { n with
        round := n.round + 1
        run := .posting ⟨.heartbeat n.term v (a.now + cfg.leaseSeconds), n.round, a.now,
          cfg.peers v, false, []⟩ }
    else none
  | .elect, .waiting =>
    if n.role ≠ .leader ∧ n.leaseExpiresAt ≤ a.now ∧ n.nextElection ≤ a.mono then
      some { n with
        term := n.term + 1, leaderId := none, leaseExpiresAt := 0, run := .opened a.now }
    else none
  | .persistSelf, .opened now =>
    some { n.persist (some (some v)) with run := .selfVoted now }
  | .postVote, .selfVoted now =>
    some { n with
      round := n.round + 1
      run := .posting ⟨.vote n.term v, n.round, now, cfg.peers v, false, []⟩ }
  | .giveUp, .posting p =>
    match p.todo with
    | _ :: rest => some { n with run := .posting { p with todo := rest, asking := false } }
    | [] => none
  | .count, .posting p =>
    match p.todo, p.body with
    | [], .heartbeat _ _ _ =>
      if n.role ≠ .leader then
        some { n with peerAcks := p.acked.length, run := .waiting }
      else if p.acked ≠ [] then
        some { n with peerAcks := p.acked.length, run := .renewing p }
      else if n.leaseExpiresAt ≤ p.now then
        if Config.jitterOk cfg a.jitter then
          some { n.setRole .follower false none with
            peerAcks := 0, nextElection := a.mono + a.jitter, run := .waiting }
        else none
      else some { n with peerAcks := 0, run := .waiting }
    | [], .vote _ _ =>
      if 2 ≤ 1 + p.acked.length then
        some { n with
          peerAcks := p.acked.length
          leaseExpiresAt := p.now + cfg.leaseSeconds
          leaseDeadline := a.mono + cfg.leaseSeconds
          run := .won p }
      else if Config.jitterOk cfg a.jitter then
        some { n.setRole .follower false none with
          peerAcks := 0, nextElection := a.mono + a.jitter, run := .waiting }
      else none
    | _ :: _, _ => none
  | .renew, .renewing p =>
    some { n with
      leaseExpiresAt := p.now + cfg.leaseSeconds
      leaseDeadline := a.mono + cfg.leaseSeconds
      quorum := true
      leaderId := some v
      run := .renewed }
  | .persistBeat, .renewed => some { n.persist none with run := .waiting }
  | .takeLead, .won _ => some { n.setRole .leader true (some v) with run := .led }
  | .persistLead, .led =>
    if Config.jitterOk cfg a.jitter then
      some { n.persist (some (some v)) with
        nextElection := a.mono + a.jitter, run := .waiting }
    else none
  | _, _ => none

lemma runStep_handlers {cfg : Config} {v : Voter} {n n' : Node} {a : Act}
    (h : runStep cfg v n a = some n') : n'.handlers = n.handlers := by
  revert h
  fun_cases runStep cfg v n a <;> intro h <;> cases h <;> rfl

/-- The watchdog of a node. -/
def watchStep (n : Node) (a : Act) : Option Node :=
  match a.op, n.watchdog with
  | .watchCheck, .watching =>
    if n.role = .leader ∧ 0 < n.leaseDeadline ∧ n.leaseDeadline ≤ a.mono then
      some { n with watchdog := .expired }
    else none
  | .watchClear, .expired => some { n with leaseExpiresAt := 0, watchdog := .cleared }
  | .watchFence, .cleared =>
    some { n.setRole .follower false none with watchdog := .fenced }
  | .watchPersist, .fenced => some { n.persist (some none) with watchdog := .watching }
  | _, _ => none

lemma watchStep_run {n n' : Node} {a : Act} (h : watchStep n a = some n') :
    n'.run = n.run ∧ n'.handlers = n.handlers := by
  revert h
  fun_cases watchStep n a <;> intro h <;> cases h <;> exact ⟨rfl, rfl⟩

/-- What the first statements of a handler do: refuse, or pass the guard and stay to be
continued. -/
def firstStage (n : Node) (now : ℚ) (x : Request) : Option Stage :=
  match x.body with
  | .heartbeat term _ lease =>
    if n.acceptsHeartbeat now term lease then some (.heartbeatChecked now) else none
  | .vote term candidate =>
    if n.grantsVote now term candidate then some .voteChecked else none

/-- The next statements of a handler: the node afterwards, and the stage it has reached, or
`none` when it answers. -/
def serve (n : Node) (mono : ℚ) (h : Handler) : Option (Node × Option Stage) :=
  match h.stage, h.request.body with
  | .heartbeatChecked now, .heartbeat term _ _ =>
    some ({ n with term := term }, some (.heartbeatTerm now))
  | .heartbeatTerm now, .heartbeat _ _ lease =>
    let expires := min lease (now + cfg.leaseSeconds * (3 / 2))
    some ({ n with leaseExpiresAt := expires, leaseDeadline := mono + max 0 (expires - now) },
      some .heartbeatLease)
  | .heartbeatLease, .heartbeat _ leader _ =>
    some (n.setRole .follower true (some leader), some .heartbeatRole)
  | .heartbeatRole, .heartbeat _ _ _ => some (n.persist (some none), none)
  | .voteChecked, .vote term candidate =>
    some ({ n with row := ⟨term, some candidate, none, 0⟩ }, some .voteStored)
  | .voteStored, .vote term _ => some ({ n with term := max n.term term }, none)
  | _, _ => none

lemma serve_run {cfg : Config} {n n' : Node} {mono : ℚ} {hd : Handler} {s : Option Stage}
    (h : serve cfg n mono hd = some (n', s)) :
    n'.run = n.run ∧ n'.handlers = n.handlers := by
  revert h
  fun_cases serve cfg n mono hd <;> intro h <;> cases h <;> exact ⟨rfl, rfl⟩

/-- One step of the group. -/
def step (w : World) (a : Act) : Option World :=
  let v := a.node
  let n := w.nodes v
  match a.op with
  | .restart => some (w.setNode v n.restart)
  | .send =>
    match n.run with
    | .posting p =>
      match p.todo, p.asking with
      | dst :: _, false =>
        some { w.setNode v { n with run := .posting { p with asking := true } } with
          flying := ⟨v, dst, p.round, p.body⟩ :: w.flying }
      | _, _ => none
    | _ => none
  | .collect =>
    match n.run with
    | .posting p =>
      match p.todo, p.asking with
      | dst :: rest, true =>
        let x : Request := ⟨v, dst, p.round, p.body⟩
        if (x, true) ∈ w.answers then
          some (w.setNode v { n with
            run := .posting { p with todo := rest, asking := false, acked := dst :: p.acked } })
        else none
      | _, _ => none
    | _ => none
  | .receive x =>
    if x ∈ w.flying ∧ x.dst = v then
      let w' := { w with flying := w.flying.erase x }
      match firstStage n a.now x with
      | some stage => some (w'.setNode v { n with handlers := ⟨x, stage⟩ :: n.handlers })
      | none => some { w' with answers := (x, false) :: w.answers }
    else none
  | .advance h =>
    if h ∈ n.handlers then
      match serve cfg n a.mono h with
      | some (n', some stage) =>
        some (w.setNode v { n' with handlers := ⟨h.request, stage⟩ :: n.handlers.erase h })
      | some (n', none) =>
        some { w.setNode v { n' with handlers := n.handlers.erase h } with
          answers := (h.request, true) :: w.answers }
      | none => none
    else none
  | .watchCheck | .watchClear | .watchFence | .watchPersist =>
    (watchStep n a).map fun n' => w.setNode v n'
  | _ => (runStep cfg v n a).map fun n' => w.setNode v n'

/-! ### What one step can do -/

/-- The steps of the group, by the thread that moves. -/
inductive Turn (w : World) (a : Act) : World → Prop
  | restart (hop : a.op = .restart) : Turn w a (w.setNode a.node (w.nodes a.node).restart)
  | send {p : Post} {dst : Voter} {rest : List Voter} (hop : a.op = .send)
      (hp : (w.nodes a.node).run = .posting p) (ht : p.todo = dst :: rest) :
      Turn w a { w.setNode a.node { w.nodes a.node with run := .posting { p with asking := true } }
        with flying := ⟨a.node, dst, p.round, p.body⟩ :: w.flying }
  | collect {p : Post} {dst : Voter} {rest : List Voter} (hop : a.op = .collect)
      (hp : (w.nodes a.node).run = .posting p) (ht : p.todo = dst :: rest)
      (hx : ((⟨a.node, dst, p.round, p.body⟩ : Request), true) ∈ w.answers) :
      Turn w a (w.setNode a.node { w.nodes a.node with
        run := .posting { p with todo := rest, asking := false, acked := dst :: p.acked } })
  | refuse {x : Request} (hop : a.op = .receive x) (hdst : x.dst = a.node)
      (hx : firstStage (w.nodes a.node) a.now x = none) :
      Turn w a { w with flying := w.flying.erase x, answers := (x, false) :: w.answers }
  | receive {x : Request} {stage : Stage} (hop : a.op = .receive x) (hdst : x.dst = a.node)
      (hx : firstStage (w.nodes a.node) a.now x = some stage) :
      Turn w a ({ w with flying := w.flying.erase x }.setNode a.node
        { w.nodes a.node with handlers := ⟨x, stage⟩ :: (w.nodes a.node).handlers })
  | advance {hd : Handler} {n' : Node} {stage : Stage} (hop : a.op = .advance hd)
      (hd_mem : hd ∈ (w.nodes a.node).handlers)
      (hn : serve cfg (w.nodes a.node) a.mono hd = some (n', some stage)) :
      Turn w a (w.setNode a.node { n' with
        handlers := ⟨hd.request, stage⟩ :: (w.nodes a.node).handlers.erase hd })
  | answer {hd : Handler} {n' : Node} (hop : a.op = .advance hd)
      (hd_mem : hd ∈ (w.nodes a.node).handlers)
      (hn : serve cfg (w.nodes a.node) a.mono hd = some (n', none)) :
      Turn w a { w.setNode a.node { n' with handlers := (w.nodes a.node).handlers.erase hd }
        with answers := (hd.request, true) :: w.answers }
  | watch {n' : Node} (hn : watchStep (w.nodes a.node) a = some n') :
      Turn w a (w.setNode a.node n')
  | run {n' : Node} (hn : runStep cfg a.node (w.nodes a.node) a = some n') :
      Turn w a (w.setNode a.node n')

variable {cfg}

theorem turn_of_step {w w' : World} {a : Act} (h : step cfg w a = some w') : Turn cfg w a w' := by
  revert h
  fun_cases step cfg w a <;> intro h <;>
    simp only [Option.some.injEq, reduceCtorEq, Option.map_eq_some_iff] at h
  case case1 hop => exact h ▸ .restart hop
  case case2 hop p hp dst rest _ ht => exact h ▸ .send hop hp ht
  case case5 hop p hp dst rest _ ht _ hx => exact h ▸ .collect hop hp ht hx
  case case9 x hop hx _ stage hs => exact h ▸ .receive hop hx.2 hs
  case case10 x hop hx _ hs => exact h ▸ .refuse hop hx.2 hs
  case case12 hd hop hm n' stage hn => exact h ▸ .advance hop hm hn
  case case13 hd hop hm n' hn => exact h ▸ .answer hop hm hn
  case case20 => obtain ⟨n', hn, rfl⟩ := h; exact .run hn
  all_goals obtain ⟨n', hn, rfl⟩ := h; exact .watch hn

/-- Nodes other than the acting one are untouched. -/
lemma step_other {w w' : World} {a : Act} (hs : step cfg w a = some w') {v : Voter}
    (hv : v ≠ a.node) : w'.nodes v = w.nodes v := by
  cases turn_of_step hs
  case refuse => rfl
  all_goals exact World.setNode_ne _ _ hv

end OnAir.HaGroup
