import OnAir.HaElection

/-!
Who may broadcast: the lease of a leader against the leases of the voters behind it.

A leader counts its lease from the moment the acknowledgements are in, a voter counts from the
moment the heartbeat was sent, and a granted vote holds nobody back at all. What keeps two nodes
from broadcasting together is that a safe node has two of the three voters behind it, itself
being one; so the condition is on the steps by which a voter changes sides, and on those by
which a node becomes safe.
-/

namespace OnAir.HaLease

open HaNode HaGroup HaHistory HaElection Runs

/-- The clocks of the group agree and do not run backwards; `off` is where the monotonic clock
of each node started. -/
def Synced (off : Voter → ℚ) (h : Hist) (a : Act) : Prop :=
  h.clock ≤ a.now ∧ a.mono = a.now + off a.node

/-- A node that supports itself and is supported by another one. -/
def Held (backs : Voter → Option Voter) (v : Voter) : Prop :=
  backs v = some v ∧ ∃ u, u ≠ v ∧ backs u = some v

/-- A step that keeps a majority behind every node that may broadcast: a voter that turns to
another node leaves each safe node its own support and that of a third voter; a node extends
its lease as the leader, or takes the role, while it is held; and no leader takes over the lease
of another node before it has left the role. -/
def KeepsMajority (off : Voter → ℚ) (h : Hist) (a : Act) : Prop :=
  let n := h.world.nodes a.node
  (∀ c ∈ supportOf h.world a, ∀ v, v ≠ c → (h.world.nodes v).Safe (a.now + off v) →
    v ≠ a.node ∧ ∃ u, u ≠ v ∧ u ≠ a.node ∧ h.backs u = some v) ∧
  match a.op with
  | .renew => n.role = .leader → Held h.backs a.node
  | .takeLead => Held h.backs a.node
  | .advance hd =>
    match hd.stage with
    | .heartbeatTerm _ => n.role ≠ .leader
    | _ => True
  | _ => True

instance (backs : Voter → Option Voter) (v : Voter) : Decidable (Held backs v) := by
  unfold Held
  infer_instance

instance (off : Voter → ℚ) (h : Hist) (a : Act) : Decidable (Synced off h a) := by
  unfold Synced
  infer_instance

instance (off : Voter → ℚ) (h : Hist) (a : Act) : Decidable (KeepsMajority off h a) := by
  unfold KeepsMajority
  generalize a.op = op
  rcases op with _ | _
  case advance hd =>
    dsimp only
    generalize hd.stage = stage
    rcases stage with _ | _
    all_goals infer_instance
  all_goals infer_instance

variable {cfg : Config} {off : Voter → ℚ}

/-! ### How a node becomes safe -/

section Threads

variable {v : Voter} {n n' : Node} {a : Act} {t : ℚ}

lemma runStep_safe (ho : Ordered n) (h : runStep cfg v n a = some n') (hs : n'.Safe t) :
    n.Safe t ∨ (a.op = .renew ∧ n.role = .leader) ∨ a.op = .takeLead := by
  revert h hs
  unfold Ordered at ho
  fun_cases runStep cfg v n a <;> intro h <;> cases h <;>
    simp_all [Node.Safe, Campaigning, Node.setRole, Node.persist, Node.loadPersistent]

lemma watchStep_safe (h : watchStep n a = some n') (hs : n'.Safe t) : n.Safe t := by
  revert h hs
  fun_cases watchStep n a <;> intro h <;> cases h <;>
    simp_all [Node.Safe, Node.setRole, Node.persist]

lemma serve_safe {hd : Handler} {s : Option Stage} {mono : ℚ}
    (h : serve cfg n mono hd = some (n', s)) (hs : n'.Safe t) :
    n.Safe t ∨ (∃ now, hd.stage = .heartbeatTerm now) ∧ n.role = .leader := by
  revert h hs
  fun_cases serve cfg n mono hd <;> intro h <;> cases h <;>
    simp_all [Node.Safe, Node.setRole, Node.persist]

end Threads

variable {h h' : Hist} {w w' : World} {a : Act}

lemma ordered_step (ho : ∀ v, Ordered (w.nodes v)) (hs : step cfg w a = some w') (v : Voter) :
    Ordered (w'.nodes v) := by
  by_cases hva : v = a.node
  swap
  · rw [step_other hs hva]; exact ho v
  subst hva
  have hn := ho a.node
  cases turn_of_step hs with
  | restart _ => rw [World.setNode_self]; exact fun _ => rfl
  | send _ hp _ | collect _ hp _ _ =>
    simp only [World.setNode_self]
    exact fun hcamp => hn (by rw [hp]; exact hcamp)
  | refuse _ _ _ => exact hn
  | receive _ _ _ =>
    rw [World.setNode_self]; exact hn
  | advance _ _ hs' | answer _ _ hs' =>
    rw [World.setNode_self]
    exact ordered_congr hn (serve_run hs').1 fun hl => serve_leader hs' hl
  | watch hs' =>
    rw [World.setNode_self]
    exact ordered_congr hn (watchStep_run hs').1 fun hl => (watchStep_leader hs' hl).2
  | run hs' => rw [World.setNode_self]; exact runStep_ordered hn hs'

/-- A node that is safe after a step was so before, unless it extended its lease or took the
role, or a leader recorded the lease of another one. -/
lemma step_safe (ho : ∀ v, Ordered (w.nodes v)) (hs : step cfg w a = some w') {v : Voter} {t : ℚ}
    (hsafe : (w'.nodes v).Safe t) : (w.nodes v).Safe t ∨ v = a.node ∧
      ((a.op = .renew ∧ (w.nodes v).role = .leader) ∨ a.op = .takeLead ∨
        ∃ hd now, a.op = .advance hd ∧ hd.stage = .heartbeatTerm now ∧
          (w.nodes v).role = .leader) := by
  by_cases hva : v = a.node
  swap
  · rw [step_other hs hva] at hsafe
    exact .inl hsafe
  subst hva
  cases turn_of_step hs with
  | restart _ => simp at hsafe
  | send _ _ _ | collect _ _ _ _ | receive _ _ _ =>
    rw [World.setNode_self] at hsafe
    exact .inl hsafe
  | refuse _ _ _ => exact .inl hsafe
  | @advance hd _ _ hop _ hs' =>
    rw [World.setNode_self] at hsafe
    rcases serve_safe hs' hsafe with h | ⟨⟨now, hst⟩, hl⟩
    · exact .inl h
    · exact .inr ⟨rfl, .inr (.inr ⟨hd, now, hop, hst, hl⟩)⟩
  | @answer hd _ hop _ hs' =>
    rw [World.setNode_self] at hsafe
    rcases serve_safe hs' hsafe with h | ⟨⟨now, hst⟩, hl⟩
    · exact .inl h
    · exact .inr ⟨rfl, .inr (.inr ⟨hd, now, hop, hst, hl⟩)⟩
  | watch hs' =>
    rw [World.setNode_self] at hsafe
    exact .inl (watchStep_safe hs' hsafe)
  | run hs' =>
    rw [World.setNode_self] at hsafe
    rcases runStep_safe (ho a.node) hs' hsafe with h | h | h
    · exact .inl h
    · exact .inr ⟨rfl, .inl h⟩
    · exact .inr ⟨rfl, .inr (.inl h)⟩

/-! ### A majority behind every safe node -/

structure Backed (off : Voter → ℚ) (h : Hist) : Prop where
  ordered : ∀ v, Ordered (h.world.nodes v)
  held : ∀ v, (h.world.nodes v).Safe (h.clock + off v) → Held h.backs v

lemma backed_init : Backed off Hist.init where
  ordered _ _ := rfl
  held v hs := by simp [Hist.init, HaGroup.init, fresh, Node.Safe] at hs

/-- A voter that turns to `c` leaves the nodes held that were held without it. -/
lemma held_update {backs : Voter → Option Voter} {u c v : Voter} (hv : Held backs v)
    (hk : v ≠ c → v ≠ u ∧ ∃ u', u' ≠ v ∧ u' ≠ u ∧ backs u' = some v) :
    Held (Function.update backs u (some c)) v := by
  by_cases hvc : v = c
  · subst hvc
    obtain ⟨hself, u', hu', hb⟩ := hv
    refine ⟨?_, u', hu', ?_⟩
    · by_cases h : v = u <;> simp [h, ← hself]
    · by_cases h : u' = u <;> simp [h, ← hb]
  · obtain ⟨hvu, u', hu', hne, hb⟩ := hk hvc
    exact ⟨by simpa [hvu] using hv.1, u', hu', by simpa [hne] using hb⟩

theorem backed_step (hb : Backed off h) (hsync : Synced off h a) (hk : KeepsMajority off h a)
    (hs : record cfg h a = some h') : Backed off h' := by
  obtain ⟨w', hstep, rfl⟩ := record_eq_some.mp hs
  refine ⟨ordered_step hb.ordered hstep, fun v hsafe => ?_⟩
  obtain ⟨hturn, hop⟩ := hk
  dsimp only at hsafe ⊢
  rcases step_safe hb.ordered hstep hsafe with hold | ⟨rfl, ⟨ho, hl⟩ | ho | ⟨hd, now, ho, hst, hl⟩⟩
  · -- the node was safe already: its backers stay
    have hle : h.clock + off v ≤ a.now + off v := by linarith [hsync.1]
    have hheld := hb.held v (hold.mono hle)
    cases hc : supportOf h.world a with
    | none => exact hheld
    | some c => exact held_update hheld fun hvc => hturn c hc v hvc hold
  · simpa [supportOf, voteOf, ho] using (by simpa [ho] using hop : _ → Held h.backs a.node) hl
  · simpa [supportOf, voteOf, ho] using (by simpa [ho] using hop : Held h.backs a.node)
  · simp [ho, hst, hl] at hop

lemma Held.unique {backs : Voter → Option Voter} {v w : Voter} (hv : Held backs v)
    (hw : Held backs w) : v = w := by
  obtain ⟨hv', u, hu, hbu⟩ := hv
  obtain ⟨hw', u', hu', hbu'⟩ := hw
  by_contra hne
  have huw : u ≠ w := by rintro rfl; simp_all
  have huv : u' ≠ v := by rintro rfl; simp_all
  obtain rfl := third_voter v w u u' hne hu huw huv hu'
  simp_all

/-- **One broadcaster.** In a run on synchronised clocks whose steps keep a majority behind
every safe node, at most one node is safe to broadcast at any instant. -/
theorem one_broadcaster (cfg : Config) (off : Voter → ℚ) (acts : List Act) (h : Hist)
    (hm : Meets (record cfg) (fun h a => Synced off h a ∧ KeepsMajority off h a) Hist.init acts)
    (he : exec (record cfg) Hist.init acts = some h) (t : ℚ) (ht : h.clock ≤ t) (v w : Voter)
    (hv : (h.world.nodes v).Safe (t + off v)) (hw : (h.world.nodes w).Safe (t + off w)) :
    v = w := by
  have hb : Backed off h :=
    inv_of_exec (fun _ _ _ hb hk hs => backed_step hb hk.1 hk.2 hs) backed_init hm he
  have hle : ∀ u, h.clock + off u ≤ t + off u := fun u => by linarith
  exact (hb.held v (hv.mono (hle v))).unique (hb.held w (hw.mono (hle w)))

/-- Node 0 is elected with both votes at time 7; node 1 would wake up at 7.2. -/
def electZero : List Act :=
  [⟨0, 0, 0, 13 / 2, .start⟩, ⟨1, 1 / 5, 1 / 5, 69 / 10, .start⟩] ++
  moves 0 7 [.elect, .persistSelf, .postVote] ++
  exchange 7 ⟨0, 1, 0, .vote 1 0⟩ [.voteChecked, .voteStored] ++
  exchange 7 ⟨0, 2, 0, .vote 1 0⟩ [.voteChecked, .voteStored] ++
  moves 0 7 [.count, .takeLead, .persistLead]

/-- Before the first heartbeat node 1 wakes up, and the witness votes again: a granted vote
holds it back from the same term only. -/
def electOne : List Act :=
  moves 1 (36 / 5) [.elect, .persistSelf, .postVote, .send] ++
  moves 0 (36 / 5) [.receive ⟨1, 0, 0, .vote 2 1⟩] ++
  moves 1 (36 / 5) [.giveUp] ++
  exchange (36 / 5) ⟨1, 2, 0, .vote 2 1⟩ [.voteChecked, .voteStored] ++
  moves 1 (36 / 5) [.count, .takeLead]

theorem one_broadcaster_elected : ∃ h, exec (record pair) Hist.init electZero = some h ∧
    (h.world.nodes 0).Safe 7 ∧ ∀ w, (h.world.nodes w).Safe 7 → w = 0 := by
  obtain ⟨h, he, ht, hs⟩ : ∃ h ∈ exec (record pair) Hist.init electZero,
      h.clock ≤ 7 ∧ (h.world.nodes 0).Safe 7 := by
    decide +kernel
  refine ⟨h, he, hs, fun w hw => ?_⟩
  exact one_broadcaster pair (fun _ => 0) electZero h (by decide +kernel) he 7 ht w 0
    (by simpa using hw) (by simpa using hs)

/-- Both nodes may broadcast at time 7.2, with no message lost or late. -/
theorem two_broadcasters : ¬ ∀ (cfg : Config), cfg.Paired → ∀ (off : Voter → ℚ)
    (acts : List Act) (h : Hist), Meets (record cfg) (Synced off) Hist.init acts →
      exec (record cfg) Hist.init acts = some h → ∀ t, h.clock ≤ t → ∀ v w,
        (h.world.nodes v).Safe (t + off v) → (h.world.nodes w).Safe (t + off w) → v = w := by
  intro hall
  obtain ⟨h, he, ht, h0, h1⟩ : ∃ h ∈ exec (record pair) Hist.init (electZero ++ electOne),
      h.clock ≤ 36 / 5 ∧ (h.world.nodes 0).Safe (36 / 5 + 0) ∧
        (h.world.nodes 1).Safe (36 / 5 + 0) := by
    decide +kernel
  exact absurd (hall pair paired_pair (fun _ => 0) _ h (by decide +kernel) he _ ht 0 1 h0 h1)
    (by decide)

end OnAir.HaLease
