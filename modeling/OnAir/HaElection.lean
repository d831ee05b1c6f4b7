import OnAir.HaHistory

/-!
Elections: who votes for whom, and who leads which term.

A node asks for the votes of a term, and two of three votes make it the leader of it. What
makes two leaders of one term impossible is that nobody votes twice in a term. The stored vote
is meant to see to that, but a heartbeat and the watchdog clear it within its term, a candidate
may store a lower term over it, and two requests may pass the check before either commits.
-/

namespace OnAir.HaElection

open HaNode HaGroup HaHistory Runs

/-- A step that keeps to one vote a term and to the term it was elected in: a voter that has
voted in a term votes for nobody else in it; a candidate takes the role in the term it asked
votes for and voted for itself in; and the term of a node in the role of leader stays. -/
def OneVote (h : Hist) (a : Act) : Prop :=
  let v := a.node
  let n := h.world.nodes v
  match a.op with
  | .persistSelf => ∀ c, (v, n.term, c) ∈ h.votes → c = v
  | .takeLead =>
    match n.run with
    | .won p =>
      match p.body with
      | .vote t _ => n.term = t ∧ (v, t, v) ∈ h.votes
      | .heartbeat _ _ _ => True
    | _ => True
  | .advance hd =>
    match hd.stage, hd.request.body with
    | .voteChecked, .vote t c => ∀ c', (v, t, c') ∈ h.votes → c' = c
    | .voteStored, .vote t _ => n.role = .leader → t ≤ n.term
    | .heartbeatChecked _, .heartbeat t _ _ => n.role = .leader → t = n.term
    | _, _ => True
  | _ => True

instance (h : Hist) (a : Act) : Decidable (OneVote h a) := by
  unfold OneVote
  dsimp only
  repeat' split
  all_goals infer_instance

variable {cfg : Config}

/-! ### What the threads of a node can do -/

/-- The election loop is outside a leadership: it has not begun, or it is campaigning. -/
def Campaigning : RunPhase → Prop
  | .off | .opened _ | .selfVoted _ | .won _ => True
  | .posting p => ∃ t c, p.body = .vote t c
  | _ => False

/-- The round a phase of the election loop is about. -/
def roundOf : RunPhase → Option Post
  | .posting p | .won p => some p
  | _ => none

/-- A node that campaigns is a follower. -/
def Ordered (n : Node) : Prop := Campaigning n.run → n.role = .follower

section Threads

variable {v : Voter} {n n' : Node} {a : Act} {p : Post}

/-- A step that leaves the election loop alone and makes no leader. -/
lemma ordered_congr (ho : Ordered n) (hr : n'.run = n.run)
    (hl : n'.role = .leader → n.role = .leader) : Ordered n' := by
  intro hcamp
  have hf := ho (hr ▸ hcamp)
  cases h : n'.role with
  | follower => rfl
  | leader => simp [hl h] at hf

lemma runStep_ordered (ho : Ordered n) (h : runStep cfg v n a = some n') : Ordered n' := by
  revert h
  unfold Ordered at *
  fun_cases runStep cfg v n a <;> intro h <;> cases h <;>
    simp_all [Campaigning, Node.setRole, Node.persist, Node.loadPersistent]
  · -- an election is opened by a node that is not the leader
    cases hr : n.role <;> simp_all
  · exact ho

/-- Only `takeLead` makes a leader, and a leader keeps its term. -/
lemma runStep_leader (ho : Ordered n) (h : runStep cfg v n a = some n') (hl : n'.role = .leader) :
    n'.term = n.term ∧
      (n.role = .leader ∨ a.op = .takeLead ∧ ∃ p, n.run = .won p) := by
  revert h hl
  unfold Ordered at ho
  fun_cases runStep cfg v n a <;> intro h <;> cases h <;>
    simp_all [Campaigning, Node.setRole, Node.persist, Node.loadPersistent]

/-- A round begins without acknowledgements and in the node's own term, and what the election
loop does by itself adds none. -/
lemma runStep_round (h : runStep cfg v n a = some n') (hp : roundOf n'.run = some p) :
    (p.acked = [] ∧ p.todo = cfg.peers v ∧ ∀ t c, p.body = .vote t c → c = v) ∨
      ∃ q, roundOf n.run = some q ∧ p.body = q.body ∧ p.acked = q.acked ∧ p.todo ⊆ q.todo := by
  revert h hp
  fun_cases runStep cfg v n a <;> intro h <;> cases h <;>
    simp_all [roundOf] <;> rintro rfl <;> simp_all

/-- An election is won with a vote. -/
lemma runStep_won (h : runStep cfg v n a = some n') (hp : n'.run = .won p) :
    p.acked ≠ [] ∧ ∃ t c, p.body = .vote t c := by
  revert h hp
  fun_cases runStep cfg v n a <;> intro h <;> cases h <;> simp_all
  rintro rfl
  simp_all [← List.length_pos_iff]
  omega

lemma watchStep_leader (h : watchStep n a = some n') (hl : n'.role = .leader) :
    n'.term = n.term ∧ n.role = .leader := by
  revert h hl
  fun_cases watchStep n a <;> intro h <;> cases h <;> simp_all [Node.setRole, Node.persist]

variable {mono : ℚ} {hd : Handler} {s : Option Stage}

lemma serve_leader (h : serve cfg n mono hd = some (n', s)) (hl : n'.role = .leader) :
    n.role = .leader := by
  revert h hl
  fun_cases serve cfg n mono hd <;> intro h <;> cases h <;> simp_all [Node.setRole, Node.persist]

end Threads

/-! ### The invariant of a node -/

/-- What holds of a node once the votes given are `votes`: its requests were addressed to it,
a granted vote was given, and the acknowledgements of an election are votes for it. -/
structure NodeOk (votes : List (Voter × ℕ × Voter)) (v : Voter) (n : Node) : Prop where
  ordered : Ordered n
  addressed : ∀ hd ∈ n.handlers, hd.request.dst = v
  stored : ∀ hd ∈ n.handlers, hd.stage = .voteStored → ∀ t c, hd.request.body = .vote t c →
    (v, t, c) ∈ votes
  round : ∀ p, roundOf n.run = some p → v ∉ p.acked ∧ v ∉ p.todo ∧
    ∀ t c, p.body = .vote t c → c = v ∧ ∀ u ∈ p.acked, (u, t, v) ∈ votes
  won : ∀ p, n.run = .won p → p.acked ≠ [] ∧ ∃ t c, p.body = .vote t c

section NodeOk

variable {votes votes' : List (Voter × ℕ × Voter)} {v : Voter} {n n' : Node} {a : Act}

lemma NodeOk.mono (hn : NodeOk votes v n) (h : votes ⊆ votes') : NodeOk votes' v n where
  ordered := hn.ordered
  addressed := hn.addressed
  stored hd hm hs t c hb := h (hn.stored hd hm hs t c hb)
  round p hp := by
    obtain ⟨h1, h2, h3⟩ := hn.round p hp
    exact ⟨h1, h2, fun t c hb => ⟨(h3 t c hb).1, fun u hu => h ((h3 t c hb).2 u hu)⟩⟩
  won := hn.won

lemma nodeOk_fresh (v : Voter) : NodeOk [] v fresh where
  ordered _ := rfl
  addressed := by simp [fresh]
  stored := by simp [fresh]
  round := by simp [fresh, roundOf]
  won := by simp [fresh]

lemma nodeOk_restart (n : Node) (v : Voter) : NodeOk votes v n.restart where
  ordered _ := rfl
  addressed := by simp [Node.restart, fresh]
  stored := by simp [Node.restart, fresh]
  round := by simp [Node.restart, fresh, roundOf]
  won := by simp [Node.restart, fresh]

lemma nodeOk_run (hc : cfg.Paired) (hn : NodeOk votes v n) (h : runStep cfg v n a = some n') :
    NodeOk votes v n' where
  ordered := runStep_ordered hn.ordered h
  addressed := by rw [runStep_handlers h]; exact hn.addressed
  stored := by rw [runStep_handlers h]; exact hn.stored
  round p hp := by
    rcases runStep_round h hp with ⟨hack, htodo, hb⟩ | ⟨q, hq, hb, hack, htodo⟩
    · rw [hack, htodo]
      exact ⟨by simp, hc.not_self v, fun t c hbody => ⟨hb t c hbody, by simp⟩⟩
    · obtain ⟨h1, h2, h3⟩ := hn.round q hq
      rw [hb, hack]
      exact ⟨h1, fun hm => h2 (htodo hm), h3⟩
  won p hp := runStep_won h hp

/-- A step that leaves the election loop and the handlers alone. -/
lemma nodeOk_congr (hn : NodeOk votes v n) (hr : n'.run = n.run) (hh : n'.handlers = n.handlers)
    (hl : n'.role = .leader → n.role = .leader) : NodeOk votes v n' where
  ordered := ordered_congr hn.ordered hr hl
  addressed := by rw [hh]; exact hn.addressed
  stored := by rw [hh]; exact hn.stored
  round := by rw [hr]; exact hn.round
  won := by rw [hr]; exact hn.won

/-- A handler that is taken up, put back at its next stage or finished. -/
lemma nodeOk_handlers (hn : NodeOk votes v n) (hr : n'.run = n.run)
    (hl : n'.role = .leader → n.role = .leader)
    (hh : ∀ hd ∈ n'.handlers, hd ∈ n.handlers ∨ hd.request.dst = v ∧
      (hd.stage = .voteStored → ∀ t c, hd.request.body = .vote t c → (v, t, c) ∈ votes)) :
    NodeOk votes v n' where
  ordered := ordered_congr hn.ordered hr hl
  addressed hd hm := by
    rcases hh hd hm with h | h
    · exact hn.addressed hd h
    · exact h.1
  stored hd hm := by
    rcases hh hd hm with h | h
    · exact hn.stored hd h
    · exact h.2
  round := by rw [hr]; exact hn.round
  won := by rw [hr]; exact hn.won

end NodeOk

/-! ### The invariant of the group -/

structure Voted (h : Hist) : Prop where
  nodes : ∀ v, NodeOk h.votes v (h.world.nodes v)
  once : ∀ v t c c', (v, t, c) ∈ h.votes → (v, t, c') ∈ h.votes → c = c'
  answered : ∀ x t c, (x, true) ∈ h.world.answers → x.body = .vote t c → (x.dst, t, c) ∈ h.votes
  listed : ∀ v, (h.world.nodes v).role = .leader → (v, (h.world.nodes v).term) ∈ h.led
  leads : ∀ v t, (v, t) ∈ h.led → (v, t, v) ∈ h.votes ∧ ∃ u, u ≠ v ∧ (u, t, v) ∈ h.votes

variable {h h' : Hist} {w w' : World} {a : Act}

lemma voted_init : Voted Hist.init where
  nodes v := nodeOk_fresh v
  once := by simp [Hist.init]
  answered := by simp [Hist.init, HaGroup.init]
  listed := by simp [Hist.init, HaGroup.init, fresh]
  leads := by simp [Hist.init]

/-- A vote is the only one its voter gives in its term. -/
lemma voteOf_once (hk : OneVote h a) {v : Voter} {t : ℕ} {c c' : Voter}
    (hv : voteOf h.world a = some (v, t, c)) (hm : (v, t, c') ∈ h.votes) : c' = c := by
  unfold voteOf at hv
  unfold OneVote at hk
  split at hv
  · obtain ⟨rfl, rfl, rfl⟩ : a.node = v ∧ _ = t ∧ a.node = c := by simpa using hv
    simp_all only
    exact hk c' hm
  · split at hv
    · obtain ⟨rfl, rfl, rfl⟩ : a.node = v ∧ _ = t ∧ _ = c := by simpa using hv
      simp_all only
      exact hk c' hm
    · simp at hv
  · simp at hv

/-- A handler leaves the term of a leader alone. -/
lemma serve_term {n n' : Node} {hd : Handler} {s : Option Stage} (hop : a.op = .advance hd)
    (hk : OneVote h a) (hn : h.world.nodes a.node = n)
    (hs : serve cfg n a.mono hd = some (n', s)) (hl : n'.role = .leader) : n'.term = n.term := by
  have hl' := serve_leader hs hl
  unfold OneVote at hk
  simp only [hop, hn] at hk
  revert hs
  fun_cases serve cfg n a.mono hd <;> intro hs <;> cases hs <;>
    simp_all [Node.setRole, Node.persist]

/-- Only `takeLead` makes a leader, and a leader keeps its term. -/
lemma step_leader (hv : Voted h) (hk : OneVote h a) (hs : step cfg h.world a = some w') {v : Voter}
    (hl : (w'.nodes v).role = .leader) :
    (w'.nodes v).term = (h.world.nodes v).term ∧ ((h.world.nodes v).role = .leader ∨
      v = a.node ∧ a.op = .takeLead ∧ ∃ p, (h.world.nodes v).run = .won p) := by
  by_cases hva : v = a.node
  swap
  · rw [step_other hs hva] at hl ⊢
    exact ⟨rfl, .inl hl⟩
  subst hva
  cases turn_of_step hs with
  | restart _ => simp [Node.restart, fresh] at hl
  | send _ _ _ => exact ⟨by simp, .inl (by simpa using hl)⟩
  | collect _ _ _ _ => exact ⟨by simp, .inl (by simpa using hl)⟩
  | refuse _ _ _ => exact ⟨rfl, .inl hl⟩
  | receive _ _ _ => exact ⟨by simp, .inl (by simpa using hl)⟩
  | advance hop _ hn =>
    simp only [World.setNode_self] at hl ⊢
    exact ⟨serve_term hop hk rfl hn hl, .inl (serve_leader hn hl)⟩
  | answer hop _ hn =>
    simp only [World.setNode_self] at hl ⊢
    exact ⟨serve_term hop hk rfl hn hl, .inl (serve_leader hn hl)⟩
  | watch hn =>
    simp only [World.setNode_self] at hl ⊢
    exact ⟨(watchStep_leader hn hl).1, .inl (watchStep_leader hn hl).2⟩
  | run hn =>
    rw [World.setNode_self] at hl ⊢
    obtain ⟨ht, hr | ⟨hop, hw⟩⟩ := runStep_leader (hv.nodes a.node).ordered hn hl
    · exact ⟨ht, .inl hr⟩
    · exact ⟨ht, .inr ⟨rfl, hop, hw⟩⟩

/-- The stored vote of a handler that has just committed it. -/
lemma serve_stored {n n' : Node} {hd : Handler} (hop : a.op = .advance hd)
    (hs : serve cfg n a.mono hd = some (n', some .voteStored)) {t : ℕ} {c : Voter}
    (hb : hd.request.body = .vote t c) : voteOf w a = some (a.node, t, c) := by
  revert hs
  fun_cases serve cfg n a.mono hd <;> intro hs <;> cases hs
  simp_all [voteOf]

/-- An answered request is a vote that was given. -/
lemma serve_answered {n n' : Node} {hd : Handler}
    (hs : serve cfg n a.mono hd = some (n', none)) {t : ℕ} {c : Voter}
    (hb : hd.request.body = .vote t c) : hd.stage = .voteStored := by
  revert hs
  fun_cases serve cfg n a.mono hd <;> intro hs <;> cases hs <;> simp_all

/-- No request comes in at the stage of a stored vote. -/
lemma firstStage_ne {n : Node} {now : ℚ} {x : Request} {s : Stage}
    (hs : firstStage n now x = some s) : s ≠ .voteStored := by
  revert hs
  fun_cases firstStage n now x <;> intro hs <;> cases hs <;> simp

lemma nodeOk_step (hc : cfg.Paired) (hv : Voted h) (hs : record cfg h a = some h') (v : Voter) :
    NodeOk h'.votes v (h'.world.nodes v) := by
  have hsub : h.votes ⊆ h'.votes := fun _ hr => votes_mono hs hr
  have hold : NodeOk h'.votes v (h.world.nodes v) := (hv.nodes v).mono hsub
  obtain ⟨w', hstep, rfl⟩ := record_eq_some.mp hs
  by_cases hva : v = a.node
  swap
  · simpa only [step_other hstep hva] using hold
  subst hva
  dsimp only at hold hsub ⊢
  cases turn_of_step hstep with
  | restart _ =>
    simp only [World.setNode_self]
    exact nodeOk_restart _ _
  | @send p dst rest _ hp ht =>
    simp only [World.setNode_self]
    have hr := hold.round p (by rw [hp]; rfl)
    exact ⟨fun hcamp => hold.ordered (by rw [hp]; exact hcamp), hold.addressed, hold.stored,
      by simpa [roundOf] using hr, by simp⟩
  | @collect p dst rest _ hp ht hx =>
    simp only [World.setNode_self]
    obtain ⟨h1, h2, h3⟩ := hold.round p (by rw [hp]; rfl)
    refine ⟨fun hcamp => hold.ordered (by rw [hp]; exact hcamp), hold.addressed, hold.stored,
      ?_, by simp⟩
    simp only [roundOf, Option.some.injEq, forall_eq']
    rw [ht] at h2
    refine ⟨?_, fun hm => h2 (List.mem_cons_of_mem _ hm), fun t c hb => ⟨(h3 t c hb).1, ?_⟩⟩
    · simpa [h1] using fun he : a.node = dst => h2 (he ▸ List.mem_cons_self)
    · -- the peer whose answer is collected has voted
      intro u hu
      rcases List.mem_cons.mp hu with rfl | hu
      · have := hv.answered _ t c hx hb
        exact hsub ((h3 t c hb).1 ▸ this)
      · exact (h3 t c hb).2 u hu
  | refuse _ _ _ => exact hold
  | receive _ hdst hx =>
    simp only [World.setNode_self]
    refine nodeOk_handlers hold rfl id fun hd hm => ?_
    rcases List.mem_cons.mp hm with rfl | hm
    · exact .inr ⟨hdst, fun he => absurd he (firstStage_ne hx)⟩
    · exact .inl hm
  | @advance hd n' stage hop hm hn =>
    simp only [World.setNode_self]
    refine nodeOk_handlers hold (serve_run hn).1 (fun hl => serve_leader hn hl)
      fun hd' hm' => ?_
    rcases List.mem_cons.mp hm' with rfl | hm'
    · refine .inr ⟨hold.addressed hd hm, ?_⟩
      rintro rfl t c hb
      simp [serve_stored hop hn hb]
    · exact .inl (List.mem_of_mem_erase hm')
  | answer _ hm hn =>
    simp only [World.setNode_self]
    exact nodeOk_handlers hold (serve_run hn).1 (fun hl => serve_leader hn hl)
      fun hd' hm' => .inl (List.mem_of_mem_erase hm')
  | watch hn =>
    simp only [World.setNode_self]
    exact nodeOk_congr hold (watchStep_run hn).1 (watchStep_run hn).2
      fun hl => (watchStep_leader hn hl).2
  | run hn =>
    simp only [World.setNode_self]
    exact nodeOk_run hc hold hn

theorem voted_step (hc : cfg.Paired) (hv : Voted h) (hk : OneVote h a)
    (hs : record cfg h a = some h') : Voted h' := by
  have hnodes := nodeOk_step hc hv hs
  have hsub : h.votes ⊆ h'.votes := fun _ hr => votes_mono hs hr
  obtain ⟨w', hstep, rfl⟩ := record_eq_some.mp hs
  have hlead : ∀ v, (w'.nodes v).role = .leader → (v, (w'.nodes v).term) ∈ leaders w' ++ h.led :=
    fun v hl => List.mem_append_left _ (mem_leaders.mpr ⟨hl, rfl⟩)
  refine ⟨hnodes, ?once, ?answered, hlead, ?leads⟩
  case once =>
    intro v t c c' hm hm'
    simp only [List.mem_append, Option.mem_toList] at hm hm'
    rcases hm with hm | hm <;> rcases hm' with hm' | hm'
    · rw [hm] at hm'
      simpa using hm'
    · exact (voteOf_once hk hm hm').symm
    · exact voteOf_once hk hm' hm
    · exact hv.once v t c c' hm hm'
  case answered =>
    intro x t c hx hb
    suffices (x, true) ∈ h.world.answers ∨ (x.dst, t, c) ∈ h.votes by
      rcases this with hx | hm
      · exact hsub (hv.answered x t c hx hb)
      · exact hsub hm
    cases turn_of_step hstep with
    | @answer hd n' hop hm hn =>
      rcases List.mem_cons.mp hx with he | hx
      · obtain rfl : x = hd.request := (Prod.mk.inj he).1
        have hok := hv.nodes a.node
        exact .inr (hok.addressed hd hm ▸ hok.stored hd hm (serve_answered hn hb) t c hb)
      · exact .inl hx
    | refuse _ _ _ =>
      rcases List.mem_cons.mp hx with he | hx
      · simp at he
      · exact .inl hx
    | restart _ | send _ _ _ | collect _ _ _ _ | receive _ _ _ | advance _ _ _ | watch _ | run _ =>
      exact .inl hx
  case leads =>
    intro v t hm
    rcases List.mem_append.mp hm with hm | hm
    swap
    · obtain ⟨h1, u, hu, h2⟩ := hv.leads v t hm
      exact ⟨hsub h1, u, hu, hsub h2⟩
    obtain ⟨hl, rfl⟩ := mem_leaders.mp hm
    obtain ⟨ht, hr | ⟨rfl, hop, p, hp⟩⟩ := step_leader hv hk hstep hl
    · obtain ⟨h1, u, hu, h2⟩ := hv.leads v _ (hv.listed v hr)
      exact ht ▸ ⟨hsub h1, u, hu, hsub h2⟩
    · -- the role is taken with the votes of the round
      obtain ⟨hack, t, c, hb⟩ := (hv.nodes a.node).won p hp
      obtain ⟨h1, -, h3⟩ := (hv.nodes a.node).round p (by rw [hp]; rfl)
      obtain ⟨hterm, hself⟩ : (h.world.nodes a.node).term = t ∧ (a.node, t, a.node) ∈ h.votes := by
        simpa [OneVote, hop, hp, hb] using hk
      obtain ⟨u, hu⟩ := List.exists_mem_of_ne_nil _ hack
      rw [ht, hterm]
      exact ⟨hsub hself, u, fun he => h1 (he ▸ hu), hsub ((h3 t c hb).2 u hu)⟩

lemma voted_run (hc : cfg.Paired) {acts : List Act}
    (hm : Meets (record cfg) OneVote Hist.init acts)
    (he : exec (record cfg) Hist.init acts = some h) : Voted h :=
  inv_of_exec (fun _ _ _ hv hk hs => voted_step hc hv hk hs) voted_init hm he

/-- Of three voters, the two that made one leader and the two that made another share one. -/
lemma third_voter : ∀ v w u u' : Voter, v ≠ w → u ≠ v → u ≠ w → u' ≠ v → u' ≠ w → u = u' := by
  decide

/-- Two nodes with a majority of the votes of a term are one. -/
lemma Voted.unique (hv : Voted h) {v w : Voter} {t : ℕ} (hl : (v, t) ∈ h.led)
    (hl' : (w, t) ∈ h.led) : v = w := by
  obtain ⟨h1, u, hu, h2⟩ := hv.leads v t hl
  obtain ⟨h1', u', hu', h2'⟩ := hv.leads w t hl'
  by_contra hne
  have huw : u ≠ w := by rintro rfl; exact hne (hv.once u t _ _ h2 h1')
  have huv : u' ≠ v := by rintro rfl; exact hne (hv.once u' t _ _ h1 h2')
  obtain rfl := third_voter v w u u' hne hu huw huv hu'
  exact hne (hv.once u t _ _ h2 h2')

/-- **Election safety.** In a run whose steps keep to one vote a term and to the term elected
in, no two nodes ever lead the same term. -/
theorem election_safety (cfg : Config) (hc : cfg.Paired) (acts : List Act) (h : Hist)
    (hm : Meets (record cfg) OneVote Hist.init acts)
    (he : exec (record cfg) Hist.init acts = some h) (v w : Voter) (t : ℕ)
    (hv : (v, t) ∈ h.led) (hw : (w, t) ∈ h.led) : v = w :=
  (voted_run hc hm he).unique hv hw

/-! ### Two leaders of one term -/

/-- Two broadcast nodes and a witness, with a lease of six seconds. -/
def pair : Config := ⟨6, ![[1, 2], [0, 2], [0, 1]], ![false, false, true]⟩

lemma paired_pair : pair.Paired where
  lease_pos := by norm_num [pair]
  not_self := by decide
  nodup := by decide

/-- Steps of one node at one time, on clocks that agree. -/
def moves (v : Voter) (t : ℚ) (ops : List Op) : List Act := ops.map fun op => ⟨v, t, t, 6, op⟩

/-- A request that is sent, handled through `stages` and accepted. -/
def exchange (t : ℚ) (x : Request) (stages : List Stage) : List Act :=
  moves x.src t [.send] ++ moves x.dst t (.receive x :: stages.map fun s => .advance ⟨x, s⟩) ++
    moves x.src t [.collect]

/-- Node 0 does not reach node 1, and leads term 1 with the vote of the witness. -/
def firstElection : List Act :=
  [⟨0, 0, 0, 6, .start⟩, ⟨1, 0, 0, 9, .start⟩] ++
  moves 0 7 [.elect, .persistSelf, .postVote, .giveUp] ++
  exchange 7 ⟨0, 2, 0, .vote 1 0⟩ [.voteChecked, .voteStored] ++
  moves 0 7 [.count, .takeLead, .persistLead]

/-- A heartbeat clears the vote of the witness, whose lease then runs out; node 1 never heard
of term 1 and opens it again. -/
def secondElection : List Act :=
  moves 0 8 [.beat, .giveUp] ++
  exchange 8 ⟨0, 2, 1, .heartbeat 1 0 14⟩
    [.heartbeatChecked 8, .heartbeatTerm 8, .heartbeatLease, .heartbeatRole] ++
  moves 0 8 [.count, .renew, .persistBeat] ++
  moves 0 15 [.watchCheck, .watchClear, .watchFence, .watchPersist] ++
  moves 1 15 [.elect, .persistSelf, .postVote, .giveUp] ++
  exchange 15 ⟨1, 2, 0, .vote 1 1⟩ [.voteChecked, .voteStored] ++
  moves 1 15 [.count, .takeLead]

theorem election_safety_first : ∃ h, exec (record pair) Hist.init firstElection = some h ∧
    (0, 1) ∈ h.led ∧ ∀ w, (w, 1) ∈ h.led → w = 0 := by
  obtain ⟨h, he, hl⟩ : ∃ h ∈ exec (record pair) Hist.init firstElection, (0, 1) ∈ h.led := by
    decide +kernel
  exact ⟨h, he, hl, fun w hw =>
    election_safety pair paired_pair firstElection h (by decide +kernel) he w 0 1 hw hl⟩

/-- Both nodes lead term 1, one after the other. -/
theorem two_leaders_of_a_term : ¬ ∀ (cfg : Config), cfg.Paired → ∀ (acts : List Act) (h : Hist),
    exec (record cfg) Hist.init acts = some h →
      ∀ v w t, (v, t) ∈ h.led → (w, t) ∈ h.led → v = w := by
  intro hall
  obtain ⟨h, he, h0, h1⟩ : ∃ h ∈ exec (record pair) Hist.init (firstElection ++ secondElection),
      (0, 1) ∈ h.led ∧ (1, 1) ∈ h.led := by
    decide +kernel
  exact absurd (hall pair paired_pair _ h he 0 1 1 h0 h1) (by decide)

end OnAir.HaElection
