import OnAir.HaElection
import OnAir.HaThreads

/-!
The term a node has stored.

Every write of `current_term` takes the term from memory, except that of a granted vote, which
takes it from the request. What keeps the column from going back is that memory is never behind
it: `start` loads it, and a vote raises memory to what it has stored. A node that only votes never
calls `start`, and a heartbeat is compared with memory alone.
-/

namespace OnAir.StoredTerm

open HaNode HaGroup HaElection HaThreads Runs

/-- Memory has caught up with every vote that was committed. -/
def Settled (n : Node) : Prop :=
  ∀ h ∈ n.handlers, h.stage = .voteStored →
    match h.request.body with
    | .vote t _ => t ≤ n.term
    | .heartbeat _ _ _ => True

/-- A heartbeat that is taken over, and a vote that is written, are not of a term below the stored
one; and nothing is stored between the commit of a vote and its record in memory. -/
def TakesUp (n : Node) (a : Act) : Prop :=
  match a.op with
  | .advance h =>
    match h.stage, h.request.body with
    | .heartbeatChecked _, .heartbeat t _ _ | .voteChecked, .vote t _ => n.row.currentTerm ≤ t
    | .heartbeatRole, .heartbeat _ _ _ => Settled n
    | _, _ => True
  | .persistSelf | .persistBeat | .persistLead | .watchPersist => Settled n
  | _ => True

/-- A thread or a handler of this process has set the term in memory. -/
def Loaded (n : Node) : Prop :=
  n.run ≠ .off ∨ n.watchdog ≠ .off ∨ ∃ h ∈ n.handlers,
    (∃ now, h.stage = .heartbeatTerm now) ∨ h.stage = .heartbeatLease ∨ h.stage = .heartbeatRole

/-- Memory is not behind the row, but for a vote whose handler is about to record it. -/
def Covered (n : Node) : Prop :=
  n.row.currentTerm ≤ n.term ∨ ∃ h ∈ n.handlers, ∃ t c,
    h.stage = .voteStored ∧ h.request.body = .vote t c ∧ n.row.currentTerm ≤ t

/-- The stored term does not go back. -/
def KeepsTerm (n n' : Node) : Prop := n.row.currentTerm ≤ n'.row.currentTerm

instance (n : Node) : Decidable (Settled n) := by
  unfold Settled
  have : ∀ h : Handler, Decidable (h.stage = .voteStored →
      match h.request.body with
      | .vote t _ => t ≤ n.term
      | .heartbeat _ _ _ => True) := fun h => by
    generalize h.request.body = body
    rcases body with _ | _
    all_goals infer_instance
  infer_instance

instance (n : Node) (a : Act) : Decidable (TakesUp n a) := by
  unfold TakesUp
  generalize a.op = op
  rcases op with _ | _
  case advance h =>
    dsimp only
    generalize h.stage = stage
    generalize h.request.body = body
    rcases stage with _ | _ <;> rcases body with _ | _
    all_goals infer_instance
  all_goals infer_instance

variable {cfg : Config} {v : Voter} {n n' : Node} {a : Act}

lemma Covered.le (hc : Covered n) (hs : Settled n) : n.row.currentTerm ≤ n.term := by
  rcases hc with h | ⟨h, hmem, t, c, hst, hb, ht⟩
  · exact h
  · have := hs h hmem hst
    rw [hb] at this
    exact ht.trans this

/-! ### What the threads do to the term -/

/-- The election loop loads the term when it starts; afterwards it raises it, or stores it. -/
lemma runStep_term (h : runStep cfg v n a = some n') :
    (n'.row = n.row ∧ n'.term = n.row.currentTerm) ∨ n.run ≠ .off ∧
      ((n'.row = n.row ∧ n.term ≤ n'.term) ∨
        TakesUp n a = Settled n ∧ n'.term = n.term ∧ n'.row.currentTerm = n.term) := by
  revert h
  fun_cases runStep cfg v n a <;> intro h <;> cases h <;>
    simp_all [Node.persist, Node.setRole, Node.loadPersistent, TakesUp]

lemma watchStep_term (h : watchStep n a = some n') : n.watchdog ≠ .off ∧ n'.term = n.term ∧
    (n'.row = n.row ∨ TakesUp n a = Settled n ∧ n'.row.currentTerm = n.term) := by
  revert h
  fun_cases watchStep n a <;> intro h <;> cases h <;>
    simp_all [Node.persist, Node.setRole, TakesUp]

/-- What the next statements of a handler make of the stored term and of the one in memory. -/
inductive Serves (n : Node) (hd : Handler) : ℕ → ℕ → Option Stage → Prop
  | takes {now : ℚ} {t : ℕ} {l : Voter} {e : ℚ} (hst : hd.stage = .heartbeatChecked now)
      (hb : hd.request.body = .heartbeat t l e) :
      Serves n hd n.row.currentTerm t (some (.heartbeatTerm now))
  | passes {stage : Stage}
      (hst : (∃ now, hd.stage = .heartbeatTerm now) ∨ hd.stage = .heartbeatLease)
      (hnext : stage = .heartbeatLease ∨ stage = .heartbeatRole) :
      Serves n hd n.row.currentTerm n.term (some stage)
  | stores {t : ℕ} {l : Voter} {e : ℚ} (hst : hd.stage = .heartbeatRole)
      (hb : hd.request.body = .heartbeat t l e) : Serves n hd n.term n.term none
  | votes {t : ℕ} {c : Voter} (hst : hd.stage = .voteChecked)
      (hb : hd.request.body = .vote t c) : Serves n hd t n.term (some .voteStored)
  | records {t : ℕ} {c : Voter} (hst : hd.stage = .voteStored)
      (hb : hd.request.body = .vote t c) :
      Serves n hd n.row.currentTerm (max n.term t) none

theorem serves_of_serve {mono : ℚ} {hd : Handler} {o : Option Stage}
    (h : serve cfg n mono hd = some (n', o)) :
    Serves n hd n'.row.currentTerm n'.term o := by
  revert h
  fun_cases serve cfg n mono hd <;> intro h <;> cases h
  case case1 hb hst => exact .takes hst hb
  case case2 hst _ => exact .passes (.inl ⟨_, hst⟩) (.inl rfl)
  case case3 hb hst => exact .passes (.inr hst) (.inr rfl)
  case case4 hb hst => exact .stores hst hb
  case case5 hb hst => exact .votes hst hb
  case case6 hb hst => exact .records hst hb

lemma serve_watchdog {mono : ℚ} {hd : Handler} {o : Option Stage}
    (h : serve cfg n mono hd = some (n', o)) : n'.watchdog = n.watchdog := by
  revert h
  fun_cases serve cfg n mono hd <;> intro h <;> cases h <;> rfl

lemma firstStage_fresh {now : ℚ} {x : Request} {stage : Stage}
    (h : firstStage n now x = some stage) : ¬ ((∃ now, stage = .heartbeatTerm now) ∨
      stage = .heartbeatLease ∨ stage = .heartbeatRole) := by
  revert h
  fun_cases firstStage n now x <;> intro h <;> cases h <;> simp

/-! ### What a step keeps -/

lemma Covered.mono (hc : Covered n) (hrow : n'.row.currentTerm = n.row.currentTerm)
    (hterm : n.term ≤ n'.term)
    (hh : ∀ h ∈ n.handlers, h.stage = .voteStored → h ∈ n'.handlers) : Covered n' := by
  rcases hc with h | ⟨h, hmem, t, c, hst, hb, ht⟩
  · exact .inl (hrow ▸ h.trans hterm)
  · exact .inr ⟨h, hh h hmem hst, t, c, hst, hb, hrow ▸ ht⟩

/-- The node after a handler was served, which stays at the stage `o` or has answered. -/
def afterServe (n n' : Node) (hd : Handler) (o : Option Stage) : Node :=
  { n' with handlers := (o.map (Handler.mk hd.request)).toList ++ n.handlers.erase hd }

lemma mem_afterServe {hd h : Handler} {o : Option Stage} (hh : h ∈ n.handlers) (hne : h ≠ hd) :
    h ∈ (afterServe n n' hd o).handlers :=
  List.mem_append_right _ ((List.mem_erase_of_ne hne).mpr hh)

/-- A handler of a node whose memory covers its row. -/
lemma serve_covers {hd : Handler} {mono : ℚ} {o : Option Stage} (hi : Loaded n → Covered n)
    (hop : a.op = .advance hd) (hmem : hd ∈ n.handlers) (hk : TakesUp n a)
    (hn : serve cfg n mono hd = some (n', o)) :
    KeepsTerm n n' ∧ (Loaded (afterServe n n' hd o) → Covered (afterServe n n' hd o)) := by
  have hs := serves_of_serve hn
  unfold KeepsTerm
  generalize hrow : n'.row.currentTerm = row, hterm : n'.term = term at hs
  have hrow' : (afterServe n n' hd o).row.currentTerm = row := hrow
  have hterm' : (afterServe n n' hd o).term = term := hterm
  cases hs with
  | takes hst hb =>
    have ht := hk
    simp only [TakesUp, hop, hst, hb] at ht
    exact ⟨le_rfl, fun _ => .inl (by rw [hrow', hterm']; exact ht)⟩
  | passes hst _ =>
    have hc : Covered n := hi (.inr (.inr ⟨hd, hmem, hst.imp_right .inl⟩))
    refine ⟨le_rfl, fun _ => hc.mono hrow' hterm'.ge fun h hh hvote => mem_afterServe hh ?_⟩
    rintro rfl
    rcases hst with ⟨now, hst⟩ | hst <;> rw [hst] at hvote <;> cases hvote
  | stores hst hb =>
    have hset := hk
    simp only [TakesUp, hop, hst, hb] at hset
    have hc : Covered n := hi (.inr (.inr ⟨hd, hmem, .inr (.inr hst)⟩))
    exact ⟨hc.le hset, fun _ => .inl (by rw [hrow', hterm'])⟩
  | votes hst hb =>
    have ht := hk
    simp only [TakesUp, hop, hst, hb] at ht
    exact ⟨ht, fun _ => .inr ⟨_, List.mem_cons_self, _, _, rfl, hb, hrow'.le⟩⟩
  | @records t c hst hb =>
    refine ⟨le_rfl, fun hl => ?_⟩
    have hc : Covered n := by
      refine hi (hl.imp ?_ (Or.imp ?_ ?_))
      · exact fun hr => (serve_run hn).1 ▸ hr
      · exact fun hw => serve_watchdog hn ▸ hw
      · exact fun ⟨h, hh, hst⟩ => ⟨h, List.mem_of_mem_erase hh, hst⟩
    rcases hc with hle | ⟨h, hh, t', c', hst', hb', ht'⟩
    · exact .inl (by rw [hrow', hterm']; exact hle.trans (le_max_left _ _))
    · by_cases he : h = hd
      · obtain ⟨rfl, -⟩ : t' = t ∧ c' = c := by simpa [he, hb] using hb'.symm
        exact .inl (by rw [hrow', hterm']; exact ht'.trans (le_max_right _ _))
      · exact .inr ⟨h, mem_afterServe hh he, t', c', hst', hb', hrow'.le.trans ht'⟩

theorem covered_step (hi : Loaded n → Covered n) (hk : TakesUp n a)
    (h : nodeStep cfg v n a = some n') : KeepsTerm n n' ∧ (Loaded n' → Covered n') := by
  cases turn_of_nodeStep h with
  | restart _ => exact ⟨le_rfl, by simp [Loaded, Node.restart, fresh]⟩
  | send _ hp | collect _ hp _ =>
    have hc : Covered n := hi (.inl (by simp [hp]))
    exact ⟨le_rfl, fun _ => hc.mono rfl le_rfl fun _ hh _ => hh⟩
  | refuse _ _ => exact ⟨le_rfl, hi⟩
  | @receive x stage _ hx =>
    refine ⟨le_rfl, fun hl => (hi ?_).mono rfl le_rfl fun _ hh _ => List.mem_cons_of_mem _ hh⟩
    refine hl.imp_right (Or.imp_right ?_)
    rintro ⟨h, hh, hst⟩
    rcases List.mem_cons.mp hh with rfl | hh
    · exact absurd hst (firstStage_fresh hx)
    · exact ⟨h, hh, hst⟩
  | advance hop hmem hs | answer hop hmem hs => exact serve_covers hi hop hmem hk hs
  | watch hs =>
    obtain ⟨hw, hterm, hrow | ⟨hset, hrow⟩⟩ := watchStep_term hs
    · have hc := hi (.inr (.inl hw))
      exact ⟨by rw [KeepsTerm, hrow], fun _ => hc.mono (by rw [hrow]) hterm.ge
        fun _ hh _ => (watchStep_run hs).2 ▸ hh⟩
    · have hle := (hi (.inr (.inl hw))).le (hset ▸ hk)
      exact ⟨hle.trans hrow.ge, fun _ => .inl (by rw [hrow, hterm])⟩
  | run hs =>
    have hhd := runStep_handlers hs
    rcases runStep_term hs with ⟨hrow, hterm⟩ | ⟨hr, ⟨hrow, hterm⟩ | ⟨hset, hterm, hrow⟩⟩
    · exact ⟨by rw [KeepsTerm, hrow], fun _ => .inl (by rw [hrow, hterm])⟩
    · have hc := hi (.inl hr)
      exact ⟨by rw [KeepsTerm, hrow], fun _ => hc.mono (by rw [hrow]) hterm
        fun _ hh _ => hhd ▸ hh⟩
    · have hle := (hi (.inl hr)).le (hset ▸ hk)
      exact ⟨hle.trans hrow.ge, fun _ => .inl (by rw [hrow, hterm])⟩

lemma term_le_of_run {acts acts' : List Act} {n₁ n₂ : Node}
    (hm : Meets (nodeStep cfg v) TakesUp n.restart (acts ++ acts'))
    (he : exec (nodeStep cfg v) n.restart acts = some n₁)
    (he' : exec (nodeStep cfg v) n₁ acts' = some n₂) :
    n₁.row.currentTerm ≤ n₂.row.currentTerm := by
  obtain ⟨hfirst, hrest⟩ := meets_append.mp hm
  have hc : Loaded n₁ → Covered n₁ :=
    inv_of_exec (P := fun n => Loaded n → Covered n) (fun _ _ _ hi hk h => (covered_step hi hk h).2)
      (by simp [Loaded, Node.restart, fresh]) hfirst he
  exact (inv_of_exec
    (P := fun n => (Loaded n → Covered n) ∧ n₁.row.currentTerm ≤ n.row.currentTerm)
    (fun _ _ _ hi hk h => ⟨(covered_step hi.1 hk h).2, hi.2.trans (covered_step hi.1 hk h).1⟩)
    ⟨hc, le_rfl⟩ (hrest n₁ he) he').2

/-- **The stored term.** In a run whose steps take up no term below the stored one, and store
nothing while a committed vote is unknown in memory, the stored term of a node never goes back
from any moment to a later one. -/
theorem stored_term_keeps (cfg : Config) (v : Voter) (n : Node) (acts acts' : List Act)
    (n₁ n₂ : Node) (hm : Meets (nodeStep cfg v) TakesUp n.restart (acts ++ acts'))
    (he : exec (nodeStep cfg v) n.restart acts = some n₁)
    (he' : exec (nodeStep cfg v) n₁ acts' = some n₂) :
    n₁.row.currentTerm ≤ n₂.row.currentTerm :=
  term_le_of_run hm he he'

/-! ### A witness that was started again -/

/-- The witness votes in term 2. -/
def votes : List Act :=
  moves 2 7 [.receive ⟨1, 2, 0, .vote 2 1⟩, .advance ⟨⟨1, 2, 0, .vote 2 1⟩, .voteChecked⟩,
    .advance ⟨⟨1, 2, 0, .vote 2 1⟩, .voteStored⟩]

/-- The heartbeat of the leader of a term, accepted. -/
def beats (t : ℕ) : List Act :=
  let x : Request := ⟨0, 2, 1, .heartbeat t 0 14⟩
  moves 2 8 [.receive x, .advance ⟨x, .heartbeatChecked 8⟩, .advance ⟨x, .heartbeatTerm 8⟩,
    .advance ⟨x, .heartbeatLease⟩, .advance ⟨x, .heartbeatRole⟩]

theorem stored_term_keeps_votes : ∃ n₁ n₂, exec (nodeStep pair 2) fresh.restart votes = some n₁ ∧
    exec (nodeStep pair 2) n₁ (beats 3) = some n₂ ∧
      n₁.row.currentTerm ≤ n₂.row.currentTerm := by
  obtain ⟨n₁, he, n₂, he', -⟩ : ∃ n₁ ∈ exec (nodeStep pair 2) fresh.restart votes,
      ∃ n₂ ∈ exec (nodeStep pair 2) n₁ (beats 3), n₂.row.currentTerm = 3 := by
    decide +kernel
  exact ⟨n₁, n₂, he, he',
    stored_term_keeps pair 2 fresh votes (beats 3) n₁ n₂ (by decide +kernel) he he'⟩

/-- The witness that stored term 2 is started again and follows the leader of term 1. -/
theorem stored_term_goes_back : ¬ ∀ (cfg : Config), cfg.Paired → ∀ (v : Voter) (n : Node)
    (acts acts' : List Act) (n₁ n₂ : Node), exec (nodeStep cfg v) n.restart acts = some n₁ →
      exec (nodeStep cfg v) n₁ acts' = some n₂ → n₁.row.currentTerm ≤ n₂.row.currentTerm := by
  intro hall
  obtain ⟨n₁, he, n₂, he', h₁, h₂⟩ : ∃ n₁ ∈ exec (nodeStep pair 2) fresh.restart votes,
      ∃ n₂ ∈ exec (nodeStep pair 2) n₁ (moves 2 8 [.restart] ++ beats 1),
        n₁.row.currentTerm = 2 ∧ n₂.row.currentTerm = 1 := by
    decide +kernel
  have := hall pair paired_pair 2 fresh _ _ n₁ n₂ he he'
  omega

end OnAir.StoredTerm
