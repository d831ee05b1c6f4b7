import OnAir.ActiveRows
import OnAir.QueueOrder
import OnAir.SettingsText

/-!
The rows that wait, in the order they are to be played.

Of a change to the queue only two things matter here: which rows wait after it, and how they stand
to one another.
-/

namespace OnAir.WaitingRows

open ActiveRows PlayoutTables QueueOrder StationWorker OnAir.Table WorkerEnv

open SettingsText (mem_queueRows)

/-- The rows of the station that wait, as `list_active_ordered` has them. -/
def waiting (st : ℤ) (s : Engine) : List Row :=
  (listActiveOrdered st s).filter fun r => r.2.status = .pending

variable {st id : ℤ} {s t : Engine} {r : Row} {l : List Row}

lemma mem_waiting : r ∈ waiting st s ↔
    s.queueItems[r.1]? = some r.2 ∧ r.2.stationId = st ∧ r.2.status = .pending := by
  unfold waiting
  rw [List.mem_filter, mem_listActiveOrdered, decide_eq_true_eq]
  constructor
  · exact fun ⟨⟨hrow, hst, _⟩, hp⟩ => ⟨hrow, hst, hp⟩
  · exact fun ⟨hrow, hst, hp⟩ => ⟨⟨hrow, hst, by rw [hp]; rfl⟩, hp⟩

/-- One row comes before another one. -/
def Earlier (a b : Row) : Prop := Before (key a) (key b)

lemma earlier_iff {a b : Row} : Earlier a b ↔
    a.2.position < b.2.position ∨ a.2.position = b.2.position ∧ a.1 < b.1 := Iff.rfl

lemma Earlier.irrefl (a : Row) : ¬ Earlier a a := Before.irrefl (key a)

lemma Earlier.asymm {a b : Row} (h : Earlier a b) : ¬ Earlier b a := Before.asymm h

lemma waiting_sorted (st : ℤ) (s : Engine) : (waiting st s).Pairwise Earlier := by
  have hsorted : (listActiveOrdered st s).Pairwise fun a b => Before (key a) (key b) :=
    List.pairwise_map.mp (ActiveRows.keys_sorted st s)
  exact hsorted.filter _

/-- The rows that wait are determined by their membership. -/
lemma eq_waiting (hl : l.Pairwise Earlier) (h : ∀ r, r ∈ l ↔ s.queueItems[r.1]? = some r.2 ∧
    r.2.stationId = st ∧ r.2.status = .pending) : waiting st s = l := by
  have : Std.Irrefl Earlier := ⟨Earlier.irrefl⟩
  have : Std.Asymm Earlier := ⟨fun _ _ => Earlier.asymm⟩
  exact ((waiting_sorted st s).eq_of_mem_iff hl fun {r} => mem_waiting.trans (h r).symm)

/-- The next row is the first of them. -/
lemma nextPending_eq_head (st : ℤ) (s : Engine) : nextPending st s = (waiting st s).head? := by
  have hids : (queueRows st s [.pending]).Pairwise fun a b => a.1 < b.1 :=
    (rows_sorted _).filter _
  have hmem : ∀ r : Row, r ∈ queueRows st s [.pending] ↔ r ∈ waiting st s := fun r => by
    rw [mem_waiting]
    exact mem_queueRows.trans (by simp)
  cases hw : waiting st s with
  | nil =>
    have hnone : queueRows st s [.pending] = [] :=
      List.eq_nil_iff_forall_not_mem.mpr fun r hr => by
      rw [hmem, hw] at hr
      cases hr
    rw [nextPending, hnone]
    rfl
  | cons a l =>
    have ha : a ∈ queueRows st s [.pending] := by
      rw [hmem, hw]
      exact List.mem_cons_self
    cases hn : nextPending st s with
    | none =>
      rw [nextPending, Sql.firstBy_eq_none] at hn
      rw [hn] at ha
      cases ha
    | some r =>
      have hr : r ∈ waiting st s := (hmem r).mp (Sql.firstBy_mem hn)
      have hfirst := Sql.firstBy_first (f := fun q : Row => q.2.position) hids hn a ha
      rw [hw] at hr
      rcases List.mem_cons.mp hr with rfl | hr
      · rfl
      · have hsorted := waiting_sorted st s
        rw [hw] at hsorted
        have hbefore : Earlier a r := (List.pairwise_cons.mp hsorted).1 r hr
        rcases hfirst with rfl | hless | ⟨heq, hless⟩
        · rfl
        · exact absurd (Or.inl hless) hbefore.asymm
        · exact absurd (Or.inr ⟨heq, hless⟩) hbefore.asymm

lemma nodup_waiting (st : ℤ) (s : Engine) : ((waiting st s).map Prod.fst).Nodup :=
  (nodup_ids st s).sublist (List.filter_sublist.map _)

/-! ### Changes of the queue -/

/-- A row that is settled or started waits no more. -/
lemma waiting_leave {f : QueueItem → QueueItem} (hf : ∀ r, (f r).status ≠ .pending) :
    waiting st (updateQueue id f s) = (waiting st s).filter fun r => r.1 ≠ id := by
  refine eq_waiting ((waiting_sorted st s).filter _) fun r => ?_
  rw [List.mem_filter, mem_waiting, updateQueue, lookup_modify, decide_eq_true_eq]
  split_ifs with hid
  · constructor
    · exact fun h => absurd hid h.2
    · rintro ⟨hrow, -, hp⟩
      obtain ⟨q, -, hq⟩ := Option.map_eq_some_iff.mp hrow
      exact absurd (hq ▸ hp) (hf q)
  · exact and_iff_left hid

/-- The first row waits no more. -/
lemma waiting_leave_head {f : QueueItem → QueueItem} (hf : ∀ r, (f r).status ≠ .pending)
    (h : waiting st s = r :: l) : waiting st (updateQueue r.1 f s) = l := by
  have hnodup := nodup_waiting st s
  rw [h, List.map_cons, List.nodup_cons] at hnodup
  rw [waiting_leave hf, h, List.filter_cons_of_neg (by simp), List.filter_eq_self]
  intro q hq
  rw [decide_eq_true_eq]
  rintro heq
  exact hnodup.1 (heq ▸ List.mem_map_of_mem hq)

/-- A row beyond all others waits last. -/
lemma waiting_append {q : QueueItem} (hst : q.stationId = st) (hp : q.status = .pending)
    (hbeyond : Beyond st s q.position) :
    waiting st (insertQueue q s) = waiting st s ++ [(nextId s.queueItems, q)] := by
  unfold waiting
  rw [listActiveOrdered_insertQueue hst (by rw [hp]; rfl) hbeyond, List.filter_append]
  refine congrArg _ (List.filter_cons_of_pos ?_)
  simpa using hp

/-- A row before all others waits first. -/
lemma waiting_front {q : QueueItem} (hst : q.stationId = st) (hp : q.status = .pending)
    (hfront : ∀ r ∈ waiting st s, q.position < r.2.position) :
    waiting st (insertQueue q s) = (nextId s.queueItems, q) :: waiting st s := by
  refine eq_waiting (List.pairwise_cons.mpr ⟨fun r hr => .inl (hfront r hr),
    waiting_sorted st s⟩) fun r => ?_
  rw [List.mem_cons, mem_waiting, insertQueue, lookup_insert]
  split_ifs with hid
  · constructor
    · rintro (rfl | ⟨hrow, -⟩)
      · exact ⟨rfl, hst, hp⟩
      · exact absurd hid (lt_nextId hrow).ne
    · exact fun h => .inl (Prod.ext hid (Option.some.inj h.1).symm)
  · exact or_iff_right fun he => hid (he ▸ rfl)

/-- A new row comes somewhere among those that wait, and these keep their order. -/
lemma waiting_insert {q : QueueItem} (hst : q.stationId = st) (hp : q.status = .pending) :
    ∃ l₁ l₂, waiting st s = l₁ ++ l₂ ∧
      waiting st (insertQueue q s) = l₁ ++ (nextId s.queueItems, q) :: l₂ := by
  have hnew : (nextId s.queueItems, q) ∈ waiting st (insertQueue q s) :=
    mem_waiting.mpr ⟨by rw [insertQueue, lookup_insert, if_pos rfl], hst, hp⟩
  obtain ⟨l₁, l₂, hl⟩ := List.append_of_mem hnew
  refine ⟨l₁, l₂, ?_, hl⟩
  have hold : waiting st s =
      (waiting st (insertQueue q s)).filter fun r => r.1 ≠ nextId s.queueItems := by
    refine eq_waiting ((waiting_sorted ..).filter _) fun r => ?_
    rw [List.mem_filter, mem_waiting, insertQueue, lookup_insert, decide_eq_true_eq]
    split_ifs with hid
    · refine iff_of_false (fun h => h.2 hid) fun h => ?_
      exact absurd hid (lt_nextId h.1).ne
    · exact and_iff_left hid
  have hnodup := nodup_waiting st (insertQueue q s)
  rw [hl, List.map_append, List.map_cons, List.nodup_append] at hnodup
  obtain ⟨-, hafter, hbefore⟩ := hnodup
  rw [hold, hl, List.filter_append, List.filter_cons_of_neg (by simp)]
  refine congrArg₂ _ (List.filter_eq_self.mpr fun r hr => ?_)
    (List.filter_eq_self.mpr fun r hr => ?_)
  · exact decide_eq_true (hbefore _ (List.mem_map_of_mem hr) _ List.mem_cons_self)
  · have hid : r.1 ∈ l₂.map Prod.fst := List.mem_map_of_mem hr
    rw [decide_eq_true_eq]
    exact fun heq => (List.nodup_cons.mp hafter).1 (heq ▸ hid)

/-- Rows that are changed, and stand to one another as before. -/
lemma waiting_map {f : ℤ → QueueItem → QueueItem}
    (hrows : ∀ id : ℤ, t.queueItems[id]? = s.queueItems[id]?.map (f id))
    (hf : ∀ id q, (f id q).stationId = q.stationId ∧ (f id q).status = q.status)
    (horder : ∀ a ∈ waiting st s, ∀ b ∈ waiting st s, Earlier a b →
      Earlier (a.1, f a.1 a.2) (b.1, f b.1 b.2)) :
    waiting st t = (waiting st s).map fun r => (r.1, f r.1 r.2) := by
  refine eq_waiting (List.pairwise_map.mpr ((waiting_sorted st s).imp_of_mem
    fun {a b} ha hb h => horder a ha b hb h)) fun r => ?_
  rw [List.mem_map, hrows]
  constructor
  · rintro ⟨q, hq, rfl⟩
    obtain ⟨hrow, hst, hp⟩ := mem_waiting.mp hq
    obtain ⟨hst', hp'⟩ := hf q.1 q.2
    exact ⟨by rw [hrow]; rfl, hst'.trans hst, hp'.trans hp⟩
  · rintro ⟨hrow, hst, hp⟩
    obtain ⟨q, hq, hr⟩ := Option.map_eq_some_iff.mp hrow
    obtain ⟨hst', hp'⟩ := hf r.1 q
    refine ⟨(r.1, q), mem_waiting.mpr ⟨hq, ?_, ?_⟩, Prod.ext rfl hr⟩
    · rw [← hst', hr, hst]
    · rw [← hp', hr, hp]

/-- The rows that wait, as they are read to count songs among them. -/
lemma orderBy_pending (st : ℤ) (s : Engine) :
    Sql.orderBy byPosition (queueRows st s [.pending]) = waiting st s := by
  have hids : (queueRows st s [.pending]).Pairwise fun a b => a.1 < b.1 :=
    (rows_sorted _).filter _
  refine (eq_waiting (Sql.orderBy_pairwise (fun r : Row => r.2.position) hids) fun r => ?_).symm
  rw [Sql.mem_orderBy]
  exact mem_queueRows.trans (by simp)

end OnAir.WaitingRows
