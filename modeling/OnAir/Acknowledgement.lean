import OnAir.ScheduleRepository

/-!
What an acknowledgement of `/api/ha/internal/replicate` is worth.

The handler inserts the entry, applies what is pending, and answers. The insertion is dropped
where the sequence or the checksum is in use, which a node that was the leader before may have
used for an entry of its own; and the batch ends after 250 rows, those of the node's own
included.
-/

namespace OnAir.Acknowledgement

open OnAir.Database ReplicationApplier ReplicationJournal ScheduleRepository

/-- The rows before a sequence that are not applied. -/
def backlog (j : Journal) (k : ℤ) : ℕ := (j.unapplied.filter fun r => r.1 < k).length

/-- The journal has room for an entry: its sequence and its checksum are both free, or it holds
just this entry. -/
def Room (j : Journal) (p : ReplicationPayload) : Prop :=
  (j.rows[p.sequence]? = none ∧ j.find p.checksum = none) ∨
    ∃ r ∈ j.rows[p.sequence]?, r.checksum = p.checksum

/-- There is room for the entry, and it was applied before or its turn comes in one batch. -/
def Keeps (j : Journal) (p : ReplicationPayload) : Prop :=
  Room j p ∧ ((∃ r ∈ j.rows[p.sequence]?, r.appliedAt = true) ∨ backlog j p.sequence < 250)

/-- The journal holds the entry at its sequence, applied. -/
def Holds (j : Journal) (p : ReplicationPayload) : Prop :=
  ∃ r ∈ j.rows[p.sequence]?, r.checksum = p.checksum ∧ r.appliedAt = true

instance (j : Journal) (p : ReplicationPayload) : Decidable (Holds j p) := by
  unfold Holds
  infer_instance

instance (j : Journal) (p : ReplicationPayload) : Decidable (Room j p) := by
  unfold Room
  infer_instance

instance (j : Journal) (p : ReplicationPayload) : Decidable (Keeps j p) := by
  unfold Keeps
  infer_instance

variable {j : Journal} {p : ReplicationPayload}

/-- After the insertion the entry is there exactly where there was room. -/
lemma receive_stored : (∃ r : JournalRow, (j.receive p).rows[p.sequence]? = some r ∧
    r.checksum = p.checksum) ↔ Room j p := by
  rw [Journal.receive, Journal.lookup_insertOrIgnore]
  constructor
  · rintro ⟨r, hr, hc⟩
    split_ifs at hr with h
    · exact .inl h.2
    · exact .inr ⟨r, hr, hc⟩
  · rintro (h | ⟨r, hr, hc⟩)
    · exact ⟨_, if_pos ⟨rfl, h⟩, rfl⟩
    · refine ⟨r, ?_, hc⟩
      rw [if_neg]
      · exact hr
      · rintro ⟨-, hnone, -⟩
        rw [hnone] at hr
        cases hr

lemma mem_unapplied {k : ℤ} {r : JournalRow} :
    (k, r) ∈ j.unapplied ↔ j.rows[k]? = some r ∧ r.appliedAt = false := by
  simp [Journal.unapplied, Table.mem_rows]

lemma unapplied_sorted (j : Journal) : j.unapplied.Pairwise fun r s => r.1 < s.1 :=
  (Table.rows_sorted j.rows).filter _

/-- The insertion changes nothing below the sequence. -/
lemma backlog_receive : backlog (j.receive p) p.sequence = backlog j p.sequence := by
  unfold backlog
  congr 1
  refine List.Pairwise.eq_of_mem_iff ((unapplied_sorted _).filter _) ((unapplied_sorted _).filter _)
    fun {r} => ?_
  rw [List.mem_filter, List.mem_filter, mem_unapplied, mem_unapplied, Journal.receive,
    Journal.lookup_insertOrIgnore]
  by_cases h : r.1 = p.sequence
  · simp [h]
  · simp [h]

section Accepted

variable {σ : Type*} {sha : String → String} {applyRow : Entry → σ → Option (σ × Bool)}
  {s s' : Replica σ}

/-- The row of the entry after the batch. -/
lemma lookup_accepted (h : haReplicate sha applyRow s p = (s', true)) :
    s'.journal.rows[p.sequence]? = (s.journal.receive p).rows[p.sequence]?.map fun r =>
      if p.sequence ∈ ((s.journal.receive p).unapplied.take 250).map Prod.fst then
        { r with appliedAt := true } else r := by
  have happ : applyPending applyRow 250 { s with journal := s.journal.receive p } = (s', true) := by
    unfold haReplicate at h
    split_ifs at h <;> simp_all
  exact lookup_applyRows happ p.sequence

/-- Whether the batch reaches the row of the entry. -/
lemma mem_batch {r : JournalRow} (hr : (j.receive p).rows[p.sequence]? = some r) :
    p.sequence ∈ ((j.receive p).unapplied.take 250).map Prod.fst ↔
      r.appliedAt = false ∧ backlog j p.sequence < 250 := by
  rw [List.mem_map, ← backlog_receive]
  constructor
  · rintro ⟨⟨k, q⟩, hq, rfl⟩
    obtain ⟨hmem, hlen⟩ := (Table.mem_take_iff (unapplied_sorted _) 250).mp hq
    obtain ⟨hrow, hun⟩ := mem_unapplied.mp hmem
    obtain rfl : q = r := Option.some.inj (hrow.symm.trans hr)
    exact ⟨hun, hlen⟩
  · rintro ⟨hun, hlen⟩
    exact ⟨(p.sequence, r), (Table.mem_take_iff (unapplied_sorted _) 250).mpr
      ⟨mem_unapplied.mpr ⟨hr, hun⟩, hlen⟩, rfl⟩

/-- Whether the row of the entry was applied before it came in. -/
lemma applied_before {r : JournalRow} (hr : (j.receive p).rows[p.sequence]? = some r) :
    r.appliedAt = true ↔ ∃ q ∈ j.rows[p.sequence]?, q.appliedAt = true := by
  rw [Journal.receive, Journal.lookup_insertOrIgnore] at hr
  split_ifs at hr with hfree
  · obtain rfl := Option.some.inj hr
    simp [hfree.2.1]
  · simp [hr]

lemma keeps_of_holds (h : haReplicate sha applyRow s p = (s', true)) (hh : Holds s'.journal p) :
    Keeps s.journal p := by
  obtain ⟨r', hr', hc, ha⟩ := hh
  rw [lookup_accepted h, Option.mem_def, Option.map_eq_some_iff] at hr'
  obtain ⟨r, hr, rfl⟩ := hr'
  have hck : r.checksum = p.checksum := by
    split_ifs at hc <;> exact hc
  refine ⟨receive_stored.mp ⟨r, hr, hck⟩, ?_⟩
  by_cases hmem : p.sequence ∈ ((s.journal.receive p).unapplied.take 250).map Prod.fst
  · exact .inr ((mem_batch hr).mp hmem).2
  · rw [if_neg hmem] at ha
    exact .inl ((applied_before hr).mp ha)

lemma holds_of_keeps (h : haReplicate sha applyRow s p = (s', true)) (hk : Keeps s.journal p) :
    Holds s'.journal p := by
  obtain ⟨hroom, hdone⟩ := hk
  obtain ⟨r, hr, hc⟩ := receive_stored.mpr hroom
  rw [Holds, lookup_accepted h, hr]
  refine ⟨_, rfl, ?_, ?_⟩ <;> dsimp only
  · split_ifs <;> exact hc
  · cases hr' : r.appliedAt with
    | true => split_ifs <;> first | rfl | exact hr'
    | false =>
      have hlen : backlog s.journal p.sequence < 250 := by
        refine hdone.resolve_left fun hd => ?_
        rw [(applied_before hr).mpr hd] at hr'
        cases hr'
      rw [if_pos ((mem_batch hr).mpr ⟨hr', hlen⟩)]

end Accepted

/-- **What an acknowledgement is worth.** Where the handler answers that it accepted the
entry, the journal holds it, applied, exactly if it had room for it and the backlog was
short. -/
theorem accepted_iff_keeps {σ : Type} (sha : String → String)
    (applyRow : Entry → σ → Option (σ × Bool)) (s s' : Replica σ) (p : ReplicationPayload)
    (h : haReplicate sha applyRow s p = (s', true)) :
    Holds s'.journal p ↔ Keeps s.journal p :=
  ⟨keeps_of_holds h, holds_of_keeps h⟩

/-! ### A node that was the leader -/

/-- The states of a node that follows and leads in turn. -/
inductive Reached (sha : String → String) : Replica Data → Prop
  | start (d : Data) : Reached sha ⟨.empty, d⟩
  /-- as a leader it writes its tables and journals an entry -/
  | append (s : Replica Data) (e : Entry) (d : Data) (h : Reached sha s) :
      Reached sha ⟨(s.journal.append sha e).1, d⟩
  /-- it writes its tables without journaling -/
  | write (s : Replica Data) (d : Data) (h : Reached sha s) : Reached sha { s with data := d }
  | markReplicated (s : Replica Data) (k : ℤ) (h : Reached sha s) :
      Reached sha { s with journal := s.journal.markReplicated k }
  | receive (s : Replica Data) (p : ReplicationPayload) (h : Reached sha s) :
      Reached sha (haReplicate sha applyRow s p).1

/-- The first entry of a leader. -/
def news : ReplicationPayload :=
  let c : Change := .upsert 1 ⟨1, 7, "2026-01-01 10:00", none, "news", .pending⟩
  ⟨1, c.entry, c.entry.material⟩

lemma eq_accepted {σ : Type} {x : Replica σ × Bool} (h : x.2 = true) : x = (x.1, true) :=
  Prod.ext rfl h

theorem accepted_iff_keeps_news :
    Holds (haReplicate id applyRow ⟨.empty, .empty⟩ news).1.journal news :=
  (accepted_iff_keeps id applyRow _ _ news (eq_accepted (by decide +kernel))).mpr
    (by decide +kernel)

/-- A node that journaled an entry of its own under the first sequence accepts the first entry of
the other node, and drops it. -/
theorem accepted_and_lost : ¬ ∀ (sha : String → String) (s : Replica Data), Reached sha s →
    ∀ (p : ReplicationPayload) (s' : Replica Data), sha p.entry.material = p.checksum →
      haReplicate sha applyRow s p = (s', true) → Holds s'.journal p := by
  intro hall
  let former := enqueue id ⟨.empty, .empty⟩ 1 9 "2026-01-01 09:00" none "weather"
  have hold := hall id former (.append _ _ _ (.start _)) news _ rfl
    (eq_accepted (by decide +kernel))
  exact absurd hold (by decide +kernel)

end OnAir.Acknowledgement
