import OnAir.Table

/-!
The table `replication_journal`, and what reads and writes it: `ReplicationJournal`,
`ReplicationApplier.apply_pending` and the handler `ha_replicate`.

A row is named twice: by its sequence, which each node counts for itself, and by the checksum
of its text. Every insertion is `INSERT OR IGNORE`, so a row that meets either name is dropped
without a word.
-/

namespace OnAir.ReplicationJournal

open OnAir.Table

/-- What is journaled of a change. -/
structure Entry where
  entityType : String
  entityId : String
  operation : String
  payloadJson : String
  deriving DecidableEq, Repr

/-- The text under the checksum. -/
def Entry.material (e : Entry) : String :=
  e.entityType ++ "|" ++ e.entityId ++ "|" ++ e.operation ++ "|" ++ e.payloadJson

/-- A row of the journal; of its time stamps only whether they are set. `received` says that
the handler wrote it; no operation reads it. -/
structure JournalRow where
  entry : Entry
  checksum : String
  replicatedAt : Bool
  appliedAt : Bool
  received : Bool
  deriving DecidableEq, Repr

/-- The table and its `AUTOINCREMENT` counter. -/
structure Journal where
  rows : Table JournalRow
  autoSeq : ℤ
  /-- the counter is never below a sequence in use -/
  counted : ∀ (k : ℤ) (r : JournalRow), rows[k]? = some r → k ≤ autoSeq
  /-- `checksum TEXT NOT NULL UNIQUE` -/
  unique : ∀ (k l : ℤ) (r s : JournalRow), rows[k]? = some r → rows[l]? = some s →
    r.checksum = s.checksum → k = l

/-- The body of `/api/ha/internal/replicate`. -/
structure ReplicationPayload where
  sequence : ℤ
  entry : Entry
  checksum : String
  deriving DecidableEq, Repr

namespace Journal

def empty : Journal where
  rows := ∅
  autoSeq := 0
  counted := by simp
  unique := by simp

/-- The sequence under which a checksum is stored. -/
def find (j : Journal) (checksum : String) : Option ℤ :=
  ((Table.rows j.rows).find? fun r => r.2.checksum = checksum).map Prod.fst

lemma find_eq_none {j : Journal} {c : String} :
    j.find c = none ↔ ∀ (k : ℤ) (r : JournalRow), j.rows[k]? = some r → r.checksum ≠ c := by
  simp only [find, Option.map_eq_none_iff, List.find?_eq_none, Prod.forall, mem_rows,
    decide_eq_true_eq, ne_eq]

lemma find_eq_none_iff_notMem {j : Journal} {c : String} :
    j.find c = none ↔ c ∉ (Table.rows j.rows).map fun r => r.2.checksum := by
  simp only [find, Option.map_eq_none_iff, List.find?_eq_none, List.mem_map, not_exists, not_and,
    decide_eq_true_eq]

lemma find_eq_some {j : Journal} {c : String} {k : ℤ} :
    j.find c = some k ↔ ∃ r : JournalRow, j.rows[k]? = some r ∧ r.checksum = c := by
  constructor
  · intro h
    obtain ⟨⟨k', r⟩, hr, rfl⟩ := Option.map_eq_some_iff.mp h
    exact ⟨r, mem_rows.mp (List.mem_of_find?_eq_some hr), by simpa using List.find?_some hr⟩
  · rintro ⟨r, hr, rfl⟩
    cases h : j.find r.checksum with
    | none => exact absurd rfl (find_eq_none.mp h k r hr)
    | some l =>
      obtain ⟨⟨l', s⟩, hs, rfl⟩ := Option.map_eq_some_iff.mp h
      have hmem := mem_rows.mp (List.mem_of_find?_eq_some hs)
      have hc : s.checksum = r.checksum := by simpa using List.find?_some hs
      exact congrArg some (j.unique _ _ _ _ hmem hr hc)

/-- A new row at a sequence and with a checksum that are not in use. -/
def insert (j : Journal) (k : ℤ) (r : JournalRow) (hr : j.find r.checksum = none) : Journal where
  rows := j.rows.insert k r
  autoSeq := max j.autoSeq k
  counted l s hs := by
    rw [lookup_insert] at hs
    split_ifs at hs with h
    · exact h ▸ le_max_right _ _
    · exact (j.counted l s hs).trans (le_max_left _ _)
  unique l m s t hs ht hst := by
    have hnew := find_eq_none.mp hr
    rw [lookup_insert] at hs ht
    split_ifs at hs ht with h1 h2 h3
    · rw [h1, h2]
    · cases hs
      exact absurd hst.symm (hnew m t ht)
    · cases ht
      exact absurd hst (hnew l s hs)
    · exact j.unique l m s t hs ht hst

/-- The counter moves on also where the insertion is ignored. -/
def bump (j : Journal) (k : ℤ) : Journal :=
  { j with
    autoSeq := max j.autoSeq k
    counted := fun l r hr => (j.counted l r hr).trans (le_max_left _ _) }

/-- `INSERT OR IGNORE`. -/
def insertOrIgnore (j : Journal) (k : ℤ) (r : JournalRow) : Journal :=
  if h : j.rows[k]? = none ∧ j.find r.checksum = none then j.insert k r h.2 else j.bump k

lemma insertOrIgnore_of_free {j : Journal} {k : ℤ} {r : JournalRow} (hk : j.rows[k]? = none)
    (hr : j.find r.checksum = none) : (j.insertOrIgnore k r).rows = j.rows.insert k r := by
  simp [insertOrIgnore, hk, hr, insert]

lemma insertOrIgnore_of_taken {j : Journal} {k : ℤ} {r : JournalRow}
    (h : ¬ (j.rows[k]? = none ∧ j.find r.checksum = none)) :
    (j.insertOrIgnore k r).rows = j.rows := by
  rw [insertOrIgnore, dif_neg h, bump]

lemma lookup_insertOrIgnore (j : Journal) (k l : ℤ) (r : JournalRow) :
    (j.insertOrIgnore k r).rows[l]? =
      if l = k ∧ j.rows[k]? = none ∧ j.find r.checksum = none then some r else j.rows[l]? := by
  by_cases h : j.rows[k]? = none ∧ j.find r.checksum = none
  · rw [insertOrIgnore_of_free h.1 h.2, Table.lookup_insert]
    simp [h]
  · rw [insertOrIgnore_of_taken h, if_neg fun hl => h hl.2]

/-- No row is at a sequence the counter has not reached. -/
lemma lookup_above {j : Journal} {k : ℤ} (h : j.autoSeq < k) : j.rows[k]? = none := by
  cases hk : j.rows[k]? with
  | none => rfl
  | some r => exact absurd (j.counted k r hk) (not_le.mpr h)

/-- An update of one row that leaves its checksum. -/
def update (j : Journal) (k : ℤ) (f : JournalRow → JournalRow)
    (hf : ∀ r, (f r).checksum = r.checksum) : Journal where
  rows := j.rows.modify k f
  autoSeq := j.autoSeq
  counted l s hs := by
    rw [lookup_modify] at hs
    split_ifs at hs with h
    · obtain ⟨r, hr, -⟩ := Option.map_eq_some_iff.mp hs
      exact j.counted l r hr
    · exact j.counted l s hs
  unique l m s t hs ht hst := by
    have hold : ∀ (i : ℤ) (u : JournalRow), (j.rows.modify k f)[i]? = some u →
        ∃ r : JournalRow, j.rows[i]? = some r ∧ r.checksum = u.checksum := by
      intro i u hu
      rw [lookup_modify] at hu
      split_ifs at hu
      · obtain ⟨r, hr, rfl⟩ := Option.map_eq_some_iff.mp hu
        exact ⟨r, hr, (hf r).symm⟩
      · exact ⟨u, hu, rfl⟩
    obtain ⟨r, hr, hrs⟩ := hold l s hs
    obtain ⟨q, hq, hqt⟩ := hold m t ht
    exact j.unique l m r q hr hq (by rw [hrs, hqt, hst])

/-! ### `ReplicationJournal` -/

variable (sha : String → String)

/-- The row `append` writes. -/
def ownRow (e : Entry) : JournalRow := ⟨e, sha e.material, false, false, false⟩

/-- `append`, with the sequence it returns. -/
def append (j : Journal) (e : Entry) : Journal × Option ℤ :=
  let j' := j.insertOrIgnore (j.autoSeq + 1) (ownRow sha e)
  (j', j'.find (sha e.material))

/-- A change that was journaled before is not journaled again. -/
lemma append_of_known {j : Journal} {e : Entry} (h : j.find (sha e.material) ≠ none) :
    (j.append sha e).1.rows = j.rows :=
  insertOrIgnore_of_taken fun hn => h hn.2

lemma append_of_new {j : Journal} {e : Entry} (h : j.find (sha e.material) = none) :
    Table.rows (j.append sha e).1.rows =
      Table.rows j.rows ++ [(j.autoSeq + 1, ownRow sha e)] := by
  have hk : j.rows[j.autoSeq + 1]? = none := lookup_above (by omega)
  have hins := insertOrIgnore_of_free (r := ownRow sha e) hk h
  rw [append, hins]
  exact rows_insert_last fun k r hr => by have := j.counted k r hr; omega

/-- `pending`. -/
def pending (j : Journal) (limit : ℕ) : List (ℤ × JournalRow) :=
  ((Table.rows j.rows).filter fun r => !r.2.replicatedAt).take (max 1 (min limit 1000))

/-- `mark_replicated`. -/
def markReplicated (j : Journal) (k : ℤ) : Journal :=
  j.update k (fun r => { r with replicatedAt := true }) fun _ => rfl

def markApplied (j : Journal) (k : ℤ) : Journal :=
  j.update k (fun r => { r with appliedAt := true }) fun _ => rfl

/-- What the handler inserts. -/
def receive (j : Journal) (p : ReplicationPayload) : Journal :=
  j.insertOrIgnore p.sequence ⟨p.entry, p.checksum, true, false, true⟩

/-- The rows that are not applied, in order. -/
def unapplied (j : Journal) : List (ℤ × JournalRow) :=
  (Table.rows j.rows).filter fun r => !r.2.appliedAt

end Journal

/-! ### `apply_pending` and the handler -/

/-- A node, as replication sees it: its journal and the rest of its database. -/
structure Replica (σ : Type*) where
  journal : Journal
  data : σ

section Handler

variable {σ : Type*} (sha : String → String) (applyRow : Entry → σ → Option (σ × Bool))

/-- The loop of `apply_pending` over the selected rows. `applyRow` applies one entry, is `none`
where it raises, and says whether it committed. What was not committed is lost when a row
raises. -/
def applyRows : List (ℤ × JournalRow) → Replica σ → Replica σ → Replica σ × Bool
  | [], _, s => (s, true)
  | (k, r) :: rest, committed, s =>
    match applyRow r.entry s.data with
    | none => (committed, false)
    | some (d, commits) =>
      applyRows rest (if commits then { s with data := d } else committed)
        ⟨s.journal.markApplied k, d⟩

/-- `apply_pending`; `false` where it raises. -/
def applyPending (limit : ℕ) (s : Replica σ) : Replica σ × Bool :=
  applyRows applyRow (s.journal.unapplied.take (max 1 (min limit 1000))) s s

/-- The row ids SQLite can store. -/
def storable (k : ℤ) : Bool := -2 ^ 63 ≤ k && k < 2 ^ 63

/-- `ha_replicate` once the token is checked; `false` where it answers with an error. -/
def haReplicate (s : Replica σ) (p : ReplicationPayload) : Replica σ × Bool :=
  if sha p.entry.material ≠ p.checksum then (s, false)
  else if !storable p.sequence then (s, false)
  else applyPending applyRow 250 { s with journal := s.journal.receive p }

/-! ### What a batch leaves behind -/

variable {applyRow}

lemma lookup_markApplied (j : Journal) (k l : ℤ) : (j.markApplied k).rows[l]? =
    j.rows[l]?.map fun r => if l = k then { r with appliedAt := true } else r := by
  rw [Journal.markApplied, Journal.update, Table.lookup_modify]
  split_ifs with h <;> simp [h]

/-- A batch that does not raise marks all of its rows. -/
lemma lookup_applyRows {rows : List (ℤ × JournalRow)} {c s s' : Replica σ}
    (h : applyRows applyRow rows c s = (s', true)) (l : ℤ) : s'.journal.rows[l]? =
      s.journal.rows[l]?.map fun r =>
        if l ∈ rows.map Prod.fst then { r with appliedAt := true } else r := by
  induction rows generalizing c s with
  | nil =>
    obtain rfl : s = s' := by simpa [applyRows] using h
    simp
  | cons kr rest ih =>
    obtain ⟨k, r⟩ := kr
    simp only [applyRows] at h
    cases ha : applyRow r.entry s.data with
    | none => simp [ha] at h
    | some dc =>
      obtain ⟨d, commits⟩ := dc
      simp only [ha] at h
      rw [ih h, lookup_markApplied, Option.map_map]
      congr 1
      ext q : 1
      by_cases hl : l = k
      · simp [hl]
      · by_cases hm : l ∈ rest.map Prod.fst <;> simp_all

/-- Nothing is ever taken out of a journal, nor a mark from its rows. -/
def Journal.Extends (j j' : Journal) : Prop :=
  ∀ (k : ℤ) (r : JournalRow), j.rows[k]? = some r → ∃ r' : JournalRow, j'.rows[k]? = some r' ∧
    r'.entry = r.entry ∧ r'.checksum = r.checksum ∧ r'.received = r.received ∧
    (r.appliedAt → r'.appliedAt) ∧ (r.replicatedAt → r'.replicatedAt)

lemma Journal.Extends.refl (j : Journal) : j.Extends j :=
  fun _ r h => ⟨r, h, rfl, rfl, rfl, id, id⟩

lemma Journal.Extends.trans {j j' j'' : Journal} (h : j.Extends j') (h' : j'.Extends j'') :
    j.Extends j'' := by
  intro k r hr
  obtain ⟨q, hq, he, hc, ho, ha, hp⟩ := h k r hr
  obtain ⟨q', hq', he', hc', ho', ha', hp'⟩ := h' k q hq
  exact ⟨q', hq', he'.trans he, hc'.trans hc, ho'.trans ho, ha' ∘ ha, hp' ∘ hp⟩

lemma extends_insertOrIgnore (j : Journal) (k : ℤ) (r : JournalRow) :
    j.Extends (j.insertOrIgnore k r) := by
  intro l q hq
  refine ⟨q, ?_, rfl, rfl, rfl, id, id⟩
  rw [Journal.lookup_insertOrIgnore, if_neg]
  · exact hq
  · rintro ⟨rfl, hnone, -⟩
    simp [hnone] at hq

lemma extends_update (j : Journal) (k : ℤ) {f : JournalRow → JournalRow}
    (hf : ∀ r, (f r).checksum = r.checksum) (h : ∀ r, (f r).entry = r.entry ∧
      (f r).received = r.received ∧ (r.appliedAt → (f r).appliedAt) ∧
      (r.replicatedAt → (f r).replicatedAt)) : j.Extends (j.update k f hf) := by
  intro l q hq
  rw [Journal.update, Table.lookup_modify, hq]
  split_ifs
  · obtain ⟨he, ho, ha, hp⟩ := h q
    exact ⟨f q, rfl, he, hf q, ho, ha, hp⟩
  · exact ⟨q, rfl, rfl, rfl, rfl, id, id⟩

lemma extends_markApplied (j : Journal) (k : ℤ) : j.Extends (j.markApplied k) :=
  extends_update j k _ fun _ => ⟨rfl, rfl, fun _ => rfl, id⟩

lemma extends_markReplicated (j : Journal) (k : ℤ) : j.Extends (j.markReplicated k) :=
  extends_update j k _ fun _ => ⟨rfl, rfl, id, fun _ => rfl⟩

lemma extends_applyRows {rows : List (ℤ × JournalRow)} {c s : Replica σ} {j : Journal}
    (hc : j.Extends c.journal) (hs : j.Extends s.journal) :
    j.Extends (applyRows applyRow rows c s).1.journal := by
  induction rows generalizing c s with
  | nil => exact hs
  | cons kr rest ih =>
    obtain ⟨k, r⟩ := kr
    simp only [applyRows]
    cases applyRow r.entry s.data with
    | none => exact hc
    | some dc =>
      refine ih ?_ (hs.trans (extends_markApplied _ k))
      split_ifs
      · exact hs
      · exact hc

lemma extends_haReplicate (s : Replica σ) (p : ReplicationPayload) :
    s.journal.Extends (haReplicate sha applyRow s p).1.journal := by
  unfold haReplicate
  split_ifs
  · exact .refl _
  · exact .refl _
  · have h : s.journal.Extends (s.journal.receive p) := extends_insertOrIgnore _ _ _
    exact extends_applyRows h h

/-- Where the rows of a later journal come from: they were there, marked as they are, or they
are such as `new` says. -/
def Journal.Stems (j j' : Journal) (new : JournalRow → Prop) : Prop :=
  ∀ (k : ℤ) (r' : JournalRow), j'.rows[k]? = some r' → new r' ∨ ∃ r : JournalRow,
    j.rows[k]? = some r ∧ r.checksum = r'.checksum ∧ r.received = r'.received ∧
    r.replicatedAt = r'.replicatedAt

lemma stems_insertOrIgnore (j : Journal) (k : ℤ) (r : JournalRow) :
    j.Stems (j.insertOrIgnore k r) (· = r) := by
  intro l q hq
  rw [Journal.lookup_insertOrIgnore] at hq
  split_ifs at hq
  · exact .inl (Option.some.inj hq).symm
  · exact .inr ⟨q, hq, rfl, rfl, rfl⟩

lemma stems_applyRows {rows : List (ℤ × JournalRow)} {c s : Replica σ} {j : Journal}
    {new : JournalRow → Prop} (hnew : ∀ r, new r → new { r with appliedAt := true })
    (hc : j.Stems c.journal new) (hs : j.Stems s.journal new) :
    j.Stems (applyRows applyRow rows c s).1.journal new := by
  induction rows generalizing c s with
  | nil => exact hs
  | cons kr rest ih =>
    obtain ⟨k, r⟩ := kr
    simp only [applyRows]
    cases applyRow r.entry s.data with
    | none => exact hc
    | some dc =>
      have hs' : j.Stems (s.journal.markApplied k) new := by
        intro l q hq
        rw [lookup_markApplied] at hq
        obtain ⟨q', hq', rfl⟩ := Option.map_eq_some_iff.mp hq
        rcases hs l q' hq' with h | ⟨q'', h, hck, hrc, hrp⟩
        · left
          split_ifs
          · exact hnew _ h
          · exact h
        · right
          refine ⟨q'', h, ?_⟩
          split_ifs <;> exact ⟨hck, hrc, hrp⟩
      refine ih ?_ hs'
      split_ifs
      · exact hs
      · exact hc

/-- What the handler adds is marked as received and as replicated. -/
lemma stems_haReplicate (s : Replica σ) (p : ReplicationPayload) :
    s.journal.Stems (haReplicate sha applyRow s p).1.journal fun r =>
      r.received = true ∧ r.replicatedAt = true ∧ r.checksum = p.checksum := by
  have hrefl : ∀ new, s.journal.Stems s.journal new :=
    fun _ k r h => .inr ⟨r, h, rfl, rfl, rfl⟩
  unfold haReplicate
  split_ifs
  · exact hrefl _
  · exact hrefl _
  · have h : s.journal.Stems (s.journal.receive p) fun r =>
        r.received = true ∧ r.replicatedAt = true ∧ r.checksum = p.checksum := by
      intro k r hr
      rcases stems_insertOrIgnore _ _ _ k r hr with rfl | hold
      · exact .inl ⟨rfl, rfl, rfl⟩
      · exact .inr hold
    exact stems_applyRows (fun _ h => h) h h

/-! ### What a batch writes -/

variable (applyRow)

/-- The rows of a batch whose writes last, and whether the batch ends well: all of them, or
those up to the last commit before a row raises. -/
def durable : List (ℤ × JournalRow) → σ → List (ℤ × JournalRow) × Bool
  | [], _ => ([], true)
  | r :: rest, d =>
    match applyRow r.2.entry d with
    | none => ([], false)
    | some (d', commits) =>
      if (durable rest d').2 || commits || !(durable rest d').1.isEmpty then
        (r :: (durable rest d').1, (durable rest d').2)
      else ([], false)

/-- The data after the rows, one after the other. -/
def runRows (rows : List (ℤ × JournalRow)) (d : σ) : σ :=
  rows.foldl (fun d r => ((applyRow r.2.entry d).map Prod.fst).getD d) d

variable {applyRow}

lemma durable_subset (rows : List (ℤ × JournalRow)) (d : σ) :
    (durable applyRow rows d).1 ⊆ rows := by
  induction rows generalizing d with
  | nil => simp [durable]
  | cons r rest ih =>
    simp only [durable]
    split
    · simp
    · split_ifs
      · exact List.cons_subset_cons _ (ih _)
      · simp

lemma durable_cons_some {r : ℤ × JournalRow} {rest : List (ℤ × JournalRow)} {d d' : σ}
    {commits : Bool} (ha : applyRow r.2.entry d = some (d', commits)) :
    durable applyRow (r :: rest) d =
      if (durable applyRow rest d').2 || commits || !(durable applyRow rest d').1.isEmpty then
        (r :: (durable applyRow rest d').1, (durable applyRow rest d').2)
      else ([], false) := by
  simp [durable, ha]

lemma runRows_cons {r : ℤ × JournalRow} {ds : List (ℤ × JournalRow)} {d d' : σ} {commits : Bool}
    (ha : applyRow r.2.entry d = some (d', commits)) :
    runRows applyRow (r :: ds) d = runRows applyRow ds d' := by
  simp [runRows, ha]

lemma applyRows_data (rows : List (ℤ × JournalRow)) (c s : Replica σ) :
    (applyRows applyRow rows c s).1.data =
      if (durable applyRow rows s.data).1 = [] ∧ (durable applyRow rows s.data).2 = false then
        c.data
      else runRows applyRow (durable applyRow rows s.data).1 s.data := by
  induction rows generalizing c s with
  | nil => simp [applyRows, durable, runRows]
  | cons r rest ih =>
    rcases Option.eq_none_or_eq_some (applyRow r.2.entry s.data) with ha | ⟨⟨d, commits⟩, ha⟩
    · simp [applyRows, durable, ha]
    · simp only [applyRows, ha, ih, durable_cons_some ha]
      cases hds : (durable applyRow rest d).1 with
      | cons x xs => simp [runRows_cons ha]
      | nil =>
        cases (durable applyRow rest d).2 with
        | true => simp [runRows_cons ha]
        | false =>
          cases commits with
          | true => simp [runRows, ha]
          | false => simp

/-- What a batch leaves of the data is what its durable rows make of it. -/
lemma applyPending_data (limit : ℕ) (s : Replica σ) : (applyPending applyRow limit s).1.data =
    runRows applyRow
      (durable applyRow (s.journal.unapplied.take (max 1 (min limit 1000))) s.data).1 s.data := by
  rw [applyPending, applyRows_data]
  split_ifs with h
  · rw [h.1]
    rfl
  · rfl

end Handler

end OnAir.ReplicationJournal
