import OnAir.QueueRepository

/-!
The active rows of a station, as the revision shows them: in their order, with their positions and
their statuses.

Two databases show the same active rows if and only if they agree on each id.
-/

namespace OnAir.ActiveRows

open PlayoutTables QueueRepository OnAir.Table TextFields

abbrev Row := ℤ × QueueItem

/-! ### The text under a revision -/

section Revision

variable {r r' : Row} {l l' : List Row}

/-- What the revision holds of a row. -/
def key (r : Row) : ℤ × ℤ × ItemStatus := (r.1, r.2.position, r.2.status)

lemma toList_rowText (r : Row) : (rowText r).toList = (toString r.1).toList ++
    ':' :: ((toString r.2.position).toList ++ ':' :: (ItemStatus.text r.2.status).toList) := by
  simp only [rowText, String.toList_append, List.append_assoc]
  rfl

lemma text_injective : Function.Injective ItemStatus.text := by
  intro a b h
  cases a <;> cases b <;> first | rfl | exact absurd h (by decide)

lemma key_eq_of_rowText (h : rowText r = rowText r') : key r = key r' := by
  have hlist := congrArg String.toList h
  rw [toList_rowText, toList_rowText] at hlist
  have hno : ∀ n : ℤ, ':' ∉ (toString n).toList := fun n => notMem_toString (by decide) (by decide)
  obtain ⟨hid, hlist⟩ := split_first (hno _) (hno _) hlist
  obtain ⟨hpos, hstatus⟩ := split_first (hno _) (hno _) hlist
  have hid' : r.1 = r'.1 := toString_injective (String.toList_inj.mp hid)
  have hpos' : r.2.position = r'.2.position := toString_injective (String.toList_inj.mp hpos)
  have hstatus' : r.2.status = r'.2.status := text_injective (String.toList_inj.mp hstatus)
  rw [key, key, hid', hpos', hstatus']

lemma bar_rowText (r : Row) : '|' ∉ (rowText r).toList ∧ (rowText r).toList ≠ [] := by
  have hno : ∀ n : ℤ, '|' ∉ (toString n).toList := fun n => notMem_toString (by decide) (by decide)
  have hstatus : '|' ∉ (ItemStatus.text r.2.status).toList := by
    cases r.2.status <;> decide
  rw [toList_rowText]
  refine ⟨?_, by simp⟩
  simp only [List.mem_append, List.mem_cons, not_or]
  exact ⟨hno _, by decide, hno _, by decide, hstatus⟩

/-- Rows with one text under their revision agree in all that it holds. -/
lemma keys_eq_of_material (h : material l = material l') : l.map key = l'.map key := by
  have hlist := congrArg String.toList h
  rw [material, material, String.toList_intercalate, String.toList_intercalate, List.map_map,
    List.map_map] at hlist
  have hfields : ∀ l : List Row, ∀ cs ∈ l.map (String.toList ∘ rowText), '|' ∉ cs ∧ cs ≠ [] := by
    intro l cs hcs
    obtain ⟨r, -, rfl⟩ := List.mem_map.mp hcs
    exact bar_rowText r
  have hmap := intercalate_inj (hfields l) (hfields l') hlist
  clear hlist h
  induction l generalizing l' with
  | nil => cases l' <;> simp_all
  | cons r l ih =>
    cases l' with
    | nil => simp at hmap
    | cons r' l' =>
      obtain ⟨hr, hl⟩ := List.cons.inj hmap
      rw [List.map_cons, List.map_cons, key_eq_of_rowText (String.toList_inj.mp hr), ih hl]

/-- The text under a revision holds nothing else. -/
lemma material_eq_of_keys (h : l.map key = l'.map key) : material l = material l' := by
  have htext : ∀ l : List Row, l.map rowText = (l.map key).map fun k =>
      s!"{k.1}:{k.2.1}:{ItemStatus.text k.2.2}" := fun l => by
    rw [List.map_map]
    rfl
  rw [material, material, htext l, htext l', h]

end Revision

/-! ### The active rows, id by id -/

section Entries

/-- The active rows of a station, as the revision shows them. -/
def keys (st : ℤ) (s : Engine) : List (ℤ × ℤ × ItemStatus) := (listActiveOrdered st s).map key

/-- What the revision shows of a row. -/
def entryOf (st : ℤ) (r : QueueItem) : Option (ℤ × ItemStatus) :=
  if r.stationId = st && isActive r.status then some (r.position, r.status) else none

/-- What the revision shows under an id. -/
def entry (st : ℤ) (s : Engine) (id : ℤ) : Option (ℤ × ItemStatus) :=
  s.queueItems[id]?.bind (entryOf st)

variable {st id j : ℤ} {s s' : Engine} {r : Row} {k : ℤ × ℤ × ItemStatus}

lemma mem_listActiveOrdered : r ∈ listActiveOrdered st s ↔
    s.queueItems[r.1]? = some r.2 ∧ r.2.stationId = st ∧ isActive r.2.status := by
  unfold listActiveOrdered queueRows
  rw [Sql.mem_orderBy, List.mem_filter, mem_rows]
  simp [isActive]

/-- The index has the key of a row if and only if an active row of the station has it. -/
lemma dedupeTaken_iff {q : QueueItem} {text : String} (hkey : q.dedupeKey = some text) :
    dedupeTaken s q = true ↔ isActive q.status = true ∧ Sql.nonBlank text = true ∧
      ∃ (id : ℤ) (r : QueueItem), s.queueItems[id]? = some r ∧ r.stationId = q.stationId ∧
        isActive r.status = true ∧ r.dedupeKey = some text := by
  unfold dedupeTaken
  rw [hkey]
  simp only [Bool.and_eq_true, List.any_eq_true, decide_eq_true_eq, queueRows, List.mem_filter,
    Prod.exists, mem_rows, and_assoc]
  refine and_congr_right fun _ => and_congr_right fun _ => exists₂_congr fun id r => ?_
  simp [isActive]

lemma mem_keys : k ∈ keys st s ↔ entry st s k.1 = some k.2 := by
  obtain ⟨id, position, status⟩ := k
  unfold keys entry
  rw [List.mem_map]
  constructor
  · rintro ⟨r, hr, hk⟩
    obtain ⟨hrow, hst, hactive⟩ := mem_listActiveOrdered.mp hr
    obtain ⟨rfl, hrest⟩ := Prod.mk.inj hk
    obtain ⟨rfl, rfl⟩ := Prod.mk.inj hrest
    simp [hrow, entryOf, hst, hactive]
  · intro h
    obtain ⟨r, hr, he⟩ := Option.bind_eq_some_iff.mp h
    unfold entryOf at he
    split_ifs at he with hactive
    obtain ⟨rfl, rfl⟩ := Prod.mk.inj (Option.some.inj he)
    simp only [Bool.and_eq_true, decide_eq_true_eq] at hactive
    exact ⟨(id, r), mem_listActiveOrdered.mpr ⟨hr, hactive⟩, rfl⟩

/-- By position, and then by id. -/
def Before (a b : ℤ × ℤ × ItemStatus) : Prop := a.2.1 < b.2.1 ∨ a.2.1 = b.2.1 ∧ a.1 < b.1

lemma keys_sorted (st : ℤ) (s : Engine) : (keys st s).Pairwise Before := by
  have hids : (queueRows st s [.pending, .playing]).Pairwise fun a b => a.1 < b.1 :=
    (rows_sorted _).filter _
  exact List.pairwise_map.mpr (Sql.orderBy_pairwise (fun r : Row => r.2.position) hids)

lemma Before.irrefl (a : ℤ × ℤ × ItemStatus) : ¬ Before a a := by
  unfold Before
  omega

lemma Before.asymm {a b : ℤ × ℤ × ItemStatus} (h : Before a b) : ¬ Before b a := by
  unfold Before at h ⊢
  omega

/-- Lists in this order are determined by their members. -/
lemma eq_keys {l : List (ℤ × ℤ × ItemStatus)} (hl : l.Pairwise Before)
    (h : ∀ k, k ∈ l ↔ entry st s k.1 = some k.2) : l = keys st s := by
  have : Std.Irrefl Before := ⟨Before.irrefl⟩
  have : Std.Asymm Before := ⟨fun _ _ => Before.asymm⟩
  exact hl.eq_of_mem_iff (keys_sorted st s) fun {k} => (h k).trans mem_keys.symm

/-- The active rows in their order are determined by their membership. -/
lemma eq_listActiveOrdered {l : List Row} (hl : l.Pairwise fun a b => Before (key a) (key b))
    (h : ∀ r, r ∈ l ↔ s.queueItems[r.1]? = some r.2 ∧ r.2.stationId = st ∧
      isActive r.2.status = true) : l = listActiveOrdered st s := by
  have : Std.Irrefl fun a b : Row => Before (key a) (key b) := ⟨fun a => Before.irrefl (key a)⟩
  have : Std.Asymm fun a b : Row => Before (key a) (key b) := ⟨fun _ _ => Before.asymm⟩
  have hsorted : (listActiveOrdered st s).Pairwise fun a b => Before (key a) (key b) :=
    List.pairwise_map.mp (keys_sorted st s)
  exact hl.eq_of_mem_iff hsorted fun {r} => (h r).trans mem_listActiveOrdered.symm

/-- **The revisions are those of the same rows** if and only if each id shows the same. -/
theorem keys_eq_iff : keys st s = keys st s' ↔ ∀ id, entry st s id = entry st s' id := by
  constructor
  · intro h id
    refine Option.ext fun e => ?_
    have hmem : ∀ s, (id, e) ∈ keys st s ↔ entry st s id = some e := fun s => mem_keys
    rw [← hmem s, ← hmem s', h]
  · intro h
    refine eq_keys (keys_sorted st s) fun k => ?_
    rw [mem_keys, h]

lemma nodup_ids (st : ℤ) (s : Engine) : ((listActiveOrdered st s).map Prod.fst).Nodup := by
  have hids : (queueRows st s [.pending, .playing]).Pairwise fun a b => a.1 < b.1 :=
    (rows_sorted _).filter _
  have hnodup : ((queueRows st s [.pending, .playing]).map Prod.fst).Nodup :=
    List.pairwise_map.mpr (hids.imp fun h => h.ne)
  exact (((List.perm_insertionSort ..).map Prod.fst).nodup_iff).mpr hnodup

lemma keys_map_fst : (keys st s).map Prod.fst = (listActiveOrdered st s).map Prod.fst := by
  rw [keys, List.map_map]
  rfl

/-! ### Updates -/

lemma entry_insertQueue (r : QueueItem) : entry st (insertQueue r s) id =
    if id = nextId s.queueItems then entryOf st r else entry st s id := by
  rw [entry, insertQueue, lookup_insert]
  split_ifs <;> rfl

lemma entry_updateQueue (f : QueueItem → QueueItem) : entry st (updateQueue j f s) id =
    if id = j then s.queueItems[id]?.bind fun r => entryOf st (f r) else entry st s id := by
  rw [entry, updateQueue, lookup_modify]
  split_ifs
  · rw [Option.bind_map]
    rfl
  · rfl

lemma entry_deleteRow : entry st (deleteRow j s) id = if id = j then none else entry st s id := by
  rw [entry, deleteRow, lookup_erase]
  split_ifs <;> rfl

/-- A new row at a position beyond all others of the station is the last of the active rows. -/
lemma listActiveOrdered_insertQueue {q : QueueItem} (hst : q.stationId = st)
    (hactive : isActive q.status = true) (hbeyond : ∀ (id : ℤ) (r : QueueItem),
      s.queueItems[id]? = some r → r.stationId = st → r.position < q.position) :
    listActiveOrdered st (insertQueue q s) =
      listActiveOrdered st s ++ [(nextId s.queueItems, q)] := by
  symm
  have hsorted : (listActiveOrdered st s).Pairwise fun a b => Before (key a) (key b) :=
    List.pairwise_map.mp (keys_sorted st s)
  refine eq_listActiveOrdered (List.pairwise_append.mpr ⟨hsorted, List.pairwise_singleton _ _,
    fun a ha b hb => ?_⟩) fun r => ?_
  · obtain rfl := List.mem_singleton.mp hb
    obtain ⟨hrow, hrst, -⟩ := mem_listActiveOrdered.mp ha
    exact .inl (hbeyond a.1 a.2 hrow hrst)
  · rw [List.mem_append, List.mem_singleton, mem_listActiveOrdered, insertQueue, lookup_insert]
    split_ifs with hid
    · constructor
      · rintro (⟨hrow, -⟩ | rfl)
        · exact absurd hid (lt_nextId hrow).ne
        · exact ⟨rfl, hst, hactive⟩
      · exact fun h => .inr (Prod.ext hid (Option.some.inj h.1).symm)
    · exact or_iff_left fun he => hid (he ▸ rfl)

/-- Active rows that differ under an id differ. -/
lemma keys_ne (id : ℤ) (h : entry st s' id ≠ entry st s id) : keys st s' ≠ keys st s := fun hk =>
  h (keys_eq_iff.mp hk id)

end Entries

end OnAir.ActiveRows
