import OnAir.ChangeSequence

/-!
Where rows stand after they were moved, or put before another.

A move lays out all active rows anew. An insertion only shifts positions, so it depends on how the
positions lie: rows may share one, and the order then goes by id.
-/

namespace OnAir.QueueEdits

open ActiveRows ChangeSequence PlayoutTables QueueRepository SweeperQueue OnAir.Table

/-- The ids of the active rows, in their order. -/
def activeIds (st : ℤ) (s : Engine) : List ℤ := (listActiveOrdered st s).map Prod.fst

/-! ### Moving a pending row -/

/-- All of a row but its position. -/
def content (r : QueueItem) : QueueItem := { r with position := 0 }

/-- The row stands at the index, the other active rows of the station keep their order and all rows
what is in them; rows of other stations, and those that are not active, stay as they are. -/
structure Moved (st itemId toIndex : ℤ) (s t : Engine) : Prop where
  nonneg : 0 ≤ toIndex
  stands : (activeIds st t)[toIndex.toNat]? = some itemId
  others : (activeIds st t).filter (· ≠ itemId) = (activeIds st s).filter (· ≠ itemId)
  contents : ∀ id : ℤ, t.queueItems[id]?.map content = s.queueItems[id]?.map content
  aside : ∀ id : ℤ, id ∉ activeIds st s → t.queueItems[id]? = s.queueItems[id]?

section Move

variable {digest : String → String} {st itemId toIndex id : ℤ} {expected : String} {s t : Engine}

/-- Rows that get new positions keep the rest, and the other rows all of it. -/
lemma lookup_positions (l : List (ℤ × ℕ)) (s : Engine) (id : ℤ) :
    let t := l.foldl (fun s r => updateQueue r.1 (fun q => { q with position := r.2 }) s) s
    t.queueItems[id]?.map content = s.queueItems[id]?.map content ∧
      (id ∉ l.map Prod.fst → t.queueItems[id]? = s.queueItems[id]?) := by
  induction l generalizing s with
  | nil => exact ⟨rfl, fun _ => rfl⟩
  | cons r l ih =>
    obtain ⟨hcontent, hrest⟩ := ih (updateQueue r.1 (fun q => { q with position := r.2 }) s)
    rw [List.foldl_cons]
    refine ⟨hcontent.trans ?_, fun hid => (hrest fun hmem => hid (by simp [hmem])).trans ?_⟩
    · rw [updateQueue, lookup_modify]
      split_ifs
      · rw [Option.map_map]
        rfl
      · rfl
    · rw [updateQueue, lookup_modify, if_neg fun he => hid (by simp [he])]

lemma lookup_setPositions (ids : List ℤ) (s : Engine) (id : ℤ) :
    (setPositions ids s).queueItems[id]?.map content = s.queueItems[id]?.map content ∧
      (id ∉ ids → (setPositions ids s).queueItems[id]? = s.queueItems[id]?) := by
  have h := lookup_positions (ids.zipIdx 1) s id
  rwa [List.zipIdx_map_fst] at h

lemma filter_insertIdx {α : Type*} {p : α → Bool} {a : α} (ha : p a = false) (n : ℕ) (l : List α) :
    (l.insertIdx n a).filter p = l.filter p := by
  induction n generalizing l with
  | zero => simp [ha]
  | succ n ih =>
    cases l with
    | nil => rfl
    | cons b l => rw [List.insertIdx_succ_cons, List.filter_cons, List.filter_cons, ih]

/-- A row that is moved stands at the target, and the others follow each other as before. -/
lemma moveRow_ids {rows : List Row} {start target : ℕ} (hs : (rows.map Prod.fst)[start]? = some id)
    (ht : target < rows.length) :
    ((moveRow start target rows).map Prod.fst)[target]? = some id ∧
      ((moveRow start target rows).map Prod.fst).filter (· ≠ id) =
        (rows.map Prod.fst).filter (· ≠ id) := by
  rw [List.getElem?_map] at hs
  obtain ⟨row, hrow, rfl⟩ := Option.map_eq_some_iff.mp hs
  have hstart : start < rows.length := (List.getElem?_eq_some_iff.mp hrow).1
  have hlen : target ≤ (rows.eraseIdx start).length := by
    rw [List.length_eraseIdx_of_lt hstart]
    omega
  have hsplit : rows = rows.take start ++ row :: rows.drop (start + 1) := by
    rw [← (List.getElem?_eq_some_iff.mp hrow).2, List.getElem_cons_drop hstart,
      List.take_append_drop]
  rw [moveRow, hrow]
  dsimp only
  refine ⟨by rw [List.getElem?_map, List.getElem?_insertIdx_self, if_pos hlen, Option.map_some], ?_⟩
  have herase : ((rows.eraseIdx start).map Prod.fst).filter (· ≠ row.1) =
      (rows.map Prod.fst).filter (· ≠ row.1) := by
    conv_rhs => rw [hsplit]
    rw [List.eraseIdx_eq_take_drop_succ]
    simp
  rw [← herase, List.map_insertIdx]
  exact filter_insertIdx (by simp) _ _

/-- A change of a setting shows in no row. -/
lemma Moved.bump (h : Moved st itemId toIndex s t) :
    Moved st itemId toIndex s (bumpChangeSequence st t) :=
  ⟨h.nonneg, h.stands, h.others, h.contents, h.aside⟩

lemma activeIds_setPositions {rows : List Row} (h : rows.Perm (listActiveOrdered st s)) :
    activeIds st (setPositions (rows.map Prod.fst) s) = rows.map Prod.fst := by
  rw [activeIds, ← keys_map_fst, keys_setPositions h, layout_rows_ids]

lemma moved_setPositions {start target : ℕ} (hs : (activeIds st s)[start]? = some id)
    (ht : target < (listActiveOrdered st s).length) : Moved st id target s
      (setPositions ((moveRow start target (listActiveOrdered st s)).map Prod.fst) s) := by
  have hstart : start < (listActiveOrdered st s).length := by
    have hlt := (List.getElem?_eq_some_iff.mp hs).1
    rwa [activeIds, List.length_map] at hlt
  have hperm := moveRow_perm hstart ht
  obtain ⟨hstands, hothers⟩ := moveRow_ids hs ht
  rw [← activeIds_setPositions hperm] at hstands hothers
  refine ⟨Int.natCast_nonneg _, hstands, hothers, fun id => (lookup_setPositions _ _ _).1,
    fun id hid => (lookup_setPositions _ _ _).2 ?_⟩
  rwa [((hperm.map Prod.fst).mem_iff)]

/-- **A move puts the row where it was asked to**, and changes only positions of active rows;
what is not moved leaves the queue as it is. -/
theorem movePendingItem_moves (digest : String → String) (st itemId toIndex : ℤ)
    (expected : String) (s : Engine) :
    match movePendingItem digest st itemId expected s toIndex with
    | (t, .ok) => Moved st itemId toIndex s t
    | (t, _) => t = s := by
  unfold movePendingItem
  dsimp only
  by_cases hrevision : activeRevision digest (listActiveOrdered st s) ≠ expected
  · rw [if_pos hrevision]
  rw [if_neg hrevision]
  cases hfound : (listActiveOrdered st s).findIdx? fun r => r.1 = itemId with
  | none => rfl
  | some start =>
    obtain ⟨hlt, hid, -⟩ := List.findIdx?_eq_some_iff_getElem.mp hfound
    have hstands : (activeIds st s)[start]? = some itemId := by
      rw [activeIds, List.getElem?_map, List.getElem?_eq_getElem hlt, Option.map_some,
        of_decide_eq_true hid]
    dsimp only
    split_ifs with _ hinvalid hsame
    · rfl
    · rfl
    · exact ⟨hsame ▸ Int.natCast_nonneg _, by rw [← hsame]; exact hstands, rfl, fun _ => rfl,
        fun _ _ => rfl⟩
    · simp only [Bool.or_eq_true, decide_eq_true_eq, not_or, not_lt, Bool.not_eq_true',
        Bool.not_eq_false] at hinvalid
      obtain ⟨hnonneg, htarget⟩ := hinvalid
      obtain ⟨q, hq, -⟩ := (Option.any_eq_true ..).mp htarget
      have hmoved := moved_setPositions hstands (List.getElem?_eq_some_iff.mp hq).1
      rw [Int.toNat_of_nonneg hnonneg] at hmoved
      exact hmoved.bump

end Move

/-! ### Inserting before a row -/

section Insertion

/-- The new row comes right before the other, and all others follow each other as before. -/
structure PutBefore (st before new : ℤ) (s t : Engine) : Prop where
  adjacent : ∃ l₁ l₂, activeIds st t = l₁ ++ new :: before :: l₂
  others : (activeIds st t).filter (· ≠ new) = activeIds st s

variable (st before trackId : ℤ) (key : Option String) (statuses : List ItemStatus) (s : Engine)

/-- A row that is created is put before the other, and where none is created nothing changes. -/
def InsertsBefore : Prop :=
  match insertBeforeItemOrGetExisting st before trackId key statuses s with
  | (t, some (new, true)) => PutBefore st before new s t
  | (t, _) => t = s

/-- No row has the key: none of the statuses that are looked at, and no active one. -/
def Creates : Prop :=
  findExisting st s key statuses = none ∧ dedupeTaken s (newItem st trackId 0 key) = false

/-- The row stands at a position other than `0`, and first of the active rows that share it. -/
def StandsFirst : Prop :=
  ∀ target, s.queueItems[before]? = some target → target.position ≠ 0 ∧
    ∀ (id : ℤ) (r : QueueItem), s.queueItems[id]? = some r → r.stationId = st →
      isActive r.status = true → r.position = target.position → before ≤ id

variable {st before trackId key statuses s} {id pos : ℤ}

lemma entry_shiftPositions : entry st (shiftPositions st pos s) id =
    (entry st s id).map fun e => if pos ≤ e.1 then (e.1 + 1, e.2) else e := by
  rw [entry, entry, shiftPositions, Std.ExtTreeMap.getElem?_map, Option.bind_map,
    Option.map_bind]
  refine Option.bind_congr fun r _ => ?_
  unfold entryOf
  by_cases hactive : (r.stationId = st && isActive r.status) = true
  · by_cases hpos : pos ≤ r.position
    · simp [Function.comp, hactive, hpos]
    · simp [Function.comp, hactive, hpos]
  · simp [Function.comp, hactive]

lemma filter_split {α : Type*} {f : α → ℤ} {l : List α} (h : l.Pairwise fun a b => f a ≤ f b)
    (c : ℤ) : l = l.filter (f · < c) ++ l.filter (c ≤ f ·) := by
  induction l with
  | nil => rfl
  | cons a l ih =>
    obtain ⟨ha, hl⟩ := List.pairwise_cons.mp h
    rcases lt_or_ge (f a) c with hlt | hge
    · simp [hlt, not_le.mpr hlt, ← ih hl]
    · have hnone : l.filter (f · < c) = [] := List.filter_eq_nil_iff.mpr fun b hb => by
        have := ha b hb
        simp only [decide_eq_true_eq]
        omega
      have hall : l.filter (c ≤ f ·) = l := List.filter_eq_self.mpr fun b hb => by
        have := ha b hb
        simp only [decide_eq_true_eq]
        omega
      simp [hge, not_lt.mpr hge, hnone, hall]

/-- The active rows once a row was put at a position and all from there on have moved. -/
lemma keys_insertShifted {row : QueueItem} (hst : row.stationId = st)
    (hstatus : row.status = .pending) (hpos : row.position = pos) :
    keys st (insertQueue row (shiftPositions st pos s)) =
      (keys st s).filter (·.2.1 < pos) ++ (nextId s.queueItems, pos, .pending) ::
        ((keys st s).filter (pos ≤ ·.2.1)).map fun k => (k.1, k.2.1 + 1, k.2.2) := by
  have hids : ∀ k ∈ keys st s, k.1 < nextId s.queueItems := fun k hk => by
    obtain ⟨r, hr, -⟩ := Option.bind_eq_some_iff.mp (mem_keys.mp hk)
    exact lt_nextId hr
  have hentry : ∀ id, entry st (insertQueue row (shiftPositions st pos s)) id =
      if id = nextId s.queueItems then some (pos, .pending)
      else (entry st s id).map fun e => if pos ≤ e.1 then (e.1 + 1, e.2) else e := by
    intro id
    have hnew : entryOf st row = some (pos, .pending) := by
      simp [entryOf, hst, hstatus, hpos, isActive]
    rw [entry_insertQueue, hnew, entry_shiftPositions]
    simp only [shiftPositions, nextId_map]
  symm
  refine eq_keys ?_ fun k => ?_
  · refine List.pairwise_append.mpr ⟨(keys_sorted st s).filter _, List.pairwise_cons.mpr
      ⟨fun k hk => ?_, List.pairwise_map.mpr (((keys_sorted st s).filter _).imp fun h => ?_)⟩,
      fun k hk k' hk' => ?_⟩
    · obtain ⟨k₀, hk₀, rfl⟩ := List.mem_map.mp hk
      have hle : pos ≤ k₀.2.1 := by simpa using (List.mem_filter.mp hk₀).2
      exact .inl (by dsimp only; omega)
    · unfold Before at h ⊢
      dsimp only
      omega
    · have hlt : k.2.1 < pos := by simpa using (List.mem_filter.mp hk).2
      rcases List.mem_cons.mp hk' with rfl | hk'
      · exact .inl hlt
      · obtain ⟨k₀, hk₀, rfl⟩ := List.mem_map.mp hk'
        have hle : pos ≤ k₀.2.1 := by simpa using (List.mem_filter.mp hk₀).2
        exact .inl (by dsimp only; omega)
  · rw [hentry, List.mem_append, List.mem_cons, List.mem_map, List.mem_filter, mem_keys]
    split_ifs with hid
    · constructor
      · rintro (⟨hk, -⟩ | rfl | ⟨k₀, hk₀, rfl⟩)
        · exact absurd hid (hids k (mem_keys.mpr hk)).ne
        · rfl
        · exact absurd hid (hids k₀ (List.mem_filter.mp hk₀).1).ne
      · intro hk
        exact .inr (.inl (Prod.ext hid (Option.some.inj hk).symm))
    · constructor
      · rintro (⟨hk, hlt⟩ | rfl | ⟨k₀, hk₀, rfl⟩)
        · have hlt' : ¬ pos ≤ k.2.1 := by simpa using hlt
          rw [hk, Option.map_some, if_neg hlt']
        · exact absurd rfl hid
        · obtain ⟨hmem, hle⟩ := List.mem_filter.mp hk₀
          rw [mem_keys.mp hmem, Option.map_some, if_pos (by simpa using hle)]
      · intro hk
        obtain ⟨e, he, heq⟩ := Option.map_eq_some_iff.mp hk
        split_ifs at heq with hle
        · refine .inr (.inr ⟨(k.1, e), List.mem_filter.mpr ⟨mem_keys.mpr he, ?_⟩, ?_⟩)
          · simpa using hle
          · exact Prod.ext rfl heq
        · subst heq
          exact .inl ⟨he, by simpa using hle⟩

/-- The rows before a position, and those from it on. -/
lemma activeIds_split (st pos : ℤ) (s : Engine) : activeIds st s =
    ((keys st s).filter (·.2.1 < pos)).map Prod.fst ++
      ((keys st s).filter (pos ≤ ·.2.1)).map Prod.fst := by
  have hsorted : (keys st s).Pairwise fun a b => a.2.1 ≤ b.2.1 :=
    (keys_sorted st s).imp fun h => by
      unfold Before at h
      omega
  rw [activeIds, ← keys_map_fst, ← List.map_append, ← filter_split hsorted]

lemma activeIds_insertShifted {row : QueueItem} (hst : row.stationId = st)
    (hstatus : row.status = .pending) (hpos : row.position = pos) :
    activeIds st (insertQueue row (shiftPositions st pos s)) =
      ((keys st s).filter (·.2.1 < pos)).map Prod.fst ++ nextId s.queueItems ::
        ((keys st s).filter (pos ≤ ·.2.1)).map Prod.fst := by
  rw [activeIds, ← keys_map_fst, keys_insertShifted hst hstatus hpos, List.map_append,
    List.map_cons, List.map_map]
  rfl

/-- Where the new row is put before the other: that one is the first of the rows that move. -/
lemma putBefore_iff {row : QueueItem} (hst : row.stationId = st) (hstatus : row.status = .pending)
    (hpos : row.position = pos) :
    PutBefore st before (nextId s.queueItems) s (insertQueue row (shiftPositions st pos s)) ↔
      (((keys st s).filter (pos ≤ ·.2.1)).map Prod.fst).head? = some before := by
  have hids := activeIds_insertShifted (s := s) hst hstatus hpos
  have hsplit := activeIds_split st pos s
  generalize ((keys st s).filter (·.2.1 < pos)).map Prod.fst = below at hids hsplit
  generalize ((keys st s).filter (pos ≤ ·.2.1)).map Prod.fst = above at hids hsplit ⊢
  have hnew : nextId s.queueItems ∉ below ++ above := fun hmem => by
    rw [← hsplit, activeIds] at hmem
    obtain ⟨r, hr, hid⟩ := List.mem_map.mp hmem
    exact absurd hid (lt_nextId (mem_listActiveOrdered.mp hr).1).ne
  rw [List.mem_append, not_or] at hnew
  constructor
  · rintro ⟨⟨l₁, l₂, hadj⟩, -⟩
    have hnodup : (activeIds st (insertQueue row (shiftPositions st pos s))).Nodup :=
      nodup_ids st _
    rw [hids] at hadj hnodup
    have hl₁ : nextId s.queueItems ∉ l₁ := by
      rw [hadj] at hnodup
      exact fun hmem => (List.disjoint_of_nodup_append hnodup) hmem List.mem_cons_self
    obtain ⟨-, habove⟩ := TextFields.split_first hnew.1 hl₁ hadj
    rw [habove, List.head?_cons]
  · intro hhead
    obtain ⟨l₂, rfl⟩ := List.head?_eq_some_iff.mp hhead
    refine ⟨⟨below, l₂, hids⟩, ?_⟩
    have hother : ∀ l : List ℤ, nextId s.queueItems ∉ l →
        l.filter (· ≠ nextId s.queueItems) = l := fun l hl =>
      List.filter_eq_self.mpr fun id hid => decide_eq_true fun he => hl (he ▸ hid)
    rw [hids, hsplit, List.filter_append, List.filter_cons, hother _ hnew.1, hother _ hnew.2]
    simp

/-- The row is the first of those that move if and only if it stands first at its position. -/
lemma head_iff {target : QueueItem} (hrow : s.queueItems[before]? = some target)
    (hst : target.stationId = st) (hactive : isActive target.status = true) :
    (((keys st s).filter ((if target.position = 0 then 1 else target.position) ≤ ·.2.1)).map
      Prod.fst).head? = some before ↔ StandsFirst st before s := by
  have hkey : (before, target.position, target.status) ∈ keys st s := by
    rw [mem_keys, entry, hrow, Option.bind_some, entryOf, hst, hactive]
    simp
  have hsorted := (keys_sorted st s).filter
    ((if target.position = 0 then 1 else target.position) ≤ ·.2.1)
  constructor
  · intro hhead target' hrow'
    obtain rfl : target = target' := Option.some.inj (hrow.symm.trans hrow')
    rw [List.head?_map] at hhead
    obtain ⟨k, hk, hid⟩ := Option.map_eq_some_iff.mp hhead
    obtain ⟨rest, hfilter⟩ := List.head?_eq_some_iff.mp hk
    have hmem : k ∈ (keys st s).filter
        ((if target.position = 0 then 1 else target.position) ≤ ·.2.1) := by
      rw [hfilter]
      exact List.mem_cons_self
    obtain ⟨hk, hpos⟩ := List.mem_filter.mp hmem
    have hsame : k.2 = (target.position, target.status) :=
      Option.some.inj ((mem_keys.mp hk).symm.trans (hid ▸ mem_keys.mp hkey))
    rw [decide_eq_true_eq, hsame] at hpos
    dsimp only at hpos
    have hnonzero : target.position ≠ 0 := fun h0 => by
      rw [if_pos h0, h0] at hpos
      omega
    refine ⟨hnonzero, fun id r hr hrst hract hrpos => ?_⟩
    have htie : (id, r.position, r.status) ∈ (keys st s).filter
        ((if target.position = 0 then 1 else target.position) ≤ ·.2.1) := by
      refine List.mem_filter.mpr ⟨?_, ?_⟩
      · rw [mem_keys, entry, hr, Option.bind_some, entryOf, hrst, hract]
        simp
      · simp [hnonzero, hrpos]
    rw [hfilter] at htie hsorted
    rcases List.mem_cons.mp htie with heq | htie
    · rw [← hid, ← heq]
    · have hbefore := (List.pairwise_cons.mp hsorted).1 _ htie
      unfold Before at hbefore
      rw [hsame, hid] at hbefore
      dsimp only at hbefore
      omega
  · intro hfirst
    obtain ⟨hnonzero, hties⟩ := hfirst target hrow
    rw [if_neg hnonzero] at hsorted ⊢
    have hmem : (before, target.position, target.status) ∈
        (keys st s).filter (target.position ≤ ·.2.1) :=
      List.mem_filter.mpr ⟨hkey, by simp⟩
    cases hfilter : (keys st s).filter (target.position ≤ ·.2.1) with
    | nil => rw [hfilter] at hmem; cases hmem
    | cons k rest =>
      rw [hfilter] at hmem hsorted
      rw [List.map_cons, List.head?_cons]
      rcases List.mem_cons.mp hmem with heq | hmem
      · rw [← heq]
      · have hbefore := (List.pairwise_cons.mp hsorted).1 _ hmem
        have hk : k ∈ (keys st s).filter (target.position ≤ ·.2.1) := by
          rw [hfilter]
          exact List.mem_cons_self
        obtain ⟨hk, hle⟩ := List.mem_filter.mp hk
        rw [decide_eq_true_eq] at hle
        unfold Before at hbefore
        dsimp only at hbefore
        obtain ⟨r, hr, he⟩ := Option.bind_eq_some_iff.mp (mem_keys.mp hk)
        unfold entryOf at he
        split_ifs at he with hactive'
        simp only [Bool.and_eq_true, decide_eq_true_eq] at hactive'
        have hpos : r.position = k.2.1 := congrArg Prod.fst (Option.some.inj he)
        have hle' := hties k.1 r hr hactive'.1 hactive'.2 (by omega)
        omega

lemma find_row {target : QueueItem} (hrow : s.queueItems[before]? = some target)
    (hst : target.stationId = st) (hactive : isActive target.status = true) :
    ((queueRows st s [.pending, .playing]).find? fun r => r.1 = before) =
      some (before, target) := by
  have hmem : (before, target) ∈ queueRows st s [.pending, .playing] :=
    List.mem_filter.mpr ⟨mem_rows.mpr hrow, by simpa [hst, isActive] using hactive⟩
  cases hfind : (queueRows st s [.pending, .playing]).find? fun r => r.1 = before with
  | none => exact absurd (decide_eq_true rfl) (List.find?_eq_none.mp hfind _ hmem)
  | some r =>
    have hid : r.1 = before := by simpa using List.find?_some hfind
    have hr := mem_rows.mp (List.mem_filter.mp (List.mem_of_find?_eq_some hfind)).1
    rw [hid, hrow] at hr
    rw [← hid, Option.some.inj hr]

lemma dedupeTaken_newItem (pos : ℤ) :
    dedupeTaken s (newItem st trackId pos key) = dedupeTaken s (newItem st trackId 0 key) := rfl

/-- **A row is inserted before another** if and only if that one stands at a position other than
`0` and first of the active rows that share it, or no row is inserted. -/
theorem insertsBefore_iff (h : before ∈ activeIds st s) :
    InsertsBefore st before trackId key statuses s ↔
      (Creates st trackId key statuses s → StandsFirst st before s) := by
  obtain ⟨⟨id, target⟩, hmem, hid⟩ := List.mem_map.mp h
  obtain rfl : id = before := hid
  obtain ⟨hrow, hst, hactive⟩ := mem_listActiveOrdered.mp hmem
  unfold InsertsBefore insertBeforeItemOrGetExisting Creates
  cases hfound : findExisting st s key statuses with
  | some r => exact iff_of_true rfl (by simp)
  | none =>
    have htarget : ((queueRows st s [.pending, .playing]).find? fun r => r.1 = id) =
        some (id, target) := find_row hrow hst hactive
    rw [htarget]
    dsimp only
    rw [dedupeTaken_newItem]
    cases htaken : dedupeTaken s (newItem st trackId 0 key) with
    | true => exact iff_of_true rfl (by simp)
    | false =>
      simp only [Bool.false_eq_true, if_false, true_and, forall_const]
      refine Iff.trans ?_ (head_iff hrow hst hactive)
      exact putBefore_iff rfl rfl rfl

/-- Two songs that wait share the position `pos`. -/
def tiedSongs (pos : ℤ) : Engine :=
  { Engine.empty with
    queueItems := ((∅ : Table QueueItem).insert 1 (newItem 1 10 1 none)).insert 2
      (newItem 1 20 pos none) }

lemma second_active (pos : ℤ) : (2 : ℤ) ∈ activeIds 1 (tiedSongs pos) := by
  have hrow : (tiedSongs pos).queueItems[(2 : ℤ)]? = some (newItem 1 20 pos none) := by
    rw [tiedSongs, lookup_insert, if_pos rfl]
  exact List.mem_map.mpr ⟨(2, _), mem_listActiveOrdered.mpr ⟨hrow, rfl, rfl⟩, rfl⟩

/-- What is put before the second song comes before the first, and so not right before it. -/
theorem inserted_before_tie : (2 : ℤ) ∈ activeIds 1 (tiedSongs 1) ∧
    ¬ InsertsBefore 1 2 30 none [.pending, .playing] (tiedSongs 1) := by
  refine ⟨second_active 1, fun h => ?_⟩
  have hnew : (insertBeforeItemOrGetExisting 1 2 30 none [.pending, .playing]
      (tiedSongs 1)).2 = some (3, true) := by decide +kernel
  have hids : activeIds 1 (insertBeforeItemOrGetExisting 1 2 30 none [.pending, .playing]
      (tiedSongs 1)).1 = [3, 1, 2] := by decide +kernel
  unfold InsertsBefore at h
  rcases hr : insertBeforeItemOrGetExisting 1 2 30 none [.pending, .playing] (tiedSongs 1) with
    ⟨t, r⟩
  rw [hr] at h hnew hids
  obtain rfl : r = some (3, true) := hnew
  obtain ⟨l₁, l₂, hadj⟩ := (show PutBefore 1 2 3 (tiedSongs 1) t from h).adjacent
  rw [show activeIds 1 t = [3, 1, 2] from hids] at hadj
  have hlength := congrArg List.length hadj
  rcases l₁ with _ | ⟨a, _ | ⟨b, l₁⟩⟩
  · simp at hadj
  · simp at hadj
  · simp only [List.length_append, List.length_cons, List.length_nil] at hlength
    omega

/-- Where the second song stands at a position of its own, the row is put before it. -/
theorem insertsBefore_songs : InsertsBefore 1 2 30 none [.pending, .playing] (tiedSongs 2) := by
  refine (insertsBefore_iff (second_active 2)).mpr fun _ target htarget => ?_
  rw [tiedSongs, lookup_insert, if_pos rfl] at htarget
  obtain rfl := Option.some.inj htarget
  refine ⟨by decide, fun id r hr _ _ hpos => ?_⟩
  rw [tiedSongs, lookup_insert, lookup_insert] at hr
  split_ifs at hr with h2 h1
  · exact h2.ge
  · obtain rfl := Option.some.inj hr
    exact absurd hpos (by decide)
  · simp at hr

end Insertion

end OnAir.QueueEdits
