import OnAir.ActiveRows
import OnAir.BroadcastQueue

/-!
`reconcile_pending_sweeper_queue`: the pending jingles go, and the active rows are laid out anew,
the playing ones first, with jingles among the others.

The rows keep their ids, and a jingle that is put gets a new one.
-/

namespace OnAir.SweeperQueue

open ActiveRows BroadcastQueue PlayoutTables QueueRepository OnAir.Table

/-! ### Laying out -/

/-- What comes next: a new jingle, or a row that is there. -/
inductive Slot
  | jingle (trackId : ℤ)
  | row (r : Row)

def Slot.isJingle : Slot → Bool
  | .jingle _ => true
  | .row _ => false

/-- The slots get the positions from `pos` on; `none` where the key of a jingle is taken. -/
def place (st : ℤ) : List Slot → ℤ → Engine → Option Engine
  | [], _, s => some s
  | .jingle trackId :: slots, pos, s =>
    let row := QueueItem.new st trackId pos s!"jingle:{trackId}:{pos}"
    if dedupeTaken s row then none else place st slots (pos + 1) (insertQueue row s)
  | .row r :: slots, pos, s =>
    place st slots (pos + 1) (updateQueue r.1 (fun q => { q with position := pos }) s)

/-- The count of songs after a row of a kind. -/
def countAfter (kind : String) (counter : ℤ) : ℤ :=
  if kind = "jingle" then 0 else if kind = "music" then counter + 1 else counter

/-- The pending rows with the jingles that are due among them. -/
def sweepPlan (st : ℤ) (s : Engine) (interval : ℤ) : List Row → ℤ → List ℤ → List Slot
  | [], _, _ => []
  | r :: rows, counter, used =>
    let kind := kindOf s r.2.trackId
    let due := kind = "music" && decide (interval ≤ counter)
    match if due then pickJingle st s used else none with
    | some jingle =>
      .jingle jingle :: .row r ::
        sweepPlan st s interval rows (countAfter kind 0) (jingle :: used)
    | none => .row r :: sweepPlan st s interval rows (countAfter kind counter) used

/-- The pending rows whose tracks are jingles. -/
def pendingJingles (st : ℤ) (s : Engine) : List Row :=
  (queueRows st s [.pending]).filter fun r => sqlKindOf s r.2.trackId = "jingle"

/-- `DELETE` of the pending jingles. -/
def dropPendingJingles (st : ℤ) (s : Engine) : Engine :=
  { s with queueItems := s.queueItems.filter fun _ r =>
      !(r.stationId = st && r.status = .pending && sqlKindOf s r.trackId = "jingle") }

/-- The slots of the active rows that are left. -/
def slotsOf (st : ℤ) (sweeper : Sweeper) (s : Engine) : List Slot :=
  let rows := listActiveOrdered st s
  let pending := rows.filter fun r => r.2.status = .pending
  let plan := if sweeper.enabled && sweeper.unit = .tracks then
      sweepPlan st s sweeper.interval pending (countMusicSinceLastJingle st s)
        (recentJingleTrackIds st s)
    else pending.map .row
  (rows.filter fun r => r.2.status = .playing).map .row ++ plan

/-- The new layout is committed. -/
def commits (st : ℤ) (sweeper : Sweeper) (s : Engine) : Bool :=
  !(pendingJingles st s).isEmpty ||
    (slotsOf st sweeper (dropPendingJingles st s)).any Slot.isJingle ||
      sweeper.enabled && (sweeper.unit = .minutes ||
        (listActiveOrdered st (dropPendingJingles st s)).all (·.2.status = .playing))

/-- The first transaction of `reconcile_pending_sweeper_queue`; what is not committed, or raises,
is lost. -/
def relayQueue (st : ℤ) (sweeper : Sweeper) (s : Engine) : Engine :=
  match place st (slotsOf st sweeper (dropPendingJingles st s)) 1 (dropPendingJingles st s) with
  | none => s
  | some s' => if commits st sweeper s then s' else s

/-- `reconcile_pending_sweeper_queue`. -/
def reconcilePendingSweeperQueue (st : ℤ) (s : Engine) : Engine :=
  match sweeperSettings st s with
  | .error _ => s
  | .ok sweeper =>
    let laid := relayQueue st sweeper s
    let noPending := (listActiveOrdered st (dropPendingJingles st s)).all (·.2.status = .playing)
    if sweeper.enabled && noPending then ensureReadyForPlayback st laid true else laid

/-! ### The layout -/

/-- What the revision shows of slots that are laid out, where new rows get the ids from `next`
on. -/
def layout : List Slot → ℤ → ℤ → List (ℤ × ℤ × ItemStatus)
  | [], _, _ => []
  | .jingle _ :: slots, pos, next => (next, pos, .pending) :: layout slots (pos + 1) (next + 1)
  | .row r :: slots, pos, next => (r.1, pos, r.2.status) :: layout slots (pos + 1) next

def rowsIn (slots : List Slot) : List Row :=
  slots.filterMap fun
    | .jingle _ => none
    | .row r => some r

section Layout

variable {st pos next id : ℤ} {s s' : Engine} {slots : List Slot} {k : ℤ × ℤ × ItemStatus}

lemma layout_sorted (slots : List Slot) (pos next : ℤ) :
    (layout slots pos next).Pairwise Before ∧ ∀ k ∈ layout slots pos next, pos ≤ k.2.1 := by
  induction slots generalizing pos next with
  | nil => simp [layout]
  | cons slot slots ih =>
    cases slot with
    | jingle trackId =>
      obtain ⟨hsorted, hpos⟩ := ih (pos + 1) (next + 1)
      refine ⟨List.pairwise_cons.mpr ⟨fun k hk => ?_, hsorted⟩, fun k hk => ?_⟩
      · have := hpos k hk
        exact .inl (by dsimp only; omega)
      · rcases List.mem_cons.mp hk with rfl | hk
        · exact le_rfl
        · have := hpos k hk
          omega
    | row r =>
      obtain ⟨hsorted, hpos⟩ := ih (pos + 1) next
      refine ⟨List.pairwise_cons.mpr ⟨fun k hk => ?_, hsorted⟩, fun k hk => ?_⟩
      · have := hpos k hk
        exact .inl (by dsimp only; omega)
      · rcases List.mem_cons.mp hk with rfl | hk
        · exact le_rfl
        · have := hpos k hk
          omega

/-- The ids of a layout are new or those of its rows. -/
lemma layout_ids (hk : k ∈ layout slots pos next) : next ≤ k.1 ∨ ∃ r ∈ rowsIn slots, r.1 = k.1 := by
  induction slots generalizing pos next with
  | nil => simp [layout] at hk
  | cons slot slots ih =>
    cases slot with
    | jingle trackId =>
      rcases List.mem_cons.mp hk with rfl | hk
      · exact .inl le_rfl
      · rcases ih hk with hle | hrow
        · exact .inl (by omega)
        · exact .inr hrow
    | row r =>
      rcases List.mem_cons.mp hk with rfl | hk
      · exact .inr ⟨r, by simp [rowsIn], rfl⟩
      · rcases ih hk with hle | ⟨q, hq, hid⟩
        · exact .inl hle
        · exact .inr ⟨q, List.mem_cons_of_mem _ hq, hid⟩

lemma row_of_rowsIn (pos next : ℤ) (h : id ∈ (rowsIn slots).map Prod.fst) :
    ∃ k ∈ layout slots pos next, k.1 = id := by
  induction slots generalizing pos next with
  | nil => simp [rowsIn] at h
  | cons slot slots ih =>
    cases slot with
    | jingle trackId =>
      obtain ⟨k, hk, hid⟩ := ih (pos + 1) (next + 1) h
      exact ⟨k, List.mem_cons_of_mem _ hk, hid⟩
    | row r =>
      rcases List.mem_cons.mp h with rfl | h
      · exact ⟨_, List.mem_cons_self, rfl⟩
      · obtain ⟨k, hk, hid⟩ := ih (pos + 1) next h
        exact ⟨k, List.mem_cons_of_mem _ hk, hid⟩

/-- Its row is there, active on the station and with its status. -/
def Present (st : ℤ) (s : Engine) (r : Row) : Prop :=
  ∃ q, s.queueItems[r.1]? = some q ∧ q.stationId = st ∧ q.status = r.2.status ∧ isActive q.status

lemma Present.updateQueue {r : Row} (h : Present st s r) (id pos : ℤ) :
    Present st (updateQueue id (fun q => { q with position := pos }) s) r := by
  obtain ⟨q, hq, hrest⟩ := h
  rw [Present, PlayoutTables.updateQueue, lookup_modify]
  split_ifs
  · exact ⟨{ q with position := pos }, by rw [hq]; rfl, hrest⟩
  · exact ⟨q, hq, hrest⟩

lemma Present.insertQueue {r : Row} (h : Present st s r) (row : QueueItem) :
    Present st (insertQueue row s) r := by
  obtain ⟨q, hq, hrest⟩ := h
  have hne : r.1 ≠ nextId s.queueItems := (lt_nextId hq).ne
  exact ⟨q, by rw [PlayoutTables.insertQueue, lookup_insert, if_neg hne, hq], hrest⟩

/-- **What is laid out is shown**, and under all other ids nothing changes. -/
lemma entry_place (h : place st slots pos s = some s')
    (hrows : ∀ r ∈ rowsIn slots, Present st s r) (hnodup : ((rowsIn slots).map Prod.fst).Nodup) :
    (∀ k ∈ layout slots pos (nextId s.queueItems), entry st s' k.1 = some k.2) ∧
      ∀ id, (∀ k ∈ layout slots pos (nextId s.queueItems), k.1 ≠ id) →
        entry st s' id = entry st s id := by
  induction slots generalizing pos s with
  | nil =>
    obtain rfl := Option.some.inj h
    simp [layout]
  | cons slot slots ih =>
    cases slot with
    | jingle trackId =>
      unfold place at h
      dsimp only at h
      split_ifs at h
      generalize hrow : QueueItem.new st trackId pos s!"jingle:{trackId}:{pos}" = row at h
      have hnext : nextId (insertQueue row s).queueItems = nextId s.queueItems + 1 :=
        nextId_insert ..
      obtain ⟨hshown, hrest⟩ := ih h (fun r hr => (hrows r hr).insertQueue row) hnodup
      rw [hnext] at hshown hrest
      have hnew : ∀ k ∈ layout slots (pos + 1) (nextId s.queueItems + 1),
          k.1 ≠ nextId s.queueItems := by
        intro k hk
        rcases layout_ids hk with hle | ⟨r, hr, hid⟩
        · omega
        · obtain ⟨q, hq, -⟩ := hrows r hr
          have := lt_nextId hq
          omega
      refine ⟨fun k hk => ?_, fun id hid => ?_⟩
      · rcases List.mem_cons.mp hk with rfl | hk
        · rw [hrest _ hnew, entry_insertQueue, if_pos rfl, ← hrow]
          simp [entryOf, QueueItem.new, isActive]
        · exact hshown k hk
      · have hne : id ≠ nextId s.queueItems := fun he => hid _ List.mem_cons_self he.symm
        rw [hrest id fun k hk => hid k (List.mem_cons_of_mem _ hk), entry_insertQueue,
          if_neg hne]
    | row r =>
      rw [place] at h
      have hnext : nextId (updateQueue r.1 (fun q => { q with position := pos }) s).queueItems =
          nextId s.queueItems := nextId_modify ..
      obtain ⟨hother, hnodup⟩ := List.nodup_cons.mp hnodup
      obtain ⟨q, hq, hst, hstatus, hactive⟩ := hrows r List.mem_cons_self
      obtain ⟨hshown, hrest⟩ := ih h
        (fun r' hr' => (hrows r' (List.mem_cons_of_mem _ hr')).updateQueue r.1 pos) hnodup
      rw [hnext] at hshown hrest
      have hnew : ∀ k ∈ layout slots (pos + 1) (nextId s.queueItems), k.1 ≠ r.1 := by
        intro k hk
        rcases layout_ids hk with hle | ⟨r', hr', hid⟩
        · have := lt_nextId hq
          omega
        · intro he
          exact hother (List.mem_map.mpr ⟨r', hr', hid.trans he⟩)
      refine ⟨fun k hk => ?_, fun id hid => ?_⟩
      · rcases List.mem_cons.mp hk with rfl | hk
        · rw [hrest _ hnew, entry_updateQueue, if_pos rfl, hq]
          simp [entryOf, hst, hactive, ← hstatus]
        · exact hshown k hk
      · have hne : id ≠ r.1 := fun he => hid _ List.mem_cons_self he.symm
        rw [hrest id fun k hk => hid k (List.mem_cons_of_mem _ hk), entry_updateQueue,
          if_neg hne]

/-- The active rows, once all of them are laid out. -/
theorem keys_place (h : place st slots pos s = some s')
    (hrows : ∀ r ∈ rowsIn slots, Present st s r) (hnodup : ((rowsIn slots).map Prod.fst).Nodup)
    (hall : ∀ r ∈ listActiveOrdered st s, r.1 ∈ (rowsIn slots).map Prod.fst) :
    keys st s' = layout slots pos (nextId s.queueItems) := by
  obtain ⟨hshown, hrest⟩ := entry_place h hrows hnodup
  symm
  refine eq_keys (layout_sorted ..).1 fun k => ⟨hshown k, fun hk => ?_⟩
  by_contra hno
  have hids : ∀ k' ∈ layout slots pos (nextId s.queueItems), k'.1 ≠ k.1 := by
    intro k' hk' he
    have hsame := hshown k' hk'
    rw [he, hk] at hsame
    exact hno ((Prod.ext he (Option.some.inj hsame).symm) ▸ hk')
  rw [hrest k.1 hids] at hk
  obtain ⟨r, hr, hkr⟩ := List.mem_map.mp (mem_keys.mpr hk)
  obtain ⟨k', hk', hid⟩ := row_of_rowsIn pos (nextId s.queueItems) (hall r hr)
  exact hids k' hk' (hid.trans (congrArg Prod.fst hkr))

/-- The rows of other stations stay. -/
lemma place_other {j : ℤ} (hj : j ≠ st) (h : place st slots pos s = some s')
    (hrows : ∀ r ∈ rowsIn slots, Present st s r) : keys j s' = keys j s := by
  induction slots generalizing pos s with
  | nil =>
    obtain rfl := Option.some.inj h
    rfl
  | cons slot slots ih =>
    cases slot with
    | jingle trackId =>
      unfold place at h
      dsimp only at h
      split_ifs at h
      rw [ih h fun r hr => (hrows r hr).insertQueue _]
      refine keys_eq_iff.mpr fun id => ?_
      rw [entry_insertQueue]
      split_ifs with hid
      · rw [hid, entry, lookup_nextId]
        simp [entryOf, QueueItem.new, Ne.symm hj]
      · rfl
    | row r =>
      rw [place] at h
      rw [ih h fun r' hr' => (hrows r' (List.mem_cons_of_mem _ hr')).updateQueue r.1 pos]
      obtain ⟨q, hq, hst, -⟩ := hrows r List.mem_cons_self
      refine keys_eq_iff.mpr fun id => ?_
      rw [entry_updateQueue]
      split_ifs with hid
      · rw [hid, entry, hq]
        simp [entryOf, hst, Ne.symm hj]
      · rfl

lemma place_settings (h : place st slots pos s = some s') :
    s'.stationSettings = s.stationSettings := by
  induction slots generalizing pos s with
  | nil =>
    obtain rfl := Option.some.inj h
    rfl
  | cons slot slots ih =>
    cases slot with
    | jingle trackId =>
      unfold place at h
      dsimp only at h
      split_ifs at h
      have hrest := ih h
      exact hrest
    | row r =>
      rw [place] at h
      have hrest := ih h
      exact hrest

/-! ### Rows that are laid out again -/

lemma place_rows (rows : List Row) (s : Engine) :
    place st (rows.map .row) 1 s = some (setPositions (rows.map Prod.fst) s) := by
  have hall : ∀ (n : ℕ) (s : Engine), place st (rows.map .row) n s =
      some (((rows.map Prod.fst).zipIdx n).foldl
        (fun s r => updateQueue r.1 (fun q => { q with position := r.2 }) s) s) := by
    induction rows with
    | nil => exact fun n s => rfl
    | cons r rows ih =>
      intro n s
      rw [List.map_cons, place, List.map_cons, List.zipIdx_cons, List.foldl_cons]
      exact ih (n + 1) _
  exact hall 1 s

@[simp] lemma rowsIn_map_row (rows : List Row) : rowsIn (rows.map .row) = rows := by
  simp [rowsIn]

lemma layout_rows_ids (rows : List Row) (pos next : ℤ) :
    (layout (rows.map .row) pos next).map Prod.fst = rows.map Prod.fst := by
  induction rows generalizing pos with
  | nil => rfl
  | cons r rows ih => rw [List.map_cons, layout, List.map_cons, ih, List.map_cons]

lemma present_of_mem {r : Row} (h : r ∈ listActiveOrdered st s) : Present st s r := by
  obtain ⟨hrow, hst, hactive⟩ := mem_listActiveOrdered.mp h
  exact ⟨r.2, hrow, hst, rfl, hactive⟩

/-- The active rows in another order. -/
lemma keys_setPositions {rows : List Row} (h : rows.Perm (listActiveOrdered st s)) :
    keys st (setPositions (rows.map Prod.fst) s) =
      layout (rows.map .row) 1 (nextId s.queueItems) := by
  refine keys_place (place_rows rows s) (fun r hr => ?_) ?_ fun r hr => ?_
  · rw [rowsIn_map_row] at hr
    exact present_of_mem (h.mem_iff.mp hr)
  · rw [rowsIn_map_row]
    exact ((h.map Prod.fst).nodup_iff).mpr (nodup_ids st s)
  · rw [rowsIn_map_row]
    exact List.mem_map_of_mem (h.mem_iff.mpr hr)

lemma setPositions_other {j : ℤ} (hj : j ≠ st) {rows : List Row}
    (h : rows.Perm (listActiveOrdered st s)) :
    keys j (setPositions (rows.map Prod.fst) s) = keys j s := by
  refine place_other hj (place_rows rows s) fun r hr => ?_
  rw [rowsIn_map_row] at hr
  exact present_of_mem (h.mem_iff.mp hr)

lemma setPositions_settings (rows : List Row) (s : Engine) :
    (setPositions (rows.map Prod.fst) s).stationSettings = s.stationSettings := by
  have h : place 0 (rows.map .row) 1 s = some (setPositions (rows.map Prod.fst) s) :=
    place_rows rows s
  exact place_settings h

lemma rowsIn_sweepPlan (interval : ℤ) (rows : List Row) (counter : ℤ) (used : List ℤ) :
    rowsIn (sweepPlan st s interval rows counter used) = rows := by
  induction rows generalizing counter used with
  | nil => rfl
  | cons r rows ih =>
    unfold sweepPlan
    dsimp only
    split
    · exact congrArg (r :: ·) (ih ..)
    · exact congrArg (r :: ·) (ih ..)

/-- All active rows have a slot. -/
lemma rowsIn_slotsOf (sweeper : Sweeper) :
    (rowsIn (slotsOf st sweeper s)).Perm (listActiveOrdered st s) := by
  have hplan : rowsIn (slotsOf st sweeper s) =
      (listActiveOrdered st s).filter (·.2.status = .playing) ++
        (listActiveOrdered st s).filter (·.2.status = .pending) := by
    unfold slotsOf
    dsimp only
    rw [rowsIn, List.filterMap_append]
    refine congrArg₂ _ (rowsIn_map_row _) ?_
    split_ifs
    · exact rowsIn_sweepPlan ..
    · exact rowsIn_map_row _
  have hpending : (listActiveOrdered st s).filter (·.2.status = .pending) =
      (listActiveOrdered st s).filter fun r => !decide (r.2.status = .playing) := by
    refine List.filter_congr fun r hr => ?_
    have hactive := (mem_listActiveOrdered.mp hr).2.2
    cases hs : r.2.status <;> simp_all [isActive]
  rw [hplan, hpending]
  exact List.filter_append_perm ..

end Layout

end OnAir.SweeperQueue
