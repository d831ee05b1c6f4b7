import OnAir.QueueWrites
import OnAir.SweeperQueue

/-!
Change sequences: does every change of the active rows count?

Adding a row at the end counts, and so do the edits that name a revision. Adding a row before
another, marking rows, what the worker inserts and removes by itself, edits by index and the
sweeper do not.
-/

namespace OnAir.ChangeSequence

open ActiveRows BroadcastQueue PlayoutTables QueueRepository QueueUpkeep QueueWrites SweeperQueue
  OnAir.Table WorkerEnv

/-! ### Operations -/

/-- A transaction that writes the queue. -/
inductive Operation
  | write (w : Write)
  | edit (st : ℤ) (expected : String) (e : Edit)
  | commitSkip (st itemId : ℤ)
  | deleteByIndex (st queueIndex : ℤ)
  | moveByIndex (st start target : ℤ)
  /-- the rows are laid out anew by `reconcile_pending_sweeper_queue` -/
  | reconcile (st : ℤ)

section Statements

variable (digest : String → String)

def Operation.run : Operation → Engine → Engine
  | .write w, s => w.run s
  | .edit st expected e, s => (e.call digest st expected s).1
  | .commitSkip st itemId, s => (commitSkipPlayingItem st itemId s).1
  | .deleteByIndex st queueIndex, s => (deleteByQueueIndex st queueIndex s).1
  | .moveByIndex st start target, s => (moveByQueueIndex st start target s).1
  | .reconcile st, s =>
    match sweeperSettings st s with
    | .error _ => s
    | .ok sweeper => relayQueue st sweeper s

/-- Where the revision of a station changes, its sequence grows. -/
def SequenceFollows (s s' : Engine) : Prop :=
  ∀ st, activeRevision digest (listActiveOrdered st s') ≠
    activeRevision digest (listActiveOrdered st s) → changeSequence st s < changeSequence st s'

/-- The revisions before and after are those of different rows only if they differ. -/
def TellsApart (s s' : Engine) : Prop :=
  ∀ st, activeRevision digest (listActiveOrdered st s') =
    activeRevision digest (listActiveOrdered st s) →
      material (listActiveOrdered st s') = material (listActiveOrdered st s)

/-! ### The condition -/

/-- The stored sequence is one that counting makes larger. -/
def Grows (st : ℤ) (s : Engine) : Prop :=
  ∀ value ∈ setting st s "_queue_change_sequence", sequenceOf value < Sql.castInteger value + 1

/-- The edit finds the row it is about, and it is not where it shall be. -/
def Edit.Finds (st : ℤ) (s : Engine) : Edit → Prop
  | .delete itemId => hasStatus st itemId .pending s
  | .move itemId toIndex => hasStatus st itemId .pending s ∧ 0 ≤ toIndex ∧
      ∃ r ∈ (listActiveOrdered st s)[toIndex.toNat]?, r.2.status = .pending ∧ r.1 ≠ itemId
  | .skip itemId => hasStatus st itemId .playing s

/-- The write adds, marks and removes no active row, or it counts. -/
def Write.Counts (s : Engine) : Write → Prop
  | .enqueue st _ key => (findExisting st s key [.pending, .playing]).isSome ∨ Grows st s
  | .insertBefore st before trackId key statuses =>
    (findExisting st s key statuses).isSome ∨
      if (queueRows st s [.pending, .playing]).any fun r => r.1 = before then
        dedupeTaken s (newItem st trackId 0 key) = true
      else (findExisting st s key [.pending, .playing]).isSome ∨ Grows st s
  | .insertRow st trackId position key => dedupeTaken s (.new st trackId position key)
  | .markPlaying id _ => ∀ r ∈ s.queueItems[id]?,
      r.status = .playing ∨ clashes s id { r with status := .playing }
  | .markDone id => ∀ r ∈ s.queueItems[id]?, isActive r.status = false
  | .markFailed id => ∀ r ∈ s.queueItems[id]?, isActive r.status = false
  | .restorePending id => ∀ r ∈ s.queueItems[id]?,
      r.status = .pending ∨ clashes s id { r with status := .pending }
  | .removePendingJingles w => pendingJingles w.stationId s = []

/-- The operation leaves the active rows as they are, or it counts. -/
def Counts (s : Engine) : Operation → Prop
  | .write w => Write.Counts s w
  | .edit st expected e =>
    activeRevision digest (listActiveOrdered st s) = expected → Edit.Finds st s e → Grows st s
  | .commitSkip st itemId => hasStatus st itemId .playing s → Grows st s
  | .deleteByIndex st queueIndex =>
    queueIndex < 0 ∨ (listActiveOrdered st s).length ≤ queueIndex
  | .moveByIndex st start target =>
    start < 0 ∨ (listActiveOrdered st s).length ≤ start ∨
      start = min (max target 0) ((listActiveOrdered st s).length - 1)
  | .reconcile st => ∀ sweeper, sweeperSettings st s = .ok sweeper → commits st sweeper s →
      let swept := dropPendingJingles st s
      (place st (slotsOf st sweeper swept) 1 swept).isSome →
        layout (slotsOf st sweeper swept) 1 (nextId swept.queueItems) = keys st s

end Statements

/-! ### The sequence -/

section Sequence

variable {st j : ℤ} {s t : Engine} {key value : String}

lemma setting_upsertSetting_self : setting st (upsertSetting st key value s) key = some value := by
  unfold setting upsertSetting
  dsimp only
  rw [lookup_insert, if_pos rfl, Option.bind_some, Std.ExtTreeMap.getElem?_insert_self]

lemma setting_upsertSetting_other (h : j ≠ st) (key' : String) :
    setting j (upsertSetting st key value s) key' = setting j s key' := by
  unfold setting upsertSetting
  dsimp only
  rw [lookup_insert, if_neg h]

lemma sequenceOf_nonneg (value : String) : 0 ≤ sequenceOf value := by
  unfold sequenceOf
  cases PythonText.intOf value with
  | none => exact le_rfl
  | some n => exact le_max_left 0 n

lemma sequenceOf_toString (n : ℤ) : sequenceOf (toString n) = max 0 n := by
  rw [sequenceOf, TextFields.intOf_toString]
  rfl

/-- **Counting makes the sequence larger** exactly where the stored value grows. -/
theorem lt_changeSequence_bump (ht : t.stationSettings = s.stationSettings) :
    changeSequence st s < changeSequence st (bumpChangeSequence st t) ↔ Grows st s := by
  have hset : ∀ key, setting st t key = setting st s key := fun key => by
    unfold setting
    rw [ht]
  unfold changeSequence bumpChangeSequence
  dsimp only
  rw [setting_upsertSetting_self, Option.getD_some, sequenceOf_toString, hset]
  unfold Grows
  cases setting st s "_queue_change_sequence" with
  | none =>
    have hzero : sequenceOf "0" = 0 := by decide +kernel
    simp [hzero]
  | some value =>
    have hpos := sequenceOf_nonneg value
    simp only [Option.getD_some, Option.mem_def, Option.some.injEq, forall_eq']
    omega

lemma changeSequence_bump_other (hj : j ≠ st) (ht : t.stationSettings = s.stationSettings) :
    changeSequence j (bumpChangeSequence st t) = changeSequence j s := by
  unfold changeSequence bumpChangeSequence
  dsimp only
  rw [setting_upsertSetting_other hj]
  unfold setting
  rw [ht]

lemma changeSequence_eq (ht : t.stationSettings = s.stationSettings) :
    changeSequence st t = changeSequence st s := by
  unfold changeSequence setting
  rw [ht]

end Sequence

/-! ### What an operation can do -/

/-- What an operation can do to the active rows and to the sequences, where `c` tells whether it
may be done. -/
inductive Change (s s' : Engine) (c : Prop) : Prop
  | same (hkeys : ∀ st, keys st s' = keys st s)
      (hsequence : ∀ st, changeSequence st s' = changeSequence st s) (hc : c)
  | counted (st : ℤ) (hkeys : keys st s' ≠ keys st s)
      (hother : ∀ j, j ≠ st → keys j s' = keys j s ∧ changeSequence j s' = changeSequence j s)
      (hgrows : changeSequence st s < changeSequence st s' ↔ c)
  | uncounted (st : ℤ) (hkeys : keys st s' ≠ keys st s)
      (hsequence : ∀ st, changeSequence st s' = changeSequence st s) (hc : ¬ c)

section Changes

variable {digest : String → String} {st id j : ℤ} {s s' t : Engine} {c : Prop}

lemma Change.refl (hc : c) : Change s s c := .same (fun _ => rfl) (fun _ => rfl) hc

/-- A change that is counted on its station. -/
lemma Change.bump (ht : t.stationSettings = s.stationSettings) (hkeys : keys st t ≠ keys st s)
    (hother : ∀ j, j ≠ st → keys j t = keys j s) (hc : c ↔ Grows st s) :
    Change s (bumpChangeSequence st t) c :=
  .counted st hkeys (fun j hj => ⟨hother j hj, changeSequence_bump_other hj ht⟩)
    ((lt_changeSequence_bump ht).trans hc.symm)

lemma revision_eq_of_keys (h : keys st s' = keys st s) :
    activeRevision digest (listActiveOrdered st s') =
      activeRevision digest (listActiveOrdered st s) :=
  congrArg digest (material_eq_of_keys h)

/-- The sequence follows exactly where `c` holds. -/
theorem Change.follows_iff (h : Change s s' c) (htells : TellsApart digest s s') :
    SequenceFollows digest s s' ↔ c := by
  have hrevision : ∀ st, keys st s' ≠ keys st s →
      activeRevision digest (listActiveOrdered st s') ≠
        activeRevision digest (listActiveOrdered st s) :=
    fun st hk he => hk (keys_eq_of_material (htells st he))
  cases h with
  | same hkeys hsequence hc =>
    exact ⟨fun _ => hc, fun _ st hr => absurd (revision_eq_of_keys (hkeys st)) hr⟩
  | counted st hkeys hother hgrows =>
    rw [← hgrows]
    refine ⟨fun hf => hf st (hrevision st hkeys), fun hlt j hr => ?_⟩
    by_cases hj : j = st
    · exact hj ▸ hlt
    · exact absurd (revision_eq_of_keys (hother j hj).1) hr
  | uncounted st hkeys hsequence hc =>
    refine ⟨fun hf => ?_, fun hc' => absurd hc' hc⟩
    have hlt := hf st (hrevision st hkeys)
    rw [hsequence] at hlt
    exact absurd hlt (lt_irrefl _)

/-- Where `c` holds, no sequence falls, and one that stays is that of the same rows. -/
theorem Change.mono (h : Change s s' c) (hc : c) (st : ℤ) :
    changeSequence st s ≤ changeSequence st s' ∧
      (changeSequence st s' = changeSequence st s → keys st s' = keys st s) := by
  cases h with
  | same hkeys hsequence _ => exact ⟨(hsequence st).ge, fun _ => hkeys st⟩
  | counted i hkeys hother hgrows =>
    by_cases hi : st = i
    · subst hi
      have hlt := hgrows.mpr hc
      exact ⟨hlt.le, fun he => absurd he hlt.ne'⟩
    · obtain ⟨hk, hs⟩ := hother st hi
      exact ⟨hs.ge, fun _ => hk⟩
  | uncounted _ _ _ hno => exact absurd hc hno

/-! ### Rows that are added, marked and removed -/

lemma entry_nextId (st : ℤ) (s : Engine) : entry st s (nextId s.queueItems) = none := by
  rw [entry, lookup_nextId]
  rfl

lemma keys_insertQueue_ne {r : QueueItem} (hst : r.stationId = st) (hactive : isActive r.status)
    (hnext : nextId t.queueItems = nextId s.queueItems) :
    keys st (insertQueue r t) ≠ keys st s := by
  refine keys_ne (nextId s.queueItems) ?_
  rw [entry_insertQueue, if_pos hnext.symm, entry_nextId]
  simp [entryOf, hst, hactive]

lemma keys_insertQueue_other {r : QueueItem} (hj : r.stationId ≠ j) :
    keys j (insertQueue r s) = keys j s := by
  refine keys_eq_iff.mpr fun id => ?_
  rw [entry_insertQueue]
  split_ifs with hid
  · rw [hid, entry_nextId]
    simp [entryOf, hj]
  · rfl

lemma keys_updateQueue {f : QueueItem → QueueItem}
    (h : ∀ r ∈ s.queueItems[id]?, entryOf st (f r) = entryOf st r) :
    keys st (updateQueue id f s) = keys st s := by
  refine keys_eq_iff.mpr fun i => ?_
  rw [entry_updateQueue]
  split_ifs with hi
  · subst hi
    rw [entry]
    cases hr : s.queueItems[i]? with
    | none => rfl
    | some r => exact h r hr
  · rfl

lemma keys_updateQueue_ne {f : QueueItem → QueueItem} {r : QueueItem}
    (hr : s.queueItems[id]? = some r) (hne : entryOf st (f r) ≠ entryOf st r) :
    keys st (updateQueue id f s) ≠ keys st s := by
  refine keys_ne id ?_
  rw [entry_updateQueue, if_pos rfl, entry, hr]
  exact hne

/-- An update of one row does not count. -/
lemma change_updateQueue {f : QueueItem → QueueItem}
    (hc : c ↔ ∀ r ∈ s.queueItems[id]?, ∀ st, entryOf st (f r) = entryOf st r) :
    Change s (updateQueue id f s) c := by
  by_cases h : ∀ r ∈ s.queueItems[id]?, ∀ st, entryOf st (f r) = entryOf st r
  · exact .same (fun st => keys_updateQueue fun r hr => h r hr st) (fun _ => rfl) (hc.mpr h)
  · have hno : ¬ c := fun hc' => h (hc.mp hc')
    push Not at h
    obtain ⟨r, hr, st, hne⟩ := h
    exact .uncounted st (keys_updateQueue_ne hr hne) (fun _ => rfl) hno

lemma change_updateItem {f : QueueItem → QueueItem}
    (hc : c ↔ ∀ r ∈ s.queueItems[id]?, (∀ st, entryOf st (f r) = entryOf st r) ∨
      clashes s id (f r)) : Change s (updateItem id f s) c := by
  unfold updateItem
  cases hr : s.queueItems[id]? with
  | none =>
    simp only [hr, Option.mem_def, reduceCtorEq, IsEmpty.forall_iff, implies_true,
      iff_true] at hc
    exact change_updateQueue (by simp [hr, hc])
  | some r =>
    rw [Option.any_some]
    split_ifs with hclash
    · exact .refl (hc.mpr fun q hq => by
        obtain rfl := Option.some.inj (hr.symm.trans hq)
        exact .inr hclash)
    · refine change_updateQueue (hc.trans ?_)
      simp [hr, hclash]

/-- A mark is seen where the status is a new one, unless neither is active. -/
lemma entryOf_mark_iff {r q : QueueItem} (hst : q.stationId = r.stationId)
    (hpos : q.position = r.position) : (∀ st, entryOf st q = entryOf st r) ↔
      (q.status = r.status ∨ isActive q.status = false ∧ isActive r.status = false) := by
  constructor
  · intro h
    have hr := h r.stationId
    unfold entryOf at hr
    rw [hst, hpos] at hr
    cases hq : isActive q.status <;> cases hp : isActive r.status <;> simp_all
  · intro h st
    unfold entryOf
    rw [hst, hpos]
    rcases h with h | ⟨hq, hr⟩
    · rw [h]
    · simp [hq, hr]

end Changes

/-! ### Writes -/

section Writes

variable {st id : ℤ} {s : Engine}

lemma change_enqueue (trackId : ℤ) (key : Option String) :
    Change s (enqueueOrGetExisting st trackId key s).1
      ((findExisting st s key [.pending, .playing]).isSome ∨ Grows st s) := by
  unfold enqueueOrGetExisting
  cases h : findExisting st s key [.pending, .playing] with
  | some r => exact .refl (.inl rfl)
  | none =>
    exact .bump rfl (keys_insertQueue_ne rfl rfl rfl)
      (fun j hj => keys_insertQueue_other (Ne.symm hj)) (by simp)

lemma change_insertBefore (before trackId : ℤ) (key : Option String)
    (statuses : List ItemStatus) :
    Change s (insertBeforeItemOrGetExisting st before trackId key statuses s).1
      (Write.Counts s (.insertBefore st before trackId key statuses)) := by
  unfold insertBeforeItemOrGetExisting
  dsimp only [Write.Counts]
  cases findExisting st s key statuses with
  | some r => exact .refl (.inl rfl)
  | none =>
    cases hrow : (queueRows st s [.pending, .playing]).find? fun r => r.1 = before with
    | none =>
      have hany : (queueRows st s [.pending, .playing]).any (fun r => r.1 = before) = false :=
        List.any_eq_false.mpr (List.find?_eq_none.mp hrow)
      simpa [hany] using change_enqueue trackId key
    | some row =>
      have hany : (queueRows st s [.pending, .playing]).any (fun r => r.1 = before) = true := by
        have hid := List.find?_some hrow
        exact List.any_eq_true.mpr ⟨row, List.mem_of_find?_eq_some hrow, hid⟩
      dsimp only
      generalize (if row.2.position = 0 then 1 else row.2.position) = pos
      have hkey : dedupeTaken s (newItem st trackId pos key) =
          dedupeTaken s (newItem st trackId 0 key) := rfl
      rw [if_pos hany, hkey]
      split_ifs with htaken
      · exact .refl (.inr htaken)
      · refine .uncounted st (keys_insertQueue_ne rfl rfl ?_) (fun _ => rfl) (by simp [htaken])
        exact nextId_shiftPositions st pos

lemma change_insertRow (trackId position : ℤ) (key : String) :
    Change s (insertOrIgnore (.new st trackId position key) s).1
      (dedupeTaken s (.new st trackId position key)) := by
  unfold insertOrIgnore
  split_ifs with htaken
  · exact .refl htaken
  · exact .uncounted st (keys_insertQueue_ne rfl rfl rfl) (fun _ => rfl) htaken

lemma change_markPlaying (now : ℤ) : Change s (QueueRepository.markPlaying id now s)
    (∀ r ∈ s.queueItems[id]?, r.status = .playing ∨
      clashes s id { r with status := .playing }) := by
  refine change_updateItem (forall₂_congr fun r hr => or_congr ?_ Iff.rfl)
  refine Iff.trans ?_ (entryOf_mark_iff ?_ ?_).symm
  · cases r.status <;> simp [isActive]
  · rfl
  · rfl

lemma change_restorePending : Change s (QueueRepository.restorePending id s)
    (∀ r ∈ s.queueItems[id]?, r.status = .pending ∨
      clashes s id { r with status := .pending }) := by
  refine change_updateItem (forall₂_congr fun r hr => or_congr ?_ Iff.rfl)
  refine Iff.trans ?_ (entryOf_mark_iff ?_ ?_).symm
  · cases r.status <;> simp [isActive]
  · rfl
  · rfl

/-- A row that is done with. -/
lemma change_markEnded {status : ItemStatus} (hstatus : isActive status = false) :
    Change s (updateQueue id (fun r => { r with status }) s)
      (∀ r ∈ s.queueItems[id]?, isActive r.status = false) := by
  refine change_updateQueue (forall₂_congr fun r hr => ?_)
  refine Iff.trans ?_ (entryOf_mark_iff ?_ ?_).symm
  · constructor
    · exact fun h => .inr ⟨hstatus, h⟩
    · rintro (h | h)
      · exact h ▸ hstatus
      · exact h.2
  · rfl
  · rfl

lemma lookup_dropPendingJingles (st : ℤ) (s : Engine) (i : ℤ) :
    (dropPendingJingles st s).queueItems[i]? = s.queueItems[i]?.filter fun r =>
      !(r.stationId = st && r.status = .pending && sqlKindOf s r.trackId = "jingle") := by
  rw [dropPendingJingles, Std.ExtTreeMap.getElem?_filter']

lemma mem_pendingJingles {r : Row} : r ∈ pendingJingles st s ↔ s.queueItems[r.1]? = some r.2 ∧
    (r.2.stationId = st && r.2.status = .pending && sqlKindOf s r.2.trackId = "jingle") := by
  unfold pendingJingles queueRows
  rw [List.mem_filter, List.mem_filter, mem_rows]
  simp [and_assoc]

lemma dropPendingJingles_of_nil (h : pendingJingles st s = []) :
    (dropPendingJingles st s).queueItems = s.queueItems := by
  refine Std.ExtTreeMap.ext_getElem? fun i => ?_
  rw [lookup_dropPendingJingles]
  cases hr : s.queueItems[i]? with
  | none => rfl
  | some r =>
    have hno : (i, r) ∉ pendingJingles st s := by simp [h]
    have hfalse := Bool.eq_false_iff.mpr fun hb => hno (mem_pendingJingles.mpr ⟨hr, hb⟩)
    rw [Option.filter_some, hfalse]
    rfl

lemma change_dropPendingJingles :
    Change s (dropPendingJingles st s) (pendingJingles st s = []) := by
  by_cases h : pendingJingles st s = []
  · refine .same (fun j => ?_) (fun _ => rfl) h
    unfold keys listActiveOrdered queueRows
    rw [dropPendingJingles_of_nil h]
  · obtain ⟨r, hr⟩ := List.exists_mem_of_ne_nil _ h
    obtain ⟨hrow, hjingle⟩ := mem_pendingJingles.mp hr
    refine .uncounted st (keys_ne r.1 ?_) (fun _ => rfl) h
    have hgone : entry st (dropPendingJingles st s) r.1 = none := by
      rw [entry, lookup_dropPendingJingles, hrow, Option.filter_some, if_neg (by simp [hjingle])]
      rfl
    rw [hgone, entry, hrow]
    simp only [Bool.and_eq_true, decide_eq_true_eq] at hjingle
    simp [entryOf, hjingle.1.1, hjingle.1.2, isActive]

theorem Write.change (w : Write) : Change s (w.run s) (Write.Counts s w) := by
  cases w with
  | enqueue st trackId key => exact change_enqueue trackId key
  | insertBefore st before trackId key statuses =>
    exact change_insertBefore before trackId key statuses
  | insertRow st trackId position key => exact change_insertRow trackId position key
  | markPlaying id now => exact change_markPlaying now
  | markDone id => exact change_markEnded rfl
  | markFailed id => exact change_markEnded rfl
  | restorePending id => exact change_restorePending
  | removePendingJingles w => exact change_dropPendingJingles

end Writes

/-! ### Edits -/

/-- The active rows of the station change, and those of no other. -/
structure Rearranges (st : ℤ) (s t : Engine) : Prop where
  keys : keys st t ≠ keys st s
  other : ∀ j, j ≠ st → ActiveRows.keys j t = ActiveRows.keys j s
  settings : t.stationSettings = s.stationSettings

section Edits

variable {digest : String → String} {st id : ℤ} {expected : String} {s t : Engine} {c : Prop}

lemma Rearranges.counted (h : Rearranges st s t) (hc : c ↔ Grows st s) :
    Change s (bumpChangeSequence st t) c := .bump h.settings h.keys h.other hc

lemma Rearranges.uncounted (h : Rearranges st s t) (hc : ¬ c) : Change s t c :=
  .uncounted st h.keys (fun _ => changeSequence_eq h.settings) hc

lemma hasStatus_iff {status : ItemStatus} : hasStatus st id status s ↔
    ∃ r, s.queueItems[id]? = some r ∧ r.stationId = st ∧ r.status = status := by
  unfold hasStatus
  rw [Option.any_eq_true]
  simp

lemma mem_of_hasStatus {status : ItemStatus} (hactive : isActive status)
    (h : hasStatus st id status s) :
    ∃ r ∈ listActiveOrdered st s, r.1 = id ∧ r.2.status = status := by
  obtain ⟨r, hr, hst, hstatus⟩ := hasStatus_iff.mp h
  exact ⟨(id, r), mem_listActiveOrdered.mpr ⟨hr, hst, hstatus ▸ hactive⟩, rfl, hstatus⟩

lemma hasStatus_of_mem {r : Row} (hr : r ∈ listActiveOrdered st s) :
    hasStatus st r.1 r.2.status s := by
  obtain ⟨hrow, hst, -⟩ := mem_listActiveOrdered.mp hr
  exact hasStatus_iff.mpr ⟨r.2, hrow, hst, rfl⟩

/-- Rows are told by their ids. -/
lemma eq_of_ids {r r' : Row} (hr : r ∈ listActiveOrdered st s)
    (hr' : r' ∈ listActiveOrdered st s) (hid : r.1 = r'.1) : r = r' := by
  have hrow := (mem_listActiveOrdered.mp hr).1
  rw [hid, (mem_listActiveOrdered.mp hr').1] at hrow
  exact Prod.ext hid (Option.some.inj hrow).symm

/-- An active row is deleted, and the others are numbered anew. -/
lemma rearranges_delete {r : Row} (hr : r ∈ listActiveOrdered st s) :
    Rearranges st s (reindexActive st (deleteRow r.1 s)) where
  keys := by
    have hperm := List.Perm.refl (listActiveOrdered st (deleteRow r.1 s))
    have hids : (ActiveRows.keys st (reindexActive st (deleteRow r.1 s))).map Prod.fst =
        (listActiveOrdered st (deleteRow r.1 s)).map Prod.fst := by
      rw [reindexActive, keys_setPositions hperm, layout_rows_ids]
    intro hk
    have hmem : r.1 ∈ (listActiveOrdered st (deleteRow r.1 s)).map Prod.fst := by
      rw [← hids, hk, keys_map_fst]
      exact List.mem_map_of_mem hr
    obtain ⟨q, hq, hid⟩ := List.mem_map.mp hmem
    have hrow := (mem_listActiveOrdered.mp hq).1
    rw [hid, deleteRow, lookup_erase, if_pos rfl] at hrow
    cases hrow
  other j hj := by
    rw [reindexActive, setPositions_other hj (.refl _)]
    refine keys_eq_iff.mpr fun i => ?_
    rw [entry_deleteRow]
    split_ifs with hi
    · obtain ⟨hrow, hst, -⟩ := mem_listActiveOrdered.mp hr
      rw [hi, entry, hrow]
      simp [entryOf, hst, Ne.symm hj]
    · rfl
  settings := by
    rw [reindexActive, setPositions_settings]
    rfl

/-- A playing row of the station ends. -/
lemma rearranges_skip (h : hasStatus st id .playing s) : Rearranges st s (markQueueDone id s) where
  keys := by
    obtain ⟨r, hr, hst, hstatus⟩ := hasStatus_iff.mp h
    refine keys_updateQueue_ne hr ?_
    simp [entryOf, hst, hstatus, isActive]
  other j hj := by
    obtain ⟨r, hr, hst, -⟩ := hasStatus_iff.mp h
    refine keys_updateQueue fun q hq => ?_
    obtain rfl := Option.some.inj (hr.symm.trans hq)
    simp [entryOf, hst, Ne.symm hj]
  settings := rfl

section Move

variable {rows : List Row} {start target : ℕ}

lemma moveRow_perm (hs : start < rows.length) (ht : target < rows.length) :
    (moveRow start target rows).Perm rows := by
  have hlen : target ≤ (rows.eraseIdx start).length := by
    rw [List.length_eraseIdx_of_lt hs]
    omega
  rw [moveRow, List.getElem?_eq_getElem hs]
  exact (List.perm_insertIdx _ _ hlen).trans (List.getElem_cons_eraseIdx_perm hs)

/-- The row that is moved stands where another one stood. -/
lemma moveRow_ids_ne (hs : start < rows.length) (ht : target < rows.length)
    (hne : start ≠ target) (hnodup : (rows.map Prod.fst).Nodup) :
    (moveRow start target rows).map Prod.fst ≠ rows.map Prod.fst := by
  have hlen : target ≤ (rows.eraseIdx start).length := by
    rw [List.length_eraseIdx_of_lt hs]
    omega
  have hmoved : ((moveRow start target rows).map Prod.fst)[target]? =
      (rows.map Prod.fst)[start]? := by
    rw [List.getElem?_map, List.getElem?_map, moveRow, List.getElem?_eq_getElem hs]
    dsimp only
    rw [List.getElem?_insertIdx_self, if_pos hlen]
  intro h
  rw [h] at hmoved
  exact hne ((List.getElem?_inj (by simpa using hs) hnodup).mp hmoved.symm)

lemma rearranges_move (hs : start < (listActiveOrdered st s).length)
    (ht : target < (listActiveOrdered st s).length) (hne : start ≠ target) :
    Rearranges st s
      (setPositions ((moveRow start target (listActiveOrdered st s)).map Prod.fst) s) where
  keys hk := by
    have hids := congrArg (List.map Prod.fst) hk
    rw [keys_setPositions (moveRow_perm hs ht), layout_rows_ids, keys_map_fst] at hids
    exact moveRow_ids_ne hs ht hne (nodup_ids st s) hids
  other j hj := setPositions_other hj (moveRow_perm hs ht)
  settings := setPositions_settings _ s

end Move

lemma change_deletePendingItem : Change s (deletePendingItem digest st id expected s).1
    (Counts digest s (.edit st expected (.delete id))) := by
  unfold deletePendingItem
  dsimp only [Counts, Edit.Finds]
  split
  next hrevision => exact .refl fun h => absurd h hrevision
  next hrevision =>
    have hrev := not_not.mp hrevision
    split
    next hnone =>
      refine .refl fun _ hfinds => ?_
      obtain ⟨r, hr, hid, -⟩ := mem_of_hasStatus rfl hfinds
      simpa [hid] using List.find?_eq_none.mp hnone r hr
    next target hfound =>
      have hmem := List.mem_of_find?_eq_some hfound
      have hid : target.1 = id := by simpa using List.find?_some hfound
      split
      next hplaying =>
        refine .refl fun _ hfinds => ?_
        obtain ⟨r, hr, hrid, hstatus⟩ := mem_of_hasStatus rfl hfinds
        rw [eq_of_ids hr hmem (hrid.trans hid.symm)] at hstatus
        exact absurd hstatus hplaying
      next =>
        split
        next hfinds =>
          have hdeleted := rearranges_delete hmem
          rw [hid] at hdeleted
          exact hdeleted.counted ⟨fun h => h hrev hfinds, fun h _ _ => h⟩
        next hfinds => exact .refl fun _ h => absurd h hfinds

lemma change_movePendingItem (toIndex : ℤ) :
    Change s (movePendingItem digest st id expected s toIndex).1
      (Counts digest s (.edit st expected (.move id toIndex))) := by
  unfold movePendingItem
  dsimp only [Counts, Edit.Finds]
  split
  next hrevision => exact .refl fun h => absurd h hrevision
  next hrevision =>
    have hrev := not_not.mp hrevision
    split
    next hnone =>
      refine .refl fun _ hfinds => ?_
      obtain ⟨r, hr, hid, -⟩ := mem_of_hasStatus rfl hfinds.1
      simpa [hid] using List.findIdx?_eq_none_iff.mp hnone r hr
    next start hfound =>
      obtain ⟨hs, hid, -⟩ := List.findIdx?_eq_some_iff_getElem.mp hfound
      have hid' : (listActiveOrdered st s)[start].1 = id := by simpa using hid
      have hmem := List.getElem_mem hs
      rw [List.getElem?_eq_getElem hs, Option.any_some]
      split
      next hplaying =>
        refine .refl fun _ hfinds => ?_
        obtain ⟨r, hr, hrid, hstatus⟩ := mem_of_hasStatus rfl hfinds.1
        rw [eq_of_ids hr hmem (hrid.trans hid'.symm)] at hstatus
        simp [hstatus] at hplaying
      next hpending =>
        split
        next hinvalid =>
          refine .refl fun _ hfinds => ?_
          obtain ⟨-, hpos, r, hr, hstatus, -⟩ := hfinds
          rw [Option.mem_def] at hr
          simp [hr, hstatus] at hinvalid
          omega
        next hvalid =>
          have hvalid' : 0 ≤ toIndex ∧ (listActiveOrdered st s)[toIndex.toNat]?.any
              (·.2.status = .pending) := by
            simpa using hvalid
          obtain ⟨hpos, hany⟩ := hvalid'
          obtain ⟨r, hr, hpend⟩ := (Option.any_eq_true ..).mp hany
          have hstatus : r.2.status = .pending := by simpa using hpend
          obtain ⟨ht, hrt⟩ := List.getElem?_eq_some_iff.mp hr
          split
          next heq =>
            refine .refl fun _ hfinds => ?_
            obtain ⟨-, -, q, hq, -, hne⟩ := hfinds
            rw [← heq, Int.toNat_natCast, List.getElem?_eq_getElem hs] at hq
            exact absurd (Option.some.inj hq ▸ hid') hne
          next hne =>
            have hne' : start ≠ toIndex.toNat := by omega
            have hpending' : (listActiveOrdered st s)[start].2.status = .pending := by
              simpa using hpending
            have hfinds : Edit.Finds st s (.move id toIndex) := by
              refine ⟨?_, hpos, r, hr, hstatus, fun hid'' => ?_⟩
              · have h := hasStatus_of_mem hmem
                rwa [hid', hpending'] at h
              · have h := eq_of_ids hmem (List.mem_of_getElem? hr) (hid'.trans hid''.symm)
                rw [← hrt] at h
                have hids := nodup_ids st s
                exact hne' ((List.Nodup.of_map _ hids).getElem_inj_iff.mp h)
            exact (rearranges_move hs ht hne').counted ⟨fun h => h hrev hfinds, fun h _ _ => h⟩

lemma change_commitSkipPlayingItem : Change s (commitSkipPlayingItem st id s).1
    (hasStatus st id .playing s → Grows st s) := by
  unfold commitSkipPlayingItem
  split_ifs with h
  · exact (rearranges_skip h).counted ⟨fun hc => hc h, fun hg _ => hg⟩
  · exact .refl fun h' => absurd h' h

lemma change_skipPlayingItem : Change s (skipPlayingItem digest st id expected s).1
    (Counts digest s (.edit st expected (.skip id))) := by
  unfold skipPlayingItem
  dsimp only [Counts, Edit.Finds]
  split
  next hok =>
    have hrev : activeRevision digest (listActiveOrdered st s) = expected := by
      unfold beginSkipPlayingItem at hok
      by_contra hne
      simp [hne] at hok
    simpa [hrev] using change_commitSkipPlayingItem
  next hne =>
    refine .refl fun hrev hfinds => absurd ?_ hne
    obtain ⟨r, hr, hid, hstatus⟩ := mem_of_hasStatus rfl hfinds
    unfold beginSkipPlayingItem
    dsimp only
    rw [if_neg (not_not.mpr hrev)]
    cases hfound : (listActiveOrdered st s).find? fun r => r.1 = id with
    | none => exact absurd hid (by simpa using List.find?_eq_none.mp hfound r hr)
    | some q =>
      have hq : q.1 = id := by simpa using List.find?_some hfound
      rw [eq_of_ids hr (List.mem_of_find?_eq_some hfound) (hid.trans hq.symm)] at hstatus
      simp [hstatus]

lemma change_deleteByQueueIndex (queueIndex : ℤ) :
    Change s (deleteByQueueIndex st queueIndex s).1
      (queueIndex < 0 ∨ (listActiveOrdered st s).length ≤ queueIndex) := by
  unfold deleteByQueueIndex
  dsimp only
  split_ifs with hneg
  · exact .refl (.inl hneg)
  · cases hrow : (listActiveOrdered st s)[queueIndex.toNat]? with
    | none =>
      have hlen := List.getElem?_eq_none_iff.mp hrow
      exact .refl (.inr (by omega))
    | some r =>
      obtain ⟨hlt, -⟩ := List.getElem?_eq_some_iff.mp hrow
      refine (rearranges_delete (List.mem_of_getElem? hrow)).uncounted ?_
      omega

lemma change_moveByQueueIndex (start target : ℤ) :
    Change s (moveByQueueIndex st start target s).1
      (start < 0 ∨ (listActiveOrdered st s).length ≤ start ∨
        start = min (max target 0) ((listActiveOrdered st s).length - 1)) := by
  unfold moveByQueueIndex
  dsimp only
  split
  next hout =>
    have hout' : start < 0 ∨ (listActiveOrdered st s).length ≤ start := by simpa using hout
    exact .refl (hout'.imp id .inl)
  next hin =>
    have hin' : 0 ≤ start ∧ start < (listActiveOrdered st s).length := by simpa using hin
    split
    next heq => exact .refl (.inr (.inr heq))
    next hne =>
      generalize hto : min (max target 0) (((listActiveOrdered st s).length : ℤ) - 1) = last
        at hne ⊢
      have hbound : 0 ≤ last ∧ last < (listActiveOrdered st s).length := by omega
      exact (rearranges_move (by omega) (by omega) (by omega)).uncounted (by omega)

end Edits

/-! ### The sweeper -/

section Sweeping

variable {st j : ℤ} {s : Engine}

lemma keys_dropPendingJingles_other (hj : j ≠ st) :
    keys j (dropPendingJingles st s) = keys j s := by
  refine keys_eq_iff.mpr fun id => ?_
  rw [entry, entry, lookup_dropPendingJingles]
  cases s.queueItems[id]? with
  | none => rfl
  | some r =>
    rw [Option.filter_some]
    split_ifs with hkeep
    · rfl
    · have hst : r.stationId = st := by
        by_contra hno
        simp [hno] at hkeep
      simp [entryOf, hst, Ne.symm hj]

lemma change_relayQueue (sweeper : Sweeper) : Change s (relayQueue st sweeper s)
    (commits st sweeper s →
      (place st (slotsOf st sweeper (dropPendingJingles st s)) 1 (dropPendingJingles st s)).isSome →
        layout (slotsOf st sweeper (dropPendingJingles st s)) 1
          (nextId (dropPendingJingles st s).queueItems) = keys st s) := by
  unfold relayQueue
  have hperm : (rowsIn (slotsOf st sweeper (dropPendingJingles st s))).Perm
      (listActiveOrdered st (dropPendingJingles st s)) := rowsIn_slotsOf sweeper
  have hdrop : (dropPendingJingles st s).stationSettings = s.stationSettings := rfl
  have hother : ∀ j, j ≠ st → keys j (dropPendingJingles st s) = keys j s := fun j hj =>
    keys_dropPendingJingles_other hj
  generalize slotsOf st sweeper (dropPendingJingles st s) = slots at hperm ⊢
  generalize dropPendingJingles st s = swept at hperm hdrop hother ⊢
  cases hplace : place st slots 1 swept with
  | none => exact .refl fun _ h => by simp at h
  | some s' =>
    have hrows : ∀ r ∈ rowsIn slots, Present st swept r := fun r hr =>
      present_of_mem (hperm.mem_iff.mp hr)
    have hkeys : keys st s' = layout slots 1 (nextId swept.queueItems) := by
      refine keys_place hplace hrows ?_ fun r hr => ?_
      · exact ((hperm.map Prod.fst).nodup_iff).mpr (nodup_ids st swept)
      · exact List.mem_map_of_mem (hperm.mem_iff.mpr hr)
    have hsettings : s'.stationSettings = s.stationSettings := (place_settings hplace).trans hdrop
    dsimp only
    split_ifs with hcommits
    · by_cases hlayout : layout slots 1 (nextId swept.queueItems) = keys st s
      · refine .same (fun j => ?_) (fun _ => changeSequence_eq hsettings) fun _ _ => hlayout
        by_cases hj : j = st
        · rw [hj, hkeys, hlayout]
        · rw [place_other hj hplace hrows, hother j hj]
      · refine .uncounted st (hkeys ▸ hlayout) (fun _ => changeSequence_eq hsettings) fun hc => ?_
        exact hlayout (hc hcommits rfl)
    · exact .refl fun h => absurd h hcommits

end Sweeping

/-! ### All operations -/

/-- What operations that all count make of a database, while the rest of it may change. -/
inductive Reaches (digest : String → String) (s : Engine) : Engine → Prop
  | refl : Reaches digest s s
  | operation {t : Engine} (op : Operation) (h : Reaches digest s t) (hc : Counts digest t op) :
      Reaches digest s (op.run digest t)
  | elsewhere {t t' : Engine} (h : Reaches digest s t) (hqueue : t'.queueItems = t.queueItems)
      (hset : ∀ st, setting st t' "_queue_change_sequence" =
        setting st t "_queue_change_sequence") : Reaches digest s t'

section AllOperations

variable {digest : String → String} {s s' : Engine}

variable (digest) in
/-- **What an operation can do**: it leaves the active rows, or it counts, or it does not. -/
theorem Operation.change (op : Operation) : Change s (op.run digest s) (Counts digest s op) := by
  cases op with
  | write w => exact Write.change w
  | edit st expected e =>
    cases e with
    | delete itemId => exact change_deletePendingItem
    | move itemId toIndex => exact change_movePendingItem toIndex
    | skip itemId => exact change_skipPlayingItem
  | commitSkip st itemId => exact change_commitSkipPlayingItem
  | deleteByIndex st queueIndex => exact change_deleteByQueueIndex queueIndex
  | moveByIndex st start target => exact change_moveByQueueIndex start target
  | reconcile st =>
    dsimp only [Operation.run, Counts]
    cases hsettings : sweeperSettings st s with
    | error e => exact .refl fun sweeper h => by cases h
    | ok sweeper =>
      have hchange : Change s (relayQueue st sweeper s) _ := change_relayQueue sweeper
      simpa using hchange

/-- **Who has seen a sequence has seen the rows**: where all operations count, the rows of a
station are those of an earlier state with the same sequence. -/
theorem rows_of_sequence (h : Reaches digest s s') (st : ℤ) :
    changeSequence st s ≤ changeSequence st s' ∧
      (changeSequence st s' = changeSequence st s → keys st s' = keys st s) := by
  induction h with
  | refl => exact ⟨le_rfl, fun _ => rfl⟩
  | operation op h hc ih =>
    obtain ⟨hle, hsame⟩ := ih
    obtain ⟨hle', hsame'⟩ := (op.change digest).mono hc st
    refine ⟨hle.trans hle', fun heq => ?_⟩
    have hmid := le_antisymm (hle'.trans_eq heq) hle
    exact (hsame' (heq.trans hmid.symm)).trans (hsame hmid)
  | elsewhere h hqueue hset ih =>
    have hsequence : changeSequence st _ = changeSequence st _ := congrArg sequenceOf
      (congrArg (·.getD "0") (hset st))
    rw [hsequence]
    refine ⟨ih.1, fun heq => ?_⟩
    rw [← ih.2 heq]
    unfold keys listActiveOrdered queueRows
    rw [hqueue]

end AllOperations

/-! ### A row before another, a row at the end -/

def oneSong : Engine :=
  { Engine.empty with
    queueItems := (∅ : Table QueueItem).insert 1 ⟨1, 10, 1, .pending, none, none⟩ }

/-- The digests of the texts that are hashed below. -/
def digests (text : String) : String :=
  if text = "1:1:pending" then "5c6f2c48e40aa635a35c75c1"
  else if text = "2:1:pending|1:2:pending" then "e8bcfa37d053e1cfca10569f"
  else if text = "1:1:pending|2:2:pending" then "624d167381f0d42c02cc051f"
  else ""

/-- Databases with rows of one station. -/
lemma tellsApart_of_one {digest : String → String} {s s' : Engine}
    (hs : (rows s.queueItems).all (·.2.stationId = 1) = true)
    (hs' : (rows s'.queueItems).all (·.2.stationId = 1) = true)
    (hne : activeRevision digest (listActiveOrdered 1 s') ≠
      activeRevision digest (listActiveOrdered 1 s)) : TellsApart digest s s' := by
  have hnil : ∀ (s : Engine) (st : ℤ), st ≠ 1 →
      (rows s.queueItems).all (·.2.stationId = 1) = true → listActiveOrdered st s = [] := by
    intro s st hst hall
    refine List.eq_nil_iff_forall_not_mem.mpr fun r hr => hst ?_
    obtain ⟨hrow, hstation, -⟩ := mem_listActiveOrdered.mp hr
    have hone := List.all_eq_true.mp hall r (mem_rows.mpr hrow)
    rw [← hstation]
    simpa using hone
  intro st heq
  by_cases hst : st = 1
  · subst hst
    exact absurd heq hne
  · rw [hnil s st hst hs, hnil s' st hst hs']

theorem rows_of_sequence_enqueue :
    let t := Operation.run digests (.write (.enqueue 1 20 none)) oneSong
    changeSequence 1 oneSong ≤ changeSequence 1 t ∧
      (changeSequence 1 t = changeSequence 1 oneSong → keys 1 t = keys 1 oneSong) := by
  have hnone : setting 1 oneSong "_queue_change_sequence" = none := by decide +kernel
  refine rows_of_sequence (.operation (.write (.enqueue 1 20 none)) .refl
    (.inr fun value h => ?_)) 1
  rw [hnone] at h
  cases h

end OnAir.ChangeSequence
