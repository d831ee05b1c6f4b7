import OnAir.QueueRepository
import OnAir.QueueUpkeep

/-!
The writes by which the queue and the workers of all stations change the table of the queue.

A transaction of a worker that writes several rows is several writes here, one after another.
-/

namespace OnAir.QueueWrites

open PlayoutTables QueueRepository QueueUpkeep OnAir.Table WorkerEnv

inductive Write
  | enqueue (st trackId : ℤ) (key : Option String)
  | insertBefore (st beforeItemId trackId : ℤ) (key : Option String) (statuses : List ItemStatus)
  /-- a row that a worker inserts by itself -/
  | insertRow (st trackId position : ℤ) (key : String)
  | markPlaying (id now : ℤ)
  | markDone (id : ℤ)
  | markFailed (id : ℤ)
  | restorePending (id : ℤ)
  | removePendingJingles (w : Worker)

/-- The database after a write. -/
def Write.run : Write → Engine → Engine
  | .enqueue st trackId key, s => (enqueueOrGetExisting st trackId key s).1
  | .insertBefore st before trackId key statuses, s =>
    (insertBeforeItemOrGetExisting st before trackId key statuses s).1
  | .insertRow st trackId position key, s => (insertOrIgnore (.new st trackId position key) s).1
  | .markPlaying id now, s => QueueRepository.markPlaying id now s
  | .markDone id, s => markQueueDone id s
  | .markFailed id, s => markQueueFailed id s
  | .restorePending id, s => QueueRepository.restorePending id s
  | .removePendingJingles w, s => QueueUpkeep.removePendingJingles w s

/-! ### What a write does to a row -/

/-- The row was there before, with the same track. -/
def OldRow (s : Engine) (id : ℤ) (row : QueueItem) : Prop :=
  ∃ q, s.queueItems[id]? = some q ∧ q.trackId = row.trackId

variable {s : Engine} {id j : ℤ} {row : QueueItem}

lemma oldRow_updateQueue {f : QueueItem → QueueItem} (hf : ∀ q, (f q).trackId = q.trackId)
    (h : (updateQueue id f s).queueItems[j]? = some row) : OldRow s j row := by
  rw [updateQueue, lookup_modify] at h
  split_ifs at h
  · obtain ⟨q, hq, rfl⟩ := Option.map_eq_some_iff.mp h
    exact ⟨q, hq, (hf q).symm⟩
  · exact ⟨row, h, rfl⟩

lemma oldRow_updateItem {f : QueueItem → QueueItem} (hf : ∀ q, (f q).trackId = q.trackId)
    (h : (updateItem id f s).queueItems[j]? = some row) : OldRow s j row := by
  unfold updateItem at h
  split_ifs at h
  · exact ⟨row, h, rfl⟩
  · exact oldRow_updateQueue hf h

lemma oldRow_shiftPositions {st pos : ℤ}
    (h : (shiftPositions st pos s).queueItems[j]? = some row) : OldRow s j row := by
  rw [shiftPositions, Std.ExtTreeMap.getElem?_map] at h
  obtain ⟨q, hq, rfl⟩ := Option.map_eq_some_iff.mp h
  exact ⟨q, hq, by split_ifs <;> rfl⟩

lemma oldRow_removePendingJingles {w : Worker}
    (h : (QueueUpkeep.removePendingJingles w s).queueItems[j]? = some row) : OldRow s j row := by
  rw [QueueUpkeep.removePendingJingles, Std.ExtTreeMap.getElem?_filter'] at h
  exact ⟨row, (Option.filter_eq_some_iff.mp h).1, rfl⟩

/-- All but the new row was there before. -/
lemma oldRow_insertQueue {r : QueueItem} (hj : j ≠ nextId s.queueItems)
    (h : (insertQueue r s).queueItems[j]? = some row) : s.queueItems[j]? = some row := by
  rwa [insertQueue, lookup_insert, if_neg hj] at h

lemma nextId_shiftPositions (st pos : ℤ) :
    nextId (shiftPositions st pos s).queueItems = nextId s.queueItems := nextId_map ..

lemma oldRow_enqueue {st trackId : ℤ} {key : Option String} (hj : j ≠ nextId s.queueItems)
    (h : (enqueueOrGetExisting st trackId key s).1.queueItems[j]? = some row) : OldRow s j row := by
  unfold enqueueOrGetExisting at h
  split at h
  · exact ⟨row, h, rfl⟩
  · exact ⟨row, oldRow_insertQueue hj h, rfl⟩

/-- **A write adds one row at most**, under the next id, and leaves the tracks of the others. -/
theorem Write.oldRow (w : Write) (hj : j ≠ nextId s.queueItems)
    (h : (w.run s).queueItems[j]? = some row) : OldRow s j row := by
  cases w with
  | enqueue st trackId key => exact oldRow_enqueue hj h
  | insertBefore st before trackId key statuses =>
    dsimp only [Write.run] at h
    unfold insertBeforeItemOrGetExisting at h
    split at h
    · exact ⟨row, h, rfl⟩
    split at h
    · exact oldRow_enqueue hj h
    next _ q _ =>
      dsimp only at h
      generalize (if q.position = 0 then 1 else q.position) = pos at h
      split_ifs at h
      · exact ⟨row, h, rfl⟩
      · rw [← nextId_shiftPositions st pos] at hj
        exact oldRow_shiftPositions (oldRow_insertQueue hj h)
  | insertRow st trackId position key =>
    dsimp only [Write.run] at h
    unfold insertOrIgnore at h
    split_ifs at h
    · exact ⟨row, h, rfl⟩
    · exact ⟨row, oldRow_insertQueue hj h, rfl⟩
  | markPlaying id now =>
    refine oldRow_updateItem ?_ h
    exact fun q => rfl
  | markDone id =>
    refine oldRow_updateQueue ?_ h
    exact fun q => rfl
  | markFailed id =>
    refine oldRow_updateQueue ?_ h
    exact fun q => rfl
  | restorePending id =>
    refine oldRow_updateItem ?_ h
    exact fun q => rfl
  | removePendingJingles w => exact oldRow_removePendingJingles h

end OnAir.QueueWrites
