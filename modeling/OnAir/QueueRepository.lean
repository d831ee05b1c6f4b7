import OnAir.PlayoutTables
import OnAir.TextFields

/-!
The rest of `QueueRepository`: keys that may be missing, the revision of the active rows, and the
edits of an operator, who names the revision that was seen.

A call runs in one transaction; an exception rolls it back.
-/

namespace OnAir.QueueRepository

open PlayoutTables OnAir.Table

/-! ### Adding rows -/

/-- `find_by_dedupe_key`, where there may be no key. -/
def findExisting (st : ℤ) (s : Engine) (key : Option String) (statuses : List ItemStatus) :
    Option (ℤ × QueueItem) :=
  key.bind fun k => findByDedupeKey st s k statuses

def newItem (st trackId position : ℤ) (key : Option String) : QueueItem :=
  ⟨st, trackId, position, .pending, none, key⟩

/-- `enqueue_or_get_existing`. -/
def enqueueOrGetExisting (st trackId : ℤ) (key : Option String) (s : Engine) : Engine × ℤ × Bool :=
  match findExisting st s key [.pending, .playing] with
  | some r => (s, r.1, false)
  | none =>
    (bumpChangeSequence st (insertQueue (newItem st trackId (nextPosition st s) key) s),
      nextId s.queueItems, true)

/-- The active rows of the station from a position on move by one. -/
def shiftPositions (st pos : ℤ) (s : Engine) : Engine :=
  { s with queueItems := s.queueItems.map fun _ r =>
      if r.stationId = st && isActive r.status && decide (pos ≤ r.position) then
        { r with position := r.position + 1 } else r }

/-- `insert_before_item_or_get_existing`; nothing is returned where the key is that of an active
row, which the statuses left out. -/
def insertBeforeItemOrGetExisting (st beforeItemId trackId : ℤ) (key : Option String)
    (statuses : List ItemStatus) (s : Engine) : Engine × Option (ℤ × Bool) :=
  match findExisting st s key statuses with
  | some r => (s, some (r.1, false))
  | none =>
    match (queueRows st s [.pending, .playing]).find? fun r => r.1 = beforeItemId with
    | none =>
      let r := enqueueOrGetExisting st trackId key s
      (r.1, some r.2)
    | some (_, before) =>
      let pos := if before.position = 0 then 1 else before.position
      let row := newItem st trackId pos key
      if dedupeTaken s row then (s, none)
      else (insertQueue row (shiftPositions st pos s), some (nextId s.queueItems, true))

/-! ### Marks -/

/-- `idx_queue_active_dedupe` has the key of the row under another id. -/
def clashes (s : Engine) (id : ℤ) (r : QueueItem) : Bool :=
  match r.dedupeKey with
  | none => false
  | some key => isActive r.status && Sql.nonBlank key &&
      (queueRows r.stationId s [.pending, .playing]).any fun q =>
        q.1 ≠ id && q.2.dedupeKey = some key

/-- `UPDATE queue_items … WHERE id=?`, where the index allows it. -/
def updateItem (id : ℤ) (f : QueueItem → QueueItem) (s : Engine) : Engine :=
  if s.queueItems[id]?.any fun r => clashes s id (f r) then s else updateQueue id f s

/-- `mark_playing` of any row. -/
def markPlaying (id now : ℤ) : Engine → Engine :=
  updateItem id fun r => { r with status := .playing, startedAt := some now }

/-- `_restore_managed_item_pending` of a queue row. -/
def restorePending (id : ℤ) : Engine → Engine :=
  updateItem id fun r => { r with status := .pending, startedAt := none }

/-! ### The revision -/

/-- `str(row["status"])`. -/
def ItemStatus.text : ItemStatus → String
  | .pending => "pending"
  | .playing => "playing"
  | .done => "done"
  | .failed => "failed"
  | .missed => "missed"

def rowText (r : ℤ × QueueItem) : String :=
  s!"{r.1}:{r.2.position}:{ItemStatus.text r.2.status}"

/-- The text under the revision of rows. -/
def material (rows : List (ℤ × QueueItem)) : String := String.intercalate "|" (rows.map rowText)

/-- `max(0, int(value))`, or `0` where `int` raises. -/
def sequenceOf (value : String) : ℤ := ((PythonText.intOf value).map (max 0)).getD 0

/-- `change_sequence`. -/
def changeSequence (st : ℤ) (s : Engine) : ℤ :=
  sequenceOf ((setting st s "_queue_change_sequence").getD "0")

/-! ### Edits -/

/-- What an edit returns. -/
inductive Outcome
  | ok
  | stale
  | missing
  | playing
  | notPlaying
  | invalidDestination
  deriving DecidableEq, Repr

/-- `UPDATE queue_items SET position=? WHERE id=?` for the ids, with positions from `1` on. -/
def setPositions (ids : List ℤ) (s : Engine) : Engine :=
  (ids.zipIdx 1).foldl (fun s r => updateQueue r.1 (fun q => { q with position := r.2 }) s) s

/-- `_reindex_active`. -/
def reindexActive (st : ℤ) (s : Engine) : Engine :=
  setPositions ((listActiveOrdered st s).map Prod.fst) s

def deleteRow (id : ℤ) (s : Engine) : Engine := { s with queueItems := s.queueItems.erase id }

/-- The row is one of the station, with the status. -/
def hasStatus (st id : ℤ) (status : ItemStatus) (s : Engine) : Bool :=
  s.queueItems[id]?.any fun r => r.stationId = st && r.status = status

/-- `rows.pop(start)`, and then `rows.insert(target, row)`. -/
def moveRow (start target : ℕ) (rows : List (ℤ × QueueItem)) : List (ℤ × QueueItem) :=
  match rows[start]? with
  | none => rows
  | some row => (rows.eraseIdx start).insertIdx target row

section Edits

variable (digest : String → String)

/-- `active_revision`, with the first 24 digits of SHA-256. -/
def activeRevision (rows : List (ℤ × QueueItem)) : String := digest (material rows)

variable (st itemId : ℤ) (expected : String) (s : Engine)

/-- `delete_pending_item`. -/
def deletePendingItem : Engine × Outcome :=
  let rows := listActiveOrdered st s
  if activeRevision digest rows ≠ expected then (s, .stale)
  else
    match rows.find? fun r => r.1 = itemId with
    | none => (s, .missing)
    | some target =>
      if target.2.status ≠ .pending then (s, .playing)
      else if hasStatus st itemId .pending s then
        (bumpChangeSequence st (reindexActive st (deleteRow itemId s)), .ok)
      else (s, .stale)

/-- `move_pending_item`. -/
def movePendingItem (toIndex : ℤ) : Engine × Outcome :=
  let rows := listActiveOrdered st s
  if activeRevision digest rows ≠ expected then (s, .stale)
  else
    match rows.findIdx? fun r => r.1 = itemId with
    | none => (s, .missing)
    | some start =>
      if rows[start]?.any (·.2.status ≠ .pending) then (s, .playing)
      else if toIndex < 0 || !rows[toIndex.toNat]?.any (·.2.status = .pending) then
        (s, .invalidDestination)
      else if start = toIndex then (s, .ok)
      else
        let moved := moveRow start toIndex.toNat rows
        (bumpChangeSequence st (setPositions (moved.map Prod.fst) s), .ok)

/-- `begin_skip_playing_item`, which writes nothing and keeps the lock where it returns `ok`. -/
def beginSkipPlayingItem : Outcome :=
  let rows := listActiveOrdered st s
  if activeRevision digest rows ≠ expected then .stale
  else
    match rows.find? fun r => r.1 = itemId with
    | none => .missing
    | some target => if target.2.status ≠ .playing then .notPlaying else .ok

/-- `commit_skip_playing_item`. -/
def commitSkipPlayingItem : Engine × Outcome :=
  if hasStatus st itemId .playing s then (bumpChangeSequence st (markQueueDone itemId s), .ok)
  else (s, .stale)

/-- `skip_playing_item`. -/
def skipPlayingItem : Engine × Outcome :=
  match beginSkipPlayingItem digest st itemId expected s with
  | .ok => commitSkipPlayingItem st itemId s
  | outcome => (s, outcome)

end Edits

/-- An edit that names a revision. -/
inductive Edit
  | delete (itemId : ℤ)
  | move (itemId toIndex : ℤ)
  | skip (itemId : ℤ)

def Edit.call (digest : String → String) (st : ℤ) (expected : String) (s : Engine) :
    Edit → Engine × Outcome
  | .delete itemId => deletePendingItem digest st itemId expected s
  | .move itemId toIndex => movePendingItem digest st itemId expected s toIndex
  | .skip itemId => skipPlayingItem digest st itemId expected s

/-- `delete_by_queue_index`. -/
def deleteByQueueIndex (st queueIndex : ℤ) (s : Engine) : Engine × Bool :=
  let rows := listActiveOrdered st s
  if queueIndex < 0 then (s, false)
  else
    match rows[queueIndex.toNat]? with
    | none => (s, false)
    | some target => (reindexActive st (deleteRow target.1 s), true)

/-- `move_by_queue_index`. -/
def moveByQueueIndex (st start target : ℤ) (s : Engine) : Engine × Bool :=
  let rows := listActiveOrdered st s
  if start < 0 || rows.length ≤ start then (s, false)
  else
    let target := min (max target 0) (rows.length - 1)
    if start = target then (s, true)
    else (setPositions ((moveRow start.toNat target.toNat rows).map Prod.fst) s, true)

/-! ### What the station worker calls -/

section Calls

variable {st before trackId : ℤ} {key : String} {s : Engine}

lemma dedupeTaken_of_findByDedupeKey {r : QueueItem} (hr : r.dedupeKey = some key)
    (h : findByDedupeKey r.stationId s key [.pending, .playing] = none) :
    dedupeTaken s r = false := by
  unfold dedupeTaken
  rw [hr]
  unfold findByDedupeKey at h
  split_ifs at h with hkey
  · subst hkey
    simp [Sql.nonBlank]
  · rw [List.find?_eq_none] at h
    have hany : ((queueRows r.stationId s [.pending, .playing]).any fun q =>
        q.2.dedupeKey = some key) = false :=
      List.any_eq_false.mpr fun q hq => h q hq
    simp [hany]

/-- No active row has the key, where none of more statuses has it. -/
lemma findByDedupeKey_of_done
    (h : findByDedupeKey st s key [.pending, .playing, .done] = none) :
    findByDedupeKey st s key [.pending, .playing] = none := by
  unfold findByDedupeKey at h ⊢
  split_ifs at h ⊢ with hkey
  · rfl
  · rw [List.find?_eq_none] at h ⊢
    rintro r hr
    obtain ⟨hrow, hst⟩ := List.mem_filter.mp hr
    refine h r (List.mem_filter.mpr ⟨hrow, ?_⟩)
    simp only [Bool.and_eq_true, decide_eq_true_eq] at hst ⊢
    have hsub : [ItemStatus.pending, .playing] ⊆ [.pending, .playing, .done] := by decide
    exact ⟨hst.1, hsub hst.2⟩

end Calls

end OnAir.QueueRepository
