import OnAir.LastWrite
import OnAir.ReplicationApplier

/-!
`ScheduleRepository`: the journaled calls on `schedule_items`, the status marks that are not
journaled, and what a journaled call does where its entry is applied.
-/

namespace OnAir.ScheduleRepository

open OnAir.Database Json ReplicationApplier ReplicationJournal
open LastWrite

/-! ### Changes and their entries -/

/-- What a journaled call makes of the row `id`. -/
inductive Change
  | upsert (id : ℤ) (row : ScheduleItem)
  | delete (id stationId : ℤ)
  deriving DecidableEq, Repr

namespace Change

def id : Change → ℤ
  | upsert id _ => id
  | delete id _ => id

/-- The row afterwards. -/
def value : Change → Option ScheduleItem
  | upsert _ row => some row
  | delete _ _ => none

def operation : Change → String
  | upsert _ _ => "upsert"
  | delete _ _ => "delete"

def textOrNull : Option String → Value
  | some s => .str s
  | none => .null

/-- `dict(row)` of a selected row, and the payload of a deletion. -/
def payload : Change → Value
  | upsert id r => .obj [("id", .num id 0), ("station_id", .num r.stationId 0),
      ("track_id", .num r.trackId 0), ("play_at", .str r.playAt),
      ("window_end", textOrNull r.windowEnd), ("event_name", .str r.eventName),
      ("status", .str r.status.text)]
  | delete id stationId => .obj [("id", .num id 0), ("station_id", .num stationId 0)]

/-- What `_replicate` appends. -/
def entry (c : Change) : Entry :=
  ⟨"schedule", toString c.id, c.operation, canonicalJson c.payload⟩

/-- The change made to a table. -/
def put (c : Change) (t : Table ScheduleItem) : Table ScheduleItem :=
  match c.value with
  | some row => t.insert c.id row
  | none => t.erase c.id

lemma lookup_put (c : Change) (t : Table ScheduleItem) (j : ℤ) :
    (c.put t)[j]? = if j = c.id then c.value else t[j]? := by
  unfold put
  cases c with
  | upsert id row => exact Table.lookup_insert t id j row
  | delete id s => exact Table.lookup_erase t id j

end Change

/-! ### The calls -/

section Calls

variable (sha : String → String)

/-- The table is written and committed, then the change is journaled. -/
def commit (s : Replica Data) (c : Change) : Replica Data where
  journal := (s.journal.append sha c.entry).1
  data := { s.data with scheduleItems := c.put s.data.scheduleItems }

/-- The change `enqueue` makes. -/
def enqueued (t : Table ScheduleItem) (stationId trackId : ℤ) (playAt : String)
    (windowEnd : Option String) (eventName : String) : Change :=
  .upsert (Table.nextId t) ⟨stationId, trackId, playAt, windowEnd, eventName, .pending⟩

/-- `enqueue`. -/
def enqueue (s : Replica Data) (stationId trackId : ℤ) (playAt : String)
    (windowEnd : Option String) (eventName : String) : Replica Data :=
  commit sha s (enqueued s.data.scheduleItems stationId trackId playAt windowEnd eventName)

/-- The change `update` makes, if it finds the row. -/
def updated (t : Table ScheduleItem) (id stationId trackId : ℤ) (playAt : String)
    (windowEnd : Option String) (eventName : String) : Option Change :=
  t[id]?.map fun r => .upsert id { r with stationId, trackId, playAt, windowEnd, eventName }

/-- `update`. -/
def update (s : Replica Data) (id stationId trackId : ℤ) (playAt : String)
    (windowEnd : Option String) (eventName : String) : Replica Data × Bool :=
  match updated s.data.scheduleItems id stationId trackId playAt windowEnd eventName with
  | some c => (commit sha s c, true)
  | none => (s, false)

/-- The change `delete` makes, if it finds the row. -/
def deleted (t : Table ScheduleItem) (id : ℤ) : Option Change :=
  t[id]?.map fun r => .delete id r.stationId

/-- `delete`. -/
def delete (s : Replica Data) (id : ℤ) : Replica Data × Bool :=
  match deleted s.data.scheduleItems id with
  | some c => (commit sha s c, true)
  | none => (s, false)

end Calls

/-- `mark_playing`, `mark_done` and `mark_failed`. -/
def mark (status : ScheduleStatus) (s : Replica Data) (id : ℤ) : Replica Data :=
  { s with data := { s.data with
      scheduleItems := s.data.scheduleItems.modify id fun r => { r with status } } }

def markPlaying : Replica Data → ℤ → Replica Data := mark .playing

def markDone : Replica Data → ℤ → Replica Data := mark .done

def markFailed : Replica Data → ℤ → Replica Data := mark .failed

/-! ### Applying an entry -/

lemma loads_payload (c : Change) : loads c.entry.payloadJson = some (sortKeys c.payload) :=
  loads_canonicalJson c.payload

lemma payloadJson_ne (c : Change) : c.entry.payloadJson ≠ "" := by
  intro h
  have hempty : (loads "").isNone := by decide +kernel
  rw [← h, loads_payload] at hempty
  simp at hempty

lemma sortKeys_upsert (id : ℤ) (r : ScheduleItem) : sortKeys (Change.payload (.upsert id r)) =
    .obj [("event_name", .str r.eventName), ("id", .num id 0), ("play_at", .str r.playAt),
      ("station_id", .num r.stationId 0), ("status", .str r.status.text),
      ("track_id", .num r.trackId 0), ("window_end", Change.textOrNull r.windowEnd)] := by
  cases h : r.windowEnd <;>
    simp [Change.payload, sortKeys, sortFields, insertField, Change.textOrNull, h]

lemma sortKeys_delete (id s : ℤ) : sortKeys (Change.payload (.delete id s)) =
    .obj [("id", .num id 0), ("station_id", .num s 0)] := by
  simp [Change.payload, sortKeys, sortFields, insertField]

lemma orElse_status (s : ScheduleStatus) :
    (Value.str s.text).orElse (.str "pending") = .str s.text := by
  cases s <;> simp [Value.orElse, Value.truthy, ScheduleStatus.text]

/-- **A journaled change is applied as it was made**, to a row with a positive id. -/
theorem applyRow_entry (c : Change) (d : Data) : applyRow c.entry d =
    some (if c.id ≤ 0 then d else { d with scheduleItems := c.put d.scheduleItems }, false) := by
  have hl := loads_payload c
  have hne := payloadJson_ne c
  cases c with
  | upsert id r =>
    have hrow : scheduleRow [("event_name", .str r.eventName), ("id", .num id 0),
        ("play_at", .str r.playAt), ("station_id", .num r.stationId 0),
        ("status", .str r.status.text), ("track_id", .num r.trackId 0),
        ("window_end", Change.textOrNull r.windowEnd)] = some r := by
      cases h : r.windowEnd <;>
        simp [scheduleRow, Json.get, getD, orElse_num, orElse_str, orElse_status, Value.toInt,
          Value.text, Value.textOrNull, Change.textOrNull, ← h]
    rw [sortKeys_upsert] at hl
    simp only [applyRow, hne, if_false, hl]
    by_cases hid : id ≤ 0 <;>
      simp [Change.entry, Change.operation, Change.id, Change.put, Change.value, applySchedule,
        Value.fields, Json.get, getD, orElse_num, Value.toInt, hrow, hid]
  | delete id s =>
    rw [sortKeys_delete] at hl
    simp only [applyRow, hne, if_false, hl]
    by_cases hid : id ≤ 0 <;>
      simp [Change.entry, Change.operation, Change.id, Change.put, Change.value, applySchedule,
        Value.fields, Json.get, getD, orElse_num, Value.toInt, hid]

end OnAir.ScheduleRepository
