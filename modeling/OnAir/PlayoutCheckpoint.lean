import Mathlib.Data.List.Chain
import Mathlib.Data.List.Infix
import OnAir.Json
import OnAir.Table

/-!
Checkpoints of the playout: what a node captures, and the row it keeps for each station.

A leader stores what it captures and sends it to its peers, which store what reaches them. The
checksum is checked; the time of a checkpoint is not compared with that of the stored one, so
that the row is always that of the last valid checkpoint. Times are seconds of the wall clock.
-/

namespace OnAir.PlayoutCheckpoint

open Json OnAir.Table

/-- A row of `ha_playout_checkpoints`. -/
structure Row where
  nodeId : String
  payloadJson : String
  checksum : String
  checkpointedAt : ℚ
  deriving DecidableEq, Repr

/-- A checkpoint as a caller passes it. -/
structure Checkpoint where
  nodeId : String
  payload : List (String × Value)
  payloadJson : String
  checksum : String

section Store

variable (sha256 : String → String)

/-- The text that `store` checks and keeps. -/
def Checkpoint.text (c : Checkpoint) : String :=
  if c.payloadJson = "" then dumps (sortKeys (.obj c.payload)) else c.payloadJson

/-- The row that `store` writes; `none` where it raises. -/
def rowOf (c : Checkpoint) : Option (ℤ × Row) := do
  if sha256 c.text ≠ c.checksum then none
  let payload ← (loads c.text).bind Value.fields
  let stationId ← (get payload "station_id").toInt
  let checkpointedAt ← (get payload "checkpointed_at").toReal
  return (stationId, ⟨c.nodeId, c.text, c.checksum, checkpointedAt⟩)

/-- `store`. -/
def store (t : Table Row) (c : Checkpoint) : Table Row :=
  match rowOf sha256 c with
  | none => t
  | some (stationId, row) => t.insert stationId row

/-- The stores of a node, in their order. -/
def storeAll (t : Table Row) (cs : List Checkpoint) : Table Row := cs.foldl (store sha256) t

end Store

/-! ### What a node captures -/

/-- What `capture` reads of a station; a float is a decimal with its places. -/
structure Capture where
  stationId : ℤ
  running : Bool
  activeInputUri : String
  activeMediaChecksum : String
  offsetSeconds : ℤ × ℕ
  backend : String
  queueHead : Value
  checkpointedAt : ℤ × ℕ

def Capture.payload (c : Capture) : List (String × Value) :=
  [("station_id", .num c.stationId 0), ("running", .bool c.running),
    ("active_input_uri", .str c.activeInputUri),
    ("active_media_checksum", .str c.activeMediaChecksum),
    ("offset_seconds", .num c.offsetSeconds.1 c.offsetSeconds.2), ("backend", .str c.backend),
    ("queue_head", c.queueHead), ("checkpointed_at", .num c.checkpointedAt.1 c.checkpointedAt.2)]

/-- The time of a capture. -/
def Capture.time (c : Capture) : ℚ := c.checkpointedAt.1 / 10 ^ c.checkpointedAt.2

def Capture.canonical (c : Capture) : String := dumps (sortKeys (.obj c.payload))

def Capture.checkpoint (sha256 : String → String) (nodeId : String) (c : Capture) : Checkpoint :=
  ⟨nodeId, c.payload, c.canonical, sha256 c.canonical⟩

variable {sha256 : String → String}

lemma sortKeys_payload (c : Capture) : sortKeys (.obj c.payload) =
    .obj [("active_input_uri", .str c.activeInputUri),
      ("active_media_checksum", .str c.activeMediaChecksum), ("backend", .str c.backend),
      ("checkpointed_at", .num c.checkpointedAt.1 c.checkpointedAt.2),
      ("offset_seconds", .num c.offsetSeconds.1 c.offsetSeconds.2),
      ("queue_head", sortKeys c.queueHead), ("running", .bool c.running),
      ("station_id", .num c.stationId 0)] := by
  cases hq : c.queueHead <;> simp [Capture.payload, sortKeys, sortFields, insertField, hq]

/-- A node stores what it captures. -/
theorem rowOf_checkpoint (nodeId : String) (c : Capture) :
    rowOf sha256 (c.checkpoint sha256 nodeId) =
      some (c.stationId, ⟨nodeId, c.canonical, sha256 c.canonical, c.time⟩) := by
  have htext : (c.checkpoint sha256 nodeId).text = c.canonical := by
    unfold Checkpoint.text Capture.checkpoint
    split <;> rfl
  have hloads : loads c.canonical = some (sortKeys (.obj c.payload)) := loads_dumps _
  rw [rowOf, htext, hloads, sortKeys_payload]
  simp [Capture.checkpoint, Value.fields, Json.get, getD, Value.toInt, Value.toReal,
    Capture.time]

/-! ### The time of the stored row -/

variable (sha256)

/-- The time stored for a station. -/
def timeOf (stationId : ℤ) (t : Table Row) : Option ℚ := t[stationId]?.map (·.checkpointedAt)

/-- The times of the valid checkpoints of a station, in the order of their stores. -/
def times (stationId : ℤ) (cs : List Checkpoint) : List ℚ :=
  cs.filterMap fun c => ((rowOf sha256 c).filter (·.1 = stationId)).map (·.2.checkpointedAt)

/-- The stored time never decreases while the checkpoints come in. -/
def NeverDecreases (stationId : ℤ) (t : Table Row) (cs : List Checkpoint) : Prop :=
  ∀ p q, p <+: q → q <+: cs → ∀ a ∈ timeOf stationId (storeAll sha256 t p),
    ∃ b ∈ timeOf stationId (storeAll sha256 t q), a ≤ b

variable {sha256} {stationId : ℤ} {t : Table Row}

lemma storeAll_snoc (cs : List Checkpoint) (c : Checkpoint) :
    storeAll sha256 t (cs ++ [c]) = store sha256 (storeAll sha256 t cs) c := by
  simp [storeAll]

lemma timeOf_store (c : Checkpoint) :
    timeOf stationId (store sha256 t c) = (times sha256 stationId [c]).head?.or
      (timeOf stationId t) := by
  unfold store times
  cases hr : rowOf sha256 c with
  | none => simp [hr]
  | some r =>
    obtain ⟨own, row⟩ := r
    by_cases hown : own = stationId
    · simp [hr, hown, timeOf, Option.filter]
    · simp [hr, hown, Ne.symm hown, timeOf, lookup_insert, Option.filter]

lemma times_append (cs ds : List Checkpoint) : times sha256 stationId (cs ++ ds) =
    times sha256 stationId cs ++ times sha256 stationId ds := List.filterMap_append

lemma times_singleton (sha256 : String → String) (stationId : ℤ) (c : Checkpoint) :
    times sha256 stationId [c] = [] ∨ ∃ x, times sha256 stationId [c] = [x] := by
  unfold times
  cases h : ((rowOf sha256 c).filter (·.1 = stationId)).map (·.2.checkpointedAt) <;> simp [h]

/-- The stored time is that of the last valid checkpoint. -/
lemma timeOf_storeAll (cs : List Checkpoint) : timeOf stationId (storeAll sha256 t cs) =
    ((timeOf stationId t).toList ++ times sha256 stationId cs).getLast? := by
  induction cs using List.reverseRecOn with
  | nil => cases h : timeOf stationId t <;> simp [storeAll, times, h]
  | append_singleton cs c ih =>
    rw [storeAll_snoc, timeOf_store, ih]
    rw [times_append, ← List.append_assoc, List.getLast?_append]
    rcases times_singleton sha256 stationId c with h | ⟨x, h⟩ <;> simp [h]

/-- **The stored time never decreases exactly if the checkpoints come in order.** The last valid
checkpoint of a station replaces what is stored for it, whatever its time: in any sequence of
stores the stored time keeps from decreasing if and only if the valid checkpoints of the station
are in the order of their times, the one stored at first included. -/
theorem neverDecreases_iff (sha256 : String → String) (stationId : ℤ) (t : Table Row)
    (cs : List Checkpoint) :
    NeverDecreases sha256 stationId t cs ↔
      ((timeOf stationId t).toList ++ times sha256 stationId cs).Pairwise (· ≤ ·) := by
  constructor
  · intro h
    rw [← List.isChain_iff_pairwise]
    induction cs using List.reverseRecOn with
    | nil => cases timeOf stationId t <;> simp [times]
    | append_singleton cs c ih =>
      have hbefore := ih fun p q hpq hq => h p q hpq (hq.trans (List.prefix_append cs [c]))
      have hlast := h cs (cs ++ [c]) (List.prefix_append cs [c]) (List.prefix_refl _)
      rw [storeAll_snoc, timeOf_store, timeOf_storeAll] at hlast
      rw [times_append, ← List.append_assoc, List.isChain_append]
      refine ⟨hbefore, ?_, fun a ha x hx => ?_⟩
      · rcases times_singleton sha256 stationId c with h0 | ⟨x, h1⟩
        · rw [h0]
          exact .nil
        · rw [h1]
          exact .singleton x
      · obtain ⟨b, hb, hab⟩ := hlast a ha
        rw [Option.mem_def.mp hx] at hb
        obtain rfl : x = b := by simpa using hb
        exact hab
  · rintro h p q hpq ⟨r, rfl⟩ a ha
    obtain ⟨s, rfl⟩ := hpq
    rw [timeOf_storeAll] at ha
    simp only [timeOf_storeAll, times_append, ← List.append_assoc] at h ⊢
    set l := (timeOf stationId t).toList ++ times sha256 stationId p
    cases hs : (times sha256 stationId s).getLast? with
    | none =>
      rw [List.getLast?_eq_none_iff.mp hs, List.append_nil]
      exact ⟨a, ha, le_rfl⟩
    | some b =>
      have hpair := (List.pairwise_append.mp (List.pairwise_append.mp h).1).2.2
      exact ⟨b, by simp [List.getLast?_append, hs],
        hpair a (List.mem_of_getLast? ha) b (List.mem_of_getLast? hs)⟩

/-- What a node captures of a station in a second. -/
def captured (sha256 : String → String) (second : ℤ) : Checkpoint :=
  (⟨1, true, "a.mp3", "", (0, 1), "ffmpeg", .null, (second, 0)⟩ : Capture).checkpoint sha256 "node"

/-- **A late copy takes the station back.** A checkpoint of the tenth second is stored, and then
a valid one of the ninth, as it arrives late or twice. -/
theorem late_checkpoint :
    ¬NeverDecreases id 1 ∅ [captured id 10, captured id 9] ∧
      timeOf 1 (storeAll id ∅ [captured id 10]) = some 10 ∧
      timeOf 1 (storeAll id ∅ [captured id 10, captured id 9]) = some 9 := by
  have hfirst : timeOf 1 (storeAll id ∅ [captured id 10]) = some 10 := by
    simp [captured, storeAll, store, rowOf_checkpoint, timeOf, Capture.time]
  have hsecond : timeOf 1 (storeAll id ∅ [captured id 10, captured id 9]) = some 9 := by
    simp [captured, storeAll, store, rowOf_checkpoint, timeOf, Capture.time]
  refine ⟨fun h => ?_, hfirst, hsecond⟩
  obtain ⟨b, hb, hle⟩ := h [captured id 10] _ (List.prefix_append _ [captured id 9])
    (List.prefix_refl _) 10 hfirst
  rw [Option.mem_def, List.singleton_append, hsecond] at hb
  obtain rfl := Option.some.inj hb
  exact absurd hle (by norm_num)

end OnAir.PlayoutCheckpoint
