import OnAir.PlayoutTables

/-!
The queue of a station that has nothing to play: it is filled with the tracks that were played
least, with jingles among them. The listing of the queue does this, and with it every
notification that sends the queue.
-/

namespace OnAir.BroadcastQueue

open PlayoutTables PythonText OnAir.Table

variable (st : ℤ) (s : Engine)

/-! ### Sweeper settings -/

inductive IntervalUnit
  | tracks
  | minutes
  deriving DecidableEq, Repr

structure Sweeper where
  enabled : Bool
  interval : ℤ
  unit : IntervalUnit
  deriving DecidableEq, Repr

/-- `int(float(raw))`, and the default where that is no number. -/
def intSetting (raw : String) (default : ℤ) : Except IntError ℤ :=
  match intOfFloat raw with
  | .ok n => .ok n
  | .error .value => .ok default
  | .error .overflow => .error .overflow

/-- `settings.get(key, default) or default`. -/
def settingOr (key default : String) : String :=
  let v := (setting st s key).getD default
  if v = "" then default else v

/-- `_get_sweeper_settings`. -/
def sweeperSettings : Except IntError Sweeper := do
  let interval ← intSetting ((setting st s "sweeper_interval").getD "2") 2
  let unit := lower (PythonText.trim (settingOr st s "sweeper_interval_unit" "tracks"))
  return {
    enabled := isTruthy ((setting st s "sweeper_enabled").getD "false")
    interval := max 1 interval
    unit := if unit = "minutes" then .minutes else .tracks }

/-! ### Choosing tracks -/

/-- Tracks of a kind that automation may play. -/
def playable (kind : String) (excluded : List ℤ) : List (ℤ × Track) :=
  (rows s.tracks).filter fun r => r.2.stationId = st && r.2.isActive &&
    Sql.lower r.2.trackType = kind && r.2.filePath ≠ "" && !(decide (0 < r.1) && r.1 ∈ excluded)

variable {st s} in
lemma sqlKind_of_playable {kind : String} {excluded : List ℤ} {r : ℤ × Track}
    (h : r ∈ playable st s kind excluded) : sqlKindOf s r.1 = kind := by
  obtain ⟨hrow, hok⟩ := List.mem_filter.mp h
  have hkind : Sql.lower r.2.trackType = kind := by
    simp only [Bool.and_eq_true, decide_eq_true_eq] at hok
    exact hok.1.1.2
  have hlookup : s.tracks[r.1]? = some r.2 := mem_rows.mp hrow
  simp [sqlKindOf, trackTypeOf, hlookup, hkind]

/-- `_pick_jingle`. -/
def pickJingle (excluded : List ℤ) : Option ℤ :=
  match Sql.firstBy leastPlayed (playable st s "jingle" excluded) with
  | some r => some r.1
  | none => (Sql.firstBy leastPlayed (playable st s "jingle" [])).map Prod.fst

/-- What was played, newest first. -/
def played : List (ℤ × QueueItem) := (queueRows st s [.done, .playing]).reverse

/-- The music rows before the first jingle. -/
def musicBeforeJingle (kind : ℤ → String) (l : List (ℤ × QueueItem)) : List (ℤ × QueueItem) :=
  (l.takeWhile fun r => kind r.2.trackId ≠ "jingle").filter fun r => kind r.2.trackId = "music"

/-- `_count_music_since_last_jingle`. -/
def countMusicSinceLastJingle : ℤ :=
  (musicBeforeJingle (sqlKindOf s) ((played st s).take 50)).length

/-- `_recent_jingle_track_ids` with the limit 1. -/
def recentJingleTrackIds : List ℤ :=
  ((((played st s).filter fun r => sqlKindOf s r.2.trackId = "jingle").take 1).map
    (·.2.trackId)).filter (0 < ·)

/-- `select_broadcast_queue_autofill_tracks`. -/
def selectTracks (limit : ℕ) (excluded : List ℤ) : List (ℤ × Track) :=
  (Sql.orderBy leastPlayed ((playable st s "music" excluded).filter
    fun r => !r.2.excludeFromAutoplay)).take limit

/-- The loop of `_interleave_with_jingles`. -/
def interleave (interval : ℤ) : List ℤ → ℤ → List ℤ → List ℤ
  | [], _, _ => []
  | track :: tracks, counter, used =>
    match if interval ≤ counter then pickJingle st s used else none with
    | some jingle => jingle :: track :: interleave interval tracks 1 (jingle :: used)
    | none => track :: interleave interval tracks (counter + 1) used

/-- `_interleave_with_jingles`. -/
def interleaveWithJingles (music : List ℤ) (sweeper : Sweeper) : List ℤ :=
  if !sweeper.enabled || sweeper.unit = .minutes then music
  else interleave st s sweeper.interval music (countMusicSinceLastJingle st s)
    (recentJingleTrackIds st s)

/-! ### Filling the queue -/

/-- `_get_library_fallback_track_id`. -/
def libraryFallbackTrackId : Option ℤ :=
  s.playoutState[st]?.bind fun p => if p.source = .libraryFallback then p.itemId else none

def autofillKey (trackId : ℤ) (index : ℕ) : String :=
  if lower (trackTypeOf s trackId) = "jingle" then s!"jingle:{trackId}:{index}"
  else s!"autofill:{trackId}"

/-- `ensure_broadcast_queue_ready_for_playback`; what a setting raises comes before the first
row is written. -/
def ensureReadyForPlayback (allowWhenOnlyPlaying : Bool) : Engine :=
  let active := listActiveOrdered st s
  let canRefill := allowWhenOnlyPlaying && active.all fun r => r.2.status ≠ .pending
  if !active.isEmpty && !canRefill then s
  else
    let excluded :=
      (active.map (·.2.trackId) ++ (libraryFallbackTrackId st s).toList).filter (0 < ·)
    let candidates := (selectTracks st s 10 excluded).map Prod.fst
    match sweeperSettings st s with
    | .error _ => s
    | .ok sweeper =>
      (interleaveWithJingles st s candidates sweeper).zipIdx.foldl
        (fun s' item => (enqueue st item.1 (autofillKey s item.1 (item.2 + 1)) s').1) s

/-- `ensure_broadcast_queue_filled`. -/
def ensureFilled : Engine := ensureReadyForPlayback st s false

end OnAir.BroadcastQueue
