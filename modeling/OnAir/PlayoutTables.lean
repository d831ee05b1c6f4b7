import OnAir.Database
import OnAir.Programs
import OnAir.PythonText
import OnAir.Sql

/-!
The tables a station worker plays from, and the repositories that read and mark them.

Rows of all stations share a table. Time stamps the code writes are whole seconds, as
`CURRENT_TIMESTAMP` gives them; a time an operator enters is a text, and what SQLite and Python
read in it is asked of the environment. Calls of `start_station` are recorded.
-/

namespace OnAir.PlayoutTables

open OnAir.Database Programs PythonText OnAir.Table

/-! ### Rows -/

structure Track where
  stationId : ℤ
  title : String
  artist : String
  filePath : String
  duration : ℚ
  trackType : String
  isActive : Bool
  excludeFromAutoplay : Bool
  playCount : ℤ
  lastPlayedAt : Option ℤ
  deriving DecidableEq, Repr

inductive ItemStatus
  | pending
  | playing
  | done
  | failed
  | missed
  deriving DecidableEq, Repr

structure QueueItem where
  stationId : ℤ
  trackId : ℤ
  position : ℤ
  status : ItemStatus
  startedAt : Option ℤ
  dedupeKey : Option String
  deriving DecidableEq, Repr

structure AdBreakItem where
  stationId : ℤ
  trackId : ℤ
  dueAt : String
  status : ItemStatus
  priority : ℤ
  startedAt : Option ℤ
  dedupeKey : Option String
  deriving DecidableEq, Repr

structure ProgramQueueItem where
  stationId : ℤ
  trackId : ℤ
  position : ℤ
  deriving DecidableEq, Repr

inductive ShowStatus
  | preparing
  | goingLive
  | introPlaying
  | live
  | breakOutro
  | onBreak
  | breakIntro
  | outroPlaying
  | ended
  deriving DecidableEq, Repr

structure ShowSession where
  showId : ℤ
  stationId : ℤ
  status : ShowStatus
  deriving DecidableEq, Repr

/-- The files of a show that the worker starts. -/
structure ShowFiles where
  introPath : Option String
  breakIntroPath : Option String
  deriving DecidableEq, Repr

inductive PlayoutSource
  | none
  | host
  | manual
  | ads
  | schedule
  | libraryFallback
  | showIntro
  | showBreakIntro
  deriving DecidableEq, Repr

structure Playout where
  source : PlayoutSource
  itemId : Option ℤ
  deriving DecidableEq, Repr

structure Transition where
  stationId : ℤ
  before : Playout
  after : Playout
  reason : String
  deriving DecidableEq, Repr

structure Lease where
  workerId : String
  /-- `julianday(lease_expires_at)`, in seconds -/
  expiresAt : Option ℚ
  deriving DecidableEq, Repr

inductive RestartSource
  | manual
  | ads
  deriving DecidableEq, Repr

structure RestartKey where
  stationId : ℤ
  source : RestartSource
  itemId : ℤ
  deriving DecidableEq, Repr

structure RestartState where
  attempts : ℕ
  nextAllowed : ℚ
  reason : String
  deriving DecidableEq, Repr

/-- What `start_station` is called for. -/
inductive StartKind
  | host
  | manual
  | manualRestart
  | ads
  | adsRestart
  | schedule
  | fallback
  | showAudio
  deriving DecidableEq, Repr

/-- A call of `start_station` that did not raise. -/
structure Start where
  stationId : ℤ
  kind : StartKind
  uri : String
  trackType : String
  crossfade : PythonText.Float
  startOffset : ℚ
  time : ℚ
  /-- the duration of the item's track; `0` where nothing with a duration is started -/
  duration : ℚ
  deriving DecidableEq, Repr

/-- The database, and what the process keeps besides it. -/
structure Engine where
  tracks : Table Track
  queueItems : Table QueueItem
  adBreakItems : Table AdBreakItem
  scheduleItems : Table ScheduleItem
  programQueueItems : Table ProgramQueueItem
  shows : Table ShowFiles
  showSessions : Table ShowSession
  stationSettings : Table (Std.ExtTreeMap String String)
  systemSettings : Std.ExtTreeMap String String
  playoutState : Table Playout
  playoutTransitions : List Transition
  leases : Table Lease
  /-- `_RESTART_SUPPRESSION` -/
  restarts : RestartKey → Option RestartState
  /-- the calls of `start_station`, the last one first -/
  starts : List Start

def Engine.empty : Engine :=
  ⟨∅, ∅, ∅, ∅, ∅, ∅, ∅, ∅, ∅, ∅, [], ∅, fun _ => .none, []⟩

variable (st id : ℤ) (s : Engine)

/-! ### Tracks -/

/-- `COALESCE(t.duration, 0.0)`. -/
def durationOf (trackId : ℤ) : ℚ := (s.tracks[trackId]?.map (·.duration)).getD 0

/-- `COALESCE(t.track_type, 'music')`. -/
def trackTypeOf (trackId : ℤ) : String := (s.tracks[trackId]?.map (·.trackType)).getD "music"

/-- `str(row["track_type"] or "music").strip().lower()`. -/
def kindOf (trackId : ℤ) : String :=
  let t := trackTypeOf s trackId
  lower (PythonText.trim (if t = "" then "music" else t))

/-- `LOWER(COALESCE(t.track_type, 'music'))`. -/
def sqlKindOf (trackId : ℤ) : String := Sql.lower (trackTypeOf s trackId)

/-- `TrackRepository.mark_played`. -/
def markPlayed (now : ℤ) (s : Engine) : Engine :=
  { s with tracks := s.tracks.modify id fun t =>
      { t with playCount := t.playCount + 1, lastPlayedAt := some now } }

/-- `ORDER BY play_count, last_played_at IS NOT NULL, last_played_at`, and then the id. -/
def leastPlayed (a b : ℤ × Track) : Bool :=
  a.2.playCount < b.2.playCount ||
    a.2.playCount = b.2.playCount && Sql.nullsFirst a.2.lastPlayedAt b.2.lastPlayedAt

/-! ### Settings -/

/-- `SettingsRepository.get_station(st).get(key)`. -/
def setting (key : String) : Option String := s.stationSettings[st]?.bind fun t => t[key]?

/-- `SettingsRepository.upsert_station` of one key. -/
def upsertSetting (key value : String) (s : Engine) : Engine :=
  { s with stationSettings :=
      s.stationSettings.insert st ((s.stationSettings.getD st ∅).insert key value) }

/-! ### `QueueRepository` -/

def isActive (status : ItemStatus) : Bool := status = .pending || status = .playing

/-- The rows of the station with one of the statuses, in the order of their ids. -/
def queueRows (statuses : List ItemStatus) : List (ℤ × QueueItem) :=
  (rows s.queueItems).filter fun r => r.2.stationId = st && r.2.status ∈ statuses

def byPosition (a b : ℤ × QueueItem) : Bool := a.2.position < b.2.position

/-- `next_pending`. -/
def nextPending : Option (ℤ × QueueItem) := Sql.firstBy byPosition (queueRows st s [.pending])

/-- `current_playing`. -/
def currentPlaying : Option (ℤ × QueueItem) := (queueRows st s [.playing]).head?

/-- `list_active_ordered`. -/
def listActiveOrdered : List (ℤ × QueueItem) :=
  Sql.orderBy byPosition (queueRows st s [.pending, .playing])

/-- `find_by_dedupe_key`. -/
def findByDedupeKey (key : String) (statuses : List ItemStatus) : Option (ℤ × QueueItem) :=
  if key = "" then none
  else (queueRows st s statuses).find? fun r => r.2.dedupeKey = some key

/-- `idx_queue_active_dedupe` has the key of the row. -/
def dedupeTaken (r : QueueItem) : Bool :=
  match r.dedupeKey with
  | none => false
  | some key => isActive r.status && Sql.nonBlank key &&
      (queueRows r.stationId s [.pending, .playing]).any fun q => q.2.dedupeKey = some key

/-- `COALESCE(MAX(position), 0) + 1`. -/
def nextPosition : ℤ :=
  (((rows s.queueItems).filter (·.2.stationId = st)).map (·.2.position)).max?.getD 0 + 1

def updateQueue (f : QueueItem → QueueItem) (s : Engine) : Engine :=
  { s with queueItems := s.queueItems.modify id f }

/-- `INSERT INTO queue_items`, where the index allows it. -/
def insertQueue (r : QueueItem) (s : Engine) : Engine :=
  { s with queueItems := s.queueItems.insert (nextId s.queueItems) r }

def QueueItem.new (st trackId position : ℤ) (dedupeKey : String) : QueueItem :=
  ⟨st, trackId, position, .pending, none, some dedupeKey⟩

/-- `mark_playing`. -/
def markQueuePlaying (now : ℤ) : Engine → Engine :=
  updateQueue id fun r => { r with status := .playing, startedAt := some now }

/-- `mark_done`. -/
def markQueueDone : Engine → Engine := updateQueue id fun r => { r with status := .done }

/-- `mark_failed`. -/
def markQueueFailed : Engine → Engine := updateQueue id fun r => { r with status := .failed }

/-- `_bump_change_sequence_in_transaction`. -/
def bumpChangeSequence (s : Engine) : Engine :=
  let value := match setting st s "_queue_change_sequence" with
    | none => 1
    | some v => Sql.castInteger v + 1
  upsertSetting st "_queue_change_sequence" (toString value) s

/-- `enqueue_or_get_existing`. -/
def enqueue (trackId : ℤ) (key : String) (s : Engine) : Engine × ℤ × Bool :=
  match findByDedupeKey st s key [.pending, .playing] with
  | some r => (s, r.1, false)
  | none =>
    (bumpChangeSequence st (insertQueue (.new st trackId (nextPosition st s) key) s),
      nextId s.queueItems, true)

/-- `insert_before_item_or_get_existing` with the statuses `_enqueue_ai_announcement` passes. -/
def insertBefore (beforeItemId trackId : ℤ) (key : String) (s : Engine) : Engine × ℤ × Bool :=
  match findByDedupeKey st s key [.pending, .playing, .done] with
  | some r => (s, r.1, false)
  | none =>
    match (queueRows st s [.pending, .playing]).find? fun r => r.1 = beforeItemId with
    | none => enqueue st trackId key s
    | some (_, before) =>
      let pos := if before.position = 0 then 1 else before.position
      let moved := s.queueItems.map fun _ r =>
        if r.stationId = st && isActive r.status && decide (pos ≤ r.position) then
          { r with position := r.position + 1 } else r
      (insertQueue (.new st trackId pos key) { s with queueItems := moved },
        nextId s.queueItems, true)

/-! ### `AdBreakRepository` -/

section Ads

variable (datetime : String → Option ℤ) (now : ℤ)

def adRows (statuses : List ItemStatus) : List (ℤ × AdBreakItem) :=
  (rows s.adBreakItems).filter fun r => r.2.stationId = st && r.2.status ∈ statuses

/-- `datetime(t) <= CURRENT_TIMESTAMP`, where neither is `NULL`. -/
def isPast (t : String) : Bool := (datetime t).any (· ≤ now)

/-- `next_due`. -/
def nextDue : Option (ℤ × AdBreakItem) :=
  Sql.firstBy
    (fun a b => b.2.priority < a.2.priority || a.2.priority = b.2.priority &&
      Sql.nullsFirst (datetime a.2.dueAt) (datetime b.2.dueAt))
    ((adRows st s [.pending]).filter fun r => isPast datetime now r.2.dueAt)

/-- `current_playing`. -/
def currentAd : Option (ℤ × AdBreakItem) :=
  Sql.firstBy (fun a b => Sql.nullsFirst a.2.startedAt b.2.startedAt) (adRows st s [.playing])

/-- `list_active`. -/
def listActiveAds (limit : ℕ) : List (ℤ × AdBreakItem) :=
  let before := fun a b : ℤ × AdBreakItem =>
    (a.2.status = .playing && b.2.status ≠ .playing) ||
      (decide (a.2.status = .playing) == decide (b.2.status = .playing)) &&
        (Sql.nullsFirst (datetime a.2.dueAt) (datetime b.2.dueAt) ||
          datetime a.2.dueAt = datetime b.2.dueAt && b.2.priority < a.2.priority)
  (Sql.orderBy before (adRows st s [.pending, .playing])).take limit

def updateAd (f : AdBreakItem → AdBreakItem) (s : Engine) : Engine :=
  { s with adBreakItems := s.adBreakItems.modify id f }

/-- `mark_playing`. -/
def markAdPlaying : Engine → Engine :=
  updateAd id fun r => { r with
    status := .playing
    startedAt := if r.status = .playing && r.startedAt.isSome then r.startedAt else some now }

/-- `mark_done`. -/
def markAdDone : Engine → Engine := updateAd id fun r => { r with status := .done }

/-- `mark_failed`. -/
def markAdFailed : Engine → Engine := updateAd id fun r => { r with status := .failed }

/-- `enqueue` with a key. -/
def enqueueAd (trackId : ℤ) (dueAt : String) (priority : ℤ) (key : String) (s : Engine) : Engine :=
  if (adRows st s [.pending, .playing, .done]).any fun r => r.2.dedupeKey = some key then s
  else
    let r : AdBreakItem := ⟨st, trackId, dueAt, .pending, priority, none, some key⟩
    { s with adBreakItems := s.adBreakItems.insert (nextId s.adBreakItems) r }

/-! ### `ScheduleRepository` -/

/-- `next_ready`. -/
def nextReady : Option (ℤ × ScheduleItem) :=
  Sql.firstBy (fun a b => Sql.nullsFirst (datetime a.2.playAt) (datetime b.2.playAt))
    ((rows s.scheduleItems).filter fun r => r.2.stationId = st && r.2.status = .pending &&
      isPast datetime now r.2.playAt &&
        r.2.windowEnd.all fun e => (datetime e).any (now ≤ ·))

/-- `mark_playing`, `mark_done` and `mark_failed`. -/
def markSchedule (status : ScheduleStatus) (s : Engine) : Engine :=
  { s with scheduleItems := s.scheduleItems.modify id fun r => { r with status } }

end Ads

/-! ### `ProgramQueueRepository` -/

/-- `next_pending`. -/
def nextHostItem : Option (ℤ × ProgramQueueItem) :=
  Sql.firstBy (fun a b => a.2.position < b.2.position)
    ((rows s.programQueueItems).filter fun r => r.2.stationId = st)

/-- `pop_item`. -/
def popHostItem (s : Engine) : Engine :=
  { s with programQueueItems := s.programQueueItems.erase id }

/-- `get_source` is `host`. -/
def sourceIsHost : Bool :=
  (setting st s "program_queue_source").any fun v => lower (PythonText.trim v) = "host"

/-! ### `ShowSessionRepository` -/

/-- `get_active_for_station`. -/
def activeSession : Option (ℤ × ShowSession) :=
  ((rows s.showSessions).filter fun r => r.2.stationId = st && r.2.status ≠ .ended).getLast?

/-- `update_status`, and `end_session`. -/
def updateStatus (status : ShowStatus) (s : Engine) : Engine :=
  { s with showSessions := s.showSessions.modify id fun r => { r with status } }

/-! ### `PlayoutStateService` -/

/-- `get_current`. -/
def current : Playout := s.playoutState[st]?.getD ⟨.none, none⟩

/-- `set_current`. -/
def setCurrent (source : PlayoutSource) (itemId : Option ℤ) (reason : String) (s : Engine) :
    Engine :=
  { s with
    playoutState := s.playoutState.insert st ⟨source, itemId⟩
    playoutTransitions :=
      if current st s = ⟨source, itemId⟩ then s.playoutTransitions
      else s.playoutTransitions ++ [⟨st, current st s, ⟨source, itemId⟩, reason⟩] }

/-! ### `LeaseService` -/

/-- `try_acquire` of a lease of 30 seconds. -/
def tryAcquire (workerId : String) (now : ℚ) (s : Engine) : Engine × Bool :=
  let granted := match s.leases[st]? with
    | none => true
    | some l => l.workerId = workerId ||
        l.expiresAt.all fun t => decide (t ≤ now) || decide (now + 120 < t)
  if granted then ({ s with leases := s.leases.insert st ⟨workerId, some (now + 30)⟩ }, true)
  else (s, false)

end OnAir.PlayoutTables
