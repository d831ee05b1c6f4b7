import OnAir.BroadcastQueue

/-!
What a station worker asks of the world during a tick, and the helpers its phases share.

The clock, the runtime, the file system and the announcement service may answer each question as
they like; a question is named by its place in the tick. The status of the runtime may
depend on what it was last asked to play.
-/

namespace OnAir.WorkerEnv

open BroadcastQueue PlayoutTables Programs PythonText OnAir.Table

/-! ### The runtime -/

/-- The entries of a status that the worker reads. -/
structure RuntimeStatus where
  branchHealth : Option (List (String × Bool))
  requiredOutputs : Option (List (String × Bool))
  programRunning : Option Bool
  running : Bool
  activeInputUri : String
  deriving DecidableEq, Repr

/-- `_runtime_playback_alive`. -/
def RuntimeStatus.playbackAlive (r : RuntimeStatus) : Bool :=
  let healthy := match r.branchHealth, r.requiredOutputs with
    | some health, some outputs =>
      outputs.any fun o => o.2 && health.any fun h => h.1 = o.1 && h.2
    | some health, none => health.any Prod.snd
    | none, _ => false
  healthy || r.programRunning.getD r.running

/-! ### Questions and answers -/

/-- The places of a tick in which the world is asked. -/
inductive Site
  | lease
  | showAudio
  | showDue
  | showNotices
  | quarantine
  | remaining
  | stationId
  | announcement
  | advance
  | advanceMismatch
  | advanceUnknown
  | advanceDue
  | advanceDead
  | advanceComplete
  | restartQueue
  | adAdvance
  | adUnknown
  | adComplete
  | adBlocked
  | restartAd
  | hourly
  | hostAdvance
  | choiceDue
  | choiceReady
  | finish
  | start
  deriving DecidableEq, Repr

/-- A file of the announcement cache, where it could be read. -/
structure CachedAnnouncement where
  dedupeKey : String
  ttsProvider : String
  title : String
  artist : String
  audioPath : String
  duration : ℚ
  deriving DecidableEq, Repr

/-- The announcement service, as far as it decides what the worker does. -/
structure AnnouncementService where
  /-- `get_load_status`, where it has one: whether the language model is loaded -/
  llmLoaded : Option Bool
  /-- what is generated for a key; `none` where nothing is, or it raises -/
  generate : String → Option CachedAnnouncement

structure Env where
  clock : Site → ℚ
  /-- `time.monotonic()` -/
  monotonic : Site → ℚ
  status : Site → Option String → Option RuntimeStatus
  /-- the text of what `start_station` raises -/
  startError : Site → Option String
  /-- a notification gets as far as the listing of the queue -/
  fanOut : Site → Bool
  /-- `resolve_runtime_media_path` of a path that is neither empty nor a URI -/
  mediaPath : String → String
  isFile : String → Bool
  exists_ : String → Bool
  /-- `probe_duration`; `none` where it raises -/
  probeDuration : String → Option ℚ
  announcements : List CachedAnnouncement
  aiService : Option AnnouncementService
  /-- SQLite's `datetime()`, in seconds -/
  datetime : String → Option ℤ
  /-- `datetime.fromisoformat`, in seconds -/
  fromIso : String → Option ℚ
  /-- `datetime.strptime` of `"%Y-%m-%d %H:%M:%S"`, in seconds -/
  strptime : String → Option ℚ
  /-- `strftime("%Y-%m-%d %H:%M:%S")` -/
  stampText : ℤ → String
  /-- `strftime("%Y%m%d%H%M")` -/
  bucketText : ℤ → String
  /-- `isoformat(timespec="seconds")` -/
  isoText : ℤ → String
  unquote : String → String
  casefold : String → String
  /-- the digest as a number -/
  sha256 : String → ℕ

/-- `CURRENT_TIMESTAMP`. -/
def Env.stamp (env : Env) (site : Site) : ℤ := ⌊env.clock site⌋

/-- A worker of a station. -/
structure Worker where
  stationId : ℤ
  workerId : String
  /-- `runtime_registry` is there -/
  hasRuntime : Bool
  fallbackUri : String
  deriving DecidableEq, Repr

/-- What ends a tick before its result. -/
inductive WorkerError
  /-- a method that does not exist -/
  | attribute
  | overflow
  | integrity
  /-- what `start_station` raised -/
  | start (text : String)
  deriving DecidableEq, Repr

abbrev WorkerM := EStateM WorkerError Engine

/-- `_start_continuity_fallback`, which no class defines. -/
def startContinuityFallback : WorkerM Unit := throw .attribute

def liftSetting {α : Type} : Except IntError α → WorkerM α
  | .ok a => pure a
  | .error _ => throw .overflow

variable (w : Worker) (env : Env)

/-! ### Paths and texts -/

/-- `resolve_runtime_media_path`. -/
def resolveMedia (raw : String) : String :=
  let text := PythonText.trim raw
  if text = "" || contains text "://" then text else env.mediaPath text

/-- The path of `_track_runtime_fields`. -/
def trackUri (s : Engine) (trackId : ℤ) : String :=
  match s.tracks[trackId]? with
  | none => ""
  | some t => resolveMedia env t.filePath

/-- The track type of `_track_runtime_fields`. -/
def runtimeTrackType (s : Engine) (trackId : ℤ) : String :=
  let kind := kindOf s trackId
  if kind = "" then "music" else kind

/-- `_same_runtime_uri`. -/
def sameRuntimeUri (left right : String) : Bool :=
  let normalized := fun value =>
    let token := replaceChar '\\' '/' (PythonText.trim value)
    let token := if (lower token).startsWith "file:///" then
      env.unquote (String.ofList (token.toList.drop 8)) else token
    env.casefold (rstripChar '/' token)
  normalized left ≠ "" && normalized left = normalized right

/-- `_runtime_playback_matches`. -/
def playbackMatches (r : Option RuntimeStatus) (expectedUri : String) : Bool :=
  r.any fun r =>
    let active := PythonText.trim r.activeInputUri
    r.playbackAlive && r.programRunning.getD true &&
      (active = "" || sameRuntimeUri env active expectedUri)

def playbackAlive (r : Option RuntimeStatus) : Bool := r.any (·.playbackAlive)

/-- `_default_crossfade_seconds`, which is never negative. -/
def defaultCrossfadeSeconds (s : Engine) : PythonText.Float :=
  let raw := s.systemSettings.getD "default_crossfade_seconds" "3.0"
  match if raw = "" then some (.num 0) else floatOf raw with
  | some (.inf false) => .inf false
  | some (.num q) => .num (max 0 q)
  | _ => .num 0

/-- `_is_transient_output_failure`. -/
def isTransientOutputFailure (text : String) : Bool :=
  let text := lower (PythonText.trim text)
  contains text "icecast source failed during startup" &&
    ["error number -10054", "error number -10053", "remote end closed",
      "error submitting a packet to the muxer", "error muxing a packet"].any (contains text)

/-- `_ads_enabled`. -/
def adsEnabled (s : Engine) : Bool :=
  ["hourly_ad_v2_enabled", "hourly_ad_enabled"].any fun key =>
    (setting w.stationId s key).any isTruthy

/-! ### Effects that phases share -/

/-- What the runtime was last asked to play on the station. -/
def lastAsked (s : Engine) : Option String :=
  (s.starts.find? (·.stationId = w.stationId)).map (·.uri)

/-- `runtime_registry.status(station_id)`. -/
def runtimeStatus (site : Site) : WorkerM (Option RuntimeStatus) := do
  return env.status site (lastAsked w (← get))

/-- `runtime_registry.start_station`. -/
def startStation (site : Site) (kind : StartKind) (uri trackType : String)
    (crossfade : PythonText.Float) (startOffset duration : ℚ) : WorkerM Unit :=
  match env.startError site with
  | some text => throw (.start text)
  | none => modify fun s => { s with starts :=
      ⟨w.stationId, kind, uri, trackType, crossfade, startOffset, env.clock site, duration⟩
        :: s.starts }

/-- `_set_playout_state`. -/
def setPlayoutState (source : PlayoutSource) (itemId : Option ℤ) (reason : String) :
    WorkerM Unit :=
  modify (setCurrent w.stationId source itemId reason)

/-- `_broadcast_worker_state(include_queue=True)`: the listing of the queue fills it. -/
def broadcastQueue (site : Site) : WorkerM Unit :=
  if env.fanOut site then modify (ensureFilled w.stationId) else pure ()

/-- `_complete_queue_item`. -/
def completeQueueItem (site : Site) (playing : ℤ × QueueItem) : WorkerM Unit := do
  modify (markQueueDone playing.1)
  setPlayoutState w .none none "queue_track_complete"
  if 0 < playing.2.trackId then modify (markPlayed playing.2.trackId (env.stamp site))
  broadcastQueue w env site

/-- `_finish_playing_queue_item`. -/
def finishPlayingQueueItem : WorkerM Unit := do
  if let some playing := currentPlaying w.stationId (← get) then
    completeQueueItem w env .finish playing

/-- `_restart_attempt_allowed`, and the reason of a refusal. -/
def restartAttemptAllowed (site : Site) (source : RestartSource) (itemId : ℤ) :
    WorkerM (Option String) := do
  let key : RestartKey := ⟨w.stationId, source, itemId⟩
  let now := env.monotonic site
  let put := fun (r : RestartState) (s : Engine) =>
    { s with restarts := Function.update s.restarts key (some r) }
  match (← get).restarts key with
  | none =>
    modify (put ⟨1, now + 180, ""⟩)
    return none
  | some r =>
    if 3 ≤ r.attempts then
      modify (put { r with reason := "restart_limit_reached" })
      return some "restart_limit_reached"
    else if now < r.nextAllowed then
      modify (put { r with reason := "restart_cooldown_active" })
      return some "restart_cooldown_active"
    else
      modify (put ⟨r.attempts + 1, now + 180, ""⟩)
      return none

end OnAir.WorkerEnv
