import OnAir.WorkerEnv

/-!
What a tick does to the queue before it looks at what is playing: the startup sound, rows of
other stations, filling, sweeper jingles and announcements.
-/

namespace OnAir.QueueUpkeep

open BroadcastQueue PlayoutTables Programs PythonText OnAir.Table WorkerEnv

variable (w : Worker) (env : Env)

/-! ### Inserting at the front -/

/-- `INSERT OR IGNORE INTO queue_items`, and whether a row came of it. -/
def insertOrIgnore (r : QueueItem) (s : Engine) : Engine × Bool :=
  if dedupeTaken s r then (s, false) else (insertQueue r s, true)

/-- One before the first pending row, and at least `1`. -/
def frontPosition (s : Engine) : ℤ :=
  let first := ((queueRows w.stationId s [.pending]).map (·.2.position)).min?.getD 1
  max 1 ((if first = 0 then 1 else first) - 1)

/-- `_next_pending_is_jingle`. -/
def nextPendingIsJingle (s : Engine) : Bool :=
  (nextPending w.stationId s).any fun r => kindOf s r.2.trackId = "jingle"

/-- An integer that goes to SQLite, which takes those of 64 bits, if it is used. -/
def bindInteger (used : Bool) (n : ℤ) : WorkerM Unit :=
  if used && decide (2 ^ 63 ≤ n) then throw .overflow else pure ()

/-! ### The startup sound -/

/-- `_is_startup_sound_pending`. -/
def isStartupSoundPending (s : Engine) : Bool :=
  isTruthy ((setting w.stationId s "_startup_sound_pending").getD "false")

/-- `_clear_startup_sound_pending`. -/
def clearStartupSoundPending : Engine → Engine :=
  upsertSetting w.stationId "_startup_sound_pending" "false"

/-- The track of the startup sound. -/
def startupTrack (s : Engine) (mode : String) (trackId : ℤ) : Option ℤ :=
  let exact := s.tracks[trackId]?.any fun t => t.isActive && t.filePath ≠ ""
  if mode = "specific" && decide (0 < trackId) && exact then some trackId
  else (pickJingle w.stationId s []).filter (0 < ·)

/-- `_maybe_insert_startup_sound`. -/
def maybeInsertStartupSound : WorkerM Unit := do
  let s ← get
  if !isStartupSoundPending w s then return
  if nextPendingIsJingle w s then
    modify (clearStartupSoundPending w)
  else
    let enabled := isTruthy ((setting w.stationId s "startup_sound_enabled").getD "false")
    let mode := settingOr w.stationId s "startup_sound_mode" "random"
    let trackId ← liftSetting
      (intSetting ((setting w.stationId s "startup_sound_track_id").getD "0") 0)
    bindInteger (enabled && mode = "specific") trackId
    match if enabled then startupTrack w s mode trackId else none with
    | none => modify (clearStartupSoundPending w)
    | some trackId =>
      let row := QueueItem.new w.stationId trackId (frontPosition w s) s!"startup_sound:{trackId}"
      modify fun s => clearStartupSoundPending w (insertOrIgnore row s).1

/-! ### Rows of other stations -/

/-- The active rows of the station whose track belongs to another one. -/
def crossStationItems (s : Engine) : List ℤ :=
  ((queueRows w.stationId s [.pending, .playing]).filter fun r =>
    s.tracks[r.2.trackId]?.any (·.stationId ≠ w.stationId)).map Prod.fst

/-- `_fail_cross_station_queue_items`. -/
def failCrossStationQueueItems : WorkerM Unit := do
  let invalid := crossStationItems w (← get)
  if invalid.isEmpty then return
  modify fun s => invalid.foldl (fun s id => markQueueFailed id s) s
  let playout := current w.stationId (← get)
  if playout.source = .manual && playout.itemId.any (· ∈ invalid) then
    setPlayoutState w .none none "manual_cross_station_track_quarantined"
  broadcastQueue w env .quarantine

/-! ### Filling -/

/-- `_pending_queue_duration`. -/
def pendingQueueDuration (s : Engine) : ℚ :=
  ((queueRows w.stationId s [.pending]).map fun r => durationOf s r.2.trackId).sum

/-- `_pending_music_count`. -/
def pendingMusicCount (s : Engine) : ℤ :=
  ((queueRows w.stationId s [.pending]).filter fun r => sqlKindOf s r.2.trackId = "music").length

/-- `_active_track_ids`. -/
def activeTrackIds (s : Engine) : List ℤ :=
  ((queueRows w.stationId s [.pending, .playing]).map (·.2.trackId)).filter (0 < ·)

/-- `_recent_track_ids` with the limit 30. -/
def recentTrackIds (s : Engine) : List ℤ :=
  ((((rows s.queueItems).filter fun r => r.2.stationId = w.stationId && decide (0 < r.2.trackId)
    ).reverse.take 30).map (·.2.trackId))

/-- `_count_pending_music_since_jingle`. -/
def countPendingMusicSinceJingle (s : Engine) : ℤ :=
  (musicBeforeJingle (kindOf s)
    (Sql.orderBy byPosition (queueRows w.stationId s [.pending])).reverse).length

/-- `_probe_and_store_track_duration`, and whether it committed. -/
def probeAndStore (trackId : ℤ) (s : Engine) : Engine × ℚ × Bool :=
  match s.tracks[trackId]? with
  | none => (s, 0, false)
  | some t =>
    if 0 < t.duration then (s, t.duration, false)
    else
      let resolved := resolveMedia env t.filePath
      if resolved = "" || contains resolved "://" || !env.isFile resolved then (s, 0, false)
      else
        let duration := (env.probeDuration resolved).getD 0
        if duration ≤ 0 then (s, 0, false)
        else ({ s with tracks := s.tracks.modify trackId fun t => { t with duration } },
          duration, true)

/-- The track `_select_random_music_track` takes, of those that were played least. -/
def shuffledTrack (s : Engine) (excluded : List ℤ) : Option ℤ :=
  let candidates := (Sql.orderBy (fun a b => a.2.playCount < b.2.playCount)
    ((playable w.stationId s "music" excluded).filter fun r => !r.2.excludeFromAutoplay)).take 512
  let tier := candidates.filter fun r => candidates.head?.any (·.2.playCount = r.2.playCount)
  let seed := settingOr w.stationId s "autoplay_shuffle_seed"
    s!"radiotedu-onair-station-{w.stationId}"
  let digest := fun r : ℤ × Track => env.sha256 s!"{seed}:{r.1}"
  (Sql.firstBy (fun a b => digest a < digest b) tier).map Prod.fst

structure Filling where
  pendingDuration : ℚ
  pendingMusicCount : ℤ
  musicInPending : ℤ
  nextPos : ℤ
  recent : List ℤ
  active : List ℤ
  /-- the database at the last commit -/
  committed : Engine

/-- A jingle that is due is inserted; with `false` its key was taken. -/
def insertDueJingle (sweeper : Sweeper) (f : Filling) : WorkerM (Filling × Bool) := do
  let s ← get
  let due := sweeper.enabled && sweeper.unit = .tracks &&
    decide (sweeper.interval ≤ f.musicInPending)
  match if due then pickJingle w.stationId s [] else none with
  | none => return (f, true)
  | some jingle =>
    let row := QueueItem.new w.stationId jingle f.nextPos s!"jingle:{jingle}:{f.nextPos}"
    if dedupeTaken s row then
      return ({ f with nextPos := nextPosition w.stationId s, musicInPending := 0 }, false)
    else
      modify (insertQueue row)
      return ({ f with
        nextPos := f.nextPos + 1
        musicInPending := 0
        pendingDuration := f.pendingDuration + durationOf s jingle }, true)

/-- `_select_random_music_track`, and again among all but the active ones. -/
def chooseMusic (f : Filling) (s : Engine) : Filling × Option ℤ :=
  let differ := !(f.recent.all (· ∈ f.active) && f.active.all (· ∈ f.recent))
  match shuffledTrack w env s f.recent with
  | some track => (f, some track)
  | none => if differ then ({ f with recent := f.active }, shuffledTrack w env s f.active)
    else (f, none)

/-- A music track is added; its key may belong to an active row, and then nothing remains of what
was not committed. -/
def insertMusic (f : Filling) (track : ℤ) : WorkerM Filling := do
  let (s, duration, stored) := probeAndStore env track (← get)
  set s
  let committed := if stored then s else f.committed
  let row := QueueItem.new w.stationId track f.nextPos s!"music:{track}:{f.nextPos}"
  if dedupeTaken s row then
    set committed
    throw .integrity
  else
    modify (insertQueue row)
    return { f with
      committed
      recent := track :: f.recent
      active := track :: f.active
      nextPos := f.nextPos + 1
      musicInPending := f.musicInPending + 1
      pendingMusicCount := f.pendingMusicCount + 1
      pendingDuration := f.pendingDuration + duration }

/-- The loop of `_autofill_queue`, which stops after a hundred rounds. -/
def autofillLoop (sweeper : Sweeper) : ℕ → Filling → WorkerM Unit
  | 0, _ => pure ()
  | n + 1, f => do
    if f.pendingDuration < 1800 || f.pendingMusicCount < 12 then
      let (f, go) ← insertDueJingle w sweeper f
      if !go then autofillLoop sweeper n f
      else
        let (f, track) := chooseMusic w env f (← get)
        match track with
        | none => return
        | some track => autofillLoop sweeper n (← insertMusic w env f track)

/-- `_autofill_queue`. -/
def autofillQueue : WorkerM Unit := do
  let s ← get
  let pendingDuration := pendingQueueDuration w s
  let pendingMusicCount := pendingMusicCount w s
  if pendingDuration < 1800 || pendingMusicCount < 12 then
    let sweeper ← liftSetting (sweeperSettings w.stationId s)
    let active := activeTrackIds w s
    autofillLoop w env sweeper 100 {
      pendingDuration
      pendingMusicCount
      musicInPending := countPendingMusicSinceJingle w s
      nextPos := nextPosition w.stationId s
      recent := recentTrackIds w s ++ active
      active
      committed := s }

/-! ### Sweeper jingles -/

/-- `_remove_pending_jingles`. -/
def removePendingJingles (s : Engine) : Engine :=
  { s with queueItems := s.queueItems.filter fun _ r =>
      !(r.stationId = w.stationId && r.status = .pending && sqlKindOf s r.trackId = "jingle") }

/-- `sweeper_baseline_queue_id`. -/
def baselineQueueId (s : Engine) : ℤ :=
  max 0 ((intOf (settingOr w.stationId s "sweeper_baseline_queue_id" "0")).getD 0)

/-- `_music_seconds_since_last_jingle`. -/
def musicSecondsSinceLastJingle (s : Engine) : ℚ :=
  let recent := ((played w.stationId s).filter fun r => baselineQueueId w s < r.1).take 500
  ((musicBeforeJingle (kindOf s) recent).map fun r => max 0 (durationOf s r.2.trackId)).sum

/-- The interval of the sweeper has passed. -/
def sweeperDue (sweeper : Sweeper) (s : Engine) : Bool :=
  match sweeper.unit with
  | .minutes => (sweeper.interval : ℚ) * 60 ≤ musicSecondsSinceLastJingle w s
  | .tracks =>
    sweeper.interval ≤ (musicBeforeJingle (kindOf s) ((played w.stationId s).take 50)).length

/-- `_maybe_insert_sweeper_jingle`. -/
def maybeInsertSweeperJingle (sweeper : Sweeper) (s : Engine) : Engine :=
  if nextPendingIsJingle w s || !sweeperDue w sweeper s then s
  else
    match pickJingle w.stationId s [] with
    | none => s
    | some jingle =>
      let pos := frontPosition w s
      (insertOrIgnore (.new w.stationId jingle pos s!"jingle:{jingle}:{pos}") s).1

/-- The sweeper part of `process_once`. -/
def sweepQueue : WorkerM Unit := do
  let s ← get
  let sweeper ← liftSetting (sweeperSettings w.stationId s)
  if sweeper.enabled then
    bindInteger (!nextPendingIsJingle w s && sweeper.unit = .minutes) (baselineQueueId w s)
    modify (maybeInsertSweeperJingle w sweeper)
  else modify (removePendingJingles w)

/-! ### Announcements -/

/-- `_next_pending_ai_target`: the first pending song that no announcement stands before. -/
def nextPendingAiTarget (s : Engine) : Option (ℤ × QueueItem) :=
  let active := listActiveOrdered w.stationId s
  let before := none :: active.map some
  ((active.zip before).find? fun r => r.1.2.status = .pending &&
    (kindOf s r.1.2.trackId = "music" || kindOf s r.1.2.trackId = "") &&
      !r.2.any fun p => kindOf s p.2.trackId = "announcement").map Prod.fst

/-- `_current_playing_remaining_seconds`. -/
def currentPlayingRemainingSeconds (s : Engine) : ℚ :=
  match currentPlaying w.stationId s with
  | none => 0
  | some r =>
    match r.2.startedAt with
    | none => 0
    | some t =>
      let duration := durationOf s r.2.trackId
      if duration ≤ 0 then 0 else max 0 (duration - (env.clock .remaining - t))

/-- `_configured_tts_provider`. -/
def configuredTtsProvider (s : Engine) : String :=
  let raw := settingOr w.stationId s "ai_tts_provider"
    (settingOr w.stationId s "tts_provider" "local-qwen-tts")
  let provider := lower (PythonText.trim raw)
  if provider ∈ ["local-qwen-tts", "edge-tts", "omnivoice"] then provider else "local-qwen-tts"

/-- `_find_prefetched_announcement`. -/
def findPrefetchedAnnouncement (s : Engine) (key : String) : Option CachedAnnouncement :=
  env.announcements.find? fun a => a.dedupeKey = key &&
    lower (PythonText.trim a.ttsProvider) = configuredTtsProvider w s &&
      a.audioPath ≠ "" && env.exists_ a.audioPath

/-- `_allow_inline_ai_generation`. -/
def allowInlineAiGeneration (s : Engine) (ai : AnnouncementService) : Bool :=
  let provider := lower (PythonText.trim (settingOr w.stationId s "ai_tts_provider" "edge-tts"))
  provider ∉ ["local", "local-qwen-tts", "omnivoice", "omni", "omnivoice-experimental",
      "qwen-tts"] &&
    match ai.llmLoaded with
    | none => true
    | some loaded => loaded && decide (20 ≤ currentPlayingRemainingSeconds w env s)

/-- An announcement that was prefetched, or is generated now. -/
def announcementFor (s : Engine) (key : String) : Option CachedAnnouncement :=
  match findPrefetchedAnnouncement w env s key with
  | some a => some a
  | none => env.aiService.bind fun ai =>
    if allowInlineAiGeneration w env s ai then ai.generate key else none

/-- `TrackRepository.upsert_generated_announcement`. -/
def upsertGeneratedAnnouncement (a : CachedAnnouncement) (path : String) (s : Engine) :
    Engine × ℤ :=
  let title := if a.title = "" then "AI Announcement" else a.title
  let artist := if a.artist = "" then "AI Host" else a.artist
  match (rows s.tracks).find? fun t => t.2.filePath = path with
  | some t =>
    ({ s with tracks := s.tracks.modify t.1 fun t => { t with
        title, artist, stationId := w.stationId, trackType := "announcement"
        duration := a.duration, isActive := false, excludeFromAutoplay := true } }, t.1)
  | none =>
    let row : Track := ⟨w.stationId, title, artist, path, a.duration, "announcement", false, true,
      0, none⟩
    ({ s with tracks := s.tracks.insert (nextId s.tracks) row }, nextId s.tracks)

/-- `_enqueue_ai_announcement`. -/
def enqueueAiAnnouncement (a : CachedAnnouncement) (beforeItemId : ℤ) (key : String) :
    WorkerM Bool := do
  let path := PythonText.trim a.audioPath
  if path = "" || !env.exists_ path then return false
  let (s, trackId) := upsertGeneratedAnnouncement w a path (← get)
  let (s, _, created) := insertBefore w.stationId beforeItemId trackId key s
  set s
  if created then broadcastQueue w env .announcement
  return created

/-- An announcement before the target, unless there was one. -/
def announceBefore (target : ℤ) (key : String) : WorkerM Bool := do
  let s ← get
  if (findByDedupeKey w.stationId s key [.pending, .playing, .done]).isSome then return false
  match announcementFor w env s key with
  | none => return false
  | some a => enqueueAiAnnouncement w env a target key

/-- The times a `datetime` can tell. -/
def inDatetimeRange (t : ℚ) : Bool := -62135596800 ≤ t && t < 253402300800

/-- `_parse_setting_timestamp`; the conversion to UTC fails outside the times of a `datetime`. -/
def parseSettingTimestamp (raw : String) : Except IntError (Option ℚ) :=
  let token := PythonText.trim raw
  if token = "" then .ok none
  else
    let utc := String.ofList (token.toList.flatMap fun c =>
      if c = 'Z' then "+00:00".toList else [c])
    match env.fromIso utc with
    | none => .ok (env.strptime token)
    | some t => if inDatetimeRange t then .ok (some t) else .error .overflow

/-- A station announcement is due. -/
def stationIdDue (s : Engine) : Except IntError Bool := do
  let interval ← intSetting ((setting w.stationId s "ai_station_id_interval").getD "1800") 1800
  let interval := max 0 (min 86400 interval)
  let last ← parseSettingTimestamp env ((setting w.stationId s "_ai_last_station_id_at").getD "")
  return decide (0 < interval) && last.all fun t => decide (interval ≤ env.clock .stationId - t)

/-- `_maybe_prepare_ai_queue`. -/
def maybePrepareAiQueue : WorkerM Unit := do
  let s ← get
  if !isTruthy ((setting w.stationId s "ai_host_enabled").getD "false") then return
  match nextPendingAiTarget w s with
  | none => return
  | some (target, row) =>
    let title := PythonText.trim ((s.tracks[row.trackId]?.map (·.title)).getD "")
    if title ≠ "" then
      if ← announceBefore w env target s!"ai-track-intro:{target}" then return
    if ← liftSetting (stationIdDue w env (← get)) then
      if ← announceBefore w env target s!"ai-station-id:{target}" then
        modify (upsertSetting w.stationId "_ai_last_station_id_at"
          (env.isoText (env.stamp .stationId)))

end OnAir.QueueUpkeep
