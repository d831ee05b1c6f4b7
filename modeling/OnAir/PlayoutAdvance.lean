import OnAir.QueueUpkeep

/-!
What a tick does with the row that is playing: it is completed when its time is over, and started
again when the runtime plays something else.
-/

namespace OnAir.PlayoutAdvance

open BroadcastQueue PlayoutTables Programs PythonText OnAir.Table WorkerEnv

variable (w : Worker) (env : Env)

/-! ### The queue -/

/-- `_restart_playing_queue_item_if_runtime_mismatched`. -/
def restartQueueItem (playing : ℤ × QueueItem) (startOffset : ℚ) : WorkerM Unit := do
  if !w.hasRuntime then return
  let s ← get
  let uri := trackUri env s playing.2.trackId
  if uri = "" then
    modify (markQueueFailed playing.1)
    setPlayoutState w .none none "manual_track_missing"
  else if playbackMatches env (← runtimeStatus w env .restartQueue) uri then return
  else
    match ← restartAttemptAllowed w env .restartQueue .manual playing.1 with
    | some reason =>
      modify (markQueueFailed playing.1)
      setPlayoutState w .none none s!"manual_{reason}"
    | none =>
      try
        startStation w env .restartQueue .manualRestart uri (runtimeTrackType s playing.2.trackId)
          (.num 0) (max 0 startOffset) (durationOf s playing.2.trackId)
        setPlayoutState w .manual (some playing.1) "manual_runtime_recovered"
        broadcastQueue w env .restartQueue
      catch _ =>
        modify (markQueueFailed playing.1)
        setPlayoutState w .none none "manual_runtime_recovery_failed"

/-- The crossfade from a song to the song after it. -/
def crossfadeAfter (s : Engine) (playing : ℤ × QueueItem) : PythonText.Float :=
  let next := nextPending w.stationId s
  if kindOf s playing.2.trackId = "music" && next.any fun r => kindOf s r.2.trackId = "music" then
    defaultCrossfadeSeconds s
  else .num 0

/-- `max(0.0, duration - crossfade)`. -/
def advanceAt (duration : ℚ) (crossfade : PythonText.Float) : ℚ :=
  match crossfade with
  | .num c => max 0 (duration - c)
  | _ => 0

/-- How long a row may play at most. -/
def maxSeconds (duration : ℚ) (kind : String) : ℚ :=
  if 0 < duration then
    let guard := duration * (3 / 2) + 60
    if kind ∈ ["announcement", "podcast", "spoken_word"] then guard else min guard 1800
  else 1800

/-- The offset of a restart. -/
def restartOffset (elapsed duration : ℚ) : ℚ := min (max 0 elapsed) (max 0 (duration - 1 / 4))

/-- The row that plays and since when, if that is known. -/
def playingSince (s : Engine) : Option ((ℤ × QueueItem) × ℤ) :=
  (currentPlaying w.stationId s).bind fun r => r.2.startedAt.map fun t => (r, t)

/-- `_advance_playing_queue_item`. -/
def advancePlayingQueueItem : WorkerM Unit := do
  let s ← get
  match playingSince w s with
  | none => return
  | some (playing, startedAt) =>
    let elapsed := env.clock .advance - startedAt
    let duration := durationOf s playing.2.trackId
    let kind := kindOf s playing.2.trackId
    let crossfade := crossfadeAfter w s playing
    let advanceAt := advanceAt duration crossfade
    let uri := trackUri env s playing.2.trackId
    let early := w.hasRuntime && decide (elapsed < advanceAt)
    let status := env.status .advanceMismatch (lastAsked w s)
    if early && uri ≠ "" && playbackAlive status && !playbackMatches env status uri then
      -- the runtime plays something else
      if kind = "jingle" then completeQueueItem w env .advanceComplete playing
      else restartQueueItem w env playing (restartOffset elapsed duration)
    else if maxSeconds duration kind ≤ elapsed then
      completeQueueItem w env .advanceComplete playing
    else if duration ≤ 0 then
      if w.hasRuntime && !playbackAlive (env.status .advanceUnknown (lastAsked w s)) then
        completeQueueItem w env .advanceComplete playing
    else if advanceAt ≤ elapsed then
      let crossfadeDue := crossfade ≠ .num 0
      let status := env.status .advanceDue (lastAsked w s)
      if w.hasRuntime && !crossfadeDue && uri ≠ "" && playbackMatches env status uri then return
      else completeQueueItem w env .advanceComplete playing
    else if w.hasRuntime && !playbackAlive (env.status .advanceDead (lastAsked w s)) then
      -- the runtime died before the end
      if kind = "jingle" then completeQueueItem w env .advanceComplete playing
      else restartQueueItem w env playing (restartOffset elapsed duration)

/-! ### Ads -/

/-- `_fail_ad_policy_violation`. -/
def failAdPolicyViolation (item : ℤ × AdBreakItem) : WorkerM Unit := do
  if item.1 ≤ 0 then return
  modify (markAdFailed item.1)
  if item.2.status = .playing then setPlayoutState w .none none "ads_disabled_for_station"
  broadcastQueue w env .adBlocked

/-- `_fail_disabled_active_ads`. -/
def failDisabledActiveAds : WorkerM Unit := do
  let s ← get
  if adsEnabled w s then return
  (listActiveAds w.stationId s env.datetime 100).forM (failAdPolicyViolation w env)

/-- `_next_due_ad_if_allowed`. -/
def nextDueAdIfAllowed (site : Site) : WorkerM (Option (ℤ × AdBreakItem)) := do
  if adsEnabled w (← get) then return nextDue w.stationId (← get) env.datetime (env.stamp site)
  else
    failDisabledActiveAds w env
    return none

/-- An ad is given up, and the method that would start something else does not exist. -/
def giveUpAd (id : ℤ) (reason : String) : WorkerM Unit := do
  modify (markAdFailed id)
  setPlayoutState w .none none reason
  startContinuityFallback

/-- What is done with a playing ad once ads are disabled. -/
def blockAd (playing : ℤ × AdBreakItem) : WorkerM Unit := do
  failAdPolicyViolation w env playing
  startContinuityFallback

/-- `_restart_playing_ad_item_if_runtime_mismatched`. -/
def restartAdItem (playing : ℤ × AdBreakItem) : WorkerM Unit := do
  let s ← get
  if !w.hasRuntime then return
  else if !adsEnabled w s then blockAd w env playing
  else
    let uri := trackUri env s playing.2.trackId
    let status ← runtimeStatus w env .restartAd
    if uri ≠ "" && playbackMatches env status uri then return
    match ← restartAttemptAllowed w env .restartAd .ads playing.1 with
    | some reason => giveUpAd w playing.1 s!"ad_{reason}"
    | none =>
      if uri = "" then giveUpAd w playing.1 "ad_track_missing"
      else
        try
          startStation w env .restartAd .adsRestart uri (runtimeTrackType s playing.2.trackId)
            (.num 0) 0 (durationOf s playing.2.trackId)
          modify (markAdPlaying playing.1 (env.stamp .restartAd))
          setPlayoutState w .ads (some playing.1) "ad_runtime_recovered"
          broadcastQueue w env .restartAd
        catch _ => giveUpAd w playing.1 "ad_runtime_recovery_failed"

/-- `_advance_playing_ad_item`. -/
def advancePlayingAdItem : WorkerM Unit := do
  let s ← get
  match currentAd w.stationId s with
  | none => return
  | some playing =>
    if !adsEnabled w s then blockAd w env playing
    else
      match playing.2.startedAt with
      | none => return
      | some startedAt =>
        let elapsed := env.clock .adAdvance - startedAt
        let duration := durationOf s playing.2.trackId
        if 0 < duration && elapsed < duration then
          if 2 ≤ elapsed then restartAdItem w env playing
        else if duration ≤ 0 && elapsed < 90 && w.hasRuntime &&
            playbackAlive (env.status .adUnknown (lastAsked w s)) then return
        else
          modify (markAdDone playing.1)
          if 0 < playing.2.trackId then
            modify (markPlayed playing.2.trackId (env.stamp .adComplete))
          setPlayoutState w .none none "ad_complete"

/-- `_parse_id_list`. -/
def parseIdList (raw : String) : List ℤ :=
  let tokens := (raw.toList.map fun c => if c = ';' then ',' else c).splitOn ','
  (tokens.filterMap fun t => (intOf (String.ofList t)).filter (0 < ·)).foldl
    (fun ids id => if id ∈ ids then ids else ids ++ [id]) []

/-- The end of the year 9999. -/
def maxSecond : ℚ := 253402300800

/-- An ad of the hour, unless its key is taken. -/
def enqueueHourlyAd (dueAt : String) (bucket : String) (track : ℤ × ℕ) : WorkerM Unit := do
  let key := s!"hourly:{w.stationId}:{bucket}:{track.1}"
  let taken := (adRows w.stationId (← get) [.pending, .playing, .done]).any
    fun r => r.2.dedupeKey = some key
  QueueUpkeep.bindInteger (!taken) track.1
  modify (enqueueAd w.stationId track.1 dueAt (-(track.2 : ℤ)) key)

/-- `_ensure_hourly_ad_break`. -/
def ensureHourlyAdBreak : WorkerM Unit := do
  let s ← get
  let interval ← liftSetting
    (intSetting ((setting w.stationId s "hourly_ad_interval_minutes").getD "60") 60)
  if !adsEnabled w s then return
  if !(listActiveAds w.stationId s env.datetime 1).isEmpty then return
  let trackIds := parseIdList ((setting w.stationId s "hourly_ad_track_ids").getD "")
  if trackIds.isEmpty then return
  let due := env.clock .hourly + (max 1 interval) * 60
  if maxSecond ≤ due then throw .overflow
  trackIds.zipIdx.forM (enqueueHourlyAd w (env.stampText ⌊due⌋) (env.bucketText ⌊due⌋))

/-! ### The host -/

/-- `_advance_host_track`. -/
def advanceHostTrack : WorkerM Unit := do
  let s ← get
  let playout := current w.stationId s
  match if playout.source = .host then playout.itemId else none with
  | none => return
  | some item =>
    if w.hasRuntime && playbackAlive (env.status .hostAdvance (lastAsked w s)) then return
    modify (popHostItem item)
    setPlayoutState w .none none "host_track_complete"
    broadcastQueue w env .hostAdvance

end OnAir.PlayoutAdvance
