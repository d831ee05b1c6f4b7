import OnAir.PlayoutAdvance
import OnAir.Runs

/-!
`StationWorker`: the lifecycle of a show, the choice of what to start, and a whole tick.

A tick that raises leaves what was committed before. A run is a sequence of ticks of one worker,
each with the answers the world gives to it.
-/

namespace OnAir.StationWorker

open BroadcastQueue PlayoutAdvance PlayoutTables Programs PythonText QueueUpkeep OnAir.Table
  WorkerEnv

/-- What a tick returns. -/
structure Outcome where
  source : String
  reason : Option String
  inputUri : Option String
  itemId : Option ℤ
  deriving DecidableEq, Repr

def Outcome.of (source reason : String) : Outcome := ⟨source, some reason, none, none⟩

abbrev Session := ℤ × ShowSession

variable (w : Worker) (env : Env)

/-! ### The lifecycle of a show -/

/-- `_play_show_audio`. -/
def playShowAudio (path : String) (source : PlayoutSource) : WorkerM Bool := do
  let resolved := resolveMedia env path
  if resolved = "" || !env.isFile resolved then return false
  try
    if w.hasRuntime then
      startStation w env .showAudio .showAudio resolved "jingle" (.num 0) 0 0
    setPlayoutState w source none "show_audio_start"
    pure true
  catch _ => pure false

/-- A file of the show, if it names one. -/
def showFile (s : Engine) (session : Session) (file : ShowFiles → Option String) : Option String :=
  (s.shows[session.2.showId]?.bind file).filter (· ≠ "")

/-- The file of the show is started, with its status, or else the show is live. -/
def playOrLive (session : Session) (file : ShowFiles → Option String) (source : PlayoutSource)
    (status : ShowStatus) (outcome : Outcome) : WorkerM (Option Outcome) := do
  if let some path := showFile (← get) session file then
    if ← playShowAudio w env path source then
      modify (updateStatus session.1 status)
      return some outcome
  modify (updateStatus session.1 .live)
  return none

/-- `_handle_going_live`. -/
def handleGoingLive (session : Session) : WorkerM (Option Outcome) := do
  if (currentPlaying w.stationId (← get)).isSome then
    return some (.of "show_hold" "waiting_for_track")
  playOrLive w env session (·.introPath) .showIntro .introPlaying
    (.of "show_intro" "intro_started")

/-- `_end_show_session`. -/
def endShowSession (session : Session) : WorkerM Unit := do
  modify (updateStatus session.1 .ended)
  modify (upsertSetting w.stationId "program_queue_source" "automation")
  setPlayoutState w .none none "show_session_end"
  broadcastQueue w env .showAudio

/-- `f"show_{session['status']}"` of the states that play audio. -/
def showStateText : ShowStatus → String
  | .introPlaying => "show_intro_playing"
  | .breakOutro => "show_break_outro"
  | .breakIntro => "show_break_intro"
  | _ => "show_outro_playing"

/-- `_handle_show_audio_state`. -/
def handleShowAudioState (session : Session) : WorkerM (Option Outcome) := do
  if w.hasRuntime && playbackAlive (← runtimeStatus w env .showAudio) then
    return some (.of (showStateText session.2.status) "audio_in_progress")
  match session.2.status with
  | .introPlaying | .breakIntro =>
    modify (updateStatus session.1 .live)
    return none
  | .breakOutro =>
    modify (updateStatus session.1 .onBreak)
    return none
  | _ =>
    endShowSession w env session
    return some (.of "show_ended" "outro_finished")

/-- `_handle_on_break`. -/
def handleOnBreak (session : Session) : WorkerM (Option Outcome) := do
  if (← nextDueAdIfAllowed w env .showDue).isSome then return none
  playOrLive w env session (·.breakIntroPath) .showBreakIntro .breakIntro
    (.of "show_break_intro" "break_intro_started")

/-- The first moment of a `datetime`. -/
def minSecond : ℚ := -62135596800

/-- `_check_ad_break_timing`, as far as it writes: an overdue ad is missed. What raises is
swallowed. -/
def checkAdBreakTiming (s : Engine) : Engine :=
  let advance := intOf (settingOr w.stationId s "ad_break_advance_notice" "5")
  let tolerance := intOf (settingOr w.stationId s "ad_break_tolerance_minutes" "10")
  let first := Sql.firstBy (fun a b => a.2.dueAt < b.2.dueAt) (adRows w.stationId s [.pending])
  match advance, tolerance, first with
  | some _, some tolerance, some row =>
    match env.fromIso (replaceChar ' ' 'T' row.2.dueAt) with
    | none => s
    | some due =>
      let until_ := due + tolerance * 60
      if minSecond ≤ until_ && until_ < env.clock .showNotices then
        updateAd row.1 (fun r => { r with status := .missed }) s
      else s
  | _, _, _ => s

/-- `_process_show_lifecycle`. -/
def processShowLifecycle : Option Session → WorkerM (Option Outcome)
  | none => return none
  | some session =>
    match session.2.status with
    | .goingLive => handleGoingLive w env session
    | .introPlaying | .breakOutro | .breakIntro | .outroPlaying =>
      handleShowAudioState w env session
    | .onBreak => handleOnBreak w env session
    | .live => do
      modify (checkAdBreakTiming w env)
      return none
    | .preparing | .ended => return none

/-! ### The choice -/

inductive Source
  | host
  | manual
  | ads
  | schedule
  | fallback
  | none
  deriving DecidableEq, Repr

/-- `choose_source`. -/
def chooseSource (manualCount : ℕ) (adDue scheduleReady fallbackReady : Bool) (hostCount : ℕ) :
    Source :=
  if 0 < hostCount then .host
  else if 0 < manualCount then .manual
  else if adDue then .ads
  else if scheduleReady then .schedule
  else if fallbackReady then .fallback
  else .none

/-- `_last_done_track_id`. -/
def lastDoneTrackId (s : Engine) : ℤ :=
  (((queueRows w.stationId s [.done]).filter fun r =>
    sqlKindOf s r.2.trackId = "music").getLast?.map (·.2.trackId)).getD 0

/-- The loop of `_skip_duplicate_pending`. -/
def skipDuplicates (last : ℤ) : ℕ → Engine → Engine
  | 0, s => s
  | n + 1, s =>
    match nextPending w.stationId s with
    | none => s
    | some r =>
      if kindOf s r.2.trackId = "music" && r.2.trackId = last then
        skipDuplicates last n (markQueueDone r.1 s)
      else s

/-- `_skip_duplicate_pending`; what it returns is the next pending row afterwards. -/
def skipDuplicatePending (s : Engine) : Engine :=
  let last := lastDoneTrackId w s
  if last ≤ 0 then s else skipDuplicates w last 20 s

/-! ### Starting -/

/-- A row that `_play_managed_item` starts, with the repository it belongs to. -/
structure Managed where
  kind : StartKind
  source : PlayoutSource
  name : String
  itemId : ℤ
  trackId : ℤ
  markPlaying : Engine → Engine
  markDone : Engine → Engine
  markFailed : Engine → Engine
  /-- `_restore_managed_item_pending` -/
  restore : Engine → Engine
  autoDone : Bool

def managedQueueItem (item : ℤ × QueueItem) : Managed where
  kind := .manual
  source := .manual
  name := "manual"
  itemId := item.1
  trackId := item.2.trackId
  markPlaying := markQueuePlaying item.1 (env.stamp .start)
  markDone := markQueueDone item.1
  markFailed := markQueueFailed item.1
  restore := updateQueue item.1 fun r => { r with status := .pending, startedAt := none }
  autoDone := false

def managedAd (item : ℤ × AdBreakItem) : Managed where
  kind := .ads
  source := .ads
  name := "ads"
  itemId := item.1
  trackId := item.2.trackId
  markPlaying := markAdPlaying item.1 (env.stamp .start)
  markDone := markAdDone item.1
  markFailed := markAdFailed item.1
  restore := updateAd item.1 fun r => { r with status := .pending }
  autoDone := false

def managedSchedule (item : ℤ × Database.ScheduleItem) : Managed where
  kind := .schedule
  source := .schedule
  name := "schedule"
  itemId := item.1
  trackId := item.2.trackId
  markPlaying := markSchedule item.1 .playing
  markDone := markSchedule item.1 .done
  markFailed := markSchedule item.1 .failed
  restore := markSchedule item.1 .pending
  autoDone := true

/-- The second half of `_play_managed_item`: the runtime is started with the file of the row. -/
def startManagedItem (m : Managed) (uri : String) : WorkerM Outcome := do
  let s ← get
  try
    if w.hasRuntime then
      startStation w env .start m.kind uri (runtimeTrackType s m.trackId)
        (defaultCrossfadeSeconds s) 0 (durationOf s m.trackId)
    broadcastQueue w env .start
    if m.autoDone then
      modify m.markDone
      setPlayoutState w .none none s!"{m.name}_auto_done"
    pure ⟨m.name, none, some uri, some m.itemId⟩
  catch e =>
    let transient := match e with
      | .start text => isTransientOutputFailure text
      | _ => false
    modify (if transient then m.restore else m.markFailed)
    setPlayoutState w .none none
      (if transient then s!"{m.name}_output_retry" else s!"{m.name}_failed")
    throw e

/-- `_play_managed_item`. -/
def playManagedItem (m : Managed) : WorkerM Outcome := do
  modify m.markPlaying
  setPlayoutState w m.source (some m.itemId) s!"{m.name}_start"
  let uri := trackUri env (← get) m.trackId
  if uri = "" then
    modify m.markFailed
    setPlayoutState w .none none s!"{m.name}_track_missing"
    return .of m.name "track_missing"
  startManagedItem w env m uri

/-- `_play_host_track`. -/
def playHostTrack (item : ℤ × ProgramQueueItem) : WorkerM Outcome := do
  finishPlayingQueueItem w env
  setPlayoutState w .host (some item.1) "host_start"
  let s ← get
  let uri := trackUri env s item.2.trackId
  if uri = "" then
    modify (popHostItem item.1)
    setPlayoutState w .none none "host_track_missing"
    return .of "host" "track_missing"
  if w.hasRuntime then
    startStation w env .start .host uri (runtimeTrackType s item.2.trackId)
      (defaultCrossfadeSeconds s) 0 (durationOf s item.2.trackId)
  broadcastQueue w env .start
  return ⟨"host", none, some uri, none⟩

/-! ### A tick -/

/-- The sessions in which ads do not start by themselves. -/
def adSuppressed (session : Option Session) : Bool :=
  session.any fun s => s.2.status ≠ .preparing && s.2.status ≠ .onBreak

def onBreak (session : Option Session) : Bool := session.any fun s => s.2.status = .onBreak

/-- The host item that is next, where the program comes from the host. -/
def hostPending (s : Engine) : Option (ℤ × ProgramQueueItem) :=
  if sourceIsHost w.stationId s then nextHostItem w.stationId s else none

/-- `process_once` up to the row that is playing: how the tick ends already, or the session it
found. Repairing an output changes no table. -/
def upkeep : WorkerM (Outcome ⊕ Option Session) := do
  let (s, granted) := tryAcquire w.stationId w.workerId (env.clock .lease) (← get)
  set s
  if !granted then return .inl (.of "none" "lease_denied")
  let session := activeSession w.stationId s
  if let some outcome ← processShowLifecycle w env session then return .inl outcome
  maybeInsertStartupSound w
  failCrossStationQueueItems w env
  autofillQueue w env
  sweepQueue w
  maybePrepareAiQueue w env
  return .inr session

/-- The advance of ads and host. -/
def advanceOthers : WorkerM Unit := do
  advancePlayingAdItem w env
  failDisabledActiveAds w env
  ensureHourlyAdBreak w env
  advanceHostTrack w env

/-- What is started, once the rows it may be chosen from are read. -/
def startSource (playing pending : Option (ℤ × QueueItem)) (dueAd : Option (ℤ × AdBreakItem))
    (session : Option Session) : WorkerM Outcome := do
  let s ← get
  let ready := nextReady w.stationId s env.datetime (env.stamp .choiceReady)
  let host := hostPending w s
  let manualCount := if pending.isSome && playing.isNone && !onBreak session then 1 else 0
  let source := chooseSource manualCount (!adSuppressed session && dueAd.isSome) ready.isSome
    (w.fallbackUri ≠ "" && playing.isNone) (if host.isSome then 1 else 0)
  match source, host, pending, dueAd, ready with
  | .host, some item, _, _, _ => playHostTrack w env item
  | .manual, _, some item, _, _ => playManagedItem w env (managedQueueItem env item)
  | .ads, _, _, some item, _ => do
    finishPlayingQueueItem w env
    playManagedItem w env (managedAd env item)
  | .schedule, _, _, _, some item => do
    finishPlayingQueueItem w env
    playManagedItem w env (managedSchedule item)
  | .fallback, _, _, _, _ => do
    if w.hasRuntime then
      startStation w env .start .fallback w.fallbackUri "announcement" (.num 0) 0 0
      return ⟨"fallback", none, some w.fallbackUri, none⟩
    return ⟨"fallback", none, none, none⟩
  | _, _, _, _, _ =>
    if playing.isSome then return .of "playing" "track_in_progress"
    return ⟨"none", none, none, none⟩

/-- The rest of `process_once`. -/
def startNext (session : Option Session) : WorkerM Outcome := do
  if (current w.stationId (← get)).source = .host then
    return .of "playing" "host_track_in_progress"
  let playing := currentPlaying w.stationId (← get)
  if playing.isNone then modify (skipDuplicatePending w)
  let pending := nextPending w.stationId (← get)
  let dueAd ← nextDueAdIfAllowed w env .choiceDue
  startSource w env playing pending dueAd session

/-- `process_once`. -/
def processOnce : WorkerM Outcome := do
  match ← upkeep w env with
  | .inl outcome => return outcome
  | .inr session =>
    advancePlayingQueueItem w env
    advanceOthers w env
    startNext w env session

/-- A tick of the worker. -/
def tick (s : Engine) (env : Env) : Option Engine := some (final (processOnce w env s))

end OnAir.StationWorker
