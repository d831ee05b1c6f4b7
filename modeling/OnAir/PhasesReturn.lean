import OnAir.OtherPhases

/-!
The phases of a tick that return whatever the tables and the settings hold.
-/

namespace OnAir.PhasesReturn

open PlayoutAdvance PlayoutTables Programs QueueUpkeep StationWorker OnAir.Table WorkerEnv

variable {w : Worker} {env : Env} {site : Site}

/-! ### Effects that phases share -/

lemma total_setPlayoutState (source : PlayoutSource) (item : Option ℤ) (reason : String) :
    Total (setPlayoutState w source item reason) := Total.modify _

lemma total_broadcastQueue : Total (broadcastQueue w env site) :=
  Total.ite (fun _ => Total.modify _) fun _ => Total.pure _

lemma total_completeQueueItem (playing : ℤ × QueueItem) :
    Total (completeQueueItem w env site playing) :=
  (Total.modify _).bind fun _ => (total_setPlayoutState ..).bind fun _ =>
    Total.ite (fun _ => (Total.modify _).bind fun _ => total_broadcastQueue)
      fun _ => total_broadcastQueue

lemma total_finishPlayingQueueItem : Total (finishPlayingQueueItem w env) := by
  refine Total.bindGet fun s => ?_
  cases currentPlaying w.stationId s with
  | none => exact Total.pure _
  | some playing => exact total_completeQueueItem playing

lemma total_restartAttemptAllowed (source : RestartSource) (item : ℤ) :
    Total (restartAttemptAllowed w env site source item) := by
  refine Total.bindGet fun s => ?_
  split
  · exact (Total.modify _).bind fun _ => Total.pure _
  · refine Total.ite (fun _ => (Total.modify _).bind fun _ => Total.pure _) fun _ => ?_
    exact Total.ite (fun _ => (Total.modify _).bind fun _ => Total.pure _)
      fun _ => (Total.modify _).bind fun _ => Total.pure _

/-! ### The queue -/

lemma total_failCrossStationQueueItems : Total (failCrossStationQueueItems w env) := by
  refine Total.bindGet fun s => Total.ite (fun _ => Total.pure _) fun _ => ?_
  refine (Total.modify _).bind fun _ => Total.bindGet fun s' => ?_
  exact Total.ite (fun _ => (total_setPlayoutState ..).bind fun _ => total_broadcastQueue)
    fun _ => total_broadcastQueue

lemma total_enqueueAiAnnouncement (a : CachedAnnouncement) (before : ℤ) (key : String) :
    Total (enqueueAiAnnouncement w env a before key) := by
  unfold enqueueAiAnnouncement
  dsimp only
  refine Total.ite (fun _ => Total.pure _) fun _ => Total.bindGet fun s => ?_
  refine Total.bind ⟨fun _ => trivial⟩ fun _ => ?_
  exact Total.ite (fun _ => total_broadcastQueue.bind fun _ => Total.pure _) fun _ => Total.pure _

lemma total_announceBefore (target : ℤ) (key : String) :
    Total (announceBefore w env target key) := by
  unfold announceBefore
  refine Total.bindGet fun s => Total.ite (fun _ => Total.pure _) fun _ => ?_
  split
  · exact Total.pure _
  · exact total_enqueueAiAnnouncement ..

/-- The recovery of a song catches what the runtime raises. -/
lemma total_restartQueueItem (playing : ℤ × QueueItem) (offset : ℚ) :
    Total (restartQueueItem w env playing offset) := by
  have hstop : ∀ reason : String, Total (do
      modify (markQueueFailed playing.1)
      setPlayoutState w .none none reason) := fun reason =>
    (Total.modify _).bind fun _ => total_setPlayoutState ..
  unfold restartQueueItem
  refine Total.ite (fun _ => Total.pure _) fun _ => Total.bindGet fun s => ?_
  dsimp only
  refine Total.ite (fun _ => hstop _) fun _ => ?_
  refine Total.bind (Total.bindGet fun _ => Total.pure _) fun status => ?_
  refine Total.ite (fun _ => Total.pure _) fun _ => ?_
  refine (total_restartAttemptAllowed ..).bind fun refusal => ?_
  cases refusal with
  | some reason => exact hstop _
  | none => exact Total.tryCatch fun _ => hstop _

lemma total_advancePlayingQueueItem : Total (advancePlayingQueueItem w env) := by
  unfold advancePlayingQueueItem
  refine Total.bindGet fun s => ?_
  split
  · exact Total.pure _
  · dsimp only
    refine Total.ite (fun _ => Total.ite (fun _ => total_completeQueueItem _)
      fun _ => total_restartQueueItem _ _) fun _ => ?_
    refine Total.ite (fun _ => total_completeQueueItem _) fun _ => ?_
    refine Total.ite (fun _ => Total.ite (fun _ => total_completeQueueItem _)
      fun _ => Total.pure _) fun _ => ?_
    refine Total.ite (fun _ => Total.ite (fun _ => Total.pure _)
      fun _ => total_completeQueueItem _) fun _ => ?_
    exact Total.ite (fun _ => Total.ite (fun _ => total_completeQueueItem _)
      fun _ => total_restartQueueItem _ _) fun _ => Total.pure _

/-! ### Ads and host -/

lemma total_failAdPolicyViolation (ad : ℤ × AdBreakItem) :
    Total (failAdPolicyViolation w env ad) := by
  refine Total.ite (fun _ => Total.pure _) fun _ => (Total.modify _).bind fun _ => ?_
  exact Total.ite (fun _ => (total_setPlayoutState ..).bind fun _ => total_broadcastQueue)
    fun _ => total_broadcastQueue

lemma total_failDisabledActiveAds : Total (failDisabledActiveAds w env) :=
  Total.bindGet fun _ => Total.ite (fun _ => Total.pure _) fun _ =>
    Total.forM _ fun ad _ => total_failAdPolicyViolation ad

lemma total_nextDueAdIfAllowed : Total (nextDueAdIfAllowed w env site) :=
  Total.bindGet fun _ => Total.ite (fun _ => Total.bindGet fun _ => Total.pure _)
    fun _ => total_failDisabledActiveAds.bind fun _ => Total.pure _

lemma total_advanceHostTrack : Total (advanceHostTrack w env) := by
  refine Total.bindGet fun s => ?_
  dsimp only
  split
  · exact Total.pure _
  · exact Total.ite (fun _ => Total.pure _) fun _ => (Total.modify _).bind fun _ =>
      (total_setPlayoutState ..).bind fun _ => total_broadcastQueue

/-! ### The lifecycle of a show -/

lemma total_playShowAudio (path : String) (source : PlayoutSource) :
    Total (playShowAudio w env path source) :=
  Total.ite (fun _ => Total.pure _) fun _ => Total.tryCatch fun _ => Total.pure _

lemma total_playOrLive (session : Session) (file : ShowFiles → Option String)
    (source : PlayoutSource) (status : ShowStatus) (outcome : Outcome) :
    Total (playOrLive w env session file source status outcome) := by
  have hlive : Total (do
      modify (updateStatus session.1 .live)
      return none : WorkerM (Option Outcome)) := (Total.modify _).bind fun _ => Total.pure _
  unfold playOrLive
  refine Total.bindGet fun s => ?_
  split
  · refine (total_playShowAudio ..).bind fun played => Total.ite (fun _ => ?_) fun _ => hlive
    exact (Total.modify _).bind fun _ => Total.pure _
  · exact hlive

lemma total_handleShowAudioState (session : Session) :
    Total (handleShowAudioState w env session) := by
  have hend : Total (endShowSession w env session) :=
    (Total.modify _).bind fun _ => (Total.modify _).bind fun _ =>
      (total_setPlayoutState ..).bind fun _ => total_broadcastQueue
  unfold handleShowAudioState
  refine Total.bind (Total.bindGet fun _ => Total.pure _) fun status =>
    Total.ite (fun _ => Total.pure _) fun _ => ?_
  split
  · exact (Total.modify _).bind fun _ => Total.pure _
  · exact (Total.modify _).bind fun _ => Total.pure _
  · exact (Total.modify _).bind fun _ => Total.pure _
  · exact hend.bind fun _ => Total.pure _

/-- The lifecycle of a show never ends a tick by an exception. -/
theorem total_processShowLifecycle (session : Option Session) :
    Total (processShowLifecycle w env session) := by
  cases session with
  | none => exact Total.pure _
  | some session =>
    unfold processShowLifecycle
    dsimp only
    split
    · exact Total.bindGet fun s => Total.ite (fun _ => Total.pure _)
        fun _ => total_playOrLive ..
    · exact total_handleShowAudioState session
    · exact total_handleShowAudioState session
    · exact total_handleShowAudioState session
    · exact total_handleShowAudioState session
    · exact total_nextDueAdIfAllowed.bind fun dueAd => Total.ite (fun _ => Total.pure _)
        fun _ => total_playOrLive ..
    · exact (Total.modify _).bind fun _ => Total.pure _
    · exact Total.pure _
    · exact Total.pure _

/-! ### The choice -/

/-- No call of `start_station` raises. -/
def RuntimeWorks (env : Env) : Prop := ∀ site, env.startError site = none

section RuntimeWorks

variable (h : RuntimeWorks env)
include h

lemma total_startStation (kind : StartKind) (uri trackType : String)
    (crossfade : PythonText.Float) (offset duration : ℚ) :
    Total (startStation w env site kind uri trackType crossfade offset duration) := by
  unfold startStation
  rw [h site]
  exact Total.modify _

lemma total_playHostTrack (item : ℤ × ProgramQueueItem) : Total (playHostTrack w env item) := by
  refine total_finishPlayingQueueItem.bind fun _ => (total_setPlayoutState ..).bind fun _ =>
    Total.bindGet fun s => ?_
  dsimp only
  refine Total.ite (fun _ => (Total.modify _).bind fun _ =>
    (total_setPlayoutState ..).bind fun _ => Total.pure _) fun _ => ?_
  exact Total.ite (fun _ => (total_startStation h ..).bind fun _ =>
    total_broadcastQueue.bind fun _ => Total.pure _) fun _ =>
    total_broadcastQueue.bind fun _ => Total.pure _

lemma total_playManagedItem (m : Managed) : Total (playManagedItem w env m) := by
  refine (Total.modify _).bind fun _ => (total_setPlayoutState ..).bind fun _ =>
    Total.bindGet fun s => ?_
  refine Total.ite (fun _ => (Total.modify _).bind fun _ =>
    (total_setPlayoutState ..).bind fun _ => Total.pure _) fun _ => ?_
  unfold startManagedItem
  refine Total.bindGet fun s => ⟨fun t => ?_⟩
  have hend : ∀ uri, Total (do
      broadcastQueue w env .start
      if m.autoDone then
        modify m.markDone
        setPlayoutState w .none none s!"{m.name}_auto_done"
      pure (⟨m.name, none, some uri, some m.itemId⟩ : Outcome)) := fun uri =>
    total_broadcastQueue.bind fun _ => Total.ite (fun _ => (Total.modify _).bind fun _ =>
      (total_setPlayoutState ..).bind fun _ => Total.pure _) fun _ => Total.pure _
  refine Ends.tryCatch (F := fun _ => False) ?_ fun _ _ hf => hf.elim
  exact (Total.ite (fun _ => (total_startStation h ..).bind fun _ => hend _)
    fun _ => hend _).ends t

lemma total_startSource (playing pending : Option (ℤ × QueueItem))
    (dueAd : Option (ℤ × AdBreakItem)) (session : Option Session) :
    Total (startSource w env playing pending dueAd session) := by
  unfold startSource
  refine Total.bindGet fun s => ?_
  dsimp only
  split
  · exact total_playHostTrack h _
  · exact total_playManagedItem h _
  · exact total_finishPlayingQueueItem.bind fun _ => total_playManagedItem h _
  · exact total_finishPlayingQueueItem.bind fun _ => total_playManagedItem h _
  · exact Total.ite (fun _ => (total_startStation h ..).bind fun _ => Total.pure _)
      fun _ => Total.pure _
  · exact Total.ite (fun _ => Total.pure _) fun _ => Total.pure _

/-- From the choice on, a tick raises only what the runtime raises. -/
theorem total_startNext (session : Option Session) : Total (startNext w env session) := by
  unfold startNext
  refine Total.bindGet fun s => Total.ite (fun _ => Total.pure _) fun _ =>
    Total.bindGet fun s' => ?_
  have hrest : ∀ playing : Option (ℤ × QueueItem), Total (do
      let pending := nextPending w.stationId (← get)
      let dueAd ← nextDueAdIfAllowed w env .choiceDue
      startSource w env playing pending dueAd session) := fun playing =>
    Total.bindGet fun _ => total_nextDueAdIfAllowed.bind fun _ => total_startSource h ..
  exact Total.ite (fun _ => (Total.modify _).bind fun _ => hrest _) fun _ => hrest _

end RuntimeWorks

end OnAir.PhasesReturn
