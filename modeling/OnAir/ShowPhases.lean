import OnAir.QueuePhases

/-!
What ads, shows and starts change.

The advance of the ads, the lifecycle of a show and the start of what is chosen make a few
changes, one after the other. A relation that covers each of them covers these phases.
-/

namespace OnAir.ShowPhases

open PlayoutAdvance PlayoutTables Programs QueuePhases QueueUpkeep StationWorker WorkerEnv

/-- What most phases end with stays within `R`. -/
structure Effects (w : Worker) (R : Engine → Engine → Prop) : Prop where
  preorder : IsPreorder Engine R
  playout : ∀ source ≠ PlayoutSource.host, ∀ (item : Option ℤ) (reason : String) (s : Engine),
    R s (setCurrent w.stationId source item reason s)
  filled : ∀ s, R s (BroadcastQueue.ensureFilled w.stationId s)

/-- So does the end of one ad. -/
structure OneAd (w : Worker) (id : ℤ) (R : Engine → Engine → Prop) : Prop
    extends Effects w R where
  closed : ∀ f : AdBreakItem → AdBreakItem,
    (∀ r, (f r).status ≠ .playing ∧ (f r).status ≠ .pending) → ∀ s, R s (updateAd id f s)

/-- And its restart. -/
structure AdAdvance (w : Worker) (id : ℤ) (R : Engine → Engine → Prop) : Prop
    extends OneAd w id R where
  again : ∀ (now : ℤ) (s : Engine), R s (markAdPlaying id now s)
  attempts : ∀ (s : Engine) (restarts : RestartKey → Option RestartState),
    R s { s with restarts := restarts }
  played : ∀ (track now : ℤ) (s : Engine), R s (markPlayed track now s)

/-- What the lifecycle of a session changes stays within `R`. -/
structure Lifecycle (w : Worker) (id : ℤ) (R : Engine → Engine → Prop) : Prop
    extends Effects w R where
  ads : ∀ ad, OneAd w ad R
  status : ∀ (status : ShowStatus) (s : Engine), R s (updateStatus id status s)
  automation : ∀ s, R s (upsertSetting w.stationId "program_queue_source" "automation" s)

variable {w : Worker} {env : Env} {R : Engine → Engine → Prop} {site : Site} {s : Engine}

namespace Effects

lemma mono {R' : Engine → Engine → Prop} [IsPreorder Engine R'] (h : Effects w R)
    (hR : ∀ s t, R s t → R' s t) : Effects w R' where
  preorder := inferInstance
  playout source hs item reason s := hR _ _ (h.playout source hs item reason s)
  filled s := hR _ _ (h.filled s)

lemma setPlayoutState (h : Effects w R) {source : PlayoutSource} (hs : source ≠ .host)
    (item : Option ℤ) (reason : String) :
    Moves R (WorkerEnv.setPlayoutState w source item reason) :=
  Moves.modify (h.playout source hs item reason)

lemma broadcast (h : Effects w R) : Moves R (broadcastQueue w env site) := by
  have := h.preorder
  exact Moves.ite (fun _ => Moves.modify h.filled) fun _ => Moves.pure _

lemma advanceHostTrack (h : Effects w R) (hpop : ∀ item s, R s (popHostItem item s)) :
    Moves R (PlayoutAdvance.advanceHostTrack w env) := by
  have := h.preorder
  refine Moves.bindGet fun s => ?_
  dsimp only
  split
  · exact Moves.pure _
  · exact Moves.ite (fun _ => Moves.pure _) fun _ => Moves.bindModify (hpop _) fun _ =>
      (h.setPlayoutState (by decide) _ _).bind fun _ => h.broadcast

lemma playShowAudio (h : Effects w R) (hstart : StartsAt env R .showAudio .showAudio)
    (path : String) {source : PlayoutSource} (hs : source ≠ .host) :
    Moves R (StationWorker.playShowAudio w env path source) := by
  have := h.preorder
  refine Moves.ite (fun _ => Moves.pure _) fun _ => Moves.tryCatch ?_ fun _ => Moves.pure _
  exact Moves.ite (fun _ => (hstart.startStation ..).bind fun _ =>
    (h.setPlayoutState hs _ _).bind fun _ => Moves.pure _) fun _ =>
    (h.setPlayoutState hs _ _).bind fun _ => Moves.pure _

/-! ### The start of what is chosen -/

lemma startManagedItem (h : Effects w R) {m : Managed} (hstart : StartsAt env R m.kind .start)
    (hdone : ∀ s, R s (m.markDone s)) (hfailed : ∀ s, R s (m.markFailed s))
    (hrestore : ∀ s, R s (m.restore s)) (uri : String) :
    Moves R (StationWorker.startManagedItem w env m uri) := by
  have := h.preorder
  unfold StationWorker.startManagedItem
  refine Moves.bindGet fun s => Moves.tryCatch ?_ fun e => ?_
  · have hend : Moves R (do
        broadcastQueue w env .start
        if m.autoDone then
          modify m.markDone
          WorkerEnv.setPlayoutState w .none none s!"{m.name}_auto_done"
        pure (⟨m.name, none, some uri, some m.itemId⟩ : Outcome)) := by
      refine h.broadcast.bind fun _ => Moves.ite (fun _ => ?_) fun _ => Moves.pure _
      exact Moves.bindModify hdone fun _ =>
        (h.setPlayoutState (by decide) _ _).bind fun _ => Moves.pure _
    exact Moves.ite (fun _ => (hstart.startStation ..).bind fun _ => hend) fun _ => hend
  · refine Moves.bindModify (fun s => ?_) fun _ =>
      (h.setPlayoutState (by decide) _ _).bind fun _ => Moves.throw _
    split_ifs
    · exact hrestore s
    · exact hfailed s

lemma playManagedItem (h : Effects w R) {m : Managed} (hstart : StartsAt env R m.kind .start)
    (hs : m.source ≠ .host) (hplaying : ∀ s, R s (m.markPlaying s))
    (hdone : ∀ s, R s (m.markDone s)) (hfailed : ∀ s, R s (m.markFailed s))
    (hrestore : ∀ s, R s (m.restore s)) : Moves R (StationWorker.playManagedItem w env m) := by
  have := h.preorder
  refine Moves.bindModify hplaying fun _ => (h.setPlayoutState hs _ _).bind fun _ =>
    Moves.bindGet fun s => ?_
  exact Moves.ite (fun _ => Moves.bindModify hfailed fun _ =>
    (h.setPlayoutState (by decide) _ _).bind fun _ => Moves.pure _) fun _ =>
    h.startManagedItem hstart hdone hfailed hrestore _

lemma playHostTrack (h : Effects w R) (hstart : StartsAt env R .host .start)
    (hfinish : Moves R (finishPlayingQueueItem w env))
    (hhost : ∀ item reason s, R s (setCurrent w.stationId .host item reason s))
    (hpop : ∀ item s, R s (popHostItem item s)) (item : ℤ × ProgramQueueItem) :
    Moves R (StationWorker.playHostTrack w env item) := by
  have := h.preorder
  refine hfinish.bind fun _ => Moves.bindModify (hhost _ _) fun _ => Moves.bindGet fun s => ?_
  dsimp only
  refine Moves.ite (fun _ => Moves.bindModify (hpop _) fun _ =>
    (h.setPlayoutState (by decide) _ _).bind fun _ => Moves.pure _) fun _ => ?_
  exact Moves.ite (fun _ => (hstart.startStation ..).bind fun _ =>
    h.broadcast.bind fun _ => Moves.pure _) fun _ => h.broadcast.bind fun _ => Moves.pure _

end Effects

/-! ### Ads -/

namespace OneAd

variable {id : ℤ} {ad : ℤ × AdBreakItem}

lemma mono {R' : Engine → Engine → Prop} [IsPreorder Engine R'] (h : OneAd w id R)
    (hR : ∀ s t, R s t → R' s t) : OneAd w id R' where
  toEffects := h.toEffects.mono hR
  closed f hf s := hR _ _ (h.closed f hf s)

lemma markAdFailed (h : OneAd w id R) (s : Engine) : R s (PlayoutTables.markAdFailed id s) :=
  h.closed _ (fun _ => by simp) s

lemma giveUpAd (h : OneAd w id R) (reason : String) :
    Moves R (PlayoutAdvance.giveUpAd w id reason) := by
  have := h.preorder
  exact Moves.bindModify h.markAdFailed fun _ =>
    (h.setPlayoutState (by decide) _ _).bind fun _ => Moves.throw _

lemma failAdPolicyViolation (h : OneAd w ad.1 R) :
    Moves R (PlayoutAdvance.failAdPolicyViolation w env ad) := by
  have := h.preorder
  refine Moves.ite (fun _ => Moves.pure _) fun _ => Moves.bindModify h.markAdFailed fun _ => ?_
  exact Moves.ite (fun _ => (h.setPlayoutState (by decide) _ _).bind fun _ => h.broadcast)
    fun _ => h.broadcast

lemma blockAd (h : OneAd w ad.1 R) : Moves R (PlayoutAdvance.blockAd w env ad) := by
  have := h.preorder
  exact h.failAdPolicyViolation.bind fun _ => Moves.throw _

end OneAd

lemma moves_failDisabledActiveAds (h : ∀ id, OneAd w id R) :
    Moves R (PlayoutAdvance.failDisabledActiveAds w env) := by
  have := (h 0).preorder
  exact Moves.bindGet fun _ => Moves.ite (fun _ => Moves.pure _) fun _ =>
    Moves.forM _ fun ad _ => (h ad.1).failAdPolicyViolation

lemma moves_nextDueAdIfAllowed (h : ∀ id, OneAd w id R) :
    Moves R (PlayoutAdvance.nextDueAdIfAllowed w env site) := by
  have := (h 0).preorder
  exact Moves.bindGet fun _ => Moves.ite (fun _ => Moves.bindGet fun _ => Moves.pure _)
    fun _ => (moves_failDisabledActiveAds h).bind fun _ => Moves.pure _

lemma moves_restartAttemptAllowed [IsPreorder Engine R]
    (h : ∀ (s : Engine) (restarts : RestartKey → Option RestartState),
      R s { s with restarts := restarts }) (source : RestartSource) (item : ℤ) :
    Moves R (WorkerEnv.restartAttemptAllowed w env site source item) := by
  refine Moves.bindGet fun s => ?_
  split
  · exact Moves.bindModify (fun s => h s _) fun _ => Moves.pure _
  · refine Moves.ite (fun _ => Moves.bindModify (fun s => h s _) fun _ => Moves.pure _)
      fun _ => ?_
    exact Moves.ite (fun _ => Moves.bindModify (fun s => h s _) fun _ => Moves.pure _)
      fun _ => Moves.bindModify (fun s => h s _) fun _ => Moves.pure _

lemma AdAdvance.restartAdItem {ad : ℤ × AdBreakItem} (h : AdAdvance w ad.1 R)
    (hstart : StartsAt env R .adsRestart .restartAd) :
    Moves R (PlayoutAdvance.restartAdItem w env ad) := by
  have := h.preorder
  unfold PlayoutAdvance.restartAdItem
  refine Moves.bindGet fun s => Moves.ite (fun _ => Moves.pure _) fun _ => ?_
  refine Moves.ite (fun _ => h.blockAd) fun _ => ?_
  refine Moves.bind (Moves.bindGet fun _ => Moves.pure _) fun status => ?_
  refine Moves.ite (fun _ => Moves.pure _) fun _ => ?_
  refine (moves_restartAttemptAllowed h.attempts ..).bind fun refusal => ?_
  cases refusal with
  | some reason => exact h.giveUpAd _
  | none =>
    refine Moves.ite (fun _ => h.giveUpAd _) fun _ => Moves.tryCatch ?_ fun _ => h.giveUpAd _
    exact (hstart.startStation ..).bind fun _ => Moves.bindModify (h.again _) fun _ =>
      (h.setPlayoutState (by decide) _ _).bind fun _ => h.broadcast

/-- The ad that is advanced is the one that plays when it is looked for. -/
lemma advancePlayingAdItem_ends [IsPreorder Engine R]
    (h : ∀ ad, currentAd w.stationId s = some ad → AdAdvance w ad.1 R)
    (hstart : StartsAt env R .adsRestart .restartAd) :
    Ends (advancePlayingAdItem w env) s (fun _ => R s) (R s) := by
  unfold advancePlayingAdItem
  rw [ends_bind, ends_get]
  cases had : currentAd w.stationId s with
  | none => exact refl_of R s
  | some ad =>
    have h := h ad had
    refine Moves.ends (R := R) ?_ s
    refine Moves.ite (fun _ => h.blockAd) fun _ => ?_
    split
    · exact Moves.pure _
    dsimp only
    refine Moves.ite (fun _ => Moves.ite (fun _ => h.restartAdItem hstart) fun _ => Moves.pure _)
      fun _ => Moves.ite (fun _ => Moves.pure _) fun _ =>
        Moves.bindModify (h.closed _ fun _ => by simp) fun _ => ?_
    exact Moves.ite (fun _ => Moves.bindModify (h.played _ _) fun _ =>
      h.setPlayoutState (by decide) _ _) fun _ => h.setPlayoutState (by decide) _ _

lemma moves_ensureHourlyAdBreak [IsPreorder Engine R] (h : ∀ (track : ℤ) (dueAt : String) (priority : ℤ)
      (key : String) (s : Engine), R s (enqueueAd w.stationId track dueAt priority key s)) :
    Moves R (PlayoutAdvance.ensureHourlyAdBreak w env) := by
  have hlift : ∀ x : Except PythonText.IntError ℤ, Moves R (liftSetting x) := fun x => by
    cases x with
    | ok n => exact Moves.pure n
    | error e => exact Moves.throw _
  unfold PlayoutAdvance.ensureHourlyAdBreak
  refine Moves.bindGet fun s => (hlift _).bind fun _ => ?_
  refine Moves.ite (fun _ => Moves.pure _) fun _ => Moves.ite (fun _ => Moves.pure _) fun _ => ?_
  dsimp only
  refine Moves.ite (fun _ => Moves.pure _) fun _ => ?_
  have henqueue : ∀ (dueAt bucket : String) (tracks : List (ℤ × ℕ)),
      Moves R (tracks.forM (enqueueHourlyAd w dueAt bucket)) := fun dueAt bucket tracks =>
    Moves.forM _ fun track _ => Moves.bindGet fun _ =>
      (moves_bindInteger _ _).bind fun _ => Moves.modify fun s => h ..
  exact Moves.ite (fun _ => (Moves.throw _).bind fun _ => henqueue ..) fun _ => henqueue ..

/-! ### The lifecycle of a show -/

namespace Lifecycle

variable {session : Session}

lemma playOrLive (h : Lifecycle w session.1 R) (hstart : StartsAt env R .showAudio .showAudio)
    (file : ShowFiles → Option String) {source : PlayoutSource} (hs : source ≠ .host)
    (status : ShowStatus) (outcome : Outcome) :
    Moves R (StationWorker.playOrLive w env session file source status outcome) := by
  have := h.preorder
  have hlive : Moves R (do
      modify (updateStatus session.1 .live)
      return none : WorkerM (Option Outcome)) :=
    Moves.bindModify (h.status _) fun _ => Moves.pure _
  unfold StationWorker.playOrLive
  refine Moves.bindGet fun s => ?_
  split
  · refine (h.playShowAudio hstart _ hs).bind fun played => Moves.ite (fun _ => ?_) fun _ => hlive
    exact Moves.bindModify (h.status _) fun _ => Moves.pure _
  · exact hlive

lemma endShowSession (h : Lifecycle w session.1 R) :
    Moves R (StationWorker.endShowSession w env session) := by
  have := h.preorder
  exact Moves.bindModify (h.status _) fun _ => Moves.bindModify h.automation fun _ =>
    (h.setPlayoutState (by decide) _ _).bind fun _ => h.broadcast

lemma handleShowAudioState (h : Lifecycle w session.1 R) :
    Moves R (StationWorker.handleShowAudioState w env session) := by
  have := h.preorder
  unfold StationWorker.handleShowAudioState
  refine Moves.bind (Moves.bindGet fun _ => Moves.pure _) fun status =>
    Moves.ite (fun _ => Moves.pure _) fun _ => ?_
  split
  · exact Moves.bindModify (h.status _) fun _ => Moves.pure _
  · exact Moves.bindModify (h.status _) fun _ => Moves.pure _
  · exact Moves.bindModify (h.status _) fun _ => Moves.pure _
  · exact h.endShowSession.bind fun _ => Moves.pure _

lemma checkAdBreakTiming {id : ℤ} (h : Lifecycle w id R) (s : Engine) :
    R s (StationWorker.checkAdBreakTiming w env s) := by
  have := h.preorder
  unfold StationWorker.checkAdBreakTiming
  dsimp only
  split
  · split
    · exact refl_of R s
    split_ifs
    · exact (h.ads _).closed _ (fun _ => by simp) s
    · exact refl_of R s
  · exact refl_of R s

theorem processShowLifecycle (h : Lifecycle w session.1 R)
    (hstart : StartsAt env R .showAudio .showAudio) :
    Moves R (StationWorker.processShowLifecycle w env (some session)) := by
  have := h.preorder
  unfold StationWorker.processShowLifecycle
  dsimp only
  split
  · exact Moves.bindGet fun s => Moves.ite (fun _ => Moves.pure _) fun _ =>
      h.playOrLive hstart _ (by decide) _ _
  · exact h.handleShowAudioState
  · exact h.handleShowAudioState
  · exact h.handleShowAudioState
  · exact h.handleShowAudioState
  · exact (moves_nextDueAdIfAllowed h.ads).bind fun dueAd => Moves.ite (fun _ => Moves.pure _) fun _ =>
      h.playOrLive hstart _ (by decide) _ _
  · exact Moves.bindModify h.checkAdBreakTiming fun _ => Moves.pure _
  · exact Moves.pure _
  · exact Moves.pure _

end Lifecycle

end OnAir.ShowPhases
