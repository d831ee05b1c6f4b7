import OnAir.QuietPhases

/-!
A show that goes live, and its breaks.

The lifecycle of a show comes first in a tick. While a show goes live and a song is marked
playing, the tick ends there, before anything could mark the song done. A break ends when no ad
waits, whether or not one still plays.
-/

namespace OnAir.ShowBreaks

open CalmPhases OneSource PlayoutAdvance PlayoutTables Programs QueuePhases QueueUpkeep QuietPhases
  Runs ShowPhases StationWorker OnAir.Table WorkerEnv

variable (w : Worker) (env : Env) (s : Engine)

/-- The lease is granted to the worker. -/
def granted : Bool := (tryAcquire w.stationId w.workerId (env.clock .lease) s).2

/-- The state once the lease is taken. -/
def leased : Engine := (tryAcquire w.stationId w.workerId (env.clock .lease) s).1

/-! ### Going live -/

/-- A show goes live while a song whose time is over, and which the runtime no longer plays, is
still marked playing. -/
structure SongOver (session : Session) (song : ℤ × QueueItem) : Prop where
  granted : granted w env s = true
  active : activeSession w.stationId s = some session
  goingLive : session.2.status = .goingLive
  plays : currentPlaying w.stationId s = some song
  timeUp : ∃ t, song.2.startedAt = some t ∧ durationOf s song.2.trackId ≤ env.clock .lease - t
  silent : ∀ site asked, playbackMatches env (env.status site asked)
    (trackUri env s song.2.trackId) = false

/-- After a tick the song is no longer marked playing. -/
def SongEnds (song : ℤ × QueueItem) : Prop :=
  ∀ t ∈ tick w s env, ∀ r, t.queueItems[song.1]? = some r → r.status ≠ .playing

variable {w env s} {t : Engine} {session : Session} {song : ℤ × QueueItem}

lemma leased_eq (w : Worker) (env : Env) (s : Engine) :
    ∃ leases, leased w env s = { s with leases := leases } := by
  unfold leased tryAcquire
  dsimp only
  split_ifs
  · exact ⟨_, rfl⟩
  · exact ⟨s.leases, rfl⟩

lemma upkeep_eq (w : Worker) (env : Env) (s : Engine) : upkeep w env s = (do
    if !granted w env s then return .inl (.of "none" "lease_denied")
    if let some outcome ← processShowLifecycle w env
      (activeSession w.stationId (leased w env s)) then return .inl outcome
    maybeInsertStartupSound w
    failCrossStationQueueItems w env
    autofillQueue w env
    sweepQueue w
    maybePrepareAiQueue w env
    return .inr (activeSession w.stationId (leased w env s)) :
      WorkerM (Outcome ⊕ Option Session)) (leased w env s) := rfl

/-- A tick with the lease begins with the lifecycle of the show. -/
lemma upkeep_granted (h : granted w env s = true) :
    upkeep w env s =
      match processShowLifecycle w env (activeSession w.stationId s) (leased w env s) with
      | .ok (some outcome) t => .ok (.inl outcome) t
      | .ok none t => (do
          prepareQueue w env
          return .inr (activeSession w.stationId s) : WorkerM (Outcome ⊕ Option Session)) t
      | .error e t => .error e t := by
  have hactive : activeSession w.stationId (leased w env s) = activeSession w.stationId s := by
    obtain ⟨leases, hleased⟩ := leased_eq w env s
    rw [hleased]
    rfl
  rw [upkeep_eq, h, hactive]
  change (processShowLifecycle w env _ >>= _) _ = _
  rw [run_bind]
  cases processShowLifecycle w env (activeSession w.stationId s) (leased w env s) with
  | error e t => rfl
  | ok outcome t =>
    cases outcome with
    | some outcome => rfl
    | none =>
      unfold prepareQueue
      simp only [bind_assoc]

lemma upkeep_denied (h : granted w env s = false) :
    upkeep w env s = .ok (.inl (.of "none" "lease_denied")) (leased w env s) := by
  rw [upkeep_eq, h]
  rfl

/-- A tick that ends in the upkeep. -/
lemma tick_of_upkeep {outcome : Outcome} (h : upkeep w env s = .ok (.inl outcome) t) :
    tick w s env = some t := by
  have hprocess : processOnce w env s = .ok outcome t := by
    rw [processOnce, run_bind, h]
    rfl
  rw [tick, hprocess]
  rfl

lemma tick_holds (h : SongOver w env s session song) :
    tick w s env = some (leased w env s) := by
  obtain ⟨leases, hleased⟩ := leased_eq w env s
  have hplays : currentPlaying w.stationId (leased w env s) = some song := by
    rw [hleased]
    exact h.plays
  have hlifecycle : processShowLifecycle w env (some session) (leased w env s) =
      .ok (some (.of "show_hold" "waiting_for_track")) (leased w env s) := by
    have hholds : handleGoingLive w env session (leased w env s) =
        .ok (some (.of "show_hold" "waiting_for_track")) (leased w env s) := by
      change (if (currentPlaying w.stationId (leased w env s)).isSome then _ else _ :
        WorkerM (Option Outcome)) _ = _
      rw [hplays]
      rfl
    unfold processShowLifecycle
    dsimp only
    rw [h.goingLive]
    exact hholds
  refine @tick_of_upkeep w env s _ (.of "show_hold" "waiting_for_track") ?_
  rw [upkeep_granted h.granted, h.active, hlifecycle]

/-- **A show that goes live is held up.** As long as a song is marked playing, a tick leaves it
so, also when its time is over and the runtime has ended it. -/
theorem song_never_ends (h : SongOver w env s session song) : ¬ SongEnds w env s song := by
  intro hends
  obtain ⟨hrow, hst⟩ := List.mem_filter.mp (List.mem_of_head? h.plays)
  obtain ⟨leases, hleased⟩ := leased_eq w env s
  refine hends _ (tick_holds h) song.2 ?_ ?_
  · rw [hleased]
    exact mem_rows.mp hrow
  · simpa using (Bool.and_eq_true_iff.mp hst).2

/-- A show of station 1 goes live while a song is marked playing that began at the second 100 and
takes 200 seconds. -/
def songAndShow : Engine :=
  { Engine.empty with
    tracks := Engine.empty.tracks.insert 1
      ⟨1, "", "", "/one.mp3", 200, "music", true, true, 0, none⟩
    queueItems := Engine.empty.queueItems.insert 1 ⟨1, 1, 1, .playing, some 100, none⟩
    showSessions := Engine.empty.showSessions.insert 1 ⟨1, 1, .goingLive⟩ }

/-- The runtime has ended what it played. -/
def silentWorld (time : ℚ) : Env := { calmWorld time with status := fun _ _ => none }

lemma songOver_songAndShow : SongOver soleWorker (silentWorld 1000) songAndShow
    (1, ⟨1, 1, .goingLive⟩) (1, ⟨1, 1, 1, .playing, some 100, none⟩) where
  granted := by decide +kernel
  active := by decide +kernel
  goingLive := rfl
  plays := by decide +kernel
  timeUp := ⟨100, rfl, by decide +kernel⟩
  silent _ _ := rfl

theorem going_live_is_held_up :
    SongOver soleWorker (silentWorld 1000) songAndShow (1, ⟨1, 1, .goingLive⟩)
        (1, ⟨1, 1, 1, .playing, some 100, none⟩) ∧
      ¬ SongEnds soleWorker (silentWorld 1000) songAndShow
        (1, ⟨1, 1, 1, .playing, some 100, none⟩) := by
  refine ⟨songOver_songAndShow, fun h => ?_⟩
  have hplays : ((tick soleWorker songAndShow (silentWorld 1000)).any fun t =>
      t.queueItems[(1 : ℤ)]?.any (·.status = .playing)) = true := by decide +kernel
  obtain ⟨t, ht, hrow⟩ := (Option.any_eq_true ..).mp hplays
  obtain ⟨r, hr, hst⟩ := (Option.any_eq_true ..).mp hrow
  exact h t ht r hr (by simpa using hst)

theorem song_never_ends_songAndShow :
    ¬ SongEnds soleWorker (silentWorld 1000) songAndShow
      (1, ⟨1, 1, 1, .playing, some 100, none⟩) :=
  song_never_ends songOver_songAndShow

/-! ### The end of a break -/

section EndOfBreak

variable (w : Worker) (s : Engine)

/-- The session is on break. -/
def Breaks (id : ℤ) : Prop :=
  ∃ r : ShowSession,
    s.showSessions[id]? = some r ∧ r.stationId = w.stationId ∧ r.status = .onBreak

/-- No ad of the station plays, and none waits whose time has come. -/
def AdsOver (env : Env) (now : ℤ) : Prop :=
  ∀ (id : ℤ) (r : AdBreakItem), s.adBreakItems[id]? = some r → r.stationId = w.stationId →
    r.status ≠ .playing ∧ (r.status = .pending → isPast env.datetime now r.dueAt = false)

/-- A session that is on break before a tick with ads enabled and not after it finds the ads
over. -/
def EndsAfterAds (env : Env) : Prop :=
  adsEnabled w s = true → ∀ t ∈ tick w s env, ∀ id, Breaks w s id → ¬ Breaks w t id →
    AdsOver w s env (env.stamp .showDue)

/-- A tick finds the session on break while an ad plays and no other one is due. -/
def lastAdPlays (env : Env) : Bool :=
  granted w env s && adsEnabled w s && onBreak (activeSession w.stationId s) &&
    (nextDue w.stationId s env.datetime (env.stamp .showDue)).isNone &&
    (currentAd w.stationId s).isSome

end EndOfBreak

/-- What leaves the sessions alone. -/
def Sits (s t : Engine) : Prop := t.showSessions = s.showSessions

instance : IsPreorder Engine Sits where
  refl _ := rfl
  trans _ _ _ h h' := h'.trans h

section Sits

variable {α : Type} {x : WorkerM α}

lemma sits_of_aside (h : Moves (Aside w) x) : Moves Sits x := h.mono fun _ _ ha => ha.sessions

lemma fills_sits : Fills w Sits where
  preorder := inferInstance
  queue _ _ _ := rfl
  tracks _ _ _ := rfl
  attempts _ _ _ := rfl
  setting _ _ _ _ _ := rfl
  playout _ _ _ _ _ := rfl

lemma effects_sits : Effects w Sits where
  preorder := inferInstance
  playout _ _ _ _ _ := rfl
  filled := (fills_sits (w := w)).ensureFilled w.stationId

lemma startsAt_sits {kind : StartKind} {site : Site} : StartsAt env Sits kind site :=
  fun _ _ _ _ => rfl

lemma oneAd_sits (id : ℤ) : OneAd w id Sits where
  toEffects := effects_sits
  closed _ _ _ := rfl

lemma adAdvance_sits (id : ℤ) : AdAdvance w id Sits where
  toOneAd := oneAd_sits id
  again _ _ := rfl
  attempts _ _ := rfl
  played _ _ _ := rfl

lemma sits_advanceOthers : Moves Sits (advanceOthers w env) := by
  have hads : Moves Sits (advancePlayingAdItem w env) :=
    ⟨fun _ => advancePlayingAdItem_ends (fun ad _ => adAdvance_sits ad.1) startsAt_sits⟩
  have hhourly : Moves Sits (ensureHourlyAdBreak w env) :=
    moves_ensureHourlyAdBreak fun _ _ _ _ _ => by
      unfold enqueueAd
      split_ifs <;> rfl
  exact hads.bind fun _ => (moves_failDisabledActiveAds oneAd_sits).bind fun _ =>
    hhourly.bind fun _ => effects_sits.advanceHostTrack fun _ _ => rfl

lemma sits_startSource (playing pending : Option (ℤ × QueueItem))
    (dueAd : Option (ℤ × AdBreakItem)) (session : Option Session) :
    Moves Sits (startSource w env playing pending dueAd session) := by
  have hfinish : Moves Sits (finishPlayingQueueItem w env) := fills_sits.finishPlayingQueueItem
  unfold startSource
  refine Moves.bindGet fun s => ?_
  dsimp only
  split
  · exact effects_sits.playHostTrack startsAt_sits hfinish (fun _ _ _ => rfl) (fun _ _ => rfl) _
  · exact effects_sits.playManagedItem startsAt_sits (nofun) (fun _ => rfl) (fun _ => rfl)
      (fun _ => rfl) fun _ => rfl
  · exact hfinish.bind fun _ => effects_sits.playManagedItem startsAt_sits (nofun)
      (fun _ => rfl) (fun _ => rfl) (fun _ => rfl) fun _ => rfl
  · exact hfinish.bind fun _ => effects_sits.playManagedItem startsAt_sits (nofun)
      (fun _ => rfl) (fun _ => rfl) (fun _ => rfl) fun _ => rfl
  · exact Moves.ite (fun _ => (StartsAt.startStation startsAt_sits ..).bind fun _ =>
      Moves.pure _) fun _ => Moves.pure _
  · exact Moves.ite (fun _ => Moves.pure _) fun _ => Moves.pure _

lemma sits_startNext (session : Option Session) : Moves Sits (startNext w env session) := by
  unfold startNext
  refine Moves.bindGet fun s => Moves.ite (fun _ => Moves.pure _) fun _ =>
    Moves.bindGet fun s' => ?_
  have hrest : ∀ playing : Option (ℤ × QueueItem), Moves Sits (do
      let pending := nextPending w.stationId (← get)
      let dueAd ← nextDueAdIfAllowed w env .choiceDue
      startSource w env playing pending dueAd session) := fun playing =>
    Moves.bindGet fun _ => (moves_nextDueAdIfAllowed oneAd_sits).bind fun _ =>
      sits_startSource ..
  refine Moves.ite (fun _ => Moves.bindModify (fun s => ?_) fun _ => hrest _) fun _ => hrest _
  obtain ⟨items, hs⟩ := skipDuplicatePending_eq w s
  rw [hs]
  rfl

end Sits

/-! ### The lifecycle in a tick -/

/-- What leaves the sessions alone, up to one. -/
def SitsBut (id : ℤ) (s t : Engine) : Prop :=
  ∀ j : ℤ, j ≠ id → t.showSessions[j]? = s.showSessions[j]?

instance (id : ℤ) : IsPreorder Engine (SitsBut id) where
  refl _ _ _ := rfl
  trans _ _ _ h h' j hj := (h' j hj).trans (h j hj)

lemma oneAd_sitsBut {id : ℤ} (ad : ℤ) : OneAd w ad (SitsBut id) :=
  (oneAd_sits ad).mono fun _ _ hs j _ => by rw [hs]

lemma lifecycle_sitsBut (id : ℤ) : Lifecycle w id (SitsBut id) where
  toEffects := (oneAd_sitsBut 0).toEffects
  ads := oneAd_sitsBut
  status _ _ j hj := by rw [updateStatus, lookup_modify, if_neg hj]
  automation _ _ _ := rfl

lemma sitsBut_processShowLifecycle (session : Session) :
    Moves (SitsBut session.1) (processShowLifecycle w env (some session)) :=
  (lifecycle_sitsBut _).processShowLifecycle fun _ _ _ _ _ _ => rfl

/-- The end of a tick that the lifecycle does not end. -/
def afterLifecycle (w : Worker) (env : Env) (session : Option Session) : WorkerM Outcome := do
  prepareQueue w env
  advancePlayingQueueItem w env
  advanceOthers w env
  startNext w env session

lemma processOnce_granted (h : granted w env s = true) :
    processOnce w env s =
      match processShowLifecycle w env (activeSession w.stationId s) (leased w env s) with
      | .ok (some outcome) t => .ok outcome t
      | .ok none t => afterLifecycle w env (activeSession w.stationId s) t
      | .error e t => .error e t := by
  rw [processOnce, run_bind, upkeep_granted h]
  cases processShowLifecycle w env (activeSession w.stationId s) (leased w env s) with
  | error e t => rfl
  | ok outcome t =>
    cases outcome with
    | some outcome => rfl
    | none =>
      dsimp only
      rw [afterLifecycle, run_bind, run_bind]
      cases prepareQueue w env t <;> rfl

/-- What the lifecycle makes of a session is what the tick makes of it. -/
lemma tick_sessions (h : granted w env s = true) (ht : tick w s env = some t) :
    t.showSessions = (final (processShowLifecycle w env (activeSession w.stationId s)
      (leased w env s))).showSessions := by
  have hrest : Moves Sits (afterLifecycle w env (activeSession w.stationId s)) :=
    (sits_of_aside (w := w) aside_prepareQueue).bind fun _ =>
      (sits_of_aside (w := w) aside_advancePlayingQueueItem).bind fun _ =>
        sits_advanceOthers.bind fun _ => sits_startNext _
  rw [tick, Option.some.injEq, processOnce_granted h] at ht
  rw [← ht]
  cases processShowLifecycle w env (activeSession w.stationId s) (leased w env s) with
  | error e t => rfl
  | ok outcome t =>
    cases outcome with
    | some outcome => rfl
    | none => exact hrest.final t

lemma tick_denied (h : granted w env s = false) : tick w s env = some (leased w env s) :=
  tick_of_upkeep (upkeep_denied h)

/-! ### The break -/

lemma adsEnabled_leased : adsEnabled w (leased w env s) = adsEnabled w s := by
  obtain ⟨leases, h⟩ := leased_eq w env s
  rw [h]
  rfl

/-- With ads enabled, looking for the next ad changes nothing. -/
lemma nextDueAdIfAllowed_eq (h : adsEnabled w s = true) (site : Site) :
    nextDueAdIfAllowed w env site s =
      .ok (nextDue w.stationId s env.datetime (env.stamp site)) s := by
  change (if adsEnabled w s then _ else _ : WorkerM (Option (ℤ × AdBreakItem))) s = _
  rw [h]
  rfl

/-- While an ad is due, the break goes on. -/
lemma handleOnBreak_due (hads : adsEnabled w s = true)
    (hdue : (nextDue w.stationId s env.datetime (env.stamp .showDue)).isSome = true) :
    handleOnBreak w env session s = .ok none s := by
  rw [handleOnBreak, run_bind, nextDueAdIfAllowed_eq hads]
  dsimp only
  rw [if_pos hdue]
  rfl

/-- The start of a file of the show succeeds or does not, and never raises. -/
lemma playShowAudio_returns (path : String) (source : PlayoutSource) :
    Ends (playShowAudio w env path source) s (fun _ => Sits s) fun _ => False := by
  have hstart : Ends (do
      if w.hasRuntime then
        startStation w env .showAudio .showAudio (resolveMedia env path) "jingle" (.num 0) 0 0
      setPlayoutState w source none "show_audio_start"
      pure true) s (fun _ => Sits s) (Sits s) := by
    refine Moves.ends (R := Sits) ?_ s
    exact Moves.ite (fun _ => (StartsAt.startStation startsAt_sits ..).bind fun _ =>
      Moves.bindModify (fun _ => rfl) fun _ => Moves.pure _) fun _ =>
      Moves.bindModify (fun _ => rfl) fun _ => Moves.pure _
  unfold playShowAudio
  exact Ends.ite (fun _ => rfl) fun _ => Ends.tryCatch hstart fun _ _ h => h

/-- A show that plays a file or goes on live has a status that says so. -/
lemma playOrLive_status {file : ShowFiles → Option String} {source : PlayoutSource}
    {status : ShowStatus} {outcome : Outcome} {row : ShowSession}
    (hrow : s.showSessions[session.1]? = some row) (hstatus : status ≠ .onBreak) :
    ∃ r, (final (playOrLive w env session file source status outcome s)).showSessions[session.1]? =
      some r ∧ r.status ≠ .onBreak := by
  let Q : Engine → Prop := fun t =>
    ∃ r : ShowSession, t.showSessions[session.1]? = some r ∧ r.status ≠ .onBreak
  have hset : ∀ {status : ShowStatus} {t : Engine}, status ≠ .onBreak → Sits s t →
      Q (updateStatus session.1 status t) := by
    intro status t hstatus ht
    refine ⟨{ row with status := status }, ?_, hstatus⟩
    rw [updateStatus, lookup_modify, if_pos rfl, ht, hrow]
    rfl
  have hends : Ends (playOrLive w env session file source status outcome) s (fun _ => Q) Q := by
    unfold playOrLive
    rw [ends_bind, ends_get]
    split
    · next path _ =>
      have hplays : Ends (playShowAudio w env path source) s (fun _ => Sits s) fun _ => False :=
        playShowAudio_returns path source
      -- otherwise the program is evaluated when it is compared with itself
      generalize playShowAudio w env path source = plays at hplays ⊢
      refine (hplays.mono (fun _ _ h => h) fun _ h => h.elim).bind fun played t ht => ?_
      split_ifs
      · exact hset hstatus ht
      · exact hset (by decide) ht
    · exact hset (by decide) rfl
  exact hends.final

/-- Once no ad is due, the session leaves the break. -/
lemma handleOnBreak_over (hads : adsEnabled w s = true)
    (hdue : nextDue w.stationId s env.datetime (env.stamp .showDue) = none)
    {row : ShowSession} (hrow : s.showSessions[session.1]? = some row) :
    ∃ r, (final (handleOnBreak w env session s)).showSessions[session.1]? = some r ∧
      r.status ≠ .onBreak := by
  have hover : handleOnBreak w env session s = playOrLive w env session (·.breakIntroPath)
      .showBreakIntro .breakIntro (.of "show_break_intro" "break_intro_started") s := by
    rw [handleOnBreak, run_bind, nextDueAdIfAllowed_eq hads, hdue]
    rfl
  rw [hover]
  exact playOrLive_status hrow (by decide)

lemma activeSession_row (h : activeSession w.stationId s = some session) :
    s.showSessions[session.1]? = some session.2 ∧ session.2.stationId = w.stationId := by
  obtain ⟨hrow, hst⟩ := List.mem_filter.mp (List.mem_of_getLast? h)
  exact ⟨mem_rows.mp hrow, by simpa using (Bool.and_eq_true_iff.mp hst).1⟩

lemma breaks_leased {id : ℤ} : Breaks w (leased w env s) id ↔ Breaks w s id := by
  obtain ⟨leases, h⟩ := leased_eq w env s
  rw [h]
  exact Iff.rfl

/-- Only a tick with the lease that finds the session on break, and no ad due, ends the break. -/
lemma found_over {id : ℤ} (hads : adsEnabled w s = true) (ht : tick w s env = some t)
    (hbefore : Breaks w s id) (hafter : ¬ Breaks w t id) :
    granted w env s = true ∧ onBreak (activeSession w.stationId s) = true ∧
      nextDue w.stationId s env.datetime (env.stamp .showDue) = none := by
  cases hg : granted w env s with
  | false =>
    rw [tick_denied hg, Option.some.injEq] at ht
    exact absurd (breaks_leased.mpr hbefore) (ht ▸ hafter)
  | true =>
    have hsessions := tick_sessions hg ht
    refine ⟨rfl, ?_⟩
    by_contra hover
    apply hafter
    obtain ⟨r, hr, hst, hstatus⟩ := hbefore
    refine ⟨r, ?_, hst, hstatus⟩
    rw [hsessions]
    have hr' : (leased w env s).showSessions[id]? = some r := by
      obtain ⟨leases, h⟩ := leased_eq w env s
      rwa [h]
    cases hactive : activeSession w.stationId s with
    | none => exact hr'
    | some session =>
      obtain ⟨hrow, -⟩ := activeSession_row hactive
      by_cases hid : id = session.1
      · -- the session is on break, so an ad is due
        subst hid
        obtain rfl : session.2 = r := Option.some.inj (hrow.symm.trans hr)
        have hon : onBreak (some session) = true := by simpa [onBreak] using hstatus
        rw [hactive, hon] at hover
        obtain ⟨ad, had⟩ := Option.ne_none_iff_exists'.mp fun h => hover ⟨rfl, h⟩
        have hdue : (nextDue w.stationId (leased w env s) env.datetime
            (env.stamp .showDue)).isSome = true := by
          obtain ⟨leases, h⟩ := leased_eq w env s
          rw [h]
          exact Option.isSome_iff_exists.mpr ⟨ad, had⟩
        have hstays : processShowLifecycle w env (some session) (leased w env s) =
            .ok none (leased w env s) := by
          unfold processShowLifecycle
          dsimp only
          rw [hstatus]
          exact handleOnBreak_due (adsEnabled_leased.trans hads) hdue
        rw [hstays]
        exact hr'
      · have hkept := (@sitsBut_processShowLifecycle w env session).final
          (leased w env s) id hid
        exact hkept.trans hr'

lemma adsOver_of_none {now : ℤ} (hdue : nextDue w.stationId s env.datetime now = none)
    (hplays : currentAd w.stationId s = none) : AdsOver w s env now := by
  intro id r hr hst
  refine ⟨fun hp => currentAd_eq_none.mp hplays id ⟨r, hr, hst, hp⟩, fun hp => ?_⟩
  have hnone := Sql.firstBy_eq_none.mp hdue
  by_contra hpast
  have hmem : (id, r) ∈ (adRows w.stationId s [.pending]).filter
      fun r => isPast env.datetime now r.2.dueAt := by
    refine List.mem_filter.mpr ⟨List.mem_filter.mpr ⟨mem_rows.mpr hr, ?_⟩, ?_⟩
    · simp [hst, hp]
    · simpa using hpast
  rw [hnone] at hmem
  cases hmem

/-- A tick ends a break after its ads exactly if it does not find the last of them playing. -/
lemma endsAfterAds_iff : EndsAfterAds w s env ↔ lastAdPlays w s env = false := by
  constructor
  · intro h
    by_contra hlast
    simp only [lastAdPlays, Bool.not_eq_false, Bool.and_eq_true] at hlast
    obtain ⟨⟨⟨⟨hg, hads⟩, hon⟩, hdue⟩, hplays⟩ := hlast
    obtain ⟨session, hactive, hstatus⟩ := (Option.any_eq_true ..).mp hon
    obtain ⟨hrow, hst⟩ := activeSession_row hactive
    have hstatus : session.2.status = .onBreak := by simpa using hstatus
    have hover := h hads _ rfl session.1 ⟨session.2, hrow, hst, hstatus⟩ ?_
    · obtain ⟨ad, had⟩ := Option.isSome_iff_exists.mp hplays
      obtain ⟨r, hr, hst', hp⟩ := adPlays_of_currentAd had
      exact (hover ad.1 r hr hst').1 hp
    · rintro ⟨r, hr, -, hr'⟩
      rw [tick_sessions hg rfl, hactive] at hr
      obtain ⟨leases, hleased⟩ := leased_eq w env s
      have hhandler : processShowLifecycle w env (some session) =
          handleOnBreak w env session := by
        unfold processShowLifecycle
        dsimp only
        rw [hstatus]
      rw [hhandler] at hr
      obtain ⟨r', hrow', hne⟩ := @handleOnBreak_over w env (leased w env s) session
        (adsEnabled_leased.trans hads)
        (by rw [hleased]; exact Option.isNone_iff_eq_none.mp hdue) session.2
        (by rw [hleased]; exact hrow)
      rw [hrow'] at hr
      cases hr
      exact hne hr'
  · intro hlast hads t ht id hbefore hafter
    obtain ⟨hg, hon, hdue⟩ := found_over hads ht hbefore hafter
    refine adsOver_of_none hdue ?_
    rw [← Option.not_isSome_iff_eq_none]
    intro hplays
    rw [lastAdPlays, hg, hads, hon, hdue, hplays] at hlast
    cases hlast

/-- **Breaks end with their ads** in every tick of a run, exactly if no tick of the run finds the
session on break while the last ad plays. -/
theorem breaks_end_with_ads (w : Worker) (s : Engine) (envs : List Env) :
    Meets (tick w) (EndsAfterAds w) s envs ↔
      Meets (tick w) (fun s env => lastAdPlays w s env = false) s envs :=
  ⟨Meets.mono fun _ _ => endsAfterAds_iff.mp, Meets.mono fun _ _ => endsAfterAds_iff.mpr⟩

/-- A show of station 1 is on break, and an ad is due at the second 101. -/
def breakWithAd : Engine :=
  { Engine.empty with
    tracks := Engine.empty.tracks.insert 3 ⟨1, "", "", "/ad.mp3", 30, "ad", true, true, 0, none⟩
    adBreakItems := Engine.empty.adBreakItems.insert 1 ⟨1, 3, "due", .pending, 0, none, none⟩
    showSessions := Engine.empty.showSessions.insert 1 ⟨1, 1, .onBreak⟩
    stationSettings := Engine.empty.stationSettings.insert 1
      ((∅ : Std.ExtTreeMap String String).insert "hourly_ad_enabled" "1") }

/-- The tick after the one that starts the ad ends the break. -/
theorem break_ends_over_ad :
    ¬ Meets (tick soleWorker) (EndsAfterAds soleWorker) breakWithAd
      [calmWorld 101, calmWorld 103] := by
  intro h
  have hmeets : Meets (tick soleWorker) (fun s env => lastAdPlays soleWorker s env = false)
      breakWithAd [calmWorld 101, calmWorld 103] :=
    Meets.mono (fun _ _ => endsAfterAds_iff.mp) h
  revert hmeets
  decide +kernel

end OnAir.ShowBreaks
