import OnAir.ShowBreaks

/-!
The phases of a tick that leave the host's items alone.

A relation that covers the work on the queue, and every change of an ad, a session, a schedule
item and what is on the air, covers each phase but the two that deal with the host's items.
-/

namespace OnAir.OtherPhases

open OneSource PlayoutAdvance PlayoutTables Programs QueuePhases QueueUpkeep QuietPhases Runs
  ShowBreaks ShowPhases StationWorker OnAir.Table WorkerEnv

/-- What the lifecycle of a show changes, one thing after the other, stays within `R`. -/
structure Shows (w : Worker) (R : Engine → Engine → Prop) : Prop extends Effects w R where
  ads : ∀ (id : ℤ) (f : AdBreakItem → AdBreakItem), (∀ r, (f r).status ≠ .playing) →
    ∀ s, R s (updateAd id f s)
  sessions : ∀ (s : Engine) (rows : Table ShowSession), R s { s with showSessions := rows }
  automation : ∀ s, R s (upsertSetting w.stationId "program_queue_source" "automation" s)
  start : ∀ (s : Engine) (x : Start), x.kind ≠ .host → R s { s with starts := x :: s.starts }

/-- And what the advance of ads changes. -/
structure Beside (w : Worker) (R : Engine → Engine → Prop) : Prop extends Shows w R where
  adTable : ∀ (s : Engine) (items : Table AdBreakItem), R s { s with adBreakItems := items }
  attempts : ∀ (s : Engine) (restarts : RestartKey → Option RestartState),
    R s { s with restarts := restarts }
  played : ∀ (id now : ℤ) (s : Engine), R s (markPlayed id now s)

/-- And what the other phases change. -/
structure Covers (w : Worker) (R : Engine → Engine → Prop) : Prop extends Shows w R where
  aside : ∀ s t, Aside w s t → R s t
  adTable : ∀ (s : Engine) (items : Table AdBreakItem), R s { s with adBreakItems := items }
  schedule : ∀ (s : Engine) (items : Table Database.ScheduleItem),
    R s { s with scheduleItems := items }

namespace Shows

variable {w : Worker} {env : Env} {R : Engine → Engine → Prop} {site : Site}

lemma startsAt (h : Shows w R) {kind : StartKind} (hk : kind ≠ .host) :
    StartsAt env R kind site :=
  fun s x hx _ => h.start s x (hx ▸ hk)

lemma oneAd (h : Shows w R) (id : ℤ) : OneAd w id R where
  toEffects := h.toEffects
  closed f hf := h.ads id f fun r => (hf r).1

lemma lifecycle (h : Shows w R) (id : ℤ) : Lifecycle w id R where
  toEffects := h.toEffects
  ads := h.oneAd
  status _ s := h.sessions s _
  automation := h.automation

lemma failDisabledActiveAds (h : Shows w R) :
    Moves R (PlayoutAdvance.failDisabledActiveAds w env) :=
  moves_failDisabledActiveAds h.oneAd

lemma nextDueAdIfAllowed (h : Shows w R) :
    Moves R (PlayoutAdvance.nextDueAdIfAllowed w env site) :=
  moves_nextDueAdIfAllowed h.oneAd

lemma processShowLifecycle (h : Shows w R) (session : Option Session) :
    Moves R (StationWorker.processShowLifecycle w env session) := by
  have := h.preorder
  cases session with
  | none => exact Moves.pure _
  | some session => exact (h.lifecycle _).processShowLifecycle (h.startsAt (by decide))

end Shows

namespace Beside

variable {w : Worker} {env : Env} {R : Engine → Engine → Prop}

lemma adAdvance (h : Beside w R) (id : ℤ) : AdAdvance w id R where
  toOneAd := h.oneAd id
  again _ s := h.adTable s _
  attempts := h.attempts
  played := h.played

lemma advancePlayingAdItem (h : Beside w R) :
    Moves R (PlayoutAdvance.advancePlayingAdItem w env) := by
  have := h.preorder
  exact ⟨fun _ => advancePlayingAdItem_ends (fun ad _ => h.adAdvance ad.1)
    (h.startsAt (by decide))⟩

lemma ensureHourlyAdBreak (h : Beside w R) :
    Moves R (PlayoutAdvance.ensureHourlyAdBreak w env) := by
  have := h.preorder
  refine moves_ensureHourlyAdBreak fun _ _ _ _ s => ?_
  unfold enqueueAd
  split_ifs
  · exact refl_of R s
  · exact h.adTable s _

end Beside

namespace Covers

variable {w : Worker} {env : Env} {R : Engine → Engine → Prop} {α : Type} {x : WorkerM α}
  {site : Site}

lemma of_aside (h : Covers w R) (hx : Moves (Aside w) x) : Moves R x := hx.mono h.aside

lemma beside (h : Covers w R) : Beside w R where
  toShows := h.toShows
  adTable := h.adTable
  attempts s _ := h.aside _ _ (.of_queue s.queueItems s.tracks _ s)
  played id now s := h.aside _ _ (aside_markPlayed id now s)

lemma advancePlayingAdItem (h : Covers w R) :
    Moves R (PlayoutAdvance.advancePlayingAdItem w env) := h.beside.advancePlayingAdItem

lemma ensureHourlyAdBreak (h : Covers w R) :
    Moves R (PlayoutAdvance.ensureHourlyAdBreak w env) := h.beside.ensureHourlyAdBreak

/-! ### Before the row that is playing -/

lemma tryAcquire (h : Covers w R) (s : Engine) (now : ℚ) :
    R s (PlayoutTables.tryAcquire w.stationId w.workerId now s).1 := by
  refine h.aside _ _ ?_
  unfold PlayoutTables.tryAcquire
  dsimp only
  split_ifs
  · exact ⟨rfl, rfl, rfl, rfl, rfl, rfl, fun _ _ => rfl, fun _ => rfl, [], rfl, by simp⟩
  · exact .refl s

/-- Everything before the row that is playing is looked at. -/
theorem upkeep (h : Covers w R) : Moves R (StationWorker.upkeep w env) := by
  have := h.preorder
  refine ⟨fun s => ?_⟩
  unfold StationWorker.upkeep
  rw [ends_bind, ends_get, ends_bind, ends_set]
  refine Moves.after ?_ (h.tryAcquire ..)
  refine Moves.ite (fun _ => Moves.pure _) fun _ => ?_
  refine (h.processShowLifecycle _).bind fun outcome => ?_
  cases outcome with
  | some outcome => exact Moves.pure _
  | none =>
    exact (h.of_aside aside_maybeInsertStartupSound).bind fun _ =>
      (h.of_aside aside_failCrossStationQueueItems).bind fun _ =>
      (h.of_aside aside_autofillQueue).bind fun _ => (h.of_aside aside_sweepQueue).bind fun _ =>
      (h.of_aside aside_maybePrepareAiQueue).bind fun _ => Moves.pure _

/-! ### The choice -/

lemma playQueueItem (h : Covers w R) (item : ℤ × QueueItem) :
    Moves R (StationWorker.playManagedItem w env (managedQueueItem env item)) := by
  have hqueue : ∀ f s, R s (updateQueue item.1 f s) := fun f s => h.aside _ _ (aside_updateQueue ..)
  exact h.playManagedItem (h.startsAt nofun) (nofun) (hqueue _) (hqueue _) (hqueue _) (hqueue _)

lemma playAd (h : Covers w R) (item : ℤ × AdBreakItem) :
    Moves R (StationWorker.playManagedItem w env (managedAd env item)) :=
  h.playManagedItem (h.startsAt nofun) (nofun) (fun s => h.adTable s _) (fun s => h.adTable s _)
    (fun s => h.adTable s _) fun s => h.adTable s _

lemma playScheduleItem (h : Covers w R) (item : ℤ × Database.ScheduleItem) :
    Moves R (StationWorker.playManagedItem w env (managedSchedule item)) :=
  h.playManagedItem (h.startsAt nofun) (nofun) (fun s => h.schedule s _) (fun s => h.schedule s _)
    (fun s => h.schedule s _) fun s => h.schedule s _

lemma skipDuplicatePending (h : Covers w R) (s : Engine) :
    R s (StationWorker.skipDuplicatePending w s) := by
  obtain ⟨items, hs⟩ := skipDuplicatePending_eq w s
  rw [hs]
  exact h.aside _ _ (.of_queue items s.tracks s.restarts s)

lemma sameFiles_nextDueAdIfAllowed :
    Moves (SameFiles w) (PlayoutAdvance.nextDueAdIfAllowed w env site) :=
  Moves.bindGet fun _ => Moves.ite (fun _ => Moves.bindGet fun _ => Moves.pure _)
    fun _ => sameFiles_failDisabledActiveAds.bind fun _ => Moves.pure _

section Choice

variable {s : Engine} {Q : Engine → Prop}

/-- The choice, where `R` and the files are kept until the host's item starts. -/
lemma startSource_ends (h : Covers w R) (hQ : ∀ d, R s d → Q d)
    (hhost : ∀ d item, R s d → SameFiles w s d → hostPending w s = some item →
      Ends (playHostTrack w env item) d (fun _ => Q) Q)
    {d : Engine} (hd : R s d) (hfiles : SameFiles w s d) (session : Option Session)
    (playing pending : Option (ℤ × QueueItem)) (dueAd : Option (ℤ × AdBreakItem)) :
    Ends (startSource w env playing pending dueAd session) d (fun _ => Q) Q := by
  have := h.preorder
  have hother : ∀ {x : WorkerM Outcome}, Moves R x → Ends x d (fun _ => Q) Q := fun hx =>
    (hx.after hd).mono (fun _ t ht => hQ t ht) fun t ht => hQ t ht
  have hfinish : Moves R (finishPlayingQueueItem w env) := h.of_aside aside_finishPlayingQueueItem
  unfold startSource
  rw [ends_bind, ends_get]
  dsimp only
  generalize hitem : hostPending w d = item
  rw [hfiles.host] at hitem
  split
  next item _ => exact hhost d item hd hfiles hitem
  next => exact hother (h.playQueueItem _)
  next => exact hother (hfinish.bind fun _ => h.playAd _)
  next => exact hother (hfinish.bind fun _ => h.playScheduleItem _)
  next =>
    have hfallback : StartsAt env R .fallback .start := h.startsAt (by decide)
    exact hother (Moves.ite (fun _ => (hfallback.startStation ..).bind fun _ => Moves.pure _)
      fun _ => Moves.pure _)
  next => exact hother (Moves.ite (fun _ => Moves.pure _) fun _ => Moves.pure _)

/-- The rest of a tick from its choice on. -/
theorem startNext_ends (h : Covers w R) (hQ : ∀ d, R s d → Q d)
    (hhost : (current w.stationId s).source ≠ .host →
      ∀ d item, R s d → SameFiles w s d → hostPending w s = some item →
        Ends (playHostTrack w env item) d (fun _ => Q) Q) (session : Option Session) :
    Ends (startNext w env session) s (fun _ => Q) Q := by
  have := h.preorder
  unfold startNext
  rw [ends_bind, ends_get]
  by_cases hplayout : (current w.stationId s).source = .host
  · rw [if_pos hplayout]
    exact hQ s (refl_of R s)
  rw [if_neg hplayout, ends_bind, ends_get]
  dsimp only
  have hrest : ∀ d (playing : Option (ℤ × QueueItem)), R s d → SameFiles w s d →
      Ends (do
        let pending := nextPending w.stationId (← get)
        let dueAd ← PlayoutAdvance.nextDueAdIfAllowed w env .choiceDue
        startSource w env playing pending dueAd session) d (fun _ => Q) Q := by
    intro d playing hd hfiles
    rw [ends_bind, ends_get]
    refine Ends.bind (((h.nextDueAdIfAllowed.after hd).and
      (sameFiles_nextDueAdIfAllowed.after hfiles)).mono (fun _ _ he => he) fun e he => hQ e he.1)
      fun dueAd e he => ?_
    exact h.startSource_ends hQ (hhost hplayout) he.1 he.2 session playing _ dueAd
  cases hp : currentPlaying w.stationId s with
  | none =>
    refine hrest _ none (h.skipDuplicatePending s) ?_
    obtain ⟨items, hs⟩ := skipDuplicatePending_eq w s
    rw [hs]
    exact .of_eq rfl rfl rfl rfl
  | some playing => exact hrest s (some playing) (refl_of R s) (refl_of (SameFiles w) s)

end Choice

end Covers

end OnAir.OtherPhases
