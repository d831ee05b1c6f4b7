import OnAir.QuietPhases

/-!
What becomes of an ad that is playing when it has to be given up.

Every way of giving it up marks its row failed, takes it off the playout, and then calls a method
that no class defines. So a call returns exactly when it does not give the ad up.
-/

namespace OnAir.AdFailures

open OneSource PlayoutAdvance PlayoutTables Programs QuietPhases StationWorker OnAir.Table WorkerEnv

variable (w : Worker) (env : Env)

/-! ### When an ad is given up -/

/-- The answer of `_restart_attempt_allowed` is a refusal. -/
def restartSuppressed (site : Site) (source : RestartSource) (itemId : ℤ) (s : Engine) : Bool :=
  (s.restarts ⟨w.stationId, source, itemId⟩).any fun r =>
    decide (3 ≤ r.attempts) || decide (env.monotonic site < r.nextAllowed)

/-- The runtime renders the file of the ad. -/
def adMatches (playing : ℤ × AdBreakItem) (s : Engine) : Bool :=
  let uri := trackUri env s playing.2.trackId
  uri ≠ "" && playbackMatches env (env.status .restartAd (lastAsked w s)) uri

/-- The restart gives the ad up: ads are disabled, no more attempts are allowed, the file is
missing or cannot be started. -/
def restartGivesUp (playing : ℤ × AdBreakItem) (s : Engine) : Bool :=
  w.hasRuntime && (!adsEnabled w s || !adMatches w env playing s &&
    (restartSuppressed w env .restartAd .ads playing.1 s ||
      trackUri env s playing.2.trackId = "" || (env.startError .restartAd).isSome))

/-- The ad has been heard for two seconds and is not over. -/
def inTheMiddle (playing : ℤ × AdBreakItem) (s : Engine) : Bool :=
  playing.2.startedAt.any fun t : ℤ =>
    let elapsed := env.clock .adAdvance - t
    let duration := durationOf s playing.2.trackId
    0 < duration && elapsed < duration && 2 ≤ elapsed

/-- The advance gives the ad up. -/
def advanceGivesUp (playing : ℤ × AdBreakItem) (s : Engine) : Bool :=
  !adsEnabled w s || inTheMiddle env playing s && restartGivesUp w env playing s

/-! ### How an ad may be left -/

/-- The row goes on, is done, or has failed and is off the playout. -/
def Settled (id : ℤ) (s : Engine) : Prop :=
  (∃ r, s.adBreakItems[id]? = some r ∧ (r.status = .playing ∨ r.status = .done)) ∨
    (∃ r, s.adBreakItems[id]? = some r ∧ r.status = .failed) ∧
      (current w.stationId s).source = .none

/-- The call returns, and leaves the ad settled. -/
def Completes (x : WorkerM Unit) (id : ℤ) (s : Engine) : Prop :=
  Ends x s (fun _ t => Settled w id t) fun _ => False

/-- The call raises. -/
def Raises (x : WorkerM Unit) (s : Engine) : Prop := Ends x s (fun _ _ => False) fun _ => True

variable {w env} {s t : Engine} {id : ℤ} {x y : WorkerM Unit}

lemma Raises.not_completes (h : Raises x s) : ¬ Completes w x id s := by
  intro h'
  unfold Raises Completes Ends at *
  cases hx : x s with
  | ok a t => rw [hx] at h; exact h
  | error e t => rw [hx] at h'; exact h'

/-- What raises afterwards raises altogether. -/
lemma raises_after {α : Type} {x : WorkerM α} {f : α → WorkerM Unit}
    (h : ∀ a t, Raises (f a) t) : Raises (x >>= f) s := by
  refine Ends.bind (P := fun _ _ => True) ?_ fun a t _ => h a t
  unfold Ends
  cases x s <;> trivial

lemma raises_blockAd (playing : ℤ × AdBreakItem) : Raises (blockAd w env playing) s :=
  raises_after fun _ _ => trivial

lemma raises_giveUpAd (reason : String) : Raises (giveUpAd w id reason) s :=
  raises_after fun _ _ => raises_after fun _ _ => trivial

/-- The row goes on or is done. -/
def Stands (id : ℤ) (s : Engine) : Prop :=
  ∃ r, s.adBreakItems[id]? = some r ∧ (r.status = .playing ∨ r.status = .done)

lemma Stands.aside (h : Stands id s) (ha : Aside w s t) : Stands id t := by
  obtain ⟨r, hr, hst⟩ := h
  exact ⟨r, by rw [ha.ads]; exact hr, hst⟩

/-- What is done aside, and does not raise, leaves the ad settled. -/
lemma completes_of_aside (hx : Moves (Aside w) x) (hok : Ends x s (fun _ _ => True) fun _ => False)
    (hs : Stands id s) : Completes w x id s :=
  ((hx.ends s).and hok).mono (fun _ _ h => .inl (hs.aside h.1)) fun _ h => h.2

/-! ### The restart -/

/-- An attempt is refused where it is suppressed, and changes nothing but the notes on attempts. -/
lemma restartAttemptAllowed_ends (site : Site) (source : RestartSource) (s : Engine) :
    Ends (restartAttemptAllowed w env site source id) s
      (fun refusal t => refusal.isSome = restartSuppressed w env site source id s ∧
        t.adBreakItems = s.adBreakItems)
      fun _ => False := by
  unfold restartAttemptAllowed restartSuppressed
  rw [ends_bind, ends_get]
  cases s.restarts ⟨w.stationId, source, id⟩ with
  | none => exact ⟨rfl, rfl⟩
  | some r =>
    dsimp only [Option.any_some]
    split_ifs with hattempts hcooldown
    · exact ⟨by simp [hattempts], rfl⟩
    · exact ⟨by simp [hcooldown], rfl⟩
    · exact ⟨by simp [hattempts, hcooldown], rfl⟩

lemma broadcastQueue_returns (site : Site) :
    Ends (broadcastQueue w env site) s (fun _ _ => True) fun _ => False := by
  unfold broadcastQueue
  split_ifs <;> trivial

lemma stands_updateAd {f : AdBreakItem → AdBreakItem}
    (hf : ∀ r, (f r).status = .playing ∨ (f r).status = .done) (h : Stands id s) :
    Stands id (updateAd id f s) := by
  obtain ⟨r, hr, -⟩ := h
  refine ⟨f r, ?_, hf r⟩
  rw [updateAd, lookup_modify, if_pos rfl, hr]
  rfl

lemma restartAdItem_completes {playing : ℤ × AdBreakItem}
    (hc : restartGivesUp w env playing s = false) (hs : Stands playing.1 s) :
    Completes w (restartAdItem w env playing) playing.1 s := by
  unfold restartAdItem
  unfold Completes
  rw [ends_bind, ends_get]
  unfold restartGivesUp at hc
  cases hruntime : w.hasRuntime with
  | false => exact .inl hs
  | true =>
    simp only [hruntime, Bool.true_and, Bool.or_eq_false_iff, Bool.not_eq_false'] at hc
    obtain ⟨hads, hc⟩ := hc
    simp only [Bool.not_true, Bool.false_eq_true, if_false, hads]
    rw [runtimeStatus, ends_bind, ends_bind, ends_get, ends_pure]
    cases hmatch : adMatches w env playing s with
    | true =>
      unfold adMatches at hmatch
      rw [if_pos hmatch]
      exact .inl hs
    | false =>
      simp only [hmatch, Bool.not_false, Bool.true_and, Bool.or_eq_false_iff,
        decide_eq_false_iff_not] at hc
      obtain ⟨⟨hallowed, huri⟩, hstart⟩ := hc
      unfold adMatches at hmatch
      rw [if_neg (Bool.eq_false_iff.mp hmatch)]
      refine (restartAttemptAllowed_ends .restartAd .ads s).bind fun refusal t ht => ?_
      obtain ⟨hrefusal, hads'⟩ := ht
      obtain rfl : refusal = none := by
        rw [hallowed] at hrefusal
        simpa using hrefusal
      have hst : Stands playing.1 t := by rwa [Stands, hads']
      rw [if_neg huri]
      refine Ends.tryCatch (F := fun _ => False) ?_ fun _ _ h => h.elim
      unfold startStation
      have hnone : env.startError .restartAd = none := by simpa using hstart
      rw [hnone]
      rw [ends_bind, ends_modify, ends_bind, ends_modify, setPlayoutState, ends_bind,
        ends_modify]
      refine completes_of_aside aside_broadcastQueue (broadcastQueue_returns _) ?_
      refine Stands.aside (s := markAdPlaying playing.1 (env.stamp .restartAd) _) ?_
        (aside_setCurrent (by decide) _ _ _)
      exact stands_updateAd (fun _ => .inl rfl) hst

lemma restartAdItem_raises {playing : ℤ × AdBreakItem}
    (hc : restartGivesUp w env playing s = true) : Raises (restartAdItem w env playing) s := by
  unfold restartAdItem Raises
  rw [ends_bind, ends_get]
  unfold restartGivesUp at hc
  obtain ⟨hruntime, hc⟩ := Bool.and_eq_true_iff.mp hc
  simp only [hruntime, Bool.not_true, Bool.false_eq_true, if_false]
  cases hads : adsEnabled w s with
  | false => exact raises_blockAd playing
  | true =>
    simp only [hads, Bool.not_true, Bool.false_or, Bool.and_eq_true, Bool.not_eq_true',
      Bool.or_eq_true, decide_eq_true_eq] at hc
    obtain ⟨hmatch, hc⟩ := hc
    simp only [Bool.not_true, Bool.false_eq_true, if_false]
    rw [runtimeStatus, ends_bind, ends_bind, ends_get, ends_pure]
    unfold adMatches at hmatch
    rw [if_neg (Bool.eq_false_iff.mp hmatch)]
    refine ((restartAttemptAllowed_ends .restartAd .ads s).mono (fun _ _ h => h)
      fun _ h => h.elim).bind fun refusal t ht => ?_
    cases refusal with
    | some reason => exact raises_giveUpAd _
    | none =>
      split_ifs with huri
      · exact raises_giveUpAd _
      · have hstart : (env.startError .restartAd).isSome = true := by
          rcases hc with (hsuppressed | hmissing) | hstart
          · rw [hsuppressed] at ht
            cases ht.1
          · exact absurd hmissing huri
          · exact hstart
        obtain ⟨text, htext⟩ := Option.isSome_iff_exists.mp hstart
        refine Ends.tryCatch (F := fun _ => True) ?_ fun _ _ _ => raises_giveUpAd _
        unfold startStation
        rw [htext]
        trivial

/-! ### The advance -/

lemma stands_of_currentAd {playing : ℤ × AdBreakItem} (h : currentAd w.stationId s = some playing) :
    Stands playing.1 s := by
  obtain ⟨r, hr, -, hst⟩ := CalmPhases.adPlays_of_currentAd h
  exact ⟨r, hr, .inl hst⟩

lemma advancePlayingAdItem_completes {playing : ℤ × AdBreakItem}
    (hp : currentAd w.stationId s = some playing)
    (hc : advanceGivesUp w env playing s = false) :
    Completes w (advancePlayingAdItem w env) playing.1 s := by
  have hs : Stands playing.1 s := stands_of_currentAd hp
  unfold advanceGivesUp at hc
  simp only [Bool.or_eq_false_iff, Bool.not_eq_false'] at hc
  obtain ⟨hads, hc⟩ := hc
  unfold advancePlayingAdItem Completes
  rw [ends_bind, ends_get, hp]
  simp only [hads, Bool.not_true, Bool.false_eq_true, if_false]
  unfold inTheMiddle at hc
  cases hstarted : playing.2.startedAt with
  | none => exact .inl hs
  | some startedAt =>
    simp only [hstarted, Option.any_some] at hc
    dsimp only
    split_ifs with htime hlate halive htrack
    · simp only [htime, hlate, decide_true, Bool.true_and] at hc
      exact restartAdItem_completes hc hs
    · exact .inl hs
    · exact .inl hs
    · rw [ends_bind, ends_modify, ends_bind, ends_modify]
      exact completes_of_aside (aside_setPlayoutState (by decide) _ _) trivial
        ((stands_updateAd (fun _ => .inr rfl) hs).aside (aside_markPlayed (w := w) _ _ _))
    · rw [ends_bind, ends_modify]
      exact completes_of_aside (aside_setPlayoutState (by decide) _ _) trivial
        (stands_updateAd (fun _ => .inr rfl) hs)

lemma advancePlayingAdItem_raises {playing : ℤ × AdBreakItem}
    (hp : currentAd w.stationId s = some playing)
    (hc : advanceGivesUp w env playing s = true) : Raises (advancePlayingAdItem w env) s := by
  unfold advancePlayingAdItem Raises
  rw [ends_bind, ends_get, hp]
  dsimp only
  unfold advanceGivesUp at hc
  cases hads : adsEnabled w s with
  | false => exact raises_blockAd playing
  | true =>
    simp only [hads, Bool.not_true, Bool.false_or, Bool.and_eq_true] at hc
    obtain ⟨hmiddle, hc⟩ := hc
    unfold inTheMiddle at hmiddle
    obtain ⟨startedAt, hstarted, hmiddle⟩ := (Option.any_eq_true ..).mp hmiddle
    simp only [Bool.and_eq_true] at hmiddle
    simp only [Bool.not_true, Bool.false_eq_true, if_false, hstarted]
    rw [if_pos (by simpa using hmiddle.1), if_pos (by simpa using hmiddle.2)]
    exact restartAdItem_raises hc

/-- **Ad failures.** While an ad plays, its advance and its restart return, with the row playing,
done, or failed and off the playout, exactly where they do not give the ad up. -/
theorem adFailure_completes_iff (w : Worker) (env : Env) (s : Engine) (playing : ℤ × AdBreakItem)
    (hp : currentAd w.stationId s = some playing) :
    (Completes w (advancePlayingAdItem w env) playing.1 s ↔
        advanceGivesUp w env playing s = false) ∧
      (Completes w (restartAdItem w env playing) playing.1 s ↔
        restartGivesUp w env playing s = false) := by
  refine ⟨⟨fun h => ?_, advancePlayingAdItem_completes hp⟩,
    ⟨fun h => ?_, fun hc => restartAdItem_completes hc (stands_of_currentAd hp)⟩⟩
  · by_contra hc
    exact (advancePlayingAdItem_raises hp (Bool.not_eq_false _ ▸ hc)).not_completes h
  · by_contra hc
    exact (restartAdItem_raises (Bool.not_eq_false _ ▸ hc)).not_completes h

/-! ### An ad whose file is gone -/

/-- An ad that plays on station 1, with its track. -/
def playingAd : Engine :=
  { Engine.empty with
    tracks := Engine.empty.tracks.insert 3 ⟨1, "", "", "/ad.mp3", 30, "ad", true, true, 0, none⟩
    adBreakItems := Engine.empty.adBreakItems.insert 1
      ⟨1, 3, "due", .playing, 0, some 90, none⟩
    stationSettings := Engine.empty.stationSettings.insert 1
      ((∅ : Std.ExtTreeMap String String).insert "hourly_ad_enabled" "1") }

/-- The runtime is silent, and raises when it is asked to start. -/
def brokenRuntime : Env :=
  { calmWorld 100 with startError := fun _ => some "encoder not found" }

theorem brokenRuntime_raises :
    currentAd 1 playingAd = some (1, ⟨1, 3, "due", .playing, 0, some 90, none⟩) ∧
      ¬ Completes soleWorker (advancePlayingAdItem soleWorker brokenRuntime) 1 playingAd :=
  ⟨by decide +kernel,
    (@advancePlayingAdItem_raises soleWorker brokenRuntime playingAd
      (1, ⟨1, 3, "due", .playing, 0, some 90, none⟩) (by decide +kernel)
      (by decide +kernel)).not_completes⟩

theorem adFailure_completes_iff_working :
    (Completes soleWorker (advancePlayingAdItem soleWorker (calmWorld 100)) 1 playingAd ↔
        advanceGivesUp soleWorker (calmWorld 100)
          (1, ⟨1, 3, "due", .playing, 0, some 90, none⟩) playingAd = false) ∧
      (Completes soleWorker (restartAdItem soleWorker (calmWorld 100)
          (1, ⟨1, 3, "due", .playing, 0, some 90, none⟩)) 1 playingAd ↔
        restartGivesUp soleWorker (calmWorld 100)
          (1, ⟨1, 3, "due", .playing, 0, some 90, none⟩) playingAd = false) :=
  adFailure_completes_iff soleWorker (calmWorld 100) playingAd
    (1, ⟨1, 3, "due", .playing, 0, some 90, none⟩) (by decide +kernel)

end OnAir.AdFailures
