import OnAir.ShowPhases

/-!
What the phases of a tick leave alone.

Until a tick comes to its choice, no row of the station begins to play and the playout does not
go to the host; the calls of `start_station` that it makes are of known kinds. A phase is calm
if it moves along this relation, whatever it is told by the world.
-/

namespace OnAir.CalmPhases

open BroadcastQueue PlayoutAdvance PlayoutTables Programs QueuePhases QueueUpkeep ShowPhases
  StationWorker OnAir.Table WorkerEnv

/-- A queue row of the station plays. -/
def QueuePlays (st : ℤ) (s : Engine) (id : ℤ) : Prop :=
  ∃ r : QueueItem, s.queueItems[id]? = some r ∧ r.stationId = st ∧ r.status = .playing

/-- An ad row of the station plays. -/
def AdPlays (st : ℤ) (s : Engine) (id : ℤ) : Prop :=
  ∃ r : AdBreakItem, s.adBreakItems[id]? = some r ∧ r.stationId = st ∧ r.status = .playing

structure Calm (K : StartKind → ℚ → Prop) (st : ℤ) (s s' : Engine) : Prop where
  queue : ∀ id, QueuePlays st s' id → QueuePlays st s id
  ads : ∀ id, AdPlays st s' id → AdPlays st s id
  host : (current st s').source = .host → (current st s).source = .host
  starts : ∃ new, s'.starts = new ++ s.starts ∧ ∀ x ∈ new, K x.kind x.time

variable {K K' : StartKind → ℚ → Prop} {st id : ℤ} {s s' s'' : Engine}

lemma Calm.refl (s : Engine) : Calm K st s s :=
  ⟨fun _ h => h, fun _ h => h, fun h => h, [], rfl, by simp⟩

lemma Calm.trans (h : Calm K st s s') (h' : Calm K st s' s'') : Calm K st s s'' where
  queue id hid := h.queue id (h'.queue id hid)
  ads id hid := h.ads id (h'.ads id hid)
  host hs := h.host (h'.host hs)
  starts := by
    obtain ⟨new, hn, hk⟩ := h.starts
    obtain ⟨new', hn', hk'⟩ := h'.starts
    refine ⟨new' ++ new, by rw [hn', hn, List.append_assoc], fun x hx => ?_⟩
    rcases List.mem_append.mp hx with hx | hx
    · exact hk' x hx
    · exact hk x hx

instance : IsPreorder Engine (Calm K st) where
  refl := Calm.refl
  trans _ _ _ := Calm.trans

lemma Calm.mono (hK : ∀ k t, K k t → K' k t) (h : Calm K st s s') : Calm K' st s s' where
  queue := h.queue
  ads := h.ads
  host := h.host
  starts := by
    obtain ⟨new, hn, hk⟩ := h.starts
    exact ⟨new, hn, fun x hx => hK _ _ (hk x hx)⟩

/-! ### Updates -/

/-- What writes other tables only. -/
lemma Calm.of_eq (hq : s'.queueItems = s.queueItems) (ha : s'.adBreakItems = s.adBreakItems)
    (hp : s'.playoutState = s.playoutState) (hs : s'.starts = s.starts) : Calm K st s s' where
  queue id hid := by rwa [QueuePlays, hq] at hid
  ads id hid := by rwa [AdPlays, ha] at hid
  host h := by rwa [current, hp] at h
  starts := ⟨[], by rw [hs]; rfl, by simp⟩

/-- What writes the queue and starts no row there. -/
lemma Calm.of_queue (hq : ∀ id, QueuePlays st s' id → QueuePlays st s id)
    (ha : s'.adBreakItems = s.adBreakItems) (hp : s'.playoutState = s.playoutState)
    (hs : s'.starts = s.starts) : Calm K st s s' where
  queue := hq
  ads id hid := by rwa [AdPlays, ha] at hid
  host h := by rwa [current, hp] at h
  starts := ⟨[], by rw [hs]; rfl, by simp⟩

/-- What writes the ads and starts no row there. -/
lemma Calm.of_ads (ha : ∀ id, AdPlays st s' id → AdPlays st s id)
    (hq : s'.queueItems = s.queueItems) (hp : s'.playoutState = s.playoutState)
    (hs : s'.starts = s.starts) : Calm K st s s' where
  queue id hid := by rwa [QueuePlays, hq] at hid
  ads := ha
  host h := by rwa [current, hp] at h
  starts := ⟨[], by rw [hs]; rfl, by simp⟩

lemma Calm.of_noneStarts {items : Table QueueItem} (h : NoneStarts s.queueItems items) :
    Calm K st s { s with queueItems := items } :=
  .of_queue (fun id ⟨r, hr, hst, hpl⟩ => by
    obtain ⟨q, hq, hpl', hst'⟩ := h id r hr hpl
    exact ⟨q, hq, hst'.trans hst, hpl'⟩) rfl rfl rfl

lemma calm_updateAd {f : AdBreakItem → AdBreakItem}
    (hf : ∀ r, (f r).status = .playing → r.status = .playing ∧ (f r).stationId = r.stationId)
    (s : Engine) : Calm K st s (updateAd id f s) := by
  refine Calm.of_ads (fun j ⟨r, hr, hst, hpl⟩ => ?_) rfl rfl rfl
  rw [updateAd, lookup_modify] at hr
  split_ifs at hr with hj
  · obtain ⟨q, hq, rfl⟩ := Option.map_eq_some_iff.mp hr
    obtain ⟨hpl', hst'⟩ := hf q hpl
    exact ⟨q, hq, hst' ▸ hst, hpl'⟩
  · exact ⟨r, hr, hst, hpl⟩

lemma calm_markAdFailed (s : Engine) : Calm K st s (markAdFailed id s) :=
  calm_updateAd (by simp) s

lemma calm_markAdDone (s : Engine) : Calm K st s (markAdDone id s) :=
  calm_updateAd (by simp) s

lemma Calm.of_start (s : Engine) (x : Start) (h : K x.kind x.time) :
    Calm K st s { s with starts := x :: s.starts } :=
  ⟨fun _ h => h, fun _ h => h, fun h => h, [x], rfl, by simpa using h⟩

lemma calm_upsertSetting (j : ℤ) (key value : String) (s : Engine) :
    Calm K st s (upsertSetting j key value s) := .of_eq rfl rfl rfl rfl

lemma calm_setCurrent {source : PlayoutSource} (h : source ≠ .host) (j : ℤ) (item : Option ℤ)
    (reason : String) (s : Engine) : Calm K st s (setCurrent j source item reason s) where
  queue _ hid := hid
  ads _ hid := hid
  host hs := by
    unfold current at hs ⊢
    rw [setCurrent, lookup_insert] at hs
    split_ifs at hs with hj
    · exact absurd hs h
    · exact hs
  starts := ⟨[], rfl, by simp⟩

/-- The work on the queue is calm, and so is its advance. -/
lemma fills_calm {w : Worker} : Fills w (Calm K st) where
  preorder := inferInstance
  queue _ _ h := .of_noneStarts h
  tracks _ _ _ := .of_eq rfl rfl rfl rfl
  attempts _ _ _ := .of_eq rfl rfl rfl rfl
  setting _ _ j value s := calm_upsertSetting j _ value s
  playout _ h item reason s := calm_setCurrent h _ item reason s

lemma effects_calm {w : Worker} : Effects w (Calm K st) where
  preorder := inferInstance
  playout _ h item reason s := calm_setCurrent h _ item reason s
  filled s := (fills_calm (w := w)).ensureFilled _ s

lemma oneAd_calm {w : Worker} (id : ℤ) : OneAd w id (Calm K st) where
  toEffects := effects_calm
  closed _ hf s := calm_updateAd (fun r h => absurd h (hf r).1) s

lemma startsAt_calm {env : Env} {site : Site} {kind : StartKind} (hK : K kind (env.clock site)) :
    StartsAt env (Calm K st) kind site :=
  fun s x hkind htime => .of_start s x (by rwa [hkind, htime])

lemma calm_updateQueue {f : QueueItem → QueueItem}
    (hf : ∀ r, (f r).status = .playing → r.status = .playing ∧ (f r).stationId = r.stationId)
    (s : Engine) : Calm K st s (updateQueue id f s) :=
  .of_noneStarts (noneStarts_modify hf _ _)

lemma calm_markQueueDone (s : Engine) : Calm K st s (markQueueDone id s) :=
  calm_updateQueue (by simp) s

lemma calm_markQueueFailed (s : Engine) : Calm K st s (markQueueFailed id s) :=
  calm_updateQueue (by simp) s

/-! ### Shared effects -/

section Effects

variable {w : Worker} {env : Env} {site : Site}

lemma calm_setPlayoutState {source : PlayoutSource} (h : source ≠ .host) (item : Option ℤ)
    (reason : String) : Moves (Calm K st) (setPlayoutState w source item reason) :=
  fills_calm.setPlayoutState h item reason

lemma calm_broadcastQueue : Moves (Calm K st) (broadcastQueue w env site) :=
  fills_calm.broadcastQueue

lemma calm_startStation {kind : StartKind} (hk : K kind (env.clock site)) (uri trackType : String)
    (crossfade : PythonText.Float) (offset duration : ℚ) :
    Moves (Calm K st) (startStation w env site kind uri trackType crossfade offset duration) :=
  (startsAt_calm hk).startStation ..

lemma calm_markPlayed (now : ℤ) (s : Engine) : Calm K st s (markPlayed id now s) :=
  .of_eq rfl rfl rfl rfl

lemma calm_completeQueueItem (playing : ℤ × QueueItem) :
    Moves (Calm K st) (completeQueueItem w env site playing) :=
  fills_calm.completeQueueItem playing

lemma calm_finishPlayingQueueItem : Moves (Calm K st) (finishPlayingQueueItem w env) :=
  fills_calm.finishPlayingQueueItem

lemma calm_restartAttemptAllowed (source : RestartSource) (item : ℤ) :
    Moves (Calm K st) (restartAttemptAllowed w env site source item) :=
  moves_restartAttemptAllowed (fun _ _ => .of_eq rfl rfl rfl rfl) source item

end Effects

/-! ### The playing row -/

section Advance

variable {w : Worker} {env : Env}

lemma calm_advancePlayingQueueItem (hK : K .manualRestart (env.clock .restartQueue)) :
    Moves (Calm K st) (advancePlayingQueueItem w env) :=
  fills_calm.advancePlayingQueueItem (startsAt_calm hK)

lemma calm_failDisabledActiveAds : Moves (Calm K st) (failDisabledActiveAds w env) :=
  moves_failDisabledActiveAds oneAd_calm

/-- An ad that played before is marked again. -/
lemma calm_markAdPlaying {s₀ : Engine} (hs : Calm K st s₀ s) (hid : AdPlays st s₀ id) (now : ℤ) :
    Calm K st s₀ (markAdPlaying id now s) where
  queue := hs.queue
  ads := by
    rintro j ⟨r, hr, hst, hpl⟩
    rw [markAdPlaying, updateAd, lookup_modify] at hr
    split_ifs at hr with hj
    · exact hj ▸ hid
    · exact hs.ads j ⟨r, hr, hst, hpl⟩
  host := hs.host
  starts := hs.starts

lemma adAdvance_calm {s₀ : Engine} (hid : AdPlays st s₀ id) :
    AdAdvance w id (Keeps (Calm K st s₀)) where
  toOneAd := (oneAd_calm id).mono fun _ _ h hs => hs.trans h
  again now _ hs := calm_markAdPlaying hs hid now
  attempts _ _ hs := hs.trans (.of_eq rfl rfl rfl rfl)
  played _ now s hs := hs.trans (calm_markPlayed now s)

lemma adPlays_of_currentAd {playing : ℤ × AdBreakItem} (h : currentAd st s = some playing) :
    AdPlays st s playing.1 := by
  have hmem := (List.mem_filter.mp (Sql.firstBy_mem h))
  obtain ⟨hrow, hp⟩ := hmem
  refine ⟨playing.2, mem_rows.mp hrow, ?_⟩
  simpa using hp

lemma calm_advancePlayingAdItem (hK : K .adsRestart (env.clock .restartAd)) :
    Moves (Calm K w.stationId) (advancePlayingAdItem w env) :=
  ⟨fun s => (advancePlayingAdItem_ends (R := Keeps (Calm K w.stationId s))
    (fun _ had => adAdvance_calm (adPlays_of_currentAd had))
    fun t x hkind htime hs => hs.trans (startsAt_calm hK t x hkind htime)).mono
      (fun _ _ h => h (.refl s)) fun _ h => h (.refl s)⟩

lemma calm_enqueueAd (j trackId : ℤ) (dueAt : String) (priority : ℤ) (key : String) (s : Engine) :
    Calm K st s (enqueueAd j trackId dueAt priority key s) := by
  unfold enqueueAd
  split_ifs
  · exact .refl s
  · refine Calm.of_ads (fun i ⟨r, hr, hst, hpl⟩ => ?_) rfl rfl rfl
    rw [lookup_insert] at hr
    split_ifs at hr with hi
    · cases hr
      cases hpl
    · exact ⟨r, hr, hst, hpl⟩

lemma calm_ensureHourlyAdBreak : Moves (Calm K st) (ensureHourlyAdBreak w env) :=
  moves_ensureHourlyAdBreak fun _ _ _ _ _ => calm_enqueueAd ..

lemma calm_advanceHostTrack : Moves (Calm K st) (advanceHostTrack w env) :=
  effects_calm.advanceHostTrack fun _ _ => .of_eq rfl rfl rfl rfl

lemma calm_advanceOthers (hK : K .adsRestart (env.clock .restartAd)) :
    Moves (Calm K w.stationId) (advanceOthers w env) :=
  (calm_advancePlayingAdItem hK).bind fun _ => calm_failDisabledActiveAds.bind fun _ =>
    calm_ensureHourlyAdBreak.bind fun _ => calm_advanceHostTrack

end Advance

/-! ### The lifecycle of a show -/

section Show

variable {w : Worker} {env : Env}

lemma lifecycle_calm (id : ℤ) : Lifecycle w id (Calm K st) where
  toEffects := effects_calm
  ads := oneAd_calm
  status _ _ := .of_eq rfl rfl rfl rfl
  automation := calm_upsertSetting _ _ _

lemma calm_processShowLifecycle (hK : K .showAudio (env.clock .showAudio))
    (session : Option Session) :
    Moves (Calm K st) (processShowLifecycle w env session) := by
  cases session with
  | none => exact Moves.pure _
  | some session => exact (lifecycle_calm _).processShowLifecycle (startsAt_calm hK)

lemma calm_tryAcquire (worker : String) (now : ℚ) (s : Engine) :
    Calm K st s (tryAcquire id worker now s).1 := by
  unfold tryAcquire
  dsimp only
  split_ifs
  · exact .of_eq rfl rfl rfl rfl
  · exact .refl s

/-- **Until the playing row is looked at**, nothing but the audio of a show is started. -/
theorem calm_upkeep (hK : K .showAudio (env.clock .showAudio)) :
    Moves (Calm K st) (upkeep w env) := by
  refine ⟨fun s => ?_⟩
  unfold upkeep
  rw [ends_bind, ends_get, ends_bind, ends_set]
  refine Moves.after ?_ (calm_tryAcquire ..)
  refine Moves.ite (fun _ => Moves.pure _) fun _ => ?_
  refine (calm_processShowLifecycle hK _).bind fun outcome => ?_
  cases outcome with
  | some outcome => exact Moves.pure _
  | none =>
    have hf : Fills w (Calm K st) := fills_calm
    exact hf.maybeInsertStartupSound.bind fun _ => hf.failCrossStationQueueItems.bind fun _ =>
      hf.autofillQueue.bind fun _ => hf.sweepQueue.bind fun _ =>
      (hf.maybePrepareAiQueue fun j => calm_upsertSetting j _).bind fun _ => Moves.pure _

lemma calm_skipDuplicates (last : ℤ) (n : ℕ) (s : Engine) :
    Calm K st s (skipDuplicates w last n s) := by
  induction n generalizing s with
  | zero => exact .refl s
  | succ n ih =>
    unfold skipDuplicates
    split
    · exact .refl s
    split_ifs
    · exact (calm_markQueueDone s).trans (ih _)
    · exact .refl s

lemma calm_skipDuplicatePending (s : Engine) : Calm K st s (skipDuplicatePending w s) := by
  unfold skipDuplicatePending
  dsimp only
  split_ifs
  · exact .refl s
  · exact calm_skipDuplicates ..

/-- What starts a row is calm, once the row is marked. -/
lemma calm_startManagedItem {m : Managed} (hK : K m.kind (env.clock .start))
    (hdone : ∀ s, Calm K st s (m.markDone s)) (hfailed : ∀ s, Calm K st s (m.markFailed s))
    (hrestore : ∀ s, Calm K st s (m.restore s)) (uri : String) :
    Moves (Calm K st) (startManagedItem w env m uri) :=
  effects_calm.startManagedItem (startsAt_calm hK) hdone hfailed hrestore uri

end Show

end OnAir.CalmPhases
