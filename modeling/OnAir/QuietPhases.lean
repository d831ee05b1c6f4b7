import OnAir.OneSource

/-!
What the work on the queue leaves to the rest of a tick.

Filling the queue, its repair and its advance write queue rows, tracks and a few settings of their
own. Ads, sessions, host items and schedule stay, the playout does not go to the host, and the
runtime is only asked to play the same song once more.
-/

namespace OnAir.QuietPhases

open BroadcastQueue OneSource PlayoutAdvance PlayoutTables Programs QueuePhases QueueUpkeep
  OnAir.Table WorkerEnv

/-- The settings that the worker writes while it works on the queue. -/
def queueKeys : List String :=
  ["_startup_sound_pending", "_queue_change_sequence", "_ai_last_station_id_at"]

structure Aside (w : Worker) (s t : Engine) : Prop where
  ads : t.adBreakItems = s.adBreakItems
  sessions : t.showSessions = s.showSessions
  shows : t.shows = s.shows
  host : t.programQueueItems = s.programQueueItems
  schedule : t.scheduleItems = s.scheduleItems
  system : t.systemSettings = s.systemSettings
  settings : ∀ key ∉ queueKeys, setting w.stationId t key = setting w.stationId s key
  playout : (current w.stationId t).source = .host → current w.stationId t = current w.stationId s
  starts : ∃ new, t.starts = new ++ s.starts ∧ ∀ x ∈ new, x.kind = .manualRestart

section Aside

variable {w : Worker} {env : Env} {s t u : Engine} {site : Site}

lemma Aside.refl (s : Engine) : Aside w s s :=
  ⟨rfl, rfl, rfl, rfl, rfl, rfl, fun _ _ => rfl, fun _ => rfl, [], rfl, by simp⟩

lemma Aside.trans (h : Aside w s t) (h' : Aside w t u) : Aside w s u where
  ads := h'.ads.trans h.ads
  sessions := h'.sessions.trans h.sessions
  shows := h'.shows.trans h.shows
  host := h'.host.trans h.host
  schedule := h'.schedule.trans h.schedule
  system := h'.system.trans h.system
  settings key hkey := (h'.settings key hkey).trans (h.settings key hkey)
  playout hu := (h'.playout hu).trans (h.playout (h'.playout hu ▸ hu))
  starts := by
    obtain ⟨new, hn, hk⟩ := h.starts
    obtain ⟨new', hn', hk'⟩ := h'.starts
    refine ⟨new' ++ new, by rw [hn', hn, List.append_assoc], fun x hx => ?_⟩
    exact (List.mem_append.mp hx).elim (hk' x) (hk x)

instance : IsPreorder Engine (Aside w) where
  refl := Aside.refl
  trans _ _ _ := Aside.trans

lemma Aside.adsEnabled (h : Aside w s t) : adsEnabled w t = adsEnabled w s := by
  unfold WorkerEnv.adsEnabled
  simp only [List.any_cons, List.any_nil]
  rw [h.settings _ (by decide), h.settings _ (by decide)]

/-! ### Updates -/

/-- What writes the queue, the tracks and the notes on restarts. -/
lemma Aside.of_queue (q : Table QueueItem) (tracks : Table Track)
    (restarts : RestartKey → Option RestartState) (s : Engine) :
    Aside w s { s with
      queueItems := q
      tracks := tracks
      restarts := restarts } :=
  ⟨rfl, rfl, rfl, rfl, rfl, rfl, fun _ _ => rfl, fun _ => rfl, [], rfl, by simp⟩

lemma aside_upsertSetting {key : String} (hkey : key ∈ queueKeys) (j : ℤ) (value : String)
    (s : Engine) : Aside w s (upsertSetting j key value s) := by
  refine ⟨rfl, rfl, rfl, rfl, rfl, rfl, fun k hk => setting_upsertSetting ?_ value s,
    fun _ => rfl, [], rfl, by simp⟩
  rintro rfl
  exact hk hkey

lemma aside_setCurrent {source : PlayoutSource} (h : source ≠ .host) (item : Option ℤ)
    (reason : String) (s : Engine) : Aside w s (setCurrent w.stationId source item reason s) where
  ads := rfl
  sessions := rfl
  shows := rfl
  host := rfl
  schedule := rfl
  system := rfl
  settings _ _ := rfl
  playout hs := by
    rw [current_setCurrent] at hs
    exact absurd hs h
  starts := ⟨[], rfl, by simp⟩

end Aside

/-- The work on the queue before its advance. -/
def prepareQueue (w : Worker) (env : Env) : WorkerM Unit := do
  maybeInsertStartupSound w
  failCrossStationQueueItems w env
  autofillQueue w env
  sweepQueue w
  maybePrepareAiQueue w env

/-! ### The work on the queue is done aside -/

section Quiet

variable {w : Worker} {env : Env} {s : Engine} {site : Site}

lemma fills_aside : Prepares w (Aside w) where
  preorder := inferInstance
  queue s items _ := .of_queue items s.tracks s.restarts s
  tracks s tracks _ := .of_queue s.queueItems tracks s.restarts s
  attempts s _ _ := .of_queue s.queueItems s.tracks _ s
  setting key hkey := aside_upsertSetting (List.mem_append_left ["_ai_last_station_id_at"] hkey)
  announced := aside_upsertSetting (by decide)
  playout _ hs := aside_setCurrent hs
  start _ x hx := ⟨rfl, rfl, rfl, rfl, rfl, rfl, fun _ _ => rfl, fun _ => rfl, [x], rfl,
    by simpa using hx⟩

lemma aside_updateQueue (id : ℤ) (f : QueueItem → QueueItem) (s : Engine) :
    Aside w s (updateQueue id f s) :=
  .of_queue _ s.tracks s.restarts s

lemma aside_markPlayed (id now : ℤ) (s : Engine) : Aside w s (markPlayed id now s) :=
  (fills_aside).markPlayed id now s

lemma aside_ensureFilled (j : ℤ) (s : Engine) : Aside w s (ensureFilled j s) :=
  (fills_aside).ensureFilled j s

lemma aside_broadcastQueue : Moves (Aside w) (broadcastQueue w env site) :=
  (fills_aside).broadcastQueue

lemma aside_setPlayoutState {source : PlayoutSource} (h : source ≠ .host) (item : Option ℤ)
    (reason : String) : Moves (Aside w) (setPlayoutState w source item reason) :=
  (fills_aside).setPlayoutState h item reason

lemma aside_finishPlayingQueueItem : Moves (Aside w) (finishPlayingQueueItem w env) :=
  (fills_aside).finishPlayingQueueItem

lemma aside_restartAttemptAllowed (source : RestartSource) (item : ℤ) :
    Moves (Aside w) (restartAttemptAllowed w env site source item) := by
  have hput : ∀ (key : RestartKey) (r : RestartState) (s : Engine),
      Aside w s { s with restarts := Function.update s.restarts key (some r) } :=
    fun _ _ s => .of_queue s.queueItems s.tracks _ s
  refine Moves.bindGet fun s => ?_
  split
  · exact Moves.bindModify (hput _ _) fun _ => Moves.pure _
  · refine Moves.ite (fun _ => Moves.bindModify (hput _ _) fun _ => Moves.pure _) fun _ => ?_
    exact Moves.ite (fun _ => Moves.bindModify (hput _ _) fun _ => Moves.pure _)
      fun _ => Moves.bindModify (hput _ _) fun _ => Moves.pure _

lemma aside_maybeInsertStartupSound : Moves (Aside w) (maybeInsertStartupSound w) :=
  (fills_aside).maybeInsertStartupSound

lemma aside_failCrossStationQueueItems : Moves (Aside w) (failCrossStationQueueItems w env) :=
  (fills_aside).failCrossStationQueueItems

lemma aside_autofillQueue : Moves (Aside w) (autofillQueue w env) := (fills_aside).autofillQueue

lemma aside_sweepQueue : Moves (Aside w) (sweepQueue w) := (fills_aside).sweepQueue

lemma aside_maybePrepareAiQueue : Moves (Aside w) (maybePrepareAiQueue w env) :=
  (fills_aside).maybePrepareAiQueue

theorem aside_prepareQueue : Moves (Aside w) (prepareQueue w env) :=
  aside_maybeInsertStartupSound.bind fun _ => aside_failCrossStationQueueItems.bind fun _ =>
    aside_autofillQueue.bind fun _ => aside_sweepQueue.bind fun _ => aside_maybePrepareAiQueue

lemma aside_advancePlayingQueueItem : Moves (Aside w) (advancePlayingQueueItem w env) :=
  (fills_aside).advancePlayingQueueItem

end Quiet

end OnAir.QuietPhases
