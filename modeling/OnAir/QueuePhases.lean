import OnAir.StationWorker

/-!
What the work on the queue changes.

Filling the queue, its repair and its advance make a few changes, one after the other. A relation
that covers each of them covers the phases, whatever these are told by the world.
-/

namespace OnAir.QueuePhases

open BroadcastQueue PlayoutAdvance PlayoutTables Programs QueueUpkeep StationWorker OnAir.Table
  WorkerEnv

/-! ### Changes -/

/-- Tracks stay, with their files. -/
def FilesKept (before after : Table Track) : Prop :=
  ∀ (id : ℤ) (t : Track), before[id]? = some t → ∃ t', after[id]? = some t' ∧
    t'.filePath = t.filePath

lemma filesKept_modify {f : Track → Track} (hf : ∀ t, (f t).filePath = t.filePath)
    (tracks : Table Track) (id : ℤ) : FilesKept tracks (tracks.modify id f) := by
  intro j t ht
  rw [lookup_modify]
  split_ifs with hj
  · exact ⟨f t, by rw [ht]; rfl, hf t⟩
  · exact ⟨t, ht, rfl⟩

/-- No row of the queue begins to play. -/
def NoneStarts (before after : Table QueueItem) : Prop :=
  ∀ (id : ℤ) (r : QueueItem), after[id]? = some r → r.status = .playing →
    ∃ q, before[id]? = some q ∧ q.status = .playing ∧ q.stationId = r.stationId

lemma noneStarts_modify {f : QueueItem → QueueItem}
    (hf : ∀ r, (f r).status = .playing → r.status = .playing ∧ (f r).stationId = r.stationId)
    (items : Table QueueItem) (id : ℤ) : NoneStarts items (items.modify id f) := by
  intro j r hr hpl
  rw [lookup_modify] at hr
  split_ifs at hr with hj
  · obtain ⟨q, hq, rfl⟩ := Option.map_eq_some_iff.mp hr
    exact ⟨q, hq, (hf q hpl).1, (hf q hpl).2.symm⟩
  · exact ⟨r, hr, hpl, rfl⟩

lemma new_waits {st trackId position : ℤ} {key : String} :
    (QueueItem.new st trackId position key).status ≠ .playing := by simp [QueueItem.new]

lemma NoneStarts.insert {before after : Table QueueItem} (h : NoneStarts before after)
    {row : QueueItem} (hrow : row.status ≠ .playing) (id : ℤ) :
    NoneStarts before (after.insert id row) := by
  intro j r hr hpl
  rw [lookup_insert] at hr
  split_ifs at hr with hj
  · cases hr
    exact absurd hpl hrow
  · exact h j r hr hpl

/-- A move of positions. -/
lemma noneStarts_map {f : ℤ → QueueItem → QueueItem}
    (hf : ∀ i r, (f i r).stationId = r.stationId ∧ (f i r).status = r.status)
    (items : Table QueueItem) : NoneStarts items (items.map f) := by
  intro j r hr hpl
  rw [Std.ExtTreeMap.getElem?_map] at hr
  obtain ⟨q, hq, rfl⟩ := Option.map_eq_some_iff.mp hr
  exact ⟨q, hq, (hf j q).2 ▸ hpl, (hf j q).1.symm⟩

lemma noneStarts_filter (p : ℤ → QueueItem → Bool) (items : Table QueueItem) :
    NoneStarts items (items.filter p) := by
  intro j r hr hpl
  rw [Std.ExtTreeMap.getElem?_filter'] at hr
  exact ⟨r, (Option.filter_eq_some_iff.mp hr).1, hpl, rfl⟩

/-- Every change that filling the queue makes, and its repair, stays within `R`. -/
structure Fills (w : Worker) (R : Engine → Engine → Prop) : Prop where
  preorder : IsPreorder Engine R
  queue : ∀ (s : Engine) (items : Table QueueItem), NoneStarts s.queueItems items →
    R s { s with queueItems := items }
  tracks : ∀ (s : Engine) (tracks : Table Track), FilesKept s.tracks tracks →
    R s { s with tracks := tracks }
  attempts : ∀ (s : Engine) (item : ℤ) (r : RestartState), R s { s with
    restarts := Function.update s.restarts ⟨w.stationId, .manual, item⟩ (some r) }
  setting : ∀ key ∈ ["_startup_sound_pending", "_queue_change_sequence"],
    ∀ (j : ℤ) (value : String) (s : Engine), R s (upsertSetting j key value s)
  playout : ∀ source ≠ PlayoutSource.host, ∀ (item : Option ℤ) (reason : String) (s : Engine),
    R s (setCurrent w.stationId source item reason s)

/-- And the note on the last station announcement, and the restart of a song. -/
structure Prepares (w : Worker) (R : Engine → Engine → Prop) : Prop extends Fills w R where
  announced : ∀ (j : ℤ) (value : String) (s : Engine),
    R s (upsertSetting j "_ai_last_station_id_at" value s)
  start : ∀ (s : Engine) (x : Start), x.kind = .manualRestart →
    R s { s with starts := x :: s.starts }

/-- Starts of one kind stay within `R`. -/
def StartsAt (env : Env) (R : Engine → Engine → Prop) (kind : StartKind) (site : Site) : Prop :=
  ∀ (s : Engine) (x : Start), x.kind = kind → x.time = env.clock site →
    R s { s with starts := x :: s.starts }

section Phases

variable {w : Worker} {env : Env} {s : Engine}

lemma moves_bindInteger {R : Engine → Engine → Prop} [IsPreorder Engine R] (used : Bool) (n : ℤ) :
    Moves R (bindInteger used n) :=
  Moves.ite (fun _ => Moves.throw _) fun _ => Moves.pure _

lemma chooseMusic_committed (f : Filling) (s : Engine) :
    (chooseMusic w env f s).1.committed = f.committed := by
  unfold chooseMusic
  dsimp only
  split
  · rfl
  · split_ifs <;> rfl

lemma StartsAt.startStation {R : Engine → Engine → Prop} [IsPreorder Engine R] {site : Site}
    {kind : StartKind}
    (h : StartsAt env R kind site)
    (uri trackType : String) (crossfade : PythonText.Float) (offset duration : ℚ) :
    Moves R (WorkerEnv.startStation w env site kind uri trackType crossfade offset duration) := by
  unfold WorkerEnv.startStation
  split
  · exact Moves.throw _
  · exact Moves.modify fun s => h s _ rfl rfl

end Phases

namespace Fills

variable {w : Worker} {env : Env} {s s₀ : Engine} {site : Site} {R : Engine → Engine → Prop}

lemma refl (h : Fills w R) (s : Engine) : R s s :=
  have := h.preorder
  refl_of R s

lemma trans (h : Fills w R) {s t u : Engine} (hst : R s t) (htu : R t u) : R s u :=
  have := h.preorder
  trans_of R hst htu

lemma updateQueue (h : Fills w R) {f : QueueItem → QueueItem}
    (hf : ∀ r, (f r).status = .playing → r.status = .playing ∧ (f r).stationId = r.stationId)
    (id : ℤ) (s : Engine) : R s (PlayoutTables.updateQueue id f s) :=
  h.queue s _ (noneStarts_modify hf _ _)

lemma markQueueFailed (h : Fills w R) (id : ℤ) (s : Engine) :
    R s (PlayoutTables.markQueueFailed id s) :=
  h.updateQueue (by simp) id s

lemma insertQueue (h : Fills w R) {r : QueueItem} (hr : r.status ≠ .playing) (s : Engine) :
    R s (PlayoutTables.insertQueue r s) :=
  h.queue s _ (NoneStarts.insert (fun _ r hr hpl => ⟨r, hr, hpl, rfl⟩) hr _)

lemma enqueue (h : Fills w R) (j track : ℤ) (key : String) (s : Engine) :
    R s (PlayoutTables.enqueue j track key s).1 := by
  unfold PlayoutTables.enqueue
  split
  · exact h.refl s
  · exact h.trans (h.insertQueue new_waits s) (h.setting _ (by decide) j _ _)

lemma insertBefore (h : Fills w R) (j before track : ℤ) (key : String) (s : Engine) :
    R s (PlayoutTables.insertBefore j before track key s).1 := by
  unfold PlayoutTables.insertBefore
  split
  · exact h.refl s
  split
  · exact h.enqueue ..
  · refine h.queue s _ ((noneStarts_map (fun i r => ?_) _).insert new_waits _)
    constructor <;> split_ifs <;> rfl

lemma ensureFilled (h : Fills w R) (j : ℤ) (s : Engine) :
    R s (BroadcastQueue.ensureFilled j s) := by
  unfold BroadcastQueue.ensureFilled ensureReadyForPlayback
  dsimp only
  split
  · exact h.refl s
  split
  · exact h.refl s
  · exact Runs.inv_of_foldl (P := R s) (fun _ _ hs => h.trans hs (h.enqueue ..)) _ (h.refl s)

/-! ### Effects that phases share -/

lemma liftSetting (h : Fills w R) {α : Type} (x : Except PythonText.IntError α) :
    Moves R (WorkerEnv.liftSetting x) := by
  have := h.preorder
  cases x with
  | ok a => exact Moves.pure a
  | error e => exact Moves.throw _

lemma broadcastQueue (h : Fills w R) : Moves R (WorkerEnv.broadcastQueue w env site) := by
  have := h.preorder
  exact Moves.ite (fun _ => Moves.modify (h.ensureFilled _)) fun _ => Moves.pure _

lemma setPlayoutState (h : Fills w R) {source : PlayoutSource} (hs : source ≠ .host)
    (item : Option ℤ) (reason : String) :
    Moves R (WorkerEnv.setPlayoutState w source item reason) :=
  Moves.modify (h.playout source hs item reason)

lemma markPlayed (h : Fills w R) (id now : ℤ) (s : Engine) :
    R s (PlayoutTables.markPlayed id now s) := by
  refine h.tracks s _ (filesKept_modify ?_ _ _)
  exact fun _ => rfl

lemma completeQueueItem (h : Fills w R) (playing : ℤ × QueueItem) :
    Moves R (WorkerEnv.completeQueueItem w env site playing) := by
  have := h.preorder
  refine Moves.bindModify (h.updateQueue (by simp) _) fun _ => ?_
  refine (h.setPlayoutState (by decide) _ _).bind fun _ => ?_
  exact Moves.ite (fun _ => Moves.bindModify (h.markPlayed _ _) fun _ => h.broadcastQueue)
    fun _ => h.broadcastQueue

lemma finishPlayingQueueItem (h : Fills w R) :
    Moves R (WorkerEnv.finishPlayingQueueItem w env) := by
  have := h.preorder
  refine Moves.bindGet fun s => ?_
  cases currentPlaying w.stationId s with
  | none => exact Moves.pure _
  | some playing => exact h.completeQueueItem playing

lemma restartAttemptAllowed (h : Fills w R) (item : ℤ) :
    Moves R (WorkerEnv.restartAttemptAllowed w env site .manual item) := by
  have := h.preorder
  have hput : ∀ (r : RestartState) (s : Engine), R s { s with
      restarts := Function.update s.restarts ⟨w.stationId, .manual, item⟩ (some r) } :=
    fun r s => h.attempts s item r
  refine Moves.bindGet fun s => ?_
  split
  · exact Moves.bindModify (hput _) fun _ => Moves.pure _
  · refine Moves.ite (fun _ => Moves.bindModify (hput _) fun _ => Moves.pure _) fun _ => ?_
    exact Moves.ite (fun _ => Moves.bindModify (hput _) fun _ => Moves.pure _)
      fun _ => Moves.bindModify (hput _) fun _ => Moves.pure _

/-! ### The upkeep of the queue -/

lemma clearStartupSoundPending (h : Fills w R) (s : Engine) :
    R s (QueueUpkeep.clearStartupSoundPending w s) :=
  h.setting _ (by decide) ..

lemma insertOrIgnore (h : Fills w R) {r : QueueItem} (hr : r.status ≠ .playing) (s : Engine) :
    R s (QueueUpkeep.insertOrIgnore r s).1 := by
  unfold QueueUpkeep.insertOrIgnore
  split_ifs
  · exact h.refl s
  · exact h.insertQueue hr s

lemma maybeInsertStartupSound (h : Fills w R) :
    Moves R (QueueUpkeep.maybeInsertStartupSound w) := by
  have := h.preorder
  unfold QueueUpkeep.maybeInsertStartupSound
  refine Moves.bindGet fun s => Moves.ite (fun _ => Moves.pure _) fun _ => ?_
  refine Moves.ite (fun _ => Moves.modify h.clearStartupSoundPending) fun _ => ?_
  refine (h.liftSetting _).bind fun trackId => (moves_bindInteger _ _).bind fun _ => ?_
  split
  · exact Moves.modify h.clearStartupSoundPending
  · exact Moves.modify fun s =>
      h.trans (h.insertOrIgnore new_waits s) (h.clearStartupSoundPending _)

lemma failCrossStationQueueItems (h : Fills w R) :
    Moves R (QueueUpkeep.failCrossStationQueueItems w env) := by
  have := h.preorder
  refine Moves.bindGet fun s => Moves.ite (fun _ => Moves.pure _) fun _ => ?_
  refine Moves.bindModify (fun s => ?_) fun _ => Moves.bindGet fun s' => ?_
  · exact Runs.inv_of_foldl (P := R s) (fun s' _ hs => h.trans hs (h.markQueueFailed _ s')) _ (h.refl s)
  · exact Moves.ite
      (fun _ => (h.setPlayoutState (by decide) _ _).bind fun _ => h.broadcastQueue)
      fun _ => h.broadcastQueue

lemma probeAndStore (h : Fills w R) (track : ℤ) (s : Engine) :
    R s (QueueUpkeep.probeAndStore env track s).1 := by
  unfold QueueUpkeep.probeAndStore
  split
  · exact h.refl s
  split
  · exact h.refl s
  dsimp only
  split
  · exact h.refl s
  split
  · exact h.refl s
  · refine h.tracks s _ (filesKept_modify ?_ _ _)
    exact fun _ => rfl

lemma insertDueJingle (h : Fills w R) (hs : R s₀ s) (sweeper : Sweeper) (f : Filling) :
    Ends (QueueUpkeep.insertDueJingle w sweeper f) s
      (fun r t => R s₀ t ∧ r.1.committed = f.committed) (R s₀) := by
  unfold QueueUpkeep.insertDueJingle
  rw [ends_bind, ends_get]
  dsimp only
  split
  · exact ⟨hs, rfl⟩
  split_ifs
  · exact ⟨hs, rfl⟩
  · exact ⟨h.trans hs (h.insertQueue new_waits s), rfl⟩

/-- What an error brings back was committed on the way. -/
lemma insertMusic (h : Fills w R) {f : Filling} (hs : R s₀ s) (hf : R s₀ f.committed)
    (track : ℤ) :
    Ends (QueueUpkeep.insertMusic w env f track) s
      (fun f' t => R s₀ t ∧ R s₀ f'.committed) (R s₀) := by
  have hprobe : R s₀ (QueueUpkeep.probeAndStore env track s).1 :=
    h.trans hs (h.probeAndStore track s)
  unfold QueueUpkeep.insertMusic
  rw [ends_bind, ends_get]
  rcases hp : QueueUpkeep.probeAndStore env track s with ⟨s', duration, stored⟩
  rw [hp] at hprobe
  rw [ends_bind, ends_set]
  have hcommitted : R s₀ (if stored then s' else f.committed) := by
    split_ifs
    · exact hprobe
    · exact hf
  dsimp only
  generalize (if stored then s' else f.committed) = committed at hcommitted ⊢
  split_ifs
  · exact hcommitted
  · exact ⟨h.trans hprobe (h.insertQueue new_waits s'), hcommitted⟩

lemma autofillLoop (h : Fills w R) (sweeper : Sweeper) (n : ℕ) {f : Filling} (hs : R s₀ s)
    (hf : R s₀ f.committed) :
    Ends (QueueUpkeep.autofillLoop w env sweeper n f) s (fun _ => R s₀) (R s₀) := by
  induction n generalizing s f with
  | zero => exact hs
  | succ n ih =>
    unfold QueueUpkeep.autofillLoop
    split_ifs
    · refine (h.insertDueJingle hs sweeper f).bind fun r s' ⟨hs', hc⟩ => ?_
      obtain ⟨f', go⟩ := r
      dsimp only
      split_ifs
      · exact ih hs' (hc ▸ hf)
      · rw [ends_bind, ends_get]
        have hc' : (chooseMusic w env f' s').1.committed = f'.committed :=
          chooseMusic_committed f' s'
        rcases hm : chooseMusic w env f' s' with ⟨f'', track⟩
        rw [hm, hc] at hc'
        dsimp only at hc' ⊢
        cases track with
        | none => exact hs'
        | some track =>
          refine (h.insertMusic hs' (hc' ▸ hf) track).bind fun f s hf => ?_
          exact ih hf.1 hf.2
    · exact hs

lemma autofillQueue (h : Fills w R) : Moves R (QueueUpkeep.autofillQueue w env) := by
  refine ⟨fun s => ?_⟩
  unfold QueueUpkeep.autofillQueue
  rw [ends_bind, ends_get]
  dsimp only
  split_ifs
  · have hlift : Moves R (WorkerEnv.liftSetting (sweeperSettings w.stationId s)) :=
      h.liftSetting _
    refine (hlift.ends s).bind fun sweeper s' hs' => ?_
    exact h.autofillLoop _ _ hs' (h.refl s)
  · exact h.refl s

lemma sweepQueue (h : Fills w R) : Moves R (QueueUpkeep.sweepQueue w) := by
  have := h.preorder
  unfold QueueUpkeep.sweepQueue
  refine Moves.bindGet fun s => (h.liftSetting _).bind fun sweeper => ?_
  refine Moves.ite (fun _ => (moves_bindInteger _ _).bind fun _ =>
    Moves.modify fun s => ?_) fun _ =>
      Moves.modify fun s => h.queue s _ (noneStarts_filter _ _)
  unfold maybeInsertSweeperJingle
  split_ifs
  · exact h.refl s
  split
  · exact h.refl s
  · exact h.insertOrIgnore new_waits s

lemma enqueueAiAnnouncement (h : Fills w R) (a : CachedAnnouncement) (before : ℤ) (key : String) :
    Moves R (QueueUpkeep.enqueueAiAnnouncement w env a before key) := by
  have := h.preorder
  unfold QueueUpkeep.enqueueAiAnnouncement
  dsimp only
  refine Moves.ite (fun _ => Moves.pure _) fun _ => ⟨fun s => ?_⟩
  rw [ends_bind, ends_get, ends_bind, ends_set]
  refine Moves.after (Moves.ite (fun _ => h.broadcastQueue.bind fun _ => Moves.pure _)
    fun _ => Moves.pure _) ?_
  refine h.trans ?_ (h.insertBefore ..)
  unfold upsertGeneratedAnnouncement
  dsimp only
  split
  · refine h.tracks s _ (filesKept_modify ?_ _ _)
    exact fun _ => rfl
  · refine h.tracks s _ fun id t ht => ⟨t, ?_, rfl⟩
    rw [lookup_insert, if_neg ?_, ht]
    rintro rfl
    rw [lookup_nextId] at ht
    cases ht

lemma announceBefore (h : Fills w R) (target : ℤ) (key : String) :
    Moves R (QueueUpkeep.announceBefore w env target key) := by
  have := h.preorder
  unfold QueueUpkeep.announceBefore
  refine Moves.bindGet fun s => Moves.ite (fun _ => Moves.pure _) fun _ => ?_
  split
  · exact Moves.pure _
  · exact h.enqueueAiAnnouncement ..

lemma maybePrepareAiQueue (h : Fills w R) (hnote : ∀ (j : ℤ) (value : String) (s : Engine),
    R s (upsertSetting j "_ai_last_station_id_at" value s)) :
    Moves R (QueueUpkeep.maybePrepareAiQueue w env) := by
  have := h.preorder
  unfold QueueUpkeep.maybePrepareAiQueue
  refine Moves.bindGet fun s => Moves.ite (fun _ => Moves.pure _) fun _ => ?_
  split
  · exact Moves.pure _
  · have hid : ∀ target : ℤ, Moves R (do
        if ← WorkerEnv.liftSetting (stationIdDue w env (← get)) then
          if ← QueueUpkeep.announceBefore w env target s!"ai-station-id:{target}" then
            modify (upsertSetting w.stationId "_ai_last_station_id_at"
              (env.isoText (env.stamp .stationId)))) := by
      intro target
      refine Moves.bindGet fun s => (h.liftSetting _).bind fun due => ?_
      refine Moves.ite (fun _ => (h.announceBefore _ _).bind fun done => ?_)
        fun _ => Moves.pure _
      exact Moves.ite (fun _ => Moves.modify (hnote _ _))
        fun _ => Moves.pure _
    dsimp only
    refine Moves.ite (fun _ => (h.announceBefore _ _).bind fun done => ?_) fun _ => hid _
    exact Moves.ite (fun _ => Moves.pure _) fun _ => hid _

/-! ### The advance of the queue -/

lemma restartQueueItem (h : Fills w R) (hstart : StartsAt env R .manualRestart .restartQueue)
    (playing : ℤ × QueueItem) (offset : ℚ) :
    Moves R (PlayoutAdvance.restartQueueItem w env playing offset) := by
  have := h.preorder
  have hstop : ∀ reason : String, Moves R (do
      modify (PlayoutTables.markQueueFailed playing.1)
      WorkerEnv.setPlayoutState w .none none reason) := fun reason =>
    Moves.bindModify (h.markQueueFailed _) fun _ => h.setPlayoutState (by decide) _ _
  unfold PlayoutAdvance.restartQueueItem
  refine Moves.ite (fun _ => Moves.pure _) fun _ => Moves.bindGet fun s => ?_
  dsimp only
  refine Moves.ite (fun _ => hstop _) fun _ => ?_
  refine Moves.bind (Moves.bindGet fun _ => Moves.pure _) fun status => ?_
  refine Moves.ite (fun _ => Moves.pure _) fun _ => ?_
  refine (h.restartAttemptAllowed _).bind fun refusal => ?_
  cases refusal with
  | some reason => exact hstop _
  | none =>
    refine Moves.tryCatch ?_ fun _ => hstop _
    exact (hstart.startStation ..).bind fun _ =>
      (h.setPlayoutState (by decide) _ _).bind fun _ => h.broadcastQueue

theorem advancePlayingQueueItem (h : Fills w R)
    (hstart : StartsAt env R .manualRestart .restartQueue) :
    Moves R (PlayoutAdvance.advancePlayingQueueItem w env) := by
  have := h.preorder
  unfold PlayoutAdvance.advancePlayingQueueItem
  refine Moves.bindGet fun s => ?_
  split
  · exact Moves.pure _
  · dsimp only
    refine Moves.ite (fun _ => Moves.ite (fun _ => h.completeQueueItem _)
      fun _ => h.restartQueueItem hstart _ _) fun _ => ?_
    refine Moves.ite (fun _ => h.completeQueueItem _) fun _ => ?_
    refine Moves.ite (fun _ => Moves.ite (fun _ => h.completeQueueItem _)
      fun _ => Moves.pure _) fun _ => ?_
    refine Moves.ite (fun _ => Moves.ite (fun _ => Moves.pure _)
      fun _ => h.completeQueueItem _) fun _ => ?_
    exact Moves.ite (fun _ => Moves.ite (fun _ => h.completeQueueItem _)
      fun _ => h.restartQueueItem hstart _ _) fun _ => Moves.pure _

end Fills

namespace Prepares

variable {w : Worker} {env : Env} {R : Engine → Engine → Prop}

lemma maybePrepareAiQueue (h : Prepares w R) : Moves R (QueueUpkeep.maybePrepareAiQueue w env) :=
  h.toFills.maybePrepareAiQueue h.announced

lemma advancePlayingQueueItem (h : Prepares w R) :
    Moves R (PlayoutAdvance.advancePlayingQueueItem w env) :=
  h.toFills.advancePlayingQueueItem fun s x hkind _ => h.start s x hkind

end Prepares

end OnAir.QueuePhases
