import OnAir.CalmPhases

/-!
One on-air source: at most one row of the station plays, and none while the host does.

A song that plays is finished before something else starts, and the host is waited for. An ad that
plays is not: the choice looks for a playing row in the queue only.
-/

namespace OnAir.OneSource

open CalmPhases PlayoutAdvance PlayoutTables Programs Runs StationWorker OnAir.Table WorkerEnv

/-- A row that can play. -/
inductive Row
  | queue (id : ℤ)
  | ad (id : ℤ)
  deriving DecidableEq, Repr

def Plays (st : ℤ) (s : Engine) : Row → Prop
  | .queue id => QueuePlays st s id
  | .ad id => AdPlays st s id

/-- At most one row of the station plays, and none while the playout is the host's. -/
structure OneOnAir (st : ℤ) (s : Engine) : Prop where
  single : ∀ a b, Plays st s a → Plays st s b → a = b
  host : (current st s).source = .host → ∀ a, ¬ Plays st s a

/-! ### The condition on a tick -/

/-- The state in which a tick comes to its choice, and the session it found. -/
def choicePoint (w : Worker) (env : Env) (s : Engine) : Option (Engine × Option Session) :=
  match upkeep w env s with
  | .ok (.inr session) s₁ =>
    match advancePlayingQueueItem w env s₁ with
    | .ok _ s₂ =>
      match advanceOthers w env s₂ with
      | .ok _ s₃ => some (s₃, session)
      | .error _ _ => none
    | .error _ _ => none
  | _ => none

/-- The song that is next where no song plays and no break is on. -/
def nextSong (w : Worker) (s : Engine) (session : Option Session) : Option (ℤ × QueueItem) :=
  if (currentPlaying w.stationId s).isSome || onBreak session then none
  else nextPending w.stationId (skipDuplicatePending w s)

/-- The ad that is due where ads start. -/
def nextAd (w : Worker) (env : Env) (s : Engine) (session : Option Session) :
    Option (ℤ × AdBreakItem) :=
  if adsEnabled w s && !adSuppressed session then
    nextDue w.stationId s env.datetime (env.stamp .choiceDue)
  else none

/-- The track of what is next: the host comes before the songs, and the songs before the ads. -/
def firstTrack (host : Option (ℤ × ProgramQueueItem)) (song : Option (ℤ × QueueItem))
    (ad : Option (ℤ × AdBreakItem)) : Option ℤ :=
  match host, song, ad with
  | some item, _, _ => some item.2.trackId
  | none, some item, _ => some item.2.trackId
  | none, none, some item => some item.2.trackId
  | none, none, none => none

/-- The track that is next, from the host, the queue or the ads. -/
def nextTrack (w : Worker) (env : Env) (s : Engine) (session : Option Session) : Option ℤ :=
  firstTrack (hostPending w s) (nextSong w s session) (nextAd w env s session)

/-- Where an ad plays when a tick comes to its choice, no host item, no song and no other ad that
has a file is next. -/
def AdWaits (w : Worker) (s : Engine) (env : Env) : Prop :=
  ∀ c ∈ choicePoint w env s, (currentAd w.stationId c.1).isSome →
    ∀ track ∈ nextTrack w env c.1 c.2, trackUri env c.1 track = ""

instance (w : Worker) (s : Engine) (env : Env) : Decidable (AdWaits w s env) := by
  unfold AdWaits
  infer_instance

/-! ### What a phase keeps -/

section Keeps

variable {K : StartKind → ℚ → Prop} {st id : ℤ} {s s' : Engine} {w : Worker} {env : Env}

lemma OneOnAir.calm (h : OneOnAir st s) (hc : Calm K st s s') : OneOnAir st s' := by
  have hplays : ∀ a, Plays st s' a → Plays st s a := by
    intro a ha
    cases a with
    | queue id => exact hc.queue id ha
    | ad id => exact hc.ads id ha
  exact ⟨fun a b ha hb => h.single a b (hplays a ha) (hplays b hb),
    fun hh a ha => h.host (hc.host hh) a (hplays a ha)⟩

/-- Tracks keep their files, the host the item that is next, and the schedule its items. -/
structure SameFiles (w : Worker) (s s' : Engine) : Prop where
  files : ∀ id : ℤ, s'.tracks[id]?.map (·.filePath) = s.tracks[id]?.map (·.filePath)
  host : hostPending w s' = hostPending w s
  schedule : s'.scheduleItems = s.scheduleItems

instance : IsPreorder Engine (SameFiles w) where
  refl _ := ⟨fun _ => rfl, rfl, rfl⟩
  trans _ _ _ h h' := ⟨fun id => (h'.files id).trans (h.files id), h'.host.trans h.host,
    h'.schedule.trans h.schedule⟩

lemma SameFiles.uri (h : SameFiles w s s') (track : ℤ) :
    trackUri env s' track = trackUri env s track := by
  have hfile : ∀ e : Engine, trackUri env e track =
      ((e.tracks[track]?.map (·.filePath)).map (resolveMedia env)).getD "" := by
    intro e
    unfold trackUri
    cases e.tracks[track]? with
    | none => rw [Option.map_none, Option.map_none, Option.getD_none]
    | some t => rw [Option.map_some, Option.map_some, Option.getD_some]
  rw [hfile, hfile, h.files track]

lemma SameFiles.of_eq (ht : s'.tracks = s.tracks)
    (hs : setting w.stationId s' "program_queue_source" =
      setting w.stationId s "program_queue_source")
    (hp : s'.programQueueItems = s.programQueueItems)
    (hi : s'.scheduleItems = s.scheduleItems) : SameFiles w s s' where
  files _ := by rw [ht]
  schedule := hi
  host := by
    unfold hostPending sourceIsHost nextHostItem
    rw [hs, hp]

lemma sameFiles_markPlayed (now : ℤ) (s : Engine) : SameFiles w s (markPlayed id now s) where
  files j := by
    rw [markPlayed, lookup_modify]
    split_ifs
    · rw [Option.map_map]
      rfl
    · rfl
  host := rfl
  schedule := rfl

lemma setting_upsertSetting {j : ℤ} {key key' : String} (h : key' ≠ key) (value : String)
    (s : Engine) : setting st (upsertSetting j key value s) key' = setting st s key' := by
  unfold setting upsertSetting
  dsimp only
  rw [lookup_insert]
  split_ifs with hj
  · subst hj
    rw [Option.bind_some, Std.ExtTreeMap.getElem?_insert, if_neg (by simpa using h.symm)]
    rw [Std.ExtTreeMap.getD_eq_getD_getElem?]
    cases s.stationSettings[st]? with
    | none => simp
    | some t => rfl
  · rfl

lemma sameFiles_enqueue (j track : ℤ) (key : String) (s : Engine) :
    SameFiles w s (enqueue j track key s).1 := by
  unfold enqueue
  split
  · exact refl_of (SameFiles w) s
  · exact .of_eq rfl (setting_upsertSetting (by decide) ..) rfl rfl

lemma sameFiles_ensureFilled (j : ℤ) (s : Engine) :
    SameFiles w s (BroadcastQueue.ensureFilled j s) := by
  unfold BroadcastQueue.ensureFilled BroadcastQueue.ensureReadyForPlayback
  dsimp only
  split
  · exact refl_of (SameFiles w) s
  split
  · exact refl_of (SameFiles w) s
  · exact inv_of_foldl (P := SameFiles w s)
      (fun _ _ h => trans_of (SameFiles w) h (sameFiles_enqueue ..)) _ (refl_of (SameFiles w) s)

lemma sameFiles_broadcastQueue {site : Site} : Moves (SameFiles w) (broadcastQueue w env site) :=
  Moves.ite (fun _ => Moves.modify (sameFiles_ensureFilled _)) fun _ => Moves.pure _

lemma sameFiles_setPlayoutState (source : PlayoutSource) (item : Option ℤ) (reason : String) :
    Moves (SameFiles w) (setPlayoutState w source item reason) :=
  Moves.modify fun _ => .of_eq rfl rfl rfl rfl

lemma sameFiles_finishPlayingQueueItem : Moves (SameFiles w) (finishPlayingQueueItem w env) := by
  refine Moves.bindGet fun s => ?_
  cases currentPlaying w.stationId s with
  | none => exact Moves.pure _
  | some playing =>
    refine Moves.bindModify (fun _ => .of_eq rfl rfl rfl rfl) fun _ => ?_
    refine (sameFiles_setPlayoutState ..).bind fun _ => ?_
    exact Moves.ite (fun _ => Moves.bindModify (sameFiles_markPlayed _) fun _ =>
      sameFiles_broadcastQueue) fun _ => sameFiles_broadcastQueue

lemma sameFiles_failDisabledActiveAds : Moves (SameFiles w) (failDisabledActiveAds w env) := by
  unfold failDisabledActiveAds
  refine Moves.bindGet fun s => Moves.ite (fun _ => Moves.pure _) fun _ => ?_
  refine Moves.forM _ fun item _ => Moves.ite (fun _ => Moves.pure _) fun _ => ?_
  refine Moves.bindModify (fun _ => .of_eq rfl rfl rfl rfl) fun _ => ?_
  exact Moves.ite (fun _ => (sameFiles_setPlayoutState ..).bind fun _ => sameFiles_broadcastQueue)
    fun _ => sameFiles_broadcastQueue

end Keeps

/-! ### Starting -/

section Starting

variable {st : ℤ} {s : Engine} {w : Worker} {env : Env}

lemma currentPlaying_eq_none : currentPlaying st s = none ↔ ∀ id, ¬ QueuePlays st s id := by
  unfold currentPlaying queueRows
  rw [List.head?_eq_none_iff, List.filter_eq_nil_iff]
  constructor
  · rintro h id ⟨r, hr, hst, hpl⟩
    exact h (id, r) (mem_rows.mpr hr) (by simp [hst, hpl])
  · rintro h ⟨id, r⟩ hr hp
    simp only [Bool.and_eq_true, decide_eq_true_eq, List.mem_singleton] at hp
    exact h id ⟨r, mem_rows.mp hr, hp.1, hp.2⟩

lemma queuePlays_of_currentPlaying {playing : ℤ × QueueItem}
    (h : currentPlaying st s = some playing) : QueuePlays st s playing.1 := by
  obtain ⟨hrow, hp⟩ := List.mem_filter.mp (List.mem_of_mem_head? h)
  exact ⟨playing.2, mem_rows.mp hrow, by simpa using hp⟩

lemma currentAd_eq_none : currentAd st s = none ↔ ∀ id, ¬ AdPlays st s id := by
  unfold currentAd adRows
  rw [Sql.firstBy_eq_none, List.filter_eq_nil_iff]
  constructor
  · rintro h id ⟨r, hr, hst, hpl⟩
    exact h (id, r) (mem_rows.mpr hr) (by simp [hst, hpl])
  · rintro h ⟨id, r⟩ hr hp
    simp only [Bool.and_eq_true, decide_eq_true_eq, List.mem_singleton] at hp
    exact h id ⟨r, mem_rows.mp hr, hp.1, hp.2⟩

/-- A program that is calm keeps what calm steps keep. -/
lemma keeps_of_calm {α : Type} {P : Engine → Prop} {x : WorkerM α} (st : ℤ)
    (hP : ∀ s s', Calm (fun _ _ => True) st s s' → P s → P s')
    (h : Moves (Calm (fun _ _ => True) st) x) : Moves (Keeps P) x :=
  h.mono fun s s' hc hs => hP s s' hc hs

/-- After the playing song is finished, no song plays. -/
lemma finishPlayingQueueItem_ends (h : OneOnAir w.stationId s) :
    Ends (finishPlayingQueueItem w env) s
      (fun _ s' => (OneOnAir w.stationId s' ∧ ∀ id, ¬ QueuePlays w.stationId s' id) ∧
        (∀ id, AdPlays w.stationId s' id → AdPlays w.stationId s id) ∧ SameFiles w s s')
      (OneOnAir w.stationId) := by
  have hcalm : Moves (Calm (fun _ _ => True) w.stationId) (finishPlayingQueueItem w env) :=
    calm_finishPlayingQueueItem
  have hfiles : Moves (SameFiles w) (finishPlayingQueueItem w env) :=
    sameFiles_finishPlayingQueueItem
  have hsongs : Ends (finishPlayingQueueItem w env) s
      (fun _ s' => ∀ id, ¬ QueuePlays w.stationId s' id)
      (fun s' => ∀ id, ¬ QueuePlays w.stationId s' id) := by
    unfold finishPlayingQueueItem
    rw [ends_bind, ends_get]
    cases hp : currentPlaying w.stationId s with
    | none => exact currentPlaying_eq_none.mp hp
    | some playing =>
      unfold completeQueueItem
      dsimp only
      rw [ends_bind, ends_modify]
      refine Moves.keeps (keeps_of_calm w.stationId
        (fun s s' hc hs id hid => hs id (hc.queue id hid)) ?_) ?_
      · refine (calm_setPlayoutState (by decide) _ _).bind fun _ => ?_
        exact Moves.ite (fun _ => Moves.bindModify (calm_markPlayed _) fun _ =>
          calm_broadcastQueue) fun _ => calm_broadcastQueue
      · rintro id ⟨r, hr, hst, hpl⟩
        rw [markQueueDone, updateQueue, lookup_modify] at hr
        split_ifs at hr with hid
        · obtain ⟨q, -, rfl⟩ := Option.map_eq_some_iff.mp hr
          cases hpl
        · have := h.single (.queue id) (.queue playing.1) ⟨r, hr, hst, hpl⟩
            (queuePlays_of_currentPlaying hp)
          exact hid (Row.queue.inj this)
  exact ((hcalm.ends s).and ((hfiles.ends s).and hsongs)).mono
    (fun _ s' h' => ⟨⟨h.calm h'.1, h'.2.2⟩, h'.1.ads, h'.2.1⟩) fun s' h' => h.calm h'.1

/-- What is started keeps `P`, if it does so where the track has a file, and giving it up undoes
the mark. -/
lemma playManagedItem_ends {P : Engine → Prop}
    (hP : ∀ s s', Calm (fun _ _ => True) w.stationId s s' → P s → P s') {m : Managed}
    (hdone : ∀ s, Calm (fun _ _ => True) w.stationId s (m.markDone s))
    (hfailed : ∀ s, Calm (fun _ _ => True) w.stationId s (m.markFailed s))
    (hrestore : ∀ s, Calm (fun _ _ => True) w.stationId s (m.restore s))
    (htracks : (m.markPlaying s).tracks = s.tracks)
    (hmissing : ∀ reason, P (m.markFailed
      (setCurrent w.stationId m.source (some m.itemId) reason (m.markPlaying s))))
    (hstart : trackUri env s m.trackId ≠ "" → ∀ reason,
      P (setCurrent w.stationId m.source (some m.itemId) reason (m.markPlaying s))) :
    Ends (playManagedItem w env m) s (fun _ => P) P := by
  have huri : ∀ reason, trackUri env (setCurrent w.stationId m.source (some m.itemId) reason
      (m.markPlaying s)) m.trackId = trackUri env s m.trackId := by
    intro reason
    unfold trackUri setCurrent
    rw [htracks]
  unfold playManagedItem setPlayoutState
  rw [ends_bind, ends_modify, ends_bind, ends_modify, ends_bind, ends_get]
  dsimp only
  rw [huri]
  split_ifs with hmiss
  · rw [ends_bind, ends_modify, ends_bind, ends_modify, ends_pure]
    exact hP _ _ (calm_setCurrent (by decide) ..) (hmissing _)
  · exact Moves.keeps (keeps_of_calm _ hP (calm_startManagedItem trivial hdone hfailed hrestore _))
      (hstart hmiss _)

/-- Where only one row plays, and the playout is not the host's, all is well. -/
lemma OneOnAir.of_only {a : Row} (h : ∀ b, Plays st s b → b = a)
    (hs : (current st s).source ≠ .host) : OneOnAir st s :=
  ⟨fun b c hb hc => (h b hb).trans (h c hc).symm, fun hh => absurd hh hs⟩

lemma current_setCurrent (source : PlayoutSource) (item : Option ℤ) (reason : String) :
    (current st (setCurrent st source item reason s)).source = source := by
  rw [current, setCurrent, lookup_insert]
  simp

lemma queuePlays_markQueuePlaying {id j now : ℤ} (h : QueuePlays st (markQueuePlaying id now s) j) :
    j = id ∨ QueuePlays st s j := by
  obtain ⟨r, hr, hst, hpl⟩ := h
  rw [markQueuePlaying, updateQueue, lookup_modify] at hr
  split_ifs at hr with hj
  · exact .inl hj
  · exact .inr ⟨r, hr, hst, hpl⟩

lemma adPlays_markAdPlaying {id j now : ℤ} (h : AdPlays st (markAdPlaying id now s) j) :
    j = id ∨ AdPlays st s j := by
  obtain ⟨r, hr, hst, hpl⟩ := h
  rw [markAdPlaying, updateAd, lookup_modify] at hr
  split_ifs at hr with hj
  · exact .inl hj
  · exact .inr ⟨r, hr, hst, hpl⟩

/-- A song that is given up at once. -/
lemma calm_giveUpSong (id now : ℤ) {source : PlayoutSource} (hs : source ≠ .host)
    (item : Option ℤ) (reason : String) (s : Engine) : Calm (fun _ _ => True) st s
      (markQueueFailed id (setCurrent st source item reason (markQueuePlaying id now s))) := by
  have hset : Calm (fun _ _ => True) st (markQueuePlaying id now s)
      (setCurrent st source item reason (markQueuePlaying id now s)) :=
    calm_setCurrent hs st item reason _
  have hfail : Calm (fun _ _ => True) st
      (setCurrent st source item reason (markQueuePlaying id now s))
      (markQueueFailed id (setCurrent st source item reason (markQueuePlaying id now s))) :=
    calm_markQueueFailed _
  refine ⟨fun j hj => ?_, fun j hj => hj, fun hh => hset.host hh, ⟨[], rfl, by simp⟩⟩
  rcases queuePlays_markQueuePlaying (hset.queue j (hfail.queue j hj)) with rfl | hj'
  · obtain ⟨r, hr, -, hpl⟩ := hj
    rw [markQueueFailed, updateQueue, lookup_modify, if_pos rfl] at hr
    obtain ⟨q, -, rfl⟩ := Option.map_eq_some_iff.mp hr
    cases hpl
  · exact hj'

/-- An ad that is given up at once. -/
lemma calm_giveUpNewAd (id now : ℤ) {source : PlayoutSource} (hs : source ≠ .host)
    (item : Option ℤ) (reason : String) (s : Engine) : Calm (fun _ _ => True) st s
      (markAdFailed id (setCurrent st source item reason (markAdPlaying id now s))) := by
  have hset : Calm (fun _ _ => True) st (markAdPlaying id now s)
      (setCurrent st source item reason (markAdPlaying id now s)) :=
    calm_setCurrent hs st item reason _
  have hfail : Calm (fun _ _ => True) st
      (setCurrent st source item reason (markAdPlaying id now s))
      (markAdFailed id (setCurrent st source item reason (markAdPlaying id now s))) :=
    calm_markAdFailed _
  refine ⟨fun j hj => hj, fun j hj => ?_, fun hh => hset.host hh, ⟨[], rfl, by simp⟩⟩
  rcases adPlays_markAdPlaying (hset.ads j (hfail.ads j hj)) with rfl | hj'
  · obtain ⟨r, hr, -, hpl⟩ := hj
    rw [markAdFailed, updateAd, lookup_modify, if_pos rfl] at hr
    obtain ⟨q, -, rfl⟩ := Option.map_eq_some_iff.mp hr
    cases hpl
  · exact hj'

lemma startSong_ends (h : OneOnAir w.stationId s) (hq : ∀ id, ¬ QueuePlays w.stationId s id)
    (item : ℤ × QueueItem)
    (ha : trackUri env s item.2.trackId ≠ "" → ∀ id, ¬ AdPlays w.stationId s id) :
    Ends (playManagedItem w env (managedQueueItem env item)) s
      (fun _ => OneOnAir w.stationId) (OneOnAir w.stationId) := by
  refine playManagedItem_ends (fun s s' hc hs => hs.calm hc) calm_markQueueDone
    calm_markQueueFailed (calm_updateQueue (by simp)) rfl (fun reason => ?_) fun huri reason => ?_
  · exact h.calm (calm_giveUpSong item.1 _ PlayoutSource.noConfusion _ reason s)
  · refine OneOnAir.of_only (a := .queue item.1) (fun b hb => ?_) ?_
    · cases b with
      | queue id => exact congrArg _ ((queuePlays_markQueuePlaying hb).resolve_right (hq id))
      | ad id => exact absurd hb (ha huri id)
    · rw [current_setCurrent]
      exact PlayoutSource.noConfusion

lemma startAd_ends (h : OneOnAir w.stationId s) (hq : ∀ id, ¬ QueuePlays w.stationId s id)
    (item : ℤ × AdBreakItem)
    (ha : trackUri env s item.2.trackId ≠ "" → ∀ id, ¬ AdPlays w.stationId s id) :
    Ends (playManagedItem w env (managedAd env item)) s
      (fun _ => OneOnAir w.stationId) (OneOnAir w.stationId) := by
  refine playManagedItem_ends (fun s s' hc hs => hs.calm hc) calm_markAdDone
    calm_markAdFailed (calm_updateAd (by simp)) rfl (fun reason => ?_) fun huri reason => ?_
  · exact h.calm (calm_giveUpNewAd item.1 _ PlayoutSource.noConfusion _ reason s)
  · refine OneOnAir.of_only (a := .ad item.1) (fun b hb => ?_) ?_
    · cases b with
      | queue id => exact absurd hb (hq id)
      | ad id => exact congrArg _ ((adPlays_markAdPlaying hb).resolve_right (ha huri id))
    · rw [current_setCurrent]
      exact PlayoutSource.noConfusion

lemma startSchedule_ends (h : OneOnAir w.stationId s) (item : ℤ × Database.ScheduleItem) :
    Ends (playManagedItem w env (managedSchedule item)) s
      (fun _ => OneOnAir w.stationId) (OneOnAir w.stationId) := by
  have hmark : ∀ (status : Database.ScheduleStatus) (s : Engine),
      Calm (fun _ _ => True) w.stationId s (markSchedule item.1 status s) :=
    fun _ _ => .of_eq rfl rfl rfl rfl
  have hset : ∀ reason, OneOnAir w.stationId (setCurrent w.stationId .schedule (some item.1) reason
      (markSchedule item.1 .playing s)) := fun reason =>
    h.calm ((hmark _ s).trans (calm_setCurrent (by decide) ..))
  exact playManagedItem_ends (fun s s' hc hs => hs.calm hc) (hmark _) (hmark _) (hmark _) rfl
    (fun reason => (hset reason).calm (hmark _ _)) fun _ reason => hset reason

lemma playHostTrack_ends (h : OneOnAir w.stationId s) (item : ℤ × ProgramQueueItem)
    (ha : trackUri env s item.2.trackId ≠ "" → ∀ id, ¬ AdPlays w.stationId s id) :
    Ends (playHostTrack w env item) s (fun _ => OneOnAir w.stationId)
      (OneOnAir w.stationId) := by
  unfold playHostTrack setPlayoutState
  refine (finishPlayingQueueItem_ends h).bind fun _ s' ⟨⟨h', hq⟩, hads, hfiles⟩ => ?_
  have huri : trackUri env (setCurrent w.stationId .host (some item.1) "host_start" s')
      item.2.trackId = trackUri env s item.2.trackId := hfiles.uri _
  rw [ends_bind, ends_modify, ends_bind, ends_get]
  dsimp only
  rw [huri]
  split
  · rw [ends_bind, ends_modify, ends_bind, ends_modify, ends_pure]
    -- the item that has no file is dropped, and the playout is nobody's
    refine ⟨fun a b ha hb => h'.single a b ?_ ?_, fun hh => ?_⟩
    · cases a <;> exact ha
    · cases b <;> exact hb
    · rw [current_setCurrent] at hh
      cases hh
  next hmiss =>
    have hstart : OneOnAir w.stationId
        (setCurrent w.stationId .host (some item.1) "host_start" s') := by
      have hnone : ∀ a, ¬ Plays w.stationId
          (setCurrent w.stationId .host (some item.1) "host_start" s') a := by
        intro a
        cases a with
        | queue id => exact hq id
        | ad id => exact fun hid => ha hmiss id (hads id hid)
      exact ⟨fun a _ hpl => absurd hpl (hnone a), fun _ => hnone⟩
    refine Moves.keeps (keeps_of_calm w.stationId (fun s s' hc hs => hs.calm hc) ?_) hstart
    have hend : Moves (Calm (fun _ _ => True) w.stationId) (do
        broadcastQueue w env .start
        return (⟨"host", none, some (trackUri env s item.2.trackId), none⟩ : Outcome)) :=
      calm_broadcastQueue.bind fun _ => Moves.pure _
    exact Moves.ite (fun _ => (calm_startStation trivial ..).bind fun _ => hend) fun _ => hend

lemma startFallback_ends (h : OneOnAir w.stationId s) :
    Ends (do
      if w.hasRuntime then
        startStation w env .start .fallback w.fallbackUri "announcement" (.num 0) 0 0
        return (⟨"fallback", none, some w.fallbackUri, none⟩ : Outcome)
      return ⟨"fallback", none, none, none⟩ : WorkerM Outcome) s
      (fun _ => OneOnAir w.stationId) (OneOnAir w.stationId) :=
  Moves.keeps (keeps_of_calm w.stationId (fun _ _ hc hs => hs.calm hc)
    (Moves.ite (fun _ => (calm_startStation trivial ..).bind fun _ => Moves.pure _)
      fun _ => Moves.pure _)) h

end Starting

/-! ### The choice -/

section Choice

variable {st : ℤ} {s : Engine} {w : Worker} {env : Env}

/-- What is behind a choice of the queue. -/
lemma chooseSource_manual {manual host : ℕ} {ad ready fallback : Bool}
    (h : chooseSource manual ad ready fallback host = .manual) : host = 0 ∧ 0 < manual := by
  unfold chooseSource at h
  split_ifs at h
  exact ⟨by omega, by omega⟩

/-- What is behind a choice of the ads. -/
lemma chooseSource_ads {manual host : ℕ} {ad ready fallback : Bool}
    (h : chooseSource manual ad ready fallback host = .ads) :
    host = 0 ∧ manual = 0 ∧ ad = true := by
  unfold chooseSource at h
  split_ifs at h
  exact ⟨by omega, by omega, by assumption⟩

/-- What is behind a choice of the fallback. -/
lemma chooseSource_fallback {manual host : ℕ} {ad ready fallback : Bool}
    (h : chooseSource manual ad ready fallback host = .fallback) :
    host = 0 ∧ manual = 0 ∧ ad = false ∧ ready = false ∧ fallback = true := by
  unfold chooseSource at h
  split_ifs at h with hh hm ha hr hf
  exact ⟨by omega, by omega, by simpa using ha, by simpa using hr, hf⟩

/-- The song, of those read. -/
def songOf (session : Option Session) (playing pending : Option (ℤ × QueueItem)) :
    Option (ℤ × QueueItem) :=
  if playing.isSome || onBreak session then none else pending

/-- The ad, of those read. -/
def adOf (session : Option Session) (dueAd : Option (ℤ × AdBreakItem)) :
    Option (ℤ × AdBreakItem) :=
  if adSuppressed session then none else dueAd

lemma startSource_ends (h : OneOnAir w.stationId s) {session : Option Session}
    {playing pending : Option (ℤ × QueueItem)} {dueAd : Option (ℤ × AdBreakItem)}
    (hq : playing = none → ∀ id, ¬ QueuePlays w.stationId s id)
    (ha : ∀ track ∈ firstTrack (hostPending w s) (songOf session playing pending)
      (adOf session dueAd), trackUri env s track ≠ "" → ∀ id, ¬ AdPlays w.stationId s id) :
    Ends (startSource w env playing pending dueAd session) s
      (fun _ => OneOnAir w.stationId) (OneOnAir w.stationId) := by
  unfold startSource
  rw [ends_bind, ends_get]
  dsimp only
  generalize hsource : chooseSource _ _ _ _ _ = source
  split
  next item hhost => exact playHostTrack_ends h item (ha _ (by rw [hhost]; rfl))
  next item =>
    obtain ⟨hhost, hmanual⟩ := chooseSource_manual hsource
    have hhost' : hostPending w s = none := by simpa using hhost
    have hmanual' : playing = none ∧ onBreak session = false := by
      by_contra hne
      simp [hne] at hmanual
    refine startSong_ends h (hq hmanual'.1) item (ha _ ?_)
    rw [hhost', songOf, hmanual'.1, hmanual'.2]
    rfl
  next pending _ _ _ _ _ item =>
    obtain ⟨hhost, hmanual, had⟩ := chooseSource_ads hsource
    have hhost' : hostPending w s = none := by simpa using hhost
    have had' : adSuppressed session = false := by simpa using had
    have hsong : songOf session playing pending = none := by
      unfold songOf
      cases hp : pending with
      | none => simp
      | some song => simpa [hp] using hmanual
    have htrack : item.2.trackId ∈ firstTrack (hostPending w s) (songOf session playing pending)
        (adOf session (some item)) := by
      rw [hhost', hsong, adOf, had']
      rfl
    refine (finishPlayingQueueItem_ends h).bind fun _ s' ⟨⟨h', hq'⟩, hads, hfiles⟩ => ?_
    refine startAd_ends h' hq' item fun huri id hid => ?_
    exact ha _ htrack (hfiles.uri _ ▸ huri) id (hads id hid)
  next item _ =>
    exact (finishPlayingQueueItem_ends h).bind fun _ _ h' => startSchedule_ends h'.1.1 item
  next => exact startFallback_ends h
  next =>
    split_ifs
    · exact h
    · exact h

/-- The rows of the queue are all that is changed by skipping duplicates. -/
lemma skipDuplicatePending_eq (w : Worker) (s : Engine) :
    ∃ items, skipDuplicatePending w s = { s with queueItems := items } := by
  have hloop : ∀ (last : ℤ) (n : ℕ) (s : Engine),
      ∃ items, skipDuplicates w last n s = { s with queueItems := items } := by
    intro last n
    induction n with
    | zero => exact fun s => ⟨_, rfl⟩
    | succ n ih =>
      intro s
      unfold skipDuplicates
      split
      · exact ⟨_, rfl⟩
      split_ifs
      · obtain ⟨items, h⟩ := ih (markQueueDone _ s)
        exact ⟨items, h⟩
      · exact ⟨_, rfl⟩
  unfold skipDuplicatePending
  dsimp only
  split_ifs
  · exact ⟨_, rfl⟩
  · exact hloop ..

lemma nextDueAdIfAllowed_ends {K : StartKind → ℚ → Prop} :
    Ends (nextDueAdIfAllowed w env .choiceDue) s
      (fun ad s' => (ad = if adsEnabled w s then
          nextDue w.stationId s env.datetime (env.stamp .choiceDue) else none) ∧
        SameFiles w s s' ∧ Calm K w.stationId s s')
      (Calm K w.stationId s) := by
  unfold nextDueAdIfAllowed
  rw [ends_bind, ends_get]
  split_ifs
  · exact ⟨rfl, refl_of (SameFiles w) s, .refl s⟩
  · have hcalm : Moves (Calm K w.stationId) (failDisabledActiveAds w env) :=
      calm_failDisabledActiveAds
    refine Ends.bind ((sameFiles_failDisabledActiveAds.ends s).and (hcalm.ends s)
        |>.mono (fun _ _ h => h) fun _ h => h.2) fun _ s' h => ?_
    exact ⟨rfl, h⟩

lemma startNext_ends (h : OneOnAir w.stationId s) {session : Option Session}
    (hw : (currentAd w.stationId s).isSome →
      ∀ track ∈ nextTrack w env s session, trackUri env s track = "") :
    Ends (startNext w env session) s (fun _ => OneOnAir w.stationId) (OneOnAir w.stationId) := by
  -- the rows that are read before the choice, with the state they are read in
  have hchoice : ∀ s' (playing : Option (ℤ × QueueItem)), OneOnAir w.stationId s' →
      (playing = none → ∀ id, ¬ QueuePlays w.stationId s' id) →
      ((currentAd w.stationId s').isSome → ∀ track ∈ firstTrack (hostPending w s')
        (songOf session playing (nextPending w.stationId s')) (nextAd w env s' session),
        trackUri env s' track = "") →
      Ends (do
        let pending := nextPending w.stationId (← get)
        let dueAd ← nextDueAdIfAllowed w env .choiceDue
        startSource w env playing pending dueAd session) s'
        (fun _ => OneOnAir w.stationId) (OneOnAir w.stationId) := by
    intro s' playing h' hq hads
    rw [ends_bind, ends_get]
    refine Ends.bind ((nextDueAdIfAllowed_ends (K := fun _ _ => True)).mono
      (fun _ _ hr => hr) fun _ hc => h'.calm hc) fun dueAd s'' ⟨hdue, hfiles, hcalm⟩ => ?_
    refine startSource_ends (h'.calm hcalm) (fun hp id hid => hq hp id (hcalm.queue id hid)) ?_
    intro track htrack huri id hid
    have had : adOf session dueAd = nextAd w env s' session := by
      rw [hdue, adOf, nextAd]
      cases adsEnabled w s' <;> cases adSuppressed session <;> rfl
    have hplays : (currentAd w.stationId s').isSome := by
      rw [Option.isSome_iff_ne_none]
      exact fun hnone => currentAd_eq_none.mp hnone id (hcalm.ads id hid)
    rw [had, hfiles.host] at htrack
    exact huri (hfiles.uri _ ▸ hads hplays track htrack)
  unfold startNext
  rw [ends_bind, ends_get]
  dsimp only
  split
  · exact h
  rw [ends_bind, ends_get]
  cases hp : currentPlaying w.stationId s with
  | none =>
    have hcalm : Calm (fun _ _ => True) w.stationId s (skipDuplicatePending w s) :=
      calm_skipDuplicatePending s
    refine hchoice _ _ (h.calm hcalm)
      (fun _ id hid => currentPlaying_eq_none.mp hp id (hcalm.queue id hid)) ?_
    have hsong : songOf session none (nextPending w.stationId (skipDuplicatePending w s)) =
        nextSong w s session := by
      rw [songOf, nextSong, hp]
    rw [hsong]
    obtain ⟨items, hs⟩ := skipDuplicatePending_eq w s
    rw [hs]
    exact hw
  | some playing =>
    refine hchoice _ _ h nofun ?_
    have hsong : songOf session (some playing) (nextPending w.stationId s) =
        nextSong w s session := by
      rw [songOf, nextSong, hp]
      rfl
    rw [hsong]
    exact hw

end Choice

/-! ### Ticks and runs -/

section Ticks

variable {w : Worker} {env : Env} {s s' : Engine}

lemma OneOnAir.ends {α : Type} {x : WorkerM α} (h : OneOnAir w.stationId s)
    (hx : Moves (Calm (fun _ _ => True) w.stationId) x) :
    Ends x s (fun _ => OneOnAir w.stationId) (OneOnAir w.stationId) :=
  (keeps_of_calm _ (fun _ _ hc hs => hs.calm hc) hx).keeps h

/-- **One tick keeps one source on the air** if a playing ad waits for what comes next. -/
theorem oneOnAir_tick (h : OneOnAir w.stationId s) (hw : AdWaits w s env) :
    OneOnAir w.stationId (final (processOnce w env s)) := by
  refine Ends.final (x := processOnce w env) ?_
  refine (h.ends (calm_upkeep trivial)).bindEq fun r s₁ hr h₁ => ?_
  cases r with
  | inl outcome => exact h₁
  | inr session =>
    refine (h₁.ends (calm_advancePlayingQueueItem trivial)).bindEq fun _ s₂ hr₂ h₂ => ?_
    refine (h₂.ends (calm_advanceOthers trivial)).bindEq fun _ s₃ hr₃ h₃ => ?_
    refine startNext_ends h₃ (hw (s₃, session) ?_)
    simp [choicePoint, hr, hr₂, hr₃]

/-- **One source is on the air** in every state a run reaches from one in which no row plays, if
in each of its ticks a playing ad waits for what comes next. -/
theorem one_on_air {envs : List Env} (hrows : ∀ a, ¬ Plays w.stationId s a)
    (hm : Meets (tick w) (AdWaits w) s envs) (he : exec (tick w) s envs = some s') :
    OneOnAir w.stationId s' := by
  refine inv_of_exec (P := OneOnAir w.stationId) (fun s env s' h hw ht => ?_) ⟨?_, ?_⟩ hm he
  · cases ht
    exact oneOnAir_tick h hw
  · exact fun a _ ha => absurd ha (hrows a)
  · exact fun _ => hrows

end Ticks

/-! ### An ad and a song at once -/

/-- A tick at a time, in a world where files are there and the runtime plays what it was asked. -/
def calmWorld (time : ℚ) : Env where
  clock _ := time
  monotonic _ := time
  status _ asked := asked.map fun uri => ⟨none, none, none, true, uri⟩
  startError _ := none
  fanOut _ := false
  mediaPath path := path
  isFile _ := true
  exists_ _ := true
  probeDuration _ := none
  announcements := []
  aiService := none
  datetime text := if text = "due" then some 101 else none
  fromIso _ := none
  strptime _ := none
  stampText _ := ""
  bucketText _ := ""
  isoText _ := ""
  unquote text := text
  casefold text := text
  sha256 _ := 0

def soleWorker : Worker := ⟨1, "worker", true, ""⟩

/-- Two songs wait in the queue, and an ad is due at the second 101. -/
def twoSongsAndAd : Engine :=
  let song := fun path : String => (⟨1, "", "", path, 200, "music", true, true, 0, none⟩ : Track)
  { Engine.empty with
    tracks := ((Engine.empty.tracks.insert 1 (song "/one.mp3")).insert 2
      (song "/two.mp3")).insert 3 ⟨1, "", "", "/ad.mp3", 30, "ad", true, true, 0, none⟩
    queueItems := (Engine.empty.queueItems.insert 1 (.new 1 1 1 "one")).insert 2
      (.new 1 2 2 "two")
    adBreakItems := Engine.empty.adBreakItems.insert 1 ⟨1, 3, "due", .pending, 0, none, none⟩
    stationSettings := Engine.empty.stationSettings.insert 1
      ((∅ : Std.ExtTreeMap String String).insert "hourly_ad_enabled" "1") }

/-- A song that is pending while an ad plays starts over it. -/
theorem song_starts_over_ad :
    (∀ a, ¬ Plays 1 twoSongsAndAd a) ∧
    ∃ s', exec (tick soleWorker) twoSongsAndAd [calmWorld 100, calmWorld 101, calmWorld 102] =
        some s' ∧ ¬ OneOnAir 1 s' := by
  refine ⟨fun a => ?_, _, rfl, fun h => ?_⟩
  · cases a with
    | queue id => exact currentPlaying_eq_none.mp (by decide +kernel) id
    | ad id => exact currentAd_eq_none.mp (by decide +kernel) id
  · have hsong : ((exec (tick soleWorker) twoSongsAndAd
        [calmWorld 100, calmWorld 101, calmWorld 102]).bind fun s =>
          (currentPlaying 1 s).map (·.1)) = some 2 := by decide +kernel
    have had : ((exec (tick soleWorker) twoSongsAndAd
        [calmWorld 100, calmWorld 101, calmWorld 102]).bind fun s =>
          (currentAd 1 s).map (·.1)) = some 1 := by decide +kernel
    obtain ⟨song, hs, -⟩ := Option.map_eq_some_iff.mp hsong
    obtain ⟨ad, ha, -⟩ := Option.map_eq_some_iff.mp had
    have := h.single (.queue song.1) (.ad ad.1) (queuePlays_of_currentPlaying hs)
      (adPlays_of_currentAd ha)
    cases this

/-- A run in which nothing is next while the ad plays. -/
theorem one_on_air_songAndAd :
    OneOnAir 1 (final (processOnce soleWorker (calmWorld 102)
      (final (processOnce soleWorker (calmWorld 101)
        (final (processOnce soleWorker (calmWorld 100) (markQueueDone 2 twoSongsAndAd))))))) :=
  one_on_air (w := soleWorker) (s := markQueueDone 2 twoSongsAndAd)
    (by
      intro a
      cases a with
      | queue id => exact currentPlaying_eq_none.mp (by decide +kernel) id
      | ad id => exact currentAd_eq_none.mp (by decide +kernel) id)
    (show Meets (tick soleWorker) (AdWaits soleWorker) (markQueueDone 2 twoSongsAndAd)
      [calmWorld 100, calmWorld 101, calmWorld 102] by decide +kernel) rfl

end OnAir.OneSource
