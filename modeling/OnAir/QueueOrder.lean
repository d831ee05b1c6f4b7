import OnAir.OtherPhases

/-!
What the phases of a tick do to the queue, as far as it does not depend on which row is meant.

Most phases write the queue in two ways: they put a row behind all others, and they settle the row
that has played. An assertion about the queue that bears both is kept by all of them.
-/

namespace OnAir.QueueOrder

open BroadcastQueue OneSource OtherPhases PlayoutAdvance PlayoutTables Programs QueuePhases
  QueueUpkeep ShowPhases StationWorker OnAir.Table WorkerEnv

/-- From `s` on the program keeps `P`, however it ends. -/
structure Stays {α : Type} (P : Engine → Prop) (x : WorkerM α) (s : Engine) : Prop where
  ends : Ends x s (fun _ => P) P

lemma Stays.of_moves {α : Type} {P : Engine → Prop} {x : WorkerM α} {s : Engine}
    (h : Moves (Keeps P) x) (hs : P s) : Stays P x s := ⟨h.keeps hs⟩

lemma Stays.pure {α : Type} {P : Engine → Prop} {s : Engine} (a : α) (hs : P s) :
    Stays P (Pure.pure a : WorkerM α) s := ⟨hs⟩

lemma Stays.ite {α : Type} {P : Engine → Prop} {x y : WorkerM α} {s : Engine} {c : Prop}
    [Decidable c] (hx : c → Stays P x s) (hy : ¬ c → Stays P y s) :
    Stays P (if c then x else y) s :=
  ⟨Ends.ite (fun h => (hx h).ends) fun h => (hy h).ends⟩

/-- The rows of the station stand before position `n`. -/
def Beyond (st : ℤ) (s : Engine) (n : ℤ) : Prop :=
  ∀ (id : ℤ) (r : QueueItem), s.queueItems[id]? = some r → r.stationId = st → r.position < n

/-- An assertion about the queue and the flag of the startup sound that bears rows behind all
others. -/
structure QueueFilled (w : Worker) (P : Engine → Prop) : Prop where
  same : ∀ s t, t.queueItems = s.queueItems →
    isStartupSoundPending w t = isStartupSoundPending w s → P s → P t
  append : ∀ (s : Engine) (r : QueueItem), r.stationId = w.stationId → r.status = .pending →
    Beyond w.stationId s r.position → P s → P (insertQueue r s)

/-- An assertion that bears what a tick does besides, the filling of an empty queue, and that the
row which plays is done. -/
structure QueueBorne (w : Worker) (P : Engine → Prop) : Prop extends Beside w (Keeps P) where
  playoutHost : ∀ (item : Option ℤ) (reason : String) (s : Engine),
    Keeps P s (setCurrent w.stationId .host item reason s)
  startHost : ∀ (s : Engine) (x : Start), Keeps P s { s with starts := x :: s.starts }
  hostItems : ∀ (s : Engine) (items : Table ProgramQueueItem),
    Keeps P s { s with programQueueItems := items }
  scheduleTable : ∀ (s : Engine) (items : Table Database.ScheduleItem),
    Keeps P s { s with scheduleItems := items }
  lease : ∀ (s : Engine) (leases : Table Lease), Keeps P s { s with leases := leases }
  complete : ∀ (s : Engine) (playing : ℤ × QueueItem), P s →
    currentPlaying w.stationId s = some playing → P (markQueueDone playing.1 s)

/-- And that the rows of `ok`, the playing ones among them, are done or fail. -/
structure QueueKept (w : Worker) (ok : ℤ → Prop) (P : Engine → Prop) : Prop
    extends QueueFilled w P where
  settle : ∀ (s : Engine) (id : ℤ) (f : QueueItem → QueueItem), ok id →
    (∀ r, (f r).status = .done ∨ (f r).status = .failed) → P s → P (updateQueue id f s)
  playing : ∀ (s : Engine) (id : ℤ) (r : QueueItem), P s → s.queueItems[id]? = some r →
    r.status = .playing → ok id

lemma beyond_nextPosition (st : ℤ) (s : Engine) : Beyond st s (nextPosition st s) := by
  intro id r hr hst
  have hmem : r.position ∈ ((rows s.queueItems).filter (·.2.stationId = st)).map (·.2.position) :=
    List.mem_map.mpr ⟨(id, r), List.mem_filter.mpr ⟨mem_rows.mpr hr, by simpa using hst⟩, rfl⟩
  unfold nextPosition
  cases hmax : (((rows s.queueItems).filter (·.2.stationId = st)).map (·.2.position)).max? with
  | none => rw [List.max?_eq_none_iff.mp hmax] at hmem; cases hmem
  | some m => exact Int.lt_add_one_of_le ((List.max?_eq_some_iff.mp hmax).2 _ hmem)

namespace QueueFilled

variable {w : Worker} {env : Env} {site : Site} {P : Engine → Prop}

lemma other (h : QueueFilled w P) {g : Engine → Engine}
    (hg : ∀ s, (g s).queueItems = s.queueItems ∧ (g s).stationSettings = s.stationSettings)
    (s : Engine) : Keeps P s (g s) :=
  h.same s _ (hg s).1 (by rw [isStartupSoundPending, isStartupSoundPending, setting, setting,
    (hg s).2])

lemma upsertSetting (h : QueueFilled w P) {key : String} (hkey : key ≠ "_startup_sound_pending")
    (value : String) (s : Engine) :
    Keeps P s (PlayoutTables.upsertSetting w.stationId key value s) :=
  h.same s _ rfl (by rw [isStartupSoundPending, isStartupSoundPending,
    setting_upsertSetting hkey.symm])

lemma enqueue (h : QueueFilled w P) (track : ℤ) (key : String) (s : Engine) :
    Keeps P s (PlayoutTables.enqueue w.stationId track key s).1 := by
  intro hs
  unfold PlayoutTables.enqueue
  split
  · exact hs
  · exact h.upsertSetting (by decide) _
      (insertQueue (.new w.stationId track (nextPosition w.stationId s) key) s)
      (h.append s _ rfl rfl (beyond_nextPosition w.stationId s) hs)

lemma ensureFilled (h : QueueFilled w P) (s : Engine) :
    Keeps P s (BroadcastQueue.ensureFilled w.stationId s) := by
  intro hs
  unfold BroadcastQueue.ensureFilled ensureReadyForPlayback
  dsimp only
  split
  · exact hs
  split
  · exact hs
  · exact Runs.inv_of_foldl (P := P) (fun s' _ hs => h.enqueue _ _ s' hs) _ hs

lemma broadcastQueue (h : QueueFilled w P) :
    Moves (Keeps P) (WorkerEnv.broadcastQueue w env site) :=
  Moves.ite (fun _ => Moves.modify h.ensureFilled) fun _ => Moves.pure _

end QueueFilled

/-- A program that looks at the state it is started in. -/
lemma bindGet {α : Type} {P : Engine → Prop} {f : Engine → WorkerM α}
    (hf : ∀ s, P s → Ends (f s) s (fun _ => P) P) : Moves (Keeps P) (get >>= f) := by
  refine ⟨fun s => ?_⟩
  rw [ends_bind, ends_get]
  by_cases hs : P s
  · exact (hf s hs).mono (fun _ _ ht _ => ht) fun _ ht _ => ht
  · unfold Ends
    cases f s s with
    | ok a t => exact fun h => absurd h hs
    | error e t => exact fun h => absurd h hs

namespace QueueBorne

variable {w : Worker} {env : Env} {s : Engine} {site : Site} {P : Engine → Prop}

lemma setPlayoutState (h : QueueBorne w P) (source : PlayoutSource) (item : Option ℤ)
    (reason : String) : Moves (Keeps P) (WorkerEnv.setPlayoutState w source item reason) := by
  by_cases hsource : source = .host
  · subst hsource
    exact Moves.modify (h.playoutHost item reason)
  · exact h.toShows.setPlayoutState hsource item reason

lemma startsAt (h : QueueBorne w P) {kind : StartKind} : StartsAt env (Keeps P) kind site :=
  fun s x _ _ => h.startHost s x

/-- The row that plays is completed. -/
lemma completeQueueItem (h : QueueBorne w P) {playing : ℤ × QueueItem} (hs : P s)
    (hp : currentPlaying w.stationId s = some playing) :
    Ends (WorkerEnv.completeQueueItem w env site playing) s (fun _ => P) P := by
  unfold WorkerEnv.completeQueueItem
  rw [ends_bind, ends_modify]
  have hrest : Moves (Keeps P) (do
      WorkerEnv.setPlayoutState w .none none "queue_track_complete"
      if 0 < playing.2.trackId then modify (markPlayed playing.2.trackId (env.stamp site))
      WorkerEnv.broadcastQueue w env site) :=
    (h.setPlayoutState ..).bind fun _ => Moves.ite
      (fun _ => Moves.bindModify (h.played _ _) fun _ => h.toShows.broadcast)
      fun _ => h.toShows.broadcast
  exact hrest.keeps (h.complete s playing hs hp)

lemma finishPlayingQueueItem (h : QueueBorne w P) :
    Moves (Keeps P) (WorkerEnv.finishPlayingQueueItem w env) := by
  refine bindGet fun s hs => ?_
  cases hp : currentPlaying w.stationId s with
  | none => exact hs
  | some playing => exact h.completeQueueItem hs hp

/-- Rows of other stations fail, where it keeps `P`. -/
lemma failCrossStationQueueItems (h : QueueBorne w P) (hs : P s)
    (hfailed : P ((crossStationItems w s).foldl (fun s id => markQueueFailed id s) s)) :
    Stays P (QueueUpkeep.failCrossStationQueueItems w env) s := by
  refine ⟨?_⟩
  unfold QueueUpkeep.failCrossStationQueueItems
  rw [ends_bind, ends_get]
  dsimp only
  split_ifs
  · exact hs
  rw [ends_bind, ends_modify]
  have hrest : Moves (Keeps P) (do
      let playout := current w.stationId (← get)
      if playout.source = .manual && playout.itemId.any (· ∈ crossStationItems w s) then
        WorkerEnv.setPlayoutState w .none none "manual_cross_station_track_quarantined"
      WorkerEnv.broadcastQueue w env .quarantine) :=
    Moves.bindGet fun s' => Moves.ite
      (fun _ => (h.setPlayoutState ..).bind fun _ => h.toShows.broadcast)
      fun _ => h.toShows.broadcast
  exact hrest.keeps hfailed

/-! ### The advance of the queue -/

/-- The row that plays is started again, or it fails. -/
lemma restartQueueItem (h : QueueBorne w P) {playing : ℤ × QueueItem}
    (hfail : ∀ s, Keeps P s (markQueueFailed playing.1 s)) (offset : ℚ) :
    Moves (Keeps P) (PlayoutAdvance.restartQueueItem w env playing offset) := by
  have hstop : ∀ reason : String, Moves (Keeps P) (do
      modify (markQueueFailed playing.1)
      WorkerEnv.setPlayoutState w .none none reason) := fun reason =>
    Moves.bindModify hfail fun _ => h.setPlayoutState _ _ _
  unfold PlayoutAdvance.restartQueueItem
  refine Moves.ite (fun _ => Moves.pure _) fun _ => Moves.bindGet fun s => ?_
  dsimp only
  refine Moves.ite (fun _ => hstop _) fun _ => ?_
  refine Moves.bind (Moves.bindGet fun _ => Moves.pure _) fun status => ?_
  refine Moves.ite (fun _ => Moves.pure _) fun _ => ?_
  refine (moves_restartAttemptAllowed h.attempts ..).bind fun refusal => ?_
  cases refusal with
  | some reason => exact hstop _
  | none =>
    refine Moves.tryCatch ?_ fun _ => hstop _
    exact (h.startsAt.startStation ..).bind fun _ => (h.setPlayoutState ..).bind
      fun _ => h.toShows.broadcast

/-- The row that plays is completed, or it is started again, unless it is a jingle. -/
theorem advancePlayingQueueItem (h : QueueBorne w P)
    (hrestart : ∀ (s : Engine) (playing : ℤ × QueueItem) (offset : ℚ), P s →
      currentPlaying w.stationId s = some playing → kindOf s playing.2.trackId ≠ "jingle" →
        Stays P (PlayoutAdvance.restartQueueItem w env playing offset) s) :
    Moves (Keeps P) (PlayoutAdvance.advancePlayingQueueItem w env) := by
  unfold PlayoutAdvance.advancePlayingQueueItem
  refine bindGet fun s hs => ?_
  cases hp : playingSince w s with
  | none => exact hs
  | some playing =>
    obtain ⟨playing, startedAt⟩ := playing
    have hcurrent : currentPlaying w.stationId s = some playing := by
      obtain ⟨r, hr, hmap⟩ := Option.bind_eq_some_iff.mp hp
      obtain ⟨t, -, heq⟩ := Option.map_eq_some_iff.mp hmap
      cases heq
      exact hr
    have hcomplete : Stays P (WorkerEnv.completeQueueItem w env .advanceComplete playing) s :=
      ⟨h.completeQueueItem hs hcurrent⟩
    have hagain : ∀ offset, Stays P (if kindOf s playing.2.trackId = "jingle" then
        WorkerEnv.completeQueueItem w env .advanceComplete playing
        else PlayoutAdvance.restartQueueItem w env playing offset) s := fun offset =>
      Stays.ite (fun _ => hcomplete) fun hkind => hrestart s playing offset hs hcurrent hkind
    have hstay : Stays P (Pure.pure () : WorkerM Unit) s := .pure () hs
    dsimp only
    refine Stays.ends ?_
    refine Stays.ite (fun _ => hagain _) fun _ => Stays.ite (fun _ => hcomplete) fun _ => ?_
    refine Stays.ite (fun _ => Stays.ite (fun _ => hcomplete) fun _ => hstay) fun _ => ?_
    refine Stays.ite (fun _ => Stays.ite (fun _ => hstay) fun _ => hcomplete) fun _ => ?_
    exact Stays.ite (fun _ => hagain _) fun _ => hstay

lemma advanceHostTrack (h : QueueBorne w P) :
    Moves (Keeps P) (PlayoutAdvance.advanceHostTrack w env) :=
  h.toEffects.advanceHostTrack fun _ s => h.hostItems s _

lemma tryAcquire (h : QueueBorne w P) (s : Engine) (now : ℚ) :
    Keeps P s (PlayoutTables.tryAcquire w.stationId w.workerId now s).1 := by
  unfold PlayoutTables.tryAcquire
  dsimp only
  split_ifs
  · exact h.lease s _
  · exact fun hs => hs

/-! ### The choice -/

lemma playAd (h : QueueBorne w P) (item : ℤ × AdBreakItem) :
    Moves (Keeps P) (StationWorker.playManagedItem w env (managedAd env item)) :=
  h.playManagedItem h.startsAt (nofun) (fun s => h.adTable s _) (fun s => h.adTable s _)
    (fun s => h.adTable s _) fun s => h.adTable s _

lemma playScheduleItem (h : QueueBorne w P) (item : ℤ × Database.ScheduleItem) :
    Moves (Keeps P) (StationWorker.playManagedItem w env (managedSchedule item)) :=
  h.playManagedItem h.startsAt (nofun) (fun s => h.scheduleTable s _) (fun s => h.scheduleTable s _)
    (fun s => h.scheduleTable s _) fun s => h.scheduleTable s _

lemma playHostTrack (h : QueueBorne w P) (item : ℤ × ProgramQueueItem) :
    Moves (Keeps P) (StationWorker.playHostTrack w env item) :=
  h.toEffects.playHostTrack h.startsAt h.finishPlayingQueueItem h.playoutHost
    (fun _ s => h.hostItems s _) item

variable {Q : Engine → Prop}

/-- The choice keeps `P`, but where it starts the row of the queue that was read. -/
lemma startSource_ends (h : QueueBorne w P) (hQ : ∀ t, P t → Q t) {session : Option Session}
    {playing pending : Option (ℤ × QueueItem)}
    (hmanual : ∀ item, pending = some item → playing = none → hostPending w s = none →
      onBreak session = false →
        Ends (StationWorker.playManagedItem w env (managedQueueItem env item)) s (fun _ => Q) Q)
    (dueAd : Option (ℤ × AdBreakItem)) (hs : P s) :
    Ends (startSource w env playing pending dueAd session) s (fun _ => Q) Q := by
  have hother : ∀ {x : WorkerM Outcome}, Moves (Keeps P) x → Ends x s (fun _ => Q) Q := fun hx =>
    (hx.keeps hs).mono (fun _ => hQ) hQ
  unfold startSource
  rw [ends_bind, ends_get]
  dsimp only
  generalize hsource : chooseSource _ _ _ _ _ = source
  split
  next item _ => exact hother (h.playHostTrack item)
  next item =>
    obtain ⟨hhost, hfree⟩ := chooseSource_manual hsource
    have hfree' : playing = none ∧ onBreak session = false := by
      by_contra hne
      simp [hne] at hfree
    exact hmanual item rfl hfree'.1 (by simpa using hhost) hfree'.2
  next => exact hother (h.finishPlayingQueueItem.bind fun _ => h.playAd _)
  next => exact hother (h.finishPlayingQueueItem.bind fun _ => h.playScheduleItem _)
  next =>
    exact hother (Moves.ite (fun _ => (h.startsAt.startStation ..).bind fun _ => Moves.pure _)
      fun _ => Moves.pure _)
  next => exact hother (Moves.ite (fun _ => Moves.pure _) fun _ => Moves.pure _)

/-- The rest of a tick from its choice on. -/
theorem startNext_ends (h : QueueBorne w P) (hQ : ∀ t, P t → Q t) {session : Option Session}
    (hs : P s)
    (hskip : currentPlaying w.stationId s = none → (current w.stationId s).source ≠ .host →
      P (skipDuplicatePending w s))
    (hmanual : ∀ (d₀ d : Engine) item, P d₀ → P d → SameFiles w s d →
      nextPending w.stationId d₀ = some item → currentPlaying w.stationId s = none →
      (current w.stationId s).source ≠ .host → hostPending w s = none → onBreak session = false →
        Ends (StationWorker.playManagedItem w env (managedQueueItem env item)) d (fun _ => Q) Q) :
    Ends (startNext w env session) s (fun _ => Q) Q := by
  unfold startNext
  rw [ends_bind, ends_get]
  by_cases hplayout : (current w.stationId s).source = .host
  · rw [if_pos hplayout]
    exact hQ s hs
  rw [if_neg hplayout, ends_bind, ends_get]
  dsimp only
  have hrest : ∀ d₀ (playing : Option (ℤ × QueueItem)), P d₀ → SameFiles w s d₀ →
      (playing = none → currentPlaying w.stationId s = none) →
      Ends (do
        let pending := nextPending w.stationId (← get)
        let dueAd ← nextDueAdIfAllowed w env .choiceDue
        startSource w env playing pending dueAd session) d₀ (fun _ => Q) Q := by
    intro d₀ playing hd₀ hfiles hplaying
    rw [ends_bind, ends_get]
    refine Ends.bind (((h.nextDueAdIfAllowed.keeps hd₀).and
      (Covers.sameFiles_nextDueAdIfAllowed.after hfiles)).mono (fun _ _ he => he)
      fun e he => hQ e he.1) fun dueAd d hd => ?_
    refine h.startSource_ends hQ (fun item hitem hp hhost hbreak => ?_) dueAd hd.1
    exact hmanual d₀ d item hd₀ hd.1 hd.2 hitem (hplaying hp) hplayout
      (hd.2.host ▸ hhost) hbreak
  cases hp : currentPlaying w.stationId s with
  | none =>
    refine hrest _ none (hskip hp hplayout) ?_ fun _ => hp
    obtain ⟨items, hs'⟩ := skipDuplicatePending_eq w s
    rw [hs']
    exact .of_eq rfl rfl rfl rfl
  | some playing => exact hrest s (some playing) hs (refl_of (SameFiles w) s) nofun

end QueueBorne

namespace QueueKept

variable {w : Worker} {env : Env} {s : Engine} {site : Site} {ok : ℤ → Prop}
  {P : Engine → Prop}

lemma beside (h : QueueKept w ok P) : Beside w (Keeps P) where
  preorder := inferInstance
  playout _ _ _ _ s := h.same s _ rfl rfl
  filled := h.ensureFilled
  ads _ _ _ s := h.same s _ rfl rfl
  sessions s _ := h.same s _ rfl rfl
  automation := h.upsertSetting (by decide) _
  start s _ _ := h.same s _ rfl rfl
  adTable s _ := h.same s _ rfl rfl
  attempts s _ := h.same s _ rfl rfl
  played _ _ s := h.same s _ rfl rfl

lemma ok_of_currentPlaying (h : QueueKept w ok P) (hs : P s) {playing : ℤ × QueueItem}
    (hp : currentPlaying w.stationId s = some playing) : ok playing.1 := by
  obtain ⟨hrow, hok⟩ := List.mem_filter.mp (List.mem_of_mem_head? hp)
  refine h.playing s playing.1 playing.2 hs (mem_rows.mp hrow) ?_
  simp only [Bool.and_eq_true, decide_eq_true_eq, List.mem_singleton] at hok
  exact hok.2

/-- It bears all that a tick does besides. -/
lemma borne (h : QueueKept w ok P) : QueueBorne w P where
  toBeside := h.beside
  playoutHost _ _ s := h.same s _ rfl rfl
  startHost s _ := h.same s _ rfl rfl
  hostItems s _ := h.same s _ rfl rfl
  scheduleTable s _ := h.same s _ rfl rfl
  lease s _ := h.same s _ rfl rfl
  complete s _ hs hp := h.settle s _ _ (h.ok_of_currentPlaying hs hp) (fun _ => .inl rfl) hs

/-! ### Effects that phases share -/

/-- Rows of other stations fail, if they may. -/
lemma failCrossStationQueueItems (h : QueueKept w ok P) (hs : P s)
    (hok : ∀ id ∈ crossStationItems w s, ok id) :
    Stays P (QueueUpkeep.failCrossStationQueueItems w env) s := by
  refine h.borne.failCrossStationQueueItems hs ?_
  generalize crossStationItems w s = ids at hok
  induction ids generalizing s with
  | nil => exact hs
  | cons id ids ih =>
    exact ih (h.settle s id _ (hok id (by simp)) (fun _ => .inr rfl) hs)
      fun j hj => hok j (by simp [hj])

/-! ### Filling -/

lemma beyond_insert {st n : ℤ} {r : QueueItem} (hs : Beyond st s n) (hr : r.position = n) :
    Beyond st (insertQueue r s) (n + 1) := by
  intro id q hq hst
  rw [insertQueue, lookup_insert] at hq
  split_ifs at hq
  · obtain rfl := Option.some.inj hq
    exact hr ▸ Int.lt_succ _
  · exact (hs id q hq hst).trans (Int.lt_succ n)

/-- What the filling knows of its next row: it stands behind all others. -/
structure Fillable (w : Worker) (P : Engine → Prop) (f : Filling) (s : Engine) : Prop where
  holds : P s
  beyond : Beyond w.stationId s f.nextPos
  committed : P f.committed

lemma insertDueJingle (h : QueueKept w ok P) (sweeper : Sweeper) {f : Filling}
    (hf : Fillable w P f s) :
    Ends (QueueUpkeep.insertDueJingle w sweeper f) s (fun r t => Fillable w P r.1 t) P := by
  unfold QueueUpkeep.insertDueJingle
  rw [ends_bind, ends_get]
  dsimp only
  split
  · exact hf
  split_ifs
  · exact ⟨hf.holds, beyond_nextPosition w.stationId s, hf.committed⟩
  · rw [ends_bind, ends_modify]
    exact ⟨h.append s _ rfl rfl hf.beyond hf.holds, beyond_insert hf.beyond rfl, hf.committed⟩

lemma probeAndStore_kept (track : ℤ) (s : Engine) :
    (QueueUpkeep.probeAndStore env track s).1.queueItems = s.queueItems ∧
      (QueueUpkeep.probeAndStore env track s).1.stationSettings = s.stationSettings := by
  unfold QueueUpkeep.probeAndStore
  split
  · exact ⟨rfl, rfl⟩
  split
  · exact ⟨rfl, rfl⟩
  dsimp only
  split
  · exact ⟨rfl, rfl⟩
  split <;> exact ⟨rfl, rfl⟩

lemma insertMusic (h : QueueKept w ok P) {f : Filling} (hf : Fillable w P f s) (track : ℤ) :
    Ends (QueueUpkeep.insertMusic w env f track) s (fun f' t => Fillable w P f' t) P := by
  have hkept : ∀ s, _ := @probeAndStore_kept env track
  have hitems := (hkept s).1
  have hprobe : P (QueueUpkeep.probeAndStore env track s).1 := h.other hkept s hf.holds
  unfold QueueUpkeep.insertMusic
  rw [ends_bind, ends_get]
  rcases hp : QueueUpkeep.probeAndStore env track s with ⟨s', duration, stored⟩
  rw [hp] at hitems hprobe
  dsimp only at hitems hprobe ⊢
  have hbeyond : Beyond w.stationId s' f.nextPos := fun id r hr => by
    rw [hitems] at hr
    exact hf.beyond id r hr
  have hcommitted : P (if stored then s' else f.committed) := by
    split_ifs
    · exact hprobe
    · exact hf.committed
  rw [ends_bind, ends_set]
  generalize (if stored then s' else f.committed) = committed at hcommitted ⊢
  split_ifs
  · exact hcommitted
  · rw [ends_bind, ends_modify]
    exact ⟨h.append s' _ rfl rfl hbeyond hprobe, beyond_insert hbeyond rfl, hcommitted⟩

lemma chooseMusic_kept (f : Filling) (s : Engine) :
    (chooseMusic w env f s).1.nextPos = f.nextPos ∧
      (chooseMusic w env f s).1.committed = f.committed := by
  unfold chooseMusic
  dsimp only
  split
  · exact ⟨rfl, rfl⟩
  split_ifs <;> exact ⟨rfl, rfl⟩

lemma autofillLoop (h : QueueKept w ok P) (sweeper : Sweeper) (n : ℕ) {f : Filling}
    (hf : Fillable w P f s) :
    Ends (QueueUpkeep.autofillLoop w env sweeper n f) s (fun _ => P) P := by
  induction n generalizing s f with
  | zero => exact hf.holds
  | succ n ih =>
    unfold QueueUpkeep.autofillLoop
    split_ifs
    · refine (h.insertDueJingle sweeper hf).bind fun r s' hr => ?_
      obtain ⟨f', go⟩ := r
      dsimp only
      split_ifs
      · exact ih hr
      · rw [ends_bind, ends_get]
        have hkept := @chooseMusic_kept w env f' s'
        rcases hm : chooseMusic w env f' s' with ⟨f'', track⟩
        rw [hm] at hkept
        dsimp only at hr hkept ⊢
        have hf' : Fillable w P f'' s' :=
          ⟨hr.holds, by rw [hkept.1]; exact hr.beyond, by rw [hkept.2]; exact hr.committed⟩
        cases track with
        | none => exact hr.holds
        | some track => exact (h.insertMusic hf' track).bind fun f s hf => ih hf
    · exact hf.holds

theorem autofillQueue (h : QueueKept w ok P) :
    Moves (Keeps P) (QueueUpkeep.autofillQueue w env) := by
  refine bindGet fun s hs => ?_
  dsimp only
  split_ifs
  · cases sweeperSettings w.stationId s with
    | error e => exact hs
    | ok sweeper => exact h.autofillLoop sweeper 100 ⟨hs, beyond_nextPosition w.stationId s, hs⟩
  · exact hs

/-! ### The advance of the queue -/

theorem advancePlayingQueueItem (h : QueueKept w ok P) :
    Moves (Keeps P) (PlayoutAdvance.advancePlayingQueueItem w env) :=
  h.borne.advancePlayingQueueItem fun s _ offset hs hp _ => .of_moves (h.borne.restartQueueItem
    (fun s => h.settle s _ _ (h.ok_of_currentPlaying ‹_› hp) fun _ => .inr rfl) offset) hs

end QueueKept

end OnAir.QueueOrder
