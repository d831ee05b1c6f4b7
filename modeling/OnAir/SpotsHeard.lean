import OnAir.OneSource

/-!
Spots are heard in full: until an ad or a scheduled item that was started is over, no song of the
queue and no fallback is started.

Nothing keeps the time of a spot. An ad row that plays does not hold back the queue, and a
scheduled item is done as soon as it is started.
-/

namespace OnAir.SpotsHeard

open CalmPhases OneSource PlayoutAdvance PlayoutTables Programs Runs StationWorker OnAir.Table
  WorkerEnv

/-! ### Spots -/

def SpotKind (kind : StartKind) : Prop := kind = .ads ∨ kind = .schedule

/-- An ad or a scheduled item with a duration was started. -/
def IsSpot (x : Start) : Prop := SpotKind x.kind ∧ 0 < x.duration

/-- What may not be started while a spot is on the air. -/
def Cuts (kind : StartKind) : Prop := kind = .manual ∨ kind = .manualRestart ∨ kind = .fallback

/-- The starts of the station leave its spots their time. -/
def Heard (st : ℤ) (s : Engine) : Prop :=
  s.starts.Pairwise fun x y =>
    x.stationId = st → y.stationId = st → IsSpot y → Cuts x.kind → y.time + y.duration ≤ x.time

/-- A spot of the station is not over. -/
def SpotOnAir (st : ℤ) (s : Engine) (t : ℚ) : Prop :=
  ∃ y ∈ s.starts, y.stationId = st ∧ IsSpot y ∧ t < y.time + y.duration

instance (kind : StartKind) : Decidable (SpotKind kind) := by
  unfold SpotKind
  infer_instance

instance (kind : StartKind) : Decidable (Cuts kind) := by
  unfold Cuts
  infer_instance

instance (x : Start) : Decidable (IsSpot x) := by
  unfold IsSpot
  infer_instance

instance (st : ℤ) (s : Engine) : Decidable (Heard st s) := by
  unfold Heard
  infer_instance

instance (st : ℤ) (s : Engine) (t : ℚ) : Decidable (SpotOnAir st s t) := by
  unfold SpotOnAir
  infer_instance

/-! ### The condition on a tick -/

/-- The state in which a tick looks at the song that plays. -/
def advancePoint (w : Worker) (env : Env) (s : Engine) : Option Engine :=
  match upkeep w env s with
  | .ok (.inr _) s₁ => some s₁
  | _ => none

/-- A song plays whose time is not over, and the runtime does not play it. -/
def restartDue (w : Worker) (env : Env) (s : Engine) : Bool :=
  (playingSince w s).any fun (playing, startedAt) =>
    let uri := trackUri env s playing.2.trackId
    w.hasRuntime && kindOf s playing.2.trackId ≠ "jingle" && uri ≠ "" &&
      env.clock .advance - startedAt <
        advanceAt (durationOf s playing.2.trackId) (crossfadeAfter w s playing) &&
      !playbackMatches env (env.status .restartQueue (lastAsked w s)) uri

/-- What is next is the host's, or a song without a file, or no song while an ad is due, a
scheduled item is ready, a song plays or there is no fallback. -/
def nextWaits (w : Worker) (env : Env) (s : Engine) (session : Option Session) : Prop :=
  (current w.stationId s).source = .host ∨ (hostPending w s).isSome ∨
    match nextSong w s session with
    | some song => trackUri env s song.2.trackId = ""
    | none =>
      (nextAd w env s session).isSome ∨
        (nextReady w.stationId s env.datetime (env.stamp .choiceReady)).isSome ∨
        (currentPlaying w.stationId s).isSome ∨ w.fallbackUri = ""

instance (w : Worker) (env : Env) (s : Engine) (session : Option Session) :
    Decidable (nextWaits w env s session) := by
  unfold nextWaits
  cases nextSong w s session <;> infer_instance

/-- While a spot is on the air, no song is to be started again, and what is next waits. -/
structure SpotWaits (w : Worker) (s : Engine) (env : Env) : Prop where
  row : ∀ s₁ ∈ advancePoint w env s, SpotOnAir w.stationId s₁ (env.clock .restartQueue) →
    restartDue w env s₁ = false
  choice : ∀ c ∈ choicePoint w env s, SpotOnAir w.stationId c.1 (env.clock .start) →
    nextWaits w env c.1 c.2

instance (w : Worker) (s : Engine) (env : Env) : Decidable (SpotWaits w s env) :=
  decidable_of_iff (_ ∧ _) ⟨fun h => ⟨h.1, h.2⟩, fun h => ⟨h.row, h.choice⟩⟩

/-! ### Starts of one kind -/

section Adds

variable {K : StartKind → ℚ → Prop} {st : ℤ} {s s' : Engine} {w : Worker} {env : Env}
  {kind : StartKind} {t : ℚ}

/-- What is started in between is in `K`. -/
def Adds (K : StartKind → ℚ → Prop) (s s' : Engine) : Prop :=
  ∃ new, s'.starts = new ++ s.starts ∧ ∀ x ∈ new, K x.kind x.time

/-- Only starts of one kind, at one time. -/
def Only (kind : StartKind) (t : ℚ) (k : StartKind) (t' : ℚ) : Prop := k = kind ∧ t' = t

/-- Starts of one kind leave the spots their time, if they are no cuts or no spot is on the
air. -/
lemma Heard.adds (h : Heard st s) (ha : Adds (Only kind t) s s')
    (hcut : Cuts kind → ¬ SpotOnAir st s t) : Heard st s' := by
  obtain ⟨new, hn, honly⟩ := ha
  unfold Heard
  rw [hn, List.pairwise_append]
  refine ⟨List.pairwise_of_forall_mem_list fun x hx y hy _ _ hspot hc => ?_, h, ?_⟩
  · -- no kind is a spot and a cut
    have hx' := (honly x hx).1
    have hy' := (honly y hy).1
    rw [hx'] at hc
    have hk := hspot.1
    rw [hy'] at hk
    rcases hk with rfl | rfl <;> exact absurd hc (by decide)
  · intro x hx y hy _ hyst hspot hc
    obtain ⟨hxk, hxt⟩ := honly x hx
    rw [hxk] at hc
    rw [hxt]
    exact not_lt.mp fun hlt => hcut hc ⟨y, hy, hyst, hspot, hlt⟩

lemma Heard.of_eq (h : Heard st s) (he : s'.starts = s.starts) : Heard st s' := by
  unfold Heard
  rwa [he]

lemma SpotOnAir.of_eq (h : SpotOnAir st s' t) (he : s'.starts = s.starts) : SpotOnAir st s t := by
  unfold SpotOnAir at h ⊢
  rwa [he] at h

lemma starts_of_calm (h : Calm (fun _ _ => False) st s s') : s'.starts = s.starts := by
  obtain ⟨new, hn, hno⟩ := h.starts
  cases new with
  | nil => exact hn
  | cons x xs => exact (hno x (by simp)).elim

/-- A phase that starts nothing but what is of one kind. -/
lemma Heard.ends {α : Type} {x : WorkerM α} (h : Heard st s) (kind : StartKind) (t : ℚ)
    (hx : Moves (Calm (Only kind t) st) x) (hcut : Cuts kind → ¬ SpotOnAir st s t) :
    Ends x s (fun _ => Heard st) (Heard st) :=
  (hx.ends s).mono (fun _ _ hc => h.adds hc.starts hcut) fun _ hc => h.adds hc.starts hcut

end Adds

/-! ### The song that plays -/

section Advance

-- the kind of a track is not to be computed
attribute [local irreducible] kindOf

variable {st : ℤ} {s : Engine} {w : Worker} {env : Env}

lemma quiet_restartQueueItem {playing : ℤ × QueueItem} {offset : ℚ}
    (hno : w.hasRuntime → trackUri env s playing.2.trackId ≠ "" →
      playbackMatches env (env.status .restartQueue (lastAsked w s))
        (trackUri env s playing.2.trackId)) :
    Ends (restartQueueItem w env playing offset) s (fun _ => Calm (fun _ _ => False) st s)
      (Calm (fun _ _ => False) st s) := by
  have hgive : ∀ reason, Moves (Calm (fun _ _ => False) st) (do
      modify (markQueueFailed playing.1)
      setPlayoutState w .none none reason : WorkerM Unit) := fun reason =>
    Moves.bindModify calm_markQueueFailed fun _ => calm_setPlayoutState (by decide) _ _
  unfold restartQueueItem
  split
  · exact Calm.refl s
  next hrun =>
    rw [ends_bind, ends_get]
    dsimp only
    split
    · exact (hgive _).ends s
    next huri =>
      have hmatch := hno (by simpa using hrun) huri
      unfold runtimeStatus
      rw [ends_bind, ends_bind, ends_get, ends_pure, if_pos hmatch]
      exact Calm.refl s

/-- Where no restart is due, the advance of the song that plays starts nothing. -/
lemma quiet_advancePlayingQueueItem (h : restartDue w env s = false) :
    Ends (advancePlayingQueueItem w env) s (fun _ => Calm (fun _ _ => False) st s)
      (Calm (fun _ _ => False) st s) := by
  have hdone : ∀ playing, Ends (completeQueueItem w env .advanceComplete playing) s
      (fun _ => Calm (fun _ _ => False) st s) (Calm (fun _ _ => False) st s) :=
    fun playing => (calm_completeQueueItem playing).ends s
  unfold advancePlayingQueueItem
  rw [ends_bind, ends_get]
  cases hp : playingSince w s with
  | none => exact Calm.refl s
  | some since =>
    obtain ⟨playing, startedAt⟩ := since
    have hrestart : ∀ offset, kindOf s playing.2.trackId ≠ "jingle" →
        env.clock .advance - startedAt <
          advanceAt (durationOf s playing.2.trackId) (crossfadeAfter w s playing) →
        Ends (restartQueueItem w env playing offset) s
          (fun _ => Calm (fun _ _ => False) st s) (Calm (fun _ _ => False) st s) := by
      intro offset hkind hearly
      refine quiet_restartQueueItem fun hrun huri => ?_
      rw [restartDue, hp] at h
      simpa [hrun, huri, hkind, hearly] using h
    dsimp only
    refine Ends.ite (fun hc => ?_) fun _ => ?_
    · simp only [Bool.and_eq_true, decide_eq_true_eq] at hc
      exact Ends.ite (fun _ => hdone _) fun hkind => hrestart _ hkind hc.1.1.1.2
    refine Ends.ite (fun _ => hdone _) fun _ => ?_
    refine Ends.ite (fun _ => Ends.ite (fun _ => hdone _) fun _ => Calm.refl s) fun _ => ?_
    refine Ends.ite (fun _ => Ends.ite (fun _ => Calm.refl s) fun _ => hdone _) fun hlate => ?_
    refine Ends.ite (fun _ => ?_) fun _ => Calm.refl s
    exact Ends.ite (fun _ => hdone _) fun hkind => hrestart _ hkind (not_le.mp hlate)

lemma advance_heard (h : Heard w.stationId s)
    (hw : SpotOnAir w.stationId s (env.clock .restartQueue) → restartDue w env s = false) :
    Ends (advancePlayingQueueItem w env) s (fun _ => Heard w.stationId)
      (Heard w.stationId) := by
  by_cases hspot : SpotOnAir w.stationId s (env.clock .restartQueue)
  · have hquiet : Ends (advancePlayingQueueItem w env) s
        (fun _ => Calm (fun _ _ => False) w.stationId s)
        (Calm (fun _ _ => False) w.stationId s) := quiet_advancePlayingQueueItem (hw hspot)
    exact hquiet.mono (fun _ _ hc => h.of_eq (starts_of_calm hc))
      fun _ hc => h.of_eq (starts_of_calm hc)
  · exact h.ends _ _ (calm_advancePlayingQueueItem ⟨rfl, rfl⟩) fun _ => hspot

end Advance

/-! ### The choice -/

section Choice

variable {s s₀ : Engine} {w : Worker} {env : Env}

/-- What is started for a row is of its kind, and nothing is where its track has no file. -/
lemma playManagedItem_heard (h : Heard w.stationId s) {m : Managed}
    (hplaying : ∀ s, (m.markPlaying s).starts = s.starts)
    (hfiles : ∀ s, (m.markPlaying s).tracks = s.tracks)
    (hdone : ∀ s, Calm (Only m.kind (env.clock .start)) w.stationId s (m.markDone s))
    (hfailed : ∀ s, Calm (fun _ _ => False) w.stationId s (m.markFailed s))
    (hrestore : ∀ s, Calm (Only m.kind (env.clock .start)) w.stationId s (m.restore s))
    (hcut : trackUri env s m.trackId ≠ "" → Cuts m.kind →
      ¬ SpotOnAir w.stationId s (env.clock .start)) :
    Ends (playManagedItem w env m) s (fun _ => Heard w.stationId) (Heard w.stationId) := by
  have huri : ∀ reason, trackUri env (setCurrent w.stationId m.source (some m.itemId) reason
      (m.markPlaying s)) m.trackId = trackUri env s m.trackId := by
    intro reason
    unfold trackUri setCurrent
    rw [hfiles]
  have hmarked : ∀ reason, Heard w.stationId
      (setCurrent w.stationId m.source (some m.itemId) reason (m.markPlaying s)) := fun reason =>
    h.of_eq (hplaying s)
  unfold playManagedItem setPlayoutState
  rw [ends_bind, ends_modify, ends_bind, ends_modify, ends_bind, ends_get]
  dsimp only
  rw [huri]
  split_ifs with hmiss
  · rw [ends_bind, ends_modify, ends_bind, ends_modify, ends_pure]
    exact h.of_eq ((starts_of_calm (hfailed _)).trans (hplaying s))
  · refine (hmarked _).ends _ _ (calm_startManagedItem ⟨rfl, rfl⟩ hdone
      (fun s => (hfailed s).mono fun _ _ h => h.elim) hrestore _) ?_
    exact fun hc hspot => hcut hmiss hc (hspot.of_eq (hplaying s))

lemma quiet_finishPlayingQueueItem :
    Ends (finishPlayingQueueItem w env) s (fun _ s' => s'.starts = s.starts)
      (fun s' => s'.starts = s.starts) := by
  have hcalm : Moves (Calm (fun _ _ => False) w.stationId) (finishPlayingQueueItem w env) :=
    calm_finishPlayingQueueItem
  exact (hcalm.ends s).mono (fun _ _ h => starts_of_calm h) fun _ h => starts_of_calm h

lemma playHostTrack_heard (h : Heard w.stationId s) (item : ℤ × ProgramQueueItem) :
    Ends (playHostTrack w env item) s (fun _ => Heard w.stationId) (Heard w.stationId) := by
  unfold playHostTrack setPlayoutState
  refine Ends.bind (quiet_finishPlayingQueueItem.mono
    (fun _ _ he => h.of_eq he) fun _ he => h.of_eq he) fun _ s' h' => ?_
  rw [ends_bind, ends_modify, ends_bind, ends_get]
  have hset : Heard w.stationId (setCurrent w.stationId .host (some item.1) "host_start" s') :=
    h'.of_eq rfl
  refine Ends.ite (fun _ => ?_) fun _ => ?_
  · rw [ends_bind, ends_modify, ends_bind, ends_modify, ends_pure]
    exact hset.of_eq rfl
  · refine hset.ends .host (env.clock .start) ?_ fun hc => absurd hc (by decide)
    have hend : Moves (Calm (Only .host (env.clock .start)) w.stationId) (do
        broadcastQueue w env .start
        return (⟨"host", none, some (trackUri env (setCurrent w.stationId .host (some item.1)
          "host_start" s') item.2.trackId), none⟩ : Outcome)) :=
      calm_broadcastQueue.bind fun _ => Moves.pure _
    exact Moves.ite (fun _ => (calm_startStation ⟨rfl, rfl⟩ ..).bind fun _ => hend) fun _ => hend

lemma startSong_heard (h : Heard w.stationId s) (item : ℤ × QueueItem)
    (hw : SpotOnAir w.stationId s (env.clock .start) → trackUri env s item.2.trackId = "") :
    Ends (playManagedItem w env (managedQueueItem env item)) s (fun _ => Heard w.stationId)
      (Heard w.stationId) :=
  playManagedItem_heard h (fun _ => rfl) (fun _ => rfl) calm_markQueueDone calm_markQueueFailed
    (calm_updateQueue (by simp)) fun huri _ hspot => huri (hw hspot)

lemma startAd_heard (h : Heard w.stationId s) (item : ℤ × AdBreakItem) :
    Ends (playManagedItem w env (managedAd env item)) s (fun _ => Heard w.stationId)
      (Heard w.stationId) :=
  playManagedItem_heard h (fun _ => rfl) (fun _ => rfl) calm_markAdDone calm_markAdFailed
    (calm_updateAd (by simp)) fun _ hc => absurd hc (by decide : ¬ Cuts .ads)

lemma startSchedule_heard (h : Heard w.stationId s) (item : ℤ × Database.ScheduleItem) :
    Ends (playManagedItem w env (managedSchedule item)) s (fun _ => Heard w.stationId)
      (Heard w.stationId) :=
  playManagedItem_heard h (fun _ => rfl) (fun _ => rfl) (fun _ => .of_eq rfl rfl rfl rfl)
    (fun _ => .of_eq rfl rfl rfl rfl) (fun _ => .of_eq rfl rfl rfl rfl)
    fun _ hc => absurd hc (by decide : ¬ Cuts .schedule)

/-- What is read for the choice leaves the spots their time, if what is chosen from it waits. -/
lemma startSource_heard (h : Heard w.stationId s) {session : Option Session}
    {playing pending : Option (ℤ × QueueItem)} {dueAd : Option (ℤ × AdBreakItem)}
    (hw : SpotOnAir w.stationId s (env.clock .start) → (hostPending w s).isSome ∨
      match songOf session playing pending with
      | some song => trackUri env s song.2.trackId = ""
      | none => (adOf session dueAd).isSome ∨
          (nextReady w.stationId s env.datetime (env.stamp .choiceReady)).isSome ∨
          playing.isSome ∨ w.fallbackUri = "") :
    Ends (startSource w env playing pending dueAd session) s
      (fun _ => Heard w.stationId) (Heard w.stationId) := by
  unfold startSource
  rw [ends_bind, ends_get]
  dsimp only
  generalize hsource : chooseSource _ _ _ _ _ = source
  have hquiet : Ends (finishPlayingQueueItem w env) s (fun _ => Heard w.stationId)
      (Heard w.stationId) :=
    quiet_finishPlayingQueueItem.mono (fun _ _ he => h.of_eq he) fun _ he => h.of_eq he
  have hfinish := fun {α : Type} {f : WorkerM α} (hf : ∀ s', Heard w.stationId s' →
      Ends f s' (fun _ => Heard w.stationId) (Heard w.stationId)) =>
    hquiet.bind fun _ s' h' => hf s' h'
  split
  next item _ => exact playHostTrack_heard h item
  next item =>
    obtain ⟨hhost, hmanual⟩ := chooseSource_manual hsource
    have hhost' : hostPending w s = none := by simpa using hhost
    have hmanual' : playing = none ∧ onBreak session = false := by
      by_contra hne
      simp [hne] at hmanual
    refine startSong_heard h item fun hspot => ?_
    have hnext := hw hspot
    rw [hhost', songOf, hmanual'.1, hmanual'.2] at hnext
    simpa using hnext
  next => exact hfinish fun s' h' => startAd_heard h' _
  next => exact hfinish fun s' h' => startSchedule_heard h' _
  next pending dueAd _ _ _ _ _ =>
    obtain ⟨hhost, hmanual, had, hready, hfall⟩ := chooseSource_fallback hsource
    refine h.ends .fallback (env.clock .start) ?_ fun _ hspot => ?_
    · exact Moves.ite (fun _ => (calm_startStation ⟨rfl, rfl⟩ ..).bind fun _ => Moves.pure _)
        fun _ => Moves.pure _
    · -- nothing else was there to be started
      have hhost' : hostPending w s = none := by simpa using hhost
      have hsong : songOf session playing pending = none := by
        unfold songOf
        cases hp : pending with
        | none => simp
        | some song => simpa [hp] using hmanual
      have had' : adOf session dueAd = none := by
        unfold adOf
        cases hd : dueAd with
        | none => simp
        | some ad => simpa [hd] using had
      have hready' : nextReady w.stationId s env.datetime (env.stamp .choiceReady) = none := by
        simpa using hready
      have hfall' : w.fallbackUri ≠ "" ∧ playing = none := by simpa using hfall
      have hnext := hw hspot
      rw [hhost', hsong, had', hready', hfall'.2] at hnext
      simp [hfall'.1] at hnext
  next =>
    split_ifs
    · exact h
    · exact h

lemma startNext_heard (h : Heard w.stationId s) {session : Option Session}
    (hw : SpotOnAir w.stationId s (env.clock .start) → nextWaits w env s session) :
    Ends (startNext w env session) s (fun _ => Heard w.stationId) (Heard w.stationId) := by
  unfold startNext
  rw [ends_bind, ends_get]
  dsimp only
  split
  · exact h
  next hhost =>
    -- the rows that are read before the choice, with the state they are read in
    have hchoice : ∀ s', s'.starts = s.starts → SameFiles w s s' →
        nextAd w env s' session = nextAd w env s session →
        songOf session (currentPlaying w.stationId s) (nextPending w.stationId s') =
          nextSong w s session →
        Ends (do
          let pending := nextPending w.stationId (← get)
          let dueAd ← nextDueAdIfAllowed w env .choiceDue
          startSource w env (currentPlaying w.stationId s) pending dueAd session) s'
          (fun _ => Heard w.stationId) (Heard w.stationId) := by
      intro s' hstarts hfiles had hsong
      rw [ends_bind, ends_get]
      refine Ends.bind ((nextDueAdIfAllowed_ends (K := fun _ _ => False)).mono
        (fun _ _ hr => hr) fun _ hc => (h.of_eq hstarts).of_eq (starts_of_calm hc))
        fun dueAd s'' ⟨hdue, hfiles', hcalm⟩ => ?_
      have hstarts' : s''.starts = s.starts := (starts_of_calm hcalm).trans hstarts
      have hsame : SameFiles w s s'' := trans_of (SameFiles w) hfiles hfiles'
      refine startSource_heard (h.of_eq hstarts') fun hspot => ?_
      have had' : adOf session dueAd = nextAd w env s session := by
        rw [← had, hdue, adOf, nextAd]
        cases adsEnabled w s' <;> cases adSuppressed session <;> rfl
      have hready : nextReady w.stationId s'' env.datetime (env.stamp .choiceReady) =
          nextReady w.stationId s env.datetime (env.stamp .choiceReady) := by
        unfold nextReady
        rw [hsame.schedule]
      rw [hsame.host, hsong, had', hready]
      have hnext := (hw (hspot.of_eq hstarts')).resolve_left hhost
      cases hs : nextSong w s session with
      | none =>
        rw [hs] at hnext
        exact hnext
      | some song =>
        rw [hs] at hnext
        exact hnext.imp_right fun huri => (hsame.uri _).trans huri
    rw [ends_bind, ends_get]
    cases hp : currentPlaying w.stationId s with
    | none =>
      obtain ⟨items, hs⟩ := skipDuplicatePending_eq w s
      rw [hp] at hchoice
      have hsong : songOf session none (nextPending w.stationId (skipDuplicatePending w s)) =
          nextSong w s session := by
        rw [songOf, nextSong, hp]
      refine hchoice (skipDuplicatePending w s) ?_ ?_ ?_ hsong
      · rw [hs]
      · rw [hs]
        exact .of_eq rfl rfl rfl rfl
      · rw [hs]
        rfl
    | some playing =>
      rw [hp] at hchoice
      refine hchoice s rfl (refl_of (SameFiles w) s) rfl ?_
      rw [songOf, nextSong, hp]
      rfl

end Choice

/-! ### Ticks and runs -/

section Ticks

variable {w : Worker} {env : Env} {s s' : Engine}

/-- **One tick leaves the spots their time** if it waits while a spot is on the air. -/
theorem heard_tick (h : Heard w.stationId s) (hw : SpotWaits w s env) :
    Heard w.stationId (final (processOnce w env s)) := by
  refine Ends.final (x := processOnce w env) ?_
  refine (h.ends .showAudio _ (calm_upkeep ⟨rfl, rfl⟩)
    fun hc => absurd hc (by decide)).bindEq fun r s₁ hr h₁ => ?_
  cases r with
  | inl outcome => exact h₁
  | inr session =>
    refine (advance_heard h₁ (hw.row s₁ (by simp [advancePoint, hr]))).bindEq
      fun _ s₂ hr₂ h₂ => ?_
    refine (h₂.ends .adsRestart _ (calm_advanceOthers ⟨rfl, rfl⟩)
      fun hc => absurd hc (by decide)).bindEq fun _ s₃ hr₃ h₃ => ?_
    refine startNext_heard h₃ (hw.choice (s₃, session) ?_)
    simp [choicePoint, hr, hr₂, hr₃]

/-- **Spots are heard in full** in every run whose ticks wait while a spot is on the air. -/
theorem spots_heard {envs : List Env} (h : Heard w.stationId s)
    (hm : Meets (tick w) (SpotWaits w) s envs) (he : exec (tick w) s envs = some s') :
    Heard w.stationId s' := by
  refine inv_of_exec (P := Heard w.stationId) (fun s env s' h hw ht => ?_) h hm he
  cases ht
  exact heard_tick h hw

end Ticks

/-- The runtime keeps playing what it was last asked to play. -/
def KeepsPlaying (env : Env) : Prop :=
  ∀ site uri, ∃ r, env.status site (some uri) = some r ∧ r.playbackAlive ∧ r.activeInputUri = uri

/-- A song cuts an ad that has just started, though ads stay enabled and the runtime keeps
playing. -/
theorem song_cuts_ad :
    (∀ time, KeepsPlaying (calmWorld time)) ∧ twoSongsAndAd.starts = [] ∧
    Meets (tick soleWorker) (fun s _ => adsEnabled soleWorker s) twoSongsAndAd
      [calmWorld 100, calmWorld 101, calmWorld 102] ∧
    ∃ s', exec (tick soleWorker) twoSongsAndAd [calmWorld 100, calmWorld 101, calmWorld 102] =
        some s' ∧ ¬ Heard 1 s' := by
  refine ⟨fun time site uri => ⟨_, rfl, rfl, rfl⟩, rfl, by decide +kernel, _, rfl, ?_⟩
  decide +kernel

/-- A run in which the only song has been played when the ad starts. -/
theorem spots_heard_songAndAd :
    Heard 1 (final (processOnce soleWorker (calmWorld 102)
      (final (processOnce soleWorker (calmWorld 101)
        (final (processOnce soleWorker (calmWorld 100) (markQueueDone 2 twoSongsAndAd))))))) :=
  spots_heard (w := soleWorker) (s := markQueueDone 2 twoSongsAndAd) (by decide +kernel)
    (show Meets (tick soleWorker) (SpotWaits soleWorker) (markQueueDone 2 twoSongsAndAd)
      [calmWorld 100, calmWorld 101, calmWorld 102] by decide +kernel) rfl

end OnAir.SpotsHeard
