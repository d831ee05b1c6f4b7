import OnAir.OneSource

/-!
When a song is completed.

While the runtime plays the row that is marked playing, the advance of the queue completes it only
once its time is over, or the cap of thirty minutes for what is not long-form is reached. A restart
begins within the song.
-/

namespace OnAir.SongCompletion

open CalmPhases OneSource PlayoutAdvance PlayoutTables Programs OnAir.Table WorkerEnv

variable (w : Worker) (env : Env) (s : Engine)

/-- A row plays since `startedAt`, and its duration is known. -/
structure Plays (playing : ℤ × QueueItem) (startedAt : ℤ) : Prop where
  row : currentPlaying w.stationId s = some playing
  since : playing.2.startedAt = some startedAt
  known : 0 < durationOf s playing.2.trackId

/-- Whenever the advance asks, the runtime is alive and plays the file of the row. -/
def RuntimePlays (playing : ℤ × QueueItem) : Prop :=
  ∀ site ∈ [Site.advanceMismatch, .advanceDue, .advanceDead],
    playbackMatches env (env.status site (lastAsked w s)) (trackUri env s playing.2.trackId) = true

/-- A song plays and the next pending row is a song. -/
def musicToMusic (playing : ℤ × QueueItem) : Bool :=
  kindOf s playing.2.trackId = "music" &&
    (nextPending w.stationId s).any fun r => kindOf s r.2.trackId = "music"

/-- What may be missing at the end: the crossfade between two songs, and nothing elsewhere. -/
def lead (playing : ℤ × QueueItem) : PythonText.Float :=
  if musicToMusic w s playing then defaultCrossfadeSeconds s else .num 0

/-- The time of the row is over, up to what may be missing. -/
def TimeIsOver (playing : ℤ × QueueItem) (startedAt : ℤ) : Prop :=
  ∀ c : ℚ, lead w s playing = .num c →
    durationOf s playing.2.trackId - c ≤ env.clock .advance - startedAt

/-- The cap of thirty minutes is reached by a row that is not long-form. -/
def Capped (playing : ℤ × QueueItem) (startedAt : ℤ) : Prop :=
  kindOf s playing.2.trackId ∉ ["announcement", "podcast", "spoken_word"] ∧
    1800 ≤ env.clock .advance - startedAt

/-- The row that plays is still marked playing where its time is not over. -/
def EndsInTime (playing : ℤ × QueueItem) (startedAt : ℤ) : Prop :=
  RuntimePlays w env s playing →
    ∀ r, (final (advancePlayingQueueItem w env s)).queueItems[playing.1]? = some r →
      r.status ≠ .playing → TimeIsOver w env s playing startedAt

/-- What is started anew begins within the song. -/
def OffsetsWithin (playing : ℤ × QueueItem) : Prop :=
  ∃ new, (final (advancePlayingQueueItem w env s)).starts = new ++ s.starts ∧
    ∀ x ∈ new, 0 ≤ x.startOffset ∧
      x.startOffset ≤ max 0 (durationOf s playing.2.trackId - 1 / 4)

variable {w env s} {playing : ℤ × QueueItem} {startedAt : ℤ}

lemma restartOffset_mem (elapsed duration : ℚ) :
    0 ≤ restartOffset elapsed duration ∧
      restartOffset elapsed duration ≤ max 0 (duration - 1 / 4) :=
  ⟨le_min (le_max_left ..) (le_max_left ..), min_le_right ..⟩

/-- What has played longer than it may at most is over, or it is capped. -/
lemma over_of_maxSeconds {duration elapsed : ℚ} {kind : String} (hd : 0 < duration)
    (h : maxSeconds duration kind ≤ elapsed) :
    duration ≤ elapsed ∨ kind ∉ ["announcement", "podcast", "spoken_word"] ∧ 1800 ≤ elapsed := by
  unfold maxSeconds at h
  rw [if_pos hd] at h
  dsimp only at h
  split_ifs at h with hkind
  · left
    linarith
  · rcases min_le_iff.mp h with h | h
    · left
      linarith
    · exact .inr ⟨hkind, h⟩

lemma crossfadeAfter_eq (playing : ℤ × QueueItem) :
    crossfadeAfter w s playing = lead w s playing := rfl

/-- Crossfades are not negative. -/
lemma defaultCrossfadeSeconds_nonneg {c : ℚ} (h : defaultCrossfadeSeconds s = .num c) :
    0 ≤ c := by
  unfold defaultCrossfadeSeconds at h
  dsimp only at h
  generalize (if s.systemSettings.getD "default_crossfade_seconds" "3.0" = "" then _ else _) = v
    at h
  cases v with
  | none =>
    cases h
    exact le_refl _
  | some v =>
    cases v with
    | num q =>
      cases h
      exact le_max_left ..
    | inf negative =>
      cases negative
      · cases h
      · cases h
        exact le_refl _
    | nan =>
      cases h
      exact le_refl _

lemma lead_nonneg {c : ℚ} (h : lead w s playing = .num c) : 0 ≤ c := by
  unfold lead at h
  cases hm : musicToMusic w s playing with
  | true =>
    rw [hm, if_pos rfl] at h
    exact defaultCrossfadeSeconds_nonneg h
  | false =>
    rw [hm, if_neg (by simp), PythonText.Float.num.injEq] at h
    exact h.le

lemma timeIsOver_of_le (h : durationOf s playing.2.trackId ≤ env.clock .advance - startedAt) :
    TimeIsOver w env s playing startedAt :=
  fun _ hc => (sub_le_self _ (lead_nonneg hc)).trans h

/-- Once the time has come to advance, the time of the row is over. -/
lemma timeIsOver_of_advanceAt
    (h : advanceAt (durationOf s playing.2.trackId) (crossfadeAfter w s playing) ≤
      env.clock .advance - startedAt) : TimeIsOver w env s playing startedAt := by
  intro c hc
  rw [crossfadeAfter_eq, hc] at h
  exact (le_max_right ..).trans h

lemma alive_of_matches {status : Option RuntimeStatus} {uri : String}
    (h : playbackMatches env status uri = true) : playbackAlive status = true := by
  unfold playbackMatches at h
  obtain ⟨r, hr, halive⟩ := (Option.any_eq_true ..).mp h
  simp only [Bool.and_eq_true] at halive
  exact (Option.any_eq_true ..).mpr ⟨r, hr, halive.1.1⟩

/-- While the runtime plays the row, nothing is done until the time is over. -/
lemma advance_of_runtimePlays (h : Plays w s playing startedAt)
    (hr : RuntimePlays w env s playing) (hover : ¬ TimeIsOver w env s playing startedAt)
    (hcapped : ¬ Capped env s playing startedAt) :
    Ends (advancePlayingQueueItem w env) s (fun _ t => t = s) (fun t => t = s) := by
  have hmismatch := hr .advanceMismatch (by simp)
  have hdead := alive_of_matches (hr .advanceDead (by simp))
  have hsince : playingSince w s = some (playing, startedAt) := by
    rw [playingSince, h.row, Option.bind_some, h.since]
    rfl
  have hmax : ¬ maxSeconds (durationOf s playing.2.trackId) (kindOf s playing.2.trackId) ≤
      env.clock .advance - startedAt := fun hmax =>
    (over_of_maxSeconds h.known hmax).elim (fun hle => hover (timeIsOver_of_le hle)) hcapped
  have hdue : ¬ advanceAt (durationOf s playing.2.trackId) (crossfadeAfter w s playing) ≤
      env.clock .advance - startedAt := fun hle => hover (timeIsOver_of_advanceAt hle)
  unfold advancePlayingQueueItem
  rw [ends_bind, ends_get, hsince]
  dsimp only
  rw [hmismatch, hdead, if_neg (by simp), if_neg hmax, if_neg (not_le.mpr h.known), if_neg hdue,
    if_neg (by simp)]
  exact rfl

/-! ### Restarts -/

/-- The calls of `start_station` since `s` satisfy `P`. -/
def Adds (P : Start → Prop) (s t : Engine) : Prop :=
  ∃ new, t.starts = new ++ s.starts ∧ ∀ x ∈ new, P x

instance (P : Start → Prop) : IsPreorder Engine (Adds P) where
  refl _ := ⟨[], rfl, by simp⟩
  trans _ _ _ h h' := by
    obtain ⟨new, hn, hk⟩ := h
    obtain ⟨new', hn', hk'⟩ := h'
    refine ⟨new' ++ new, by rw [hn', hn, List.append_assoc], fun x hx => ?_⟩
    exact (List.mem_append.mp hx).elim (hk' x) (hk x)

section Adds

variable {P : Start → Prop} {α : Type} {x : WorkerM α}

/-- What starts nothing. -/
lemma adds_of_calm (h : Moves (Calm (fun _ _ => False) w.stationId) x) : Moves (Adds P) x := by
  refine h.mono fun s t hc => ?_
  obtain ⟨new, hn, hk⟩ := hc.starts
  exact ⟨new, hn, fun x hx => (hk x hx).elim⟩

lemma Adds.of_eq {s t : Engine} (h : t.starts = s.starts) : Adds P s t := ⟨[], h, by simp⟩

lemma adds_setPlayoutState (source : PlayoutSource) (item : Option ℤ) (reason : String) :
    Moves (Adds P) (setPlayoutState w source item reason) := Moves.modify fun _ => .of_eq rfl

lemma adds_restartQueueItem {offset : ℚ}
    (hP : ∀ x : Start, x.startOffset = max 0 offset → P x) :
    Moves (Adds P) (restartQueueItem w env playing offset) := by
  have hfail : ∀ reason, Moves (Adds P) (do
      modify (markQueueFailed playing.1)
      setPlayoutState w .none none reason : WorkerM Unit) := fun reason =>
    Moves.bindModify (fun _ => .of_eq rfl) fun _ => adds_setPlayoutState ..
  unfold restartQueueItem
  refine Moves.ite (fun _ => Moves.pure _) fun _ => Moves.bindGet fun s => ?_
  dsimp only
  refine Moves.ite (fun _ => hfail _) fun _ => Moves.bind (Moves.bindGet fun _ => Moves.pure _)
    fun _ => Moves.ite (fun _ => Moves.pure _) fun _ => ?_
  refine (adds_of_calm (w := w) (calm_restartAttemptAllowed ..)).bind fun refusal => ?_
  cases refusal with
  | some reason => exact hfail _
  | none =>
    refine Moves.tryCatch ?_ fun _ => hfail _
    refine Moves.bind ?_ fun _ => (adds_setPlayoutState ..).bind fun _ =>
      adds_of_calm (w := w) calm_broadcastQueue
    unfold startStation
    split
    · exact Moves.throw _
    · refine Moves.modify fun s => ⟨[_], rfl, fun x hx => hP x ?_⟩
      rw [List.mem_singleton.mp hx]

end Adds

/-- What the advance starts satisfies what every restart at its offset does. -/
lemma adds_advance {P : Start → Prop} (h : Plays w s playing startedAt)
    (hP : ∀ x : Start, x.startOffset = max 0 (restartOffset (env.clock .advance - startedAt)
      (durationOf s playing.2.trackId)) → P x) :
    Ends (advancePlayingQueueItem w env) s (fun _ => Adds P s) (Adds P s) := by
  have hcomplete : Moves (Adds P) (completeQueueItem w env .advanceComplete playing) :=
    adds_of_calm (w := w) (calm_completeQueueItem playing)
  have hrestart : Moves (Adds P) (restartQueueItem w env playing (restartOffset
      (env.clock .advance - startedAt) (durationOf s playing.2.trackId))) :=
    adds_restartQueueItem hP
  have hsince : playingSince w s = some (playing, startedAt) := by
    rw [playingSince, h.row, Option.bind_some, h.since]
    rfl
  unfold advancePlayingQueueItem
  rw [ends_bind, ends_get, hsince]
  dsimp only
  refine Moves.ends (R := Adds P) ?_ s
  refine Moves.ite (fun _ => Moves.ite (fun _ => hcomplete) fun _ => hrestart) fun _ => ?_
  refine Moves.ite (fun _ => hcomplete) fun _ => ?_
  refine Moves.ite (fun _ => Moves.ite (fun _ => hcomplete) fun _ => Moves.pure _) fun _ => ?_
  refine Moves.ite (fun _ => Moves.ite (fun _ => Moves.pure _) fun _ => hcomplete) fun _ => ?_
  exact Moves.ite (fun _ => Moves.ite (fun _ => hcomplete) fun _ => hrestart) fun _ => Moves.pure _

lemma offsetsWithin (h : Plays w s playing startedAt) : OffsetsWithin w env s playing := by
  refine Ends.final (adds_advance (P := fun x => 0 ≤ x.startOffset ∧
    x.startOffset ≤ max 0 (durationOf s playing.2.trackId - 1 / 4)) h fun x hx => ?_)
  rw [hx]
  exact ⟨le_max_left .., max_le (le_max_left ..) (restartOffset_mem ..).2⟩

/-- **No premature completion.** While the runtime plays the row that is marked playing, the
advance leaves everything as it is until the time of the row is over or the cap of thirty minutes
is reached. Whatever the runtime plays, a restart begins within the song. -/
theorem no_premature_completion (h : Plays w s playing startedAt) :
    (RuntimePlays w env s playing → final (advancePlayingQueueItem w env s) ≠ s →
        TimeIsOver w env s playing startedAt ∨ Capped env s playing startedAt) ∧
      OffsetsWithin w env s playing := by
  refine ⟨fun hr hchanged => ?_, offsetsWithin h⟩
  by_contra hnot
  obtain ⟨hover, hcapped⟩ := not_or.mp hnot
  exact hchanged (advance_of_runtimePlays h hr hover hcapped).final

/-- A song of fifty minutes plays since the second 100. -/
def longSong : Engine :=
  { Engine.empty with
    tracks := Engine.empty.tracks.insert 1
      ⟨1, "", "", "/long.mp3", 3000, "music", true, true, 0, none⟩
    queueItems := Engine.empty.queueItems.insert 1 ⟨1, 1, 1, .playing, some 100, none⟩ }

/-- The runtime plays the long song. -/
def playingWorld (time : ℚ) : Env :=
  { calmWorld time with status := fun _ _ => some ⟨none, none, none, true, "/long.mp3"⟩ }

lemma plays_longSong :
    Plays soleWorker longSong (1, ⟨1, 1, 1, .playing, some 100, none⟩) 100 where
  row := by decide +kernel
  since := rfl
  known := by decide +kernel

lemma runtimePlays_longSong {time : ℚ} (h : time = 1899 ∨ time = 1900) :
    RuntimePlays soleWorker (playingWorld time) longSong
      (1, ⟨1, 1, 1, .playing, some 100, none⟩) := by
  intro site _
  change playbackMatches (playingWorld time) (some ⟨none, none, none, true, "/long.mp3"⟩) _ = true
  rcases h with rfl | rfl <;> decide +kernel

/-- After thirty minutes the song is completed, twenty minutes before its end. -/
theorem long_song_is_cut :
    Plays soleWorker longSong (1, ⟨1, 1, 1, .playing, some 100, none⟩) 100 ∧
      ¬ EndsInTime soleWorker (playingWorld 1900) longSong
        (1, ⟨1, 1, 1, .playing, some 100, none⟩) 100 := by
  refine ⟨plays_longSong, fun h => ?_⟩
  have hdone : ((final (advancePlayingQueueItem soleWorker (playingWorld 1900)
      longSong)).queueItems[(1 : ℤ)]?.any (·.status = .done)) = true := by decide +kernel
  obtain ⟨r, hr, hst⟩ := (Option.any_eq_true ..).mp hdone
  have hover := h (runtimePlays_longSong (.inr rfl)) r hr
    (by rw [of_decide_eq_true hst]; decide) 0 (by decide +kernel)
  revert hover
  decide +kernel

theorem no_premature_completion_longSong :
    final (advancePlayingQueueItem soleWorker (playingWorld 1899) longSong) = longSong := by
  by_contra hchanged
  obtain ⟨h, -⟩ := @no_premature_completion soleWorker (playingWorld 1899) longSong _ _
    plays_longSong
  rcases h (runtimePlays_longSong (.inl rfl)) hchanged with hover | ⟨-, hcapped⟩
  · have := hover 0 (by decide +kernel)
    revert this
    decide +kernel
  · revert hcapped
    decide +kernel

end OnAir.SongCompletion
