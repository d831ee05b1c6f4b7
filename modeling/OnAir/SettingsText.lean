import OnAir.AdFailures
import OnAir.PhasesReturn
import OnAir.QueueRepository

/-!
The texts of the settings, and whether a tick gets past them.

A tick is a row of phases. Each of them reads its settings when it is come to, and raises where
the text, read as a number or a time, is larger than what it is handed to can hold. Besides that
only an ad that is given up ends a tick by an exception.
-/

namespace OnAir.SettingsText

open AdFailures BroadcastQueue OneSource PhasesReturn PlayoutAdvance PlayoutTables Programs
  PythonText QuietPhases QueueUpkeep ShowBreaks StationWorker OnAir.Table WorkerEnv

variable (w : Worker) (env : Env)

/-! ### The phases of a tick -/

/-- The phases after the lifecycle of a show, as far as one may raise. -/
inductive Phase
  | startupSound
  | crossStation
  | autofill
  | sweep
  | announce
  | advance
  | ad
  | adPolicy
  | hourlyAds

def Phase.run : Phase → WorkerM Unit
  | .startupSound => maybeInsertStartupSound w
  | .crossStation => failCrossStationQueueItems w env
  | .autofill => autofillQueue w env
  | .sweep => sweepQueue w
  | .announce => maybePrepareAiQueue w env
  | .advance => advancePlayingQueueItem w env
  | .ad => advancePlayingAdItem w env
  | .adPolicy => failDisabledActiveAds w env
  | .hourlyAds => ensureHourlyAdBreak w env

/-- The phases that fill the queue, and the others. -/
def filling : List Phase := [.startupSound, .crossStation, .autofill]

def others : List Phase := [.sweep, .announce, .advance, .ad, .adPolicy, .hourlyAds]

/-! ### What a phase asks of the texts it reads -/

/-- The largest integer SQLite takes, and one more. -/
def integerBound : ℤ := 2 ^ 63

/-- Where the startup sound is due, the id of its track is no infinity; and if it is looked up,
it is an integer of SQLite. -/
def StartupFits (s : Engine) : Prop :=
  isStartupSoundPending w s = true → nextPendingIsJingle w s = false →
    ∃ trackId, intSetting ((setting w.stationId s "startup_sound_track_id").getD "0") 0 =
        .ok trackId ∧
      (isTruthy ((setting w.stationId s "startup_sound_enabled").getD "false") = true →
        settingOr w.stationId s "startup_sound_mode" "random" = "specific" →
          trackId < integerBound)

/-- The queue is filled. -/
def isShort (s : Engine) : Bool := pendingQueueDuration w s < 1800 || pendingMusicCount w s < 12

/-- The interval of the sweeper is no infinity. -/
def SweeperFits (s : Engine) : Prop := ∃ sweeper, sweeperSettings w.stationId s = .ok sweeper

/-- And the queue id that minutes are counted from is an integer of SQLite. -/
def BaselineFits (s : Engine) : Prop :=
  ∃ sweeper, sweeperSettings w.stationId s = .ok sweeper ∧
    (sweeper.enabled = true → sweeper.unit = .minutes → nextPendingIsJingle w s = false →
      baselineQueueId w s < integerBound)

/-- An announcement can be put before the target, and none was there. -/
def introReady (s : Engine) (key : String) : Bool :=
  (findByDedupeKey w.stationId s key [.pending, .playing, .done]).isNone &&
    (announcementFor w env s key).any fun a =>
      trim a.audioPath ≠ "" && env.exists_ (trim a.audioPath)

/-- Where the time of the last station announcement is read, it and the interval are in range. -/
def AnnounceFits (s : Engine) : Prop :=
  isTruthy ((setting w.stationId s "ai_host_enabled").getD "false") = true →
    ∀ (target : ℤ) (row : QueueItem), nextPendingAiTarget w s = some (target, row) →
      (trim ((s.tracks[row.trackId]?.map (·.title)).getD "") ≠ "" →
        introReady w env s s!"ai-track-intro:{target}" = false) →
      ∃ due, stationIdDue w env s = .ok due

/-- The key of an ad of the hour. -/
def hourlyKey (dueAt : ℤ) (trackId : ℤ) : String :=
  s!"hourly:{w.stationId}:{env.bucketText dueAt}:{trackId}"

/-- The hour of an ad that is due after the interval. -/
def hourlyDue (interval : ℤ) : ℚ := env.clock .hourly + (max 1 interval) * 60

/-- The key of an ad is taken. -/
def adTaken (s : Engine) (key : String) : Bool :=
  (adRows w.stationId s [.pending, .playing, .done]).any fun r => r.2.dedupeKey = some key

/-- The interval between ads is no infinity; and where ads are added, they are due before the year
10000 and their tracks are integers of SQLite. -/
def HourlyFits (s : Engine) : Prop :=
  ∃ interval, intSetting ((setting w.stationId s "hourly_ad_interval_minutes").getD "60") 60 =
      .ok interval ∧
    (adsEnabled w s = true → listActiveAds w.stationId s env.datetime 1 = [] →
      ∀ trackIds, parseIdList ((setting w.stationId s "hourly_ad_track_ids").getD "") = trackIds →
        trackIds ≠ [] → hourlyDue env interval < maxSecond ∧
          ∀ id ∈ trackIds, adTaken w s (hourlyKey w env ⌊hourlyDue env interval⌋ id) = false →
            id < integerBound)

/-- What a phase asks of the state it is come to in. -/
def Phase.Fits : Phase → Engine → Prop
  | .startupSound, s => StartupFits w s
  | .autofill, s => isShort w s = true → SweeperFits w s
  | .sweep, s => BaselineFits w s
  | .announce, s => AnnounceFits w env s
  | .ad, s => ∀ playing, currentAd w.stationId s = some playing →
      advanceGivesUp w env playing s = false
  | .hourlyAds, s => HourlyFits w env s
  | .crossStation, _ | .advance, _ | .adPolicy, _ => True

variable {w env} {s t : Engine}

/-! ### The startup sound -/

lemma bindInteger_eq (used : Bool) (n : ℤ) (s : Engine) :
    bindInteger used n s =
      if used = true ∧ integerBound ≤ n then .error .overflow s else .ok () s := by
  unfold bindInteger integerBound
  simp only [Bool.and_eq_true, decide_eq_true_eq]
  split_ifs <;> rfl

lemma returns_bindInteger {used : Bool} {n : ℤ} {α : Type} {f : Unit → WorkerM α} :
    Returns (bindInteger used n >>= f) s ↔
      (used = true → n < integerBound) ∧ Returns (f ()) s := by
  unfold Returns
  rw [ends_bind]
  unfold Ends
  rw [bindInteger_eq]
  by_cases h : used = true ∧ integerBound ≤ n
  · rw [if_pos h]
    exact iff_of_false id fun hn => absurd (hn.1 h.1) (not_lt.mpr h.2)
  · rw [if_neg h]
    have hfits : used = true → n < integerBound := fun hu => by
      by_contra hn
      exact h ⟨hu, not_lt.mp hn⟩
    exact (and_iff_right hfits).symm

lemma returns_liftSetting {α β : Type} {x : Except IntError α} {f : α → WorkerM β} :
    Returns (liftSetting x >>= f) s ↔ ∃ a, x = .ok a ∧ Returns (f a) s := by
  cases x with
  | ok a => exact ⟨fun h => ⟨a, rfl, h⟩, fun ⟨b, hb, h⟩ => by cases hb; exact h⟩
  | error e => exact iff_of_false id fun ⟨_, h, _⟩ => by cases h

lemma returns_get {α : Type} {f : Engine → WorkerM α} :
    Returns (get >>= f) s ↔ Returns (f s) s := Iff.rfl

theorem returns_startupSound : Returns (maybeInsertStartupSound w) s ↔ StartupFits w s := by
  unfold maybeInsertStartupSound StartupFits
  rw [returns_get]
  cases isStartupSoundPending w s with
  | false => exact iff_of_true trivial nofun
  | true =>
    cases nextPendingIsJingle w s with
    | true => exact iff_of_true trivial nofun
    | false =>
      simp only [Bool.not_true, Bool.false_eq_true, if_false, forall_const]
      rw [returns_liftSetting]
      refine exists_congr fun trackId => and_congr_right fun _ => ?_
      rw [returns_bindInteger, Bool.and_eq_true, decide_eq_true_eq, and_imp]
      refine and_iff_left ?_
      split <;> trivial

/-! ### Keys of the automation -/

/-- The key of a song that the automation adds. -/
def musicKey (trackId pos : ℤ) : String := s!"music:{trackId}:{pos}"

/-- Tracks have positive ids, and an active row with the key of a song is a row of that song. -/
structure ValidKeys (w : Worker) (s : Engine) : Prop where
  rows : ∀ (id : ℤ) (r : QueueItem), s.queueItems[id]? = some r → r.stationId = w.stationId →
    isActive r.status = true → ∀ trackId pos : ℤ, r.dedupeKey = some (musicKey trackId pos) →
      r.trackId = trackId
  tracks : ∀ (id : ℤ) (t : Track), s.tracks[id]? = some t → 0 < id

lemma musicKey_track {trackId pos trackId' pos' : ℤ}
    (h : musicKey trackId pos = musicKey trackId' pos') : trackId = trackId' := by
  have hcolon : ∀ n : ℤ, ':' ∉ (toString n).toList := fun n =>
    TextFields.notMem_toString (by decide) (by decide)
  have hlist : ∀ a b : ℤ, (musicKey a b).toList =
      "music:".toList ++ ((toString a).toList ++ ':' :: (toString b).toList) := fun a b => by
    change ("music:" ++ toString a ++ ":" ++ toString b).toList = _
    simp only [String.toList_append, List.append_assoc]
    rfl
  have heq := congrArg String.toList h
  rw [hlist, hlist] at heq
  have hfirst := (TextFields.split_first (hcolon _) (hcolon _) (List.append_cancel_left heq)).1
  exact TextFields.toString_injective (String.toList_injective hfirst)

/-- What the automation knows while it adds songs: those in an active row. -/
structure KeysKnown (w : Worker) (f : Filling) (s : Engine) : Prop where
  rows : ∀ (id : ℤ) (r : QueueItem), s.queueItems[id]? = some r → r.stationId = w.stationId →
    isActive r.status = true → ∀ trackId pos : ℤ, r.dedupeKey = some (musicKey trackId pos) →
      0 < trackId → trackId ∈ f.active
  recent : ∀ id ∈ f.active, id ∈ f.recent
  tracks : ∀ (id : ℤ) (t : Track), s.tracks[id]? = some t → 0 < id

lemma mem_queueRows {st id : ℤ} {r : QueueItem} {statuses : List ItemStatus} :
    (id, r) ∈ queueRows st s statuses ↔
      s.queueItems[id]? = some r ∧ r.stationId = st ∧ r.status ∈ statuses := by
  unfold queueRows
  rw [List.mem_filter, mem_rows]
  simp

lemma isActive_iff {status : ItemStatus} :
    isActive status = true ↔ status ∈ [ItemStatus.pending, .playing] := by
  cases status <;> decide

lemma ValidKeys.known (h : ValidKeys w s) {f : Filling} (hactive : f.active = activeTrackIds w s)
    (hrecent : f.recent = recentTrackIds w s ++ activeTrackIds w s) : KeysKnown w f s where
  rows id r hr hst ha trackId pos hkey hpos := by
    rw [hactive, activeTrackIds, List.mem_filter, List.mem_map]
    obtain rfl := h.rows id r hr hst ha trackId pos hkey
    exact ⟨⟨(id, r), mem_queueRows.mpr ⟨hr, hst, isActive_iff.mp ha⟩, rfl⟩, by simpa using hpos⟩
  recent id hid := by
    rw [hrecent, List.mem_append]
    exact .inr (hactive ▸ hid)
  tracks := h.tracks

/-- A song that is chosen is in no active row. -/
lemma shuffledTrack_notMem {excluded : List ℤ} {track : ℤ}
    (h : shuffledTrack w env s excluded = some track)
    (htracks : ∀ (id : ℤ) (t : Track), s.tracks[id]? = some t → 0 < id) :
    0 < track ∧ track ∉ excluded := by
  unfold shuffledTrack at h
  obtain ⟨r, hr, rfl⟩ := Option.map_eq_some_iff.mp h
  have hmem := List.mem_of_mem_take (List.mem_of_mem_filter (Sql.firstBy_mem hr))
  have hplayable := List.mem_of_mem_filter (Sql.mem_orderBy.mp hmem)
  obtain ⟨hrow, hok⟩ := List.mem_filter.mp hplayable
  have hpos : 0 < r.1 := htracks r.1 r.2 (mem_rows.mp hrow)
  refine ⟨hpos, fun hex => ?_⟩
  simp [hpos, hex] at hok

lemma chooseMusic_known {f f' : Filling} {track : ℤ} (h : KeysKnown w f s)
    (hc : chooseMusic w env f s = (f', some track)) :
    KeysKnown w f' s ∧ 0 < track ∧ track ∉ f'.active ∧ f'.active = f.active := by
  unfold chooseMusic at hc
  dsimp only at hc
  split at hc
  case h_1 track' hfound =>
    obtain ⟨rfl, rfl⟩ := Prod.mk.inj hc |>.imp id Option.some.inj
    obtain ⟨hpos, hout⟩ := shuffledTrack_notMem hfound h.tracks
    exact ⟨h, hpos, fun ha => hout (h.recent _ ha), rfl⟩
  case h_2 =>
    split_ifs at hc
    · obtain ⟨rfl, hfound⟩ := Prod.mk.inj hc
      obtain ⟨hpos, hout⟩ := shuffledTrack_notMem hfound h.tracks
      exact ⟨⟨h.rows, fun _ ha => ha, h.tracks⟩, hpos, hout, rfl⟩
    · cases (Prod.mk.inj hc).2

/-- A row whose key is no song's changes nothing. -/
lemma KeysKnown.insertOther {f : Filling} (h : KeysKnown w f s) {row : QueueItem}
    (hrow : ∀ trackId pos : ℤ, row.dedupeKey ≠ some (musicKey trackId pos)) :
    KeysKnown w f (insertQueue row s) := by
  refine ⟨fun id r hr hst ha trackId pos hkey hpos => ?_, h.recent, h.tracks⟩
  rw [insertQueue, lookup_insert] at hr
  split_ifs at hr
  · obtain rfl := Option.some.inj hr
    exact absurd hkey (hrow trackId pos)
  · exact h.rows id r hr hst ha trackId pos hkey hpos

/-- The key of a song begins like no other. -/
lemma ne_musicKey {c : Char} {key : String} (hkey : key.toList.head? = some c) (hc : c ≠ 'm')
    (trackId pos : ℤ) : some key ≠ some (musicKey trackId pos) := by
  intro h
  obtain rfl := Option.some.inj h
  change ("music:" ++ toString trackId ++ ":" ++ toString pos).toList.head? = some c at hkey
  simp only [String.toList_append, List.append_assoc] at hkey
  exact hc (Option.some.inj hkey).symm

/-- A text that is continued begins as it began. -/
lemma head_append {c : Char} {a : String} (h : a.toList.head? = some c) (b : String) :
    (a ++ b).toList.head? = some c := by
  rw [String.toList_append, List.head?_append, h]
  rfl

lemma head_jingleKey {α β : Type} [ToString α] [ToString β] (a : α) (b : β) :
    s!"jingle:{a}:{b}".toList.head? = some 'j' :=
  head_append (head_append (head_append (by decide) _) _) _

/-- What the automation knows does not depend on the positions and times it counts. -/
lemma KeysKnown.of_active {f f' : Filling} (h : KeysKnown w f s) (ha : f'.active = f.active)
    (hr : f'.recent = f.recent) : KeysKnown w f' s :=
  ⟨by rw [ha]; exact h.rows, by rw [ha, hr]; exact h.recent, h.tracks⟩

lemma insertDueJingle_known {f : Filling} (h : KeysKnown w f s) (sweeper : Sweeper) :
    Ends (insertDueJingle w sweeper f) s (fun r t => KeysKnown w r.1 t) fun _ => False := by
  unfold insertDueJingle
  rw [ends_bind, ends_get]
  dsimp only
  split
  · exact h
  split_ifs
  · exact h.of_active rfl rfl
  · rw [ends_bind, ends_modify]
    exact (h.insertOther (ne_musicKey (head_jingleKey _ _) (by decide))).of_active rfl rfl

lemma probeAndStore_known {f : Filling} (h : KeysKnown w f s) (track : ℤ) :
    KeysKnown w f (probeAndStore env track s).1 := by
  unfold probeAndStore
  split
  · exact h
  split
  · exact h
  dsimp only
  split
  · exact h
  split
  · exact h
  · refine ⟨h.rows, h.recent, fun id t ht => ?_⟩
    dsimp only at ht
    rw [lookup_modify] at ht
    split_ifs at ht with hid
    · obtain ⟨t', ht', -⟩ := Option.map_eq_some_iff.mp ht
      exact h.tracks id t' ht'
    · exact h.tracks id t ht

/-- The key of a song that is in no active row is free. -/
lemma dedupeTaken_music {f : Filling} (h : KeysKnown w f s) {track : ℤ} (hpos : 0 < track)
    (hout : track ∉ f.active) (pos : ℤ) :
    dedupeTaken s (.new w.stationId track pos (musicKey track pos)) = false := by
  unfold dedupeTaken QueueItem.new
  dsimp only
  rw [Bool.and_eq_false_iff]
  refine .inr (List.any_eq_false.mpr fun r hr hkey => ?_)
  obtain ⟨hrow, hst, hactive⟩ := mem_queueRows.mp (show (r.1, r.2) ∈ _ from hr)
  exact hout (h.rows r.1 r.2 hrow hst (isActive_iff.mpr hactive) track pos
    (of_decide_eq_true hkey) hpos)

lemma insertMusic_known {f : Filling} (h : KeysKnown w f s) {track : ℤ} (hpos : 0 < track)
    (hout : track ∉ f.active) :
    Ends (insertMusic w env f track) s (fun f' t => KeysKnown w f' t) fun _ => False := by
  have hprobe : KeysKnown w f (probeAndStore env track s).1 := probeAndStore_known h track
  unfold insertMusic
  rw [ends_bind, ends_get]
  rcases hp : probeAndStore env track s with ⟨s', duration, stored⟩
  rw [hp] at hprobe
  rw [ends_bind, ends_set]
  dsimp only
  have hfree : dedupeTaken s' (.new w.stationId track f.nextPos s!"music:{track}:{f.nextPos}") =
      false := dedupeTaken_music hprobe hpos hout f.nextPos
  rw [hfree, if_neg Bool.false_ne_true, ends_bind, ends_modify]
  refine ⟨fun id r hr hst ha trackId pos hkey hid => ?_, fun id hid => ?_, hprobe.tracks⟩
  · rw [insertQueue, lookup_insert] at hr
    split_ifs at hr
    · obtain rfl := Option.some.inj hr
      exact List.mem_cons.mpr (.inl (musicKey_track (Option.some.inj hkey)).symm)
    · exact List.mem_cons_of_mem _ (hprobe.rows id r hr hst ha trackId pos hkey hid)
  · rcases List.mem_cons.mp hid with rfl | hid
    · exact List.mem_cons_self
    · exact List.mem_cons_of_mem _ (hprobe.recent id hid)

/-- **The automation never inserts a key twice**, whatever round it is in. -/
theorem returns_autofillLoop (sweeper : Sweeper) (n : ℕ) {f : Filling} (h : KeysKnown w f s) :
    Returns (autofillLoop w env sweeper n f) s := by
  induction n generalizing s f with
  | zero => trivial
  | succ n ih =>
    unfold autofillLoop
    unfold Returns at ih ⊢
    split_ifs
    · refine (insertDueJingle_known h sweeper).bind fun r s' hs' => ?_
      obtain ⟨f', go⟩ := r
      dsimp only
      split_ifs
      · exact ih hs'
      · rw [ends_bind, ends_get]
        rcases hm : chooseMusic w env f' s' with ⟨f'', track⟩
        dsimp only
        cases track with
        | none => trivial
        | some track =>
          obtain ⟨hknown, hpos, hout, -⟩ := chooseMusic_known hs' hm
          exact (insertMusic_known hknown hpos hout).bind fun f t hf => ih hf
    · trivial

lemma returns_autofill (h : ValidKeys w s) :
    Returns (autofillQueue w env) s ↔ (isShort w s = true → SweeperFits w s) := by
  unfold autofillQueue isShort SweeperFits
  rw [returns_get]
  dsimp only
  by_cases hshort : (pendingQueueDuration w s < 1800 || pendingMusicCount w s < 12) = true
  · rw [if_pos hshort, returns_liftSetting]
    refine Iff.trans (exists_congr fun sweeper => and_iff_left ?_) (imp_iff_right hshort).symm
    exact returns_autofillLoop sweeper 100 (h.known rfl rfl)
  · rw [if_neg hshort]
    exact iff_of_true trivial fun hs => absurd hs hshort

/-! ### Phases that keep the keys -/

lemma ValidKeys.insertOther (h : ValidKeys w s) {row : QueueItem}
    (hrow : ∀ trackId pos : ℤ, row.dedupeKey ≠ some (musicKey trackId pos)) :
    ValidKeys w (insertQueue row s) := by
  refine ⟨fun id r hr hst ha trackId pos hkey => ?_, h.tracks⟩
  rw [insertQueue, lookup_insert] at hr
  split_ifs at hr
  · obtain rfl := Option.some.inj hr
    exact absurd hkey (hrow trackId pos)
  · exact h.rows id r hr hst ha trackId pos hkey

lemma ValidKeys.markFailed (h : ValidKeys w s) (failed : ℤ) :
    ValidKeys w (markQueueFailed failed s) := by
  refine ⟨fun id r hr hst ha trackId pos hkey => ?_, h.tracks⟩
  rw [markQueueFailed, updateQueue, lookup_modify] at hr
  split_ifs at hr
  · obtain ⟨q, -, rfl⟩ := Option.map_eq_some_iff.mp hr
    cases ha
  · exact h.rows id r hr hst ha trackId pos hkey

lemma head_autofillKey (s : Engine) (trackId : ℤ) (index : ℕ) :
    ∃ c, (autofillKey s trackId index).toList.head? = some c ∧ c ≠ 'm' := by
  unfold autofillKey
  split
  · exact ⟨'j', head_jingleKey _ _, by decide⟩
  · exact ⟨'a', head_append (by decide) _, by decide⟩

lemma ValidKeys.enqueue (h : ValidKeys w s) (st trackId : ℤ) {key : String}
    (hkey : ∃ c, key.toList.head? = some c ∧ c ≠ 'm') :
    ValidKeys w (PlayoutTables.enqueue st trackId key s).1 := by
  obtain ⟨c, hhead, hc⟩ := hkey
  unfold PlayoutTables.enqueue
  split
  · exact h
  · have hrow : ValidKeys w (insertQueue (.new st trackId (nextPosition st s) key) s) :=
      h.insertOther (ne_musicKey hhead hc)
    exact ⟨hrow.rows, hrow.tracks⟩

lemma ValidKeys.ensureFilled (h : ValidKeys w s) (st : ℤ) :
    ValidKeys w (BroadcastQueue.ensureFilled st s) := by
  unfold BroadcastQueue.ensureFilled ensureReadyForPlayback
  dsimp only
  split
  · exact h
  split
  · exact h
  · exact Runs.inv_of_foldl (P := ValidKeys w)
      (fun s' item hs => hs.enqueue st item.1 (head_autofillKey s item.1 _)) _ h

lemma keepsKeys_broadcastQueue {site : Site} :
    Moves (Keeps (ValidKeys w)) (broadcastQueue w env site) :=
  Moves.ite (fun _ => Moves.modify fun _ h => h.ensureFilled _) fun _ => Moves.pure _

lemma keepsKeys_startupSound : Moves (Keeps (ValidKeys w)) (maybeInsertStartupSound w) := by
  have hclear : ∀ s, Keeps (ValidKeys w) s (clearStartupSoundPending w s) :=
    fun _ h => ⟨h.rows, h.tracks⟩
  unfold maybeInsertStartupSound
  refine Moves.bindGet fun s => Moves.ite (fun _ => Moves.pure _) fun _ => ?_
  refine Moves.ite (fun _ => Moves.modify hclear) fun _ => ?_
  refine Moves.bind ?_ fun trackId => (QueuePhases.moves_bindInteger _ _).bind fun _ => ?_
  · cases intSetting ((setting w.stationId s "startup_sound_track_id").getD "0") 0 with
    | ok n => exact Moves.pure n
    | error e => exact Moves.throw _
  split
  · exact Moves.modify hclear
  · refine Moves.modify fun s' h => hclear _ ?_
    unfold insertOrIgnore
    split_ifs
    · exact h
    · exact h.insertOther (ne_musicKey (c := 's') (head_append (by decide) _) (by decide))

lemma keepsKeys_crossStation : Moves (Keeps (ValidKeys w)) (failCrossStationQueueItems w env) := by
  refine Moves.bindGet fun s => Moves.ite (fun _ => Moves.pure _) fun _ => ?_
  refine Moves.bindModify (fun s' h => ?_) fun _ => Moves.bindGet fun s' => ?_
  · exact Runs.inv_of_foldl (P := ValidKeys w) (fun _ id hs => hs.markFailed id) _ h
  · exact Moves.ite (fun _ => Moves.bindModify (fun _ h => ⟨h.rows, h.tracks⟩)
      fun _ => keepsKeys_broadcastQueue) fun _ => keepsKeys_broadcastQueue

lemma shows_validKeys : OtherPhases.Shows w (Keeps (ValidKeys w)) where
  preorder := inferInstance
  playout _ _ _ _ _ h := ⟨h.rows, h.tracks⟩
  filled _ h := h.ensureFilled _
  ads _ _ _ _ h := ⟨h.rows, h.tracks⟩
  sessions _ _ h := ⟨h.rows, h.tracks⟩
  automation _ h := ⟨h.rows, h.tracks⟩
  start _ _ _ h := ⟨h.rows, h.tracks⟩

/-! ### Sweeper and announcements -/

theorem returns_sweep : Returns (sweepQueue w) s ↔ BaselineFits w s := by
  unfold sweepQueue BaselineFits
  rw [returns_get, returns_liftSetting]
  refine exists_congr fun sweeper => and_congr_right fun _ => ?_
  cases sweeper.enabled with
  | false => exact iff_of_true trivial nofun
  | true =>
    rw [if_pos rfl, returns_bindInteger, Bool.and_eq_true, Bool.not_eq_true', decide_eq_true_eq,
      and_iff_left (show Returns (modify (maybeInsertSweeperJingle w sweeper)) s from trivial)]
    exact ⟨fun h _ hunit hnext => h ⟨hnext, hunit⟩, fun h hu => h rfl hu.2 hu.1⟩

/-- A key that is in no row gets one. -/
lemma insertBefore_created {before trackId : ℤ} {key : String}
    (h : findByDedupeKey w.stationId s key [.pending, .playing, .done] = none) :
    (insertBefore w.stationId before trackId key s).2.2 = true := by
  unfold insertBefore
  rw [h]
  dsimp only
  split
  · rw [enqueue, QueueRepository.findByDedupeKey_of_done h]
  · rfl

lemma upsertGeneratedAnnouncement_queueItems (a : CachedAnnouncement) (path : String) :
    (upsertGeneratedAnnouncement w a path s).1.queueItems = s.queueItems := by
  unfold upsertGeneratedAnnouncement
  dsimp only
  split <;> rfl

/-- An announcement that is not added leaves everything as it was. -/
lemma ends_announceBefore (target : ℤ) (key : String) (s : Engine) :
    Ends (announceBefore w env target key) s
      (fun done t => done = introReady w env s key ∧ (done = false → t = s)) fun _ => False := by
  unfold announceBefore introReady
  rw [ends_bind, ends_get]
  cases hfound : findByDedupeKey w.stationId s key [.pending, .playing, .done] with
  | some r => exact ⟨rfl, fun _ => rfl⟩
  | none =>
    simp only [Option.isSome_none, Option.isNone_none, Bool.false_eq_true, if_false,
      Bool.true_and]
    cases announcementFor w env s key with
    | none => exact ⟨rfl, fun _ => rfl⟩
    | some a =>
      simp only [Option.any_some]
      unfold enqueueAiAnnouncement
      dsimp only
      by_cases hfile : trim a.audioPath = "" ∨ env.exists_ (trim a.audioPath) = false
      · rw [if_pos (by simpa using hfile)]
        refine ⟨?_, fun _ => rfl⟩
        rcases hfile with hfile | hfile <;> simp [hfile]
      · rw [not_or, Bool.not_eq_false] at hfile
        rw [if_neg (by simp [hfile]), ends_bind, ends_get]
        have hcreated : (insertBefore w.stationId target
            (upsertGeneratedAnnouncement w a (trim a.audioPath) s).2 key
            (upsertGeneratedAnnouncement w a (trim a.audioPath) s).1).2.2 = true := by
          refine insertBefore_created ?_
          rw [← hfound]
          unfold findByDedupeKey queueRows
          rw [upsertGeneratedAnnouncement_queueItems]
        rcases hu : upsertGeneratedAnnouncement w a (trim a.audioPath) s with ⟨s', trackId⟩
        rw [hu] at hcreated
        dsimp only at hcreated ⊢
        rcases hi : insertBefore w.stationId target trackId key s' with ⟨t, id, created⟩
        rw [hi] at hcreated
        dsimp only at hcreated ⊢
        rw [ends_bind, ends_set, hcreated, if_pos rfl]
        refine Ends.bind (total_broadcastQueue.ends t) fun _ t' _ => ?_
        exact ⟨by simp [hfile], nofun⟩

/-- What is done unless a program that then changed nothing says that it is done. -/
lemma returns_unless {x : WorkerM Bool} {y : WorkerM Unit} {ready : Bool}
    (hx : Ends x s (fun done t => done = ready ∧ (done = false → t = s)) fun _ => False) :
    Returns (do if ← x then return else y) s ↔ (ready = false → Returns y s) := by
  unfold Returns
  rw [ends_bind]
  unfold Ends at hx ⊢
  cases hr : x s with
  | error e t => exact absurd hx (by rw [hr]; exact id)
  | ok done t =>
    rw [hr] at hx
    obtain ⟨rfl, hsame⟩ := hx
    cases done with
    | true => exact iff_of_true trivial nofun
    | false =>
      obtain rfl := hsame rfl
      exact (imp_iff_right rfl).symm

/-- The station announcement. -/
lemma returns_stationId (target : ℤ) (s : Engine) :
    Returns (do
        if ← liftSetting (stationIdDue w env (← get)) then
          if ← announceBefore w env target s!"ai-station-id:{target}" then
            modify (upsertSetting w.stationId "_ai_last_station_id_at"
              (env.isoText (env.stamp .stationId)))) s ↔
      ∃ due, stationIdDue w env s = .ok due := by
  rw [returns_get, returns_liftSetting]
  refine exists_congr fun due => and_iff_left ?_
  exact (Total.ite (fun _ => (total_announceBefore target _).bind fun _ =>
    Total.ite (fun _ => Total.modify _) fun _ => Total.pure _) fun _ => Total.pure _).ends s

theorem returns_announce : Returns (maybePrepareAiQueue w env) s ↔ AnnounceFits w env s := by
  unfold maybePrepareAiQueue AnnounceFits
  rw [returns_get]
  cases isTruthy ((setting w.stationId s "ai_host_enabled").getD "false") with
  | false => exact iff_of_true trivial nofun
  | true =>
    simp only [Bool.not_true, Bool.false_eq_true, if_false, forall_const]
    split
    case h_1 hnone => exact iff_of_true trivial fun target row h => by simp [hnone] at h
    case h_2 target row htarget =>
      have hrow : ∀ P : ℤ → QueueItem → Prop, (∀ (target' : ℤ) (row' : QueueItem),
          nextPendingAiTarget w s = some (target', row') → P target' row') ↔ P target row :=
        fun P => ⟨fun h => h target row htarget, fun h target' row' h' => by
          rw [htarget] at h'
          cases h'
          exact h⟩
      rw [hrow fun target row => (trim ((s.tracks[row.trackId]?.map (·.title)).getD "") ≠ "" →
          introReady w env s s!"ai-track-intro:{target}" = false) →
        ∃ due, stationIdDue w env s = .ok due]
      by_cases htitle : trim ((s.tracks[row.trackId]?.map (·.title)).getD "") = ""
      · rw [if_neg (not_not.mpr htitle)]
        exact (returns_stationId target s).trans
          (imp_iff_right fun h => absurd htitle h).symm
      · rw [if_pos htitle]
        refine (returns_unless (ends_announceBefore target _ s)).trans ?_
        rw [returns_stationId]
        exact imp_congr_left (imp_iff_right htitle).symm

/-! ### Ads -/

lemma not_returns_of_raises {x : WorkerM Unit} (h : Raises x s) : ¬ Returns x s := by
  intro h'
  unfold Raises Returns Ends at *
  cases hx : x s with
  | ok a t => rw [hx] at h; exact h
  | error e t => rw [hx] at h'; exact h'

theorem returns_ad : Returns (advancePlayingAdItem w env) s ↔
    ∀ playing, currentAd w.stationId s = some playing →
      advanceGivesUp w env playing s = false := by
  cases hp : currentAd w.stationId s with
  | none =>
    refine iff_of_true ?_ nofun
    unfold advancePlayingAdItem
    rw [returns_get, hp]
    trivial
  | some playing =>
    constructor
    · intro h playing' heq
      obtain rfl := Option.some.inj heq
      by_contra hc
      exact not_returns_of_raises (advancePlayingAdItem_raises hp (by simpa using hc)) h
    · intro h
      exact (advancePlayingAdItem_completes hp (h playing rfl)).mono (fun _ _ _ => trivial)
        fun _ h => h

/-- The keys of an hour tell its ads apart. -/
lemma hourlyKey_injective (dueAt : ℤ) : Function.Injective (hourlyKey w env dueAt) := by
  intro a b h
  have hlist := congrArg String.toList h
  unfold hourlyKey at hlist
  change ("hourly:" ++ toString w.stationId ++ ":" ++ env.bucketText dueAt ++ ":" ++
    toString a).toList = ("hourly:" ++ toString w.stationId ++ ":" ++ env.bucketText dueAt ++
      ":" ++ toString b).toList at hlist
  rw [String.toList_append, String.toList_append (t := toString b)] at hlist
  exact TextFields.toString_injective (String.toList_injective (List.append_cancel_left hlist))

/-- An ad takes its own key only. -/
lemma adTaken_enqueueAd {key key' : String} (hne : key' ≠ key) (trackId : ℤ) (dueAt : String)
    (priority : ℤ) :
    adTaken w (enqueueAd w.stationId trackId dueAt priority key s) key' = adTaken w s key' := by
  unfold enqueueAd
  split_ifs
  · rfl
  unfold adTaken
  rw [Bool.eq_iff_iff, List.any_eq_true, List.any_eq_true]
  unfold adRows
  constructor
  · rintro ⟨⟨id, r⟩, hr, hkey⟩
    obtain ⟨hrow, hst⟩ := List.mem_filter.mp hr
    rw [mem_rows, lookup_insert] at hrow
    split_ifs at hrow
    · obtain rfl := Option.some.inj hrow
      exact absurd (Option.some.inj (of_decide_eq_true hkey)).symm hne
    · exact ⟨(id, r), List.mem_filter.mpr ⟨mem_rows.mpr hrow, hst⟩, hkey⟩
  · rintro ⟨⟨id, r⟩, hr, hkey⟩
    obtain ⟨hrow, hst⟩ := List.mem_filter.mp hr
    refine ⟨(id, r), List.mem_filter.mpr ⟨mem_rows.mpr ?_, hst⟩, hkey⟩
    rw [lookup_insert, if_neg fun h => ?_]
    · exact mem_rows.mp hrow
    · subst h
      rw [mem_rows, lookup_nextId] at hrow
      cases hrow

/-- The ads of an hour are added while those that are new have a track SQLite can look up. -/
lemma returns_hourlyAds (dueAt : ℤ) {ids : List (ℤ × ℕ)} (h : (ids.map Prod.fst).Nodup)
    (s : Engine) :
    Returns (ids.forM (enqueueHourlyAd w (env.stampText dueAt) (env.bucketText dueAt))) s ↔
      ∀ id ∈ ids.map Prod.fst, adTaken w s (hourlyKey w env dueAt id) = false →
        id < integerBound := by
  induction ids generalizing s with
  | nil => exact iff_of_true trivial fun _ h => by cases h
  | cons id ids ih =>
    obtain ⟨hout, hnodup⟩ := List.nodup_cons.mp h
    rw [List.forM_eq_forM, List.forM_cons]
    unfold enqueueHourlyAd
    rw [bind_assoc, returns_get]
    simp only [bind_assoc]
    rw [returns_bindInteger]
    have hrest := ih hnodup
      (enqueueAd w.stationId id.1 (env.stampText dueAt) (-(id.2 : ℤ))
        (hourlyKey w env dueAt id.1) s)
    rw [List.map_cons, List.forall_mem_cons]
    refine and_congr ?_ (hrest.trans ?_)
    · rw [Bool.not_eq_true']
      exact Iff.rfl
    · refine forall₂_congr fun id' hid' => ?_
      have hne : id' ≠ id.1 := fun heq => hout (heq ▸ hid')
      rw [adTaken_enqueueAd ((hourlyKey_injective dueAt).ne hne)]

lemma nodup_parseIdList (raw : String) : (parseIdList raw).Nodup := by
  unfold parseIdList
  refine Runs.inv_of_foldl (P := List.Nodup) (fun ids id h => ?_) _ List.nodup_nil
  split_ifs with hid
  · exact h
  · exact List.nodup_append.mpr ⟨h, List.nodup_singleton id, fun a ha b hb => by
      rw [List.mem_singleton.mp hb]
      exact fun heq => hid (heq ▸ ha)⟩

theorem returns_hourly : Returns (ensureHourlyAdBreak w env) s ↔ HourlyFits w env s := by
  unfold ensureHourlyAdBreak HourlyFits
  rw [returns_get, returns_liftSetting]
  refine exists_congr fun interval => and_congr_right fun _ => ?_
  cases adsEnabled w s with
  | false => exact iff_of_true trivial nofun
  | true =>
    simp only [Bool.not_true, Bool.false_eq_true, if_false, forall_const]
    cases hads : listActiveAds w.stationId s env.datetime 1 with
    | cons ad ads => exact iff_of_true trivial nofun
    | nil =>
      simp only [List.isEmpty_nil, Bool.not_true, Bool.false_eq_true, if_false, forall_const,
        forall_eq']
      cases hids : parseIdList ((setting w.stationId s "hourly_ad_track_ids").getD "") with
      | nil => exact iff_of_true trivial fun h => absurd rfl h
      | cons id ids =>
        rw [List.isEmpty_cons, if_neg Bool.false_ne_true,
          imp_iff_right (List.cons_ne_nil _ _)]
        change Returns (if maxSecond ≤ hourlyDue env interval then _ else _) s ↔ _
        by_cases hdue : maxSecond ≤ hourlyDue env interval
        · rw [if_pos hdue]
          exact iff_of_false (fun h => h) fun h => absurd h.1 (not_lt.mpr hdue)
        · rw [if_neg hdue, and_iff_right (not_le.mp hdue)]
          have hmap : (id :: ids).zipIdx.map Prod.fst = id :: ids :=
            List.zipIdx_map_fst 0 _
          have hnodup : ((id :: ids).zipIdx.map Prod.fst).Nodup := by
            rw [hmap, ← hids]
            exact nodup_parseIdList _
          have hall := @returns_hourlyAds w env ⌊hourlyDue env interval⌋ _ hnodup s
          rwa [hmap] at hall

/-! ### A whole tick -/

lemma returns_others (p : Phase) (h : p ∈ others) (s : Engine) :
    Returns (p.run w env) s ↔ p.Fits w env s := by
  cases p with
  | startupSound | crossStation | autofill => simp [others] at h
  | sweep => exact returns_sweep
  | announce => exact returns_announce
  | advance => exact iff_of_true (total_advancePlayingQueueItem.ends s) trivial
  | ad => exact returns_ad
  | adPolicy => exact iff_of_true (total_failDisabledActiveAds.ends s) trivial
  | hourlyAds => exact returns_hourly

variable (w env) in
/-- From `s` on, each phase that is come to finds what it asks for. -/
def PhasesFit (s : Engine) : Prop :=
  Along (Phase.run w env) (Phase.Fits w env) (filling ++ others) s

lemma Total.returns {α : Type} {x : WorkerM α} (h : Total x) (s : Engine) : Returns x s := h.ends s

lemma returns_crossStation :
    Returns (failCrossStationQueueItems w env) s ↔ Phase.crossStation.Fits w env s :=
  ⟨fun _ => trivial, fun _ => Total.returns total_failCrossStationQueueItems s⟩

lemma keys_final {α : Type} {x : WorkerM α} (hx : Moves (Keeps (ValidKeys w)) x)
    (h : ValidKeys w s) : ValidKeys w (final (x s)) := hx.final s h

/-- A list of programs whose first ones need what each of them keeps. -/
lemma returns_cons {run : Phase → WorkerM Unit} {fits : Phase → Engine → Prop} {p : Phase}
    {ps : List Phase} (hp : Returns (run p) s ↔ fits p s)
    (hps : Returns (ps.forM run) (final (run p s)) ↔ Along run fits ps (final (run p s))) :
    Returns ((p :: ps).forM run) s ↔ Along run fits (p :: ps) s := by
  rw [List.forM_eq_forM, List.forM_cons, returns_after]
  exact and_congr hp hps

/-- The phases return while each finds what it asks for. -/
theorem returns_phases (h : ValidKeys w s) :
    Returns ((filling ++ others).forM (Phase.run w env)) s ↔ PhasesFit w env s := by
  refine returns_cons returns_startupSound ?_
  refine returns_cons returns_crossStation ?_
  refine returns_cons (returns_autofill ?_) (returns_forM returns_others _)
  exact keys_final keepsKeys_crossStation (keys_final keepsKeys_startupSound h)

/-- A tick goes on from its lifecycle through the phases to the choice. -/
lemma afterLifecycle_eq (session : Option Session) :
    afterLifecycle w env session = (do
      (filling ++ others).forM (Phase.run w env)
      advanceHostTrack w env
      startNext w env session) := by
  simp only [afterLifecycle, prepareQueue, advanceOthers, filling, others, List.cons_append,
    List.nil_append, List.forM_eq_forM, List.forM_cons, List.forM_nil, Phase.run, bind_assoc,
    pure_bind]

variable (w env) in
/-- Where a tick has the lease and its show does not end it, its phases find what they ask for. -/
def TickFits (s : Engine) : Prop :=
  granted w env s = true → ∀ t, processShowLifecycle w env (activeSession w.stationId s)
    (leased w env s) = .ok none t → PhasesFit w env t

lemma ValidKeys.leased (h : ValidKeys w s) : ValidKeys w (ShowBreaks.leased w env s) := by
  obtain ⟨leases, hleased⟩ := leased_eq w env s
  rw [hleased]
  exact ⟨h.rows, h.tracks⟩

theorem returns_tick (hruntime : RuntimeWorks env) (h : ValidKeys w s) :
    Returns (processOnce w env) s ↔ TickFits w env s := by
  unfold TickFits
  cases hgranted : granted w env s with
  | false =>
    refine iff_of_true ?_ fun h => absurd h Bool.false_ne_true
    rw [returns_iff, processOnce, run_bind, upkeep_denied hgranted]
    exact ⟨_, _, rfl⟩
  | true =>
    rw [returns_iff, processOnce_granted hgranted, imp_iff_right rfl]
    have htotal : Total (processShowLifecycle w env (activeSession w.stationId s)) :=
      total_processShowLifecycle _
    have hkeys : Moves (Keeps (ValidKeys w))
        (processShowLifecycle w env (activeSession w.stationId s)) :=
      shows_validKeys.processShowLifecycle _
    generalize processShowLifecycle w env (activeSession w.stationId s) = x at htotal hkeys ⊢
    cases hr : x (leased w env s) with
    | error e t =>
      obtain ⟨_, _, hok⟩ := returns_iff.mp (htotal.ends (leased w env s))
      rw [hr] at hok
      cases hok
    | ok outcome t =>
      cases outcome with
      | some outcome => exact iff_of_true ⟨_, _, rfl⟩ fun t h => by cases h
      | none =>
        have hvalid : ValidKeys w t := hkeys.ok hr h.leased
        dsimp only
        rw [← returns_iff, afterLifecycle_eq, returns_after, returns_phases hvalid]
        have hrest : Total (do
            advanceHostTrack w env
            startNext w env (activeSession w.stationId s)) :=
          total_advanceHostTrack.bind fun _ => total_startNext hruntime _
        refine (and_iff_left (Total.returns hrest _)).trans
          ⟨fun hp t' ht' => ?_, fun hp => hp t rfl⟩
        cases ht'
        exact hp

end OnAir.SettingsText
