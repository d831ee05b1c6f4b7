import OnAir.SettingsText

/-!
The texts of the settings as they are before a tick, and what they promise for all of it.

A tick writes few settings, and reads none of them after it has written it. So what the texts hold
before the tick is what its phases find, and the rows that an ad may be given up for are rows of
the tables before it.
-/

namespace OnAir.SettingsAhead

open AdFailures BroadcastQueue OneSource OtherPhases PhasesReturn PlayoutAdvance PlayoutTables
  Programs PythonText QueuePhases QueueUpkeep QuietPhases SettingsText ShowBreaks StationWorker
  OnAir.Table WorkerEnv

variable {w : Worker} {env : Env} {s t : Engine} {keys : List String}

/-! ### Texts that stay -/

/-- The texts of the settings stay, but for those under `keys`. -/
structure SameTexts (keys : List String) (w : Worker) (s t : Engine) : Prop where
  station : ∀ key ∉ keys, setting w.stationId t key = setting w.stationId s key
  system : t.systemSettings = s.systemSettings

instance : IsPreorder Engine (SameTexts keys w) where
  refl _ := ⟨fun _ _ => rfl, rfl⟩
  trans _ _ _ h h' := ⟨fun key hkey => (h'.station key hkey).trans (h.station key hkey),
    h'.system.trans h.system⟩

lemma SameTexts.of_eq (hstation : t.stationSettings = s.stationSettings)
    (hsystem : t.systemSettings = s.systemSettings) : SameTexts keys w s t :=
  ⟨fun _ _ => by rw [setting, setting, hstation], hsystem⟩

lemma sameTexts_upsertSetting {key : String} (hkey : key ∈ keys) (j : ℤ) (value : String)
    (s : Engine) : SameTexts keys w s (upsertSetting j key value s) := by
  refine ⟨fun k hk => setting_upsertSetting ?_ value s, rfl⟩
  rintro rfl
  exact hk hkey

lemma SameTexts.mono {keys' : List String} (h : SameTexts keys w s t) (hk : keys ⊆ keys') :
    SameTexts keys' w s t :=
  ⟨fun key hkey => h.station key fun hmem => hkey (hk hmem), h.system⟩

/-- The settings a show and the listing of the queue write. -/
def showKeys : List String := ["program_queue_source", "_queue_change_sequence"]

/-- And those written while the queue is filled. -/
def fillKeys : List String := "_startup_sound_pending" :: showKeys

/-- All settings a tick writes. -/
def tickKeys : List String := "_ai_last_station_id_at" :: fillKeys

lemma sameTexts_enqueue (hkey : "_queue_change_sequence" ∈ keys) (st trackId : ℤ)
    (key : String) (s : Engine) : SameTexts keys w s (enqueue st trackId key s).1 := by
  unfold enqueue
  split
  · exact refl_of _ s
  · have hrow : SameTexts keys w s (insertQueue (.new st trackId (nextPosition st s) key) s) :=
      .of_eq rfl rfl
    exact trans_of _ hrow (sameTexts_upsertSetting hkey _ _ _)

lemma sameTexts_ensureFilled (hkey : "_queue_change_sequence" ∈ keys) (st : ℤ) (s : Engine) :
    SameTexts keys w s (BroadcastQueue.ensureFilled st s) := by
  unfold BroadcastQueue.ensureFilled ensureReadyForPlayback
  dsimp only
  split
  · exact refl_of _ s
  split
  · exact refl_of _ s
  · exact Runs.inv_of_foldl (P := SameTexts keys w s)
      (fun _ _ hs => trans_of _ hs (sameTexts_enqueue hkey ..)) _ (refl_of _ s)

lemma shows_sameTexts : Shows w (SameTexts showKeys w) where
  preorder := inferInstance
  playout _ _ _ _ _ := .of_eq rfl rfl
  filled := sameTexts_ensureFilled (by decide) _
  ads _ _ _ _ := .of_eq rfl rfl
  sessions _ _ := .of_eq rfl rfl
  automation := sameTexts_upsertSetting (by decide) _ _
  start _ _ _ := .of_eq rfl rfl

lemma fills_sameTexts (hk : fillKeys ⊆ keys) : Fills w (SameTexts keys w) where
  preorder := inferInstance
  queue _ _ _ := .of_eq rfl rfl
  tracks _ _ _ := .of_eq rfl rfl
  attempts _ _ _ := .of_eq rfl rfl
  setting key hkey := by
    have hfill : ["_startup_sound_pending", "_queue_change_sequence"] ⊆ fillKeys := by decide
    exact sameTexts_upsertSetting (hk (hfill hkey))
  playout _ _ _ _ _ := .of_eq rfl rfl

lemma prepares_sameTexts : Prepares w (SameTexts tickKeys w) where
  toFills := fills_sameTexts (by decide)
  announced := sameTexts_upsertSetting (by decide)
  start _ _ _ := .of_eq rfl rfl

lemma covers_sameTexts : Covers w (SameTexts tickKeys w) where
  preorder := inferInstance
  playout _ _ _ _ _ := .of_eq rfl rfl
  filled := sameTexts_ensureFilled (by decide) _
  ads _ _ _ _ := .of_eq rfl rfl
  sessions _ _ := .of_eq rfl rfl
  automation := sameTexts_upsertSetting (by decide) _ _
  start _ _ _ := .of_eq rfl rfl
  aside _ _ h := by
    have hqueue : queueKeys ⊆ tickKeys := by decide
    exact ⟨fun key hkey => h.settings key fun hmem => hkey (hqueue hmem), h.system⟩
  adTable _ _ := .of_eq rfl rfl
  schedule _ _ := .of_eq rfl rfl

/-! ### What is read in the same texts -/

section Readers

variable (h : SameTexts keys w s t)
include h

lemma SameTexts.settingOr {key : String} (hkey : key ∉ keys) (default : String) :
    settingOr w.stationId t key default = BroadcastQueue.settingOr w.stationId s key default := by
  unfold BroadcastQueue.settingOr
  rw [h.station key hkey]

lemma SameTexts.sweeperSettings (hk : keys ⊆ tickKeys) :
    sweeperSettings w.stationId t = BroadcastQueue.sweeperSettings w.stationId s := by
  have hout : ∀ key, key ∉ tickKeys → key ∉ keys := fun key hkey hmem => hkey (hk hmem)
  unfold BroadcastQueue.sweeperSettings
  rw [h.station _ (hout _ (by decide)), h.settingOr (hout _ (by decide)),
    h.station _ (hout "sweeper_enabled" (by decide))]

lemma SameTexts.baselineQueueId (hk : keys ⊆ tickKeys) :
    baselineQueueId w t = QueueUpkeep.baselineQueueId w s := by
  unfold QueueUpkeep.baselineQueueId
  rw [h.settingOr fun hmem => absurd (hk hmem) (by decide)]

lemma SameTexts.stationIdDue (hk : keys ⊆ fillKeys) :
    stationIdDue w env t = QueueUpkeep.stationIdDue w env s := by
  have hout : ∀ key, key ∉ fillKeys → key ∉ keys := fun key hkey hmem => hkey (hk hmem)
  unfold QueueUpkeep.stationIdDue
  rw [h.station _ (hout _ (by decide)), h.station _ (hout "_ai_last_station_id_at" (by decide))]

lemma SameTexts.adsEnabled (hk : keys ⊆ tickKeys) :
    adsEnabled w t = WorkerEnv.adsEnabled w s := by
  have hout : ∀ key, key ∉ tickKeys → key ∉ keys := fun key hkey hmem => hkey (hk hmem)
  unfold WorkerEnv.adsEnabled
  simp only [List.any_cons, List.any_nil]
  rw [h.station _ (hout _ (by decide)), h.station _ (hout "hourly_ad_enabled" (by decide))]

end Readers

/-! ### Ads that stay -/

/-- No ad begins to play, files stay, and no restart of an ad is noted. -/
structure AdsKept (w : Worker) (s t : Engine) : Prop where
  files : FilesKept s.tracks t.tracks
  attempts : ∀ id : ℤ, t.restarts ⟨w.stationId, .ads, id⟩ = s.restarts ⟨w.stationId, .ads, id⟩
  rows : ∀ (id : ℤ) (r : AdBreakItem), t.adBreakItems[id]? = some r → r.status = .playing →
    s.adBreakItems[id]? = some r

lemma filesKept_refl (tracks : Table Track) : FilesKept tracks tracks :=
  fun _ t ht => ⟨t, ht, rfl⟩

lemma filesKept_trans {a b c : Table Track} (h : FilesKept a b) (h' : FilesKept b c) :
    FilesKept a c := by
  intro id t ht
  obtain ⟨t', ht', hfile⟩ := h id t ht
  obtain ⟨t'', ht'', hfile'⟩ := h' id t' ht'
  exact ⟨t'', ht'', hfile'.trans hfile⟩

instance : IsPreorder Engine (AdsKept w) where
  refl _ := ⟨filesKept_refl _, fun _ => rfl, fun _ _ h _ => h⟩
  trans _ _ _ h h' := ⟨filesKept_trans h.files h'.files,
    fun id => (h'.attempts id).trans (h.attempts id),
    fun id r hr hst => h.rows id r (h'.rows id r hr hst) hst⟩

lemma AdsKept.of_eq (htracks : t.tracks = s.tracks) (hrestarts : t.restarts = s.restarts)
    (hads : t.adBreakItems = s.adBreakItems) : AdsKept w s t :=
  ⟨by rw [htracks]; exact filesKept_refl _, fun _ => by rw [hrestarts],
    fun _ _ h _ => by rwa [hads] at h⟩

lemma prepares_adsKept : Prepares w (AdsKept w) where
  preorder := inferInstance
  queue _ _ _ := .of_eq rfl rfl rfl
  tracks _ _ h := ⟨h, fun _ => rfl, fun _ _ h _ => h⟩
  attempts s item r := ⟨filesKept_refl _, fun id => Function.update_of_ne (by simp) _ _,
    fun _ _ h _ => h⟩
  setting _ _ _ _ _ := .of_eq rfl rfl rfl
  playout _ _ _ _ _ := .of_eq rfl rfl rfl
  start _ _ _ := .of_eq rfl rfl rfl
  announced _ _ _ := .of_eq rfl rfl rfl

lemma shows_adsKept : Shows w (AdsKept w) where
  preorder := inferInstance
  playout _ _ _ _ _ := .of_eq rfl rfl rfl
  filled := prepares_adsKept.ensureFilled _
  ads id f hf s := by
    refine ⟨filesKept_refl _, fun _ => rfl, fun id' r hr hst => ?_⟩
    rw [updateAd, lookup_modify] at hr
    split_ifs at hr
    · obtain ⟨q, -, rfl⟩ := Option.map_eq_some_iff.mp hr
      exact absurd hst (hf q)
    · exact hr
  sessions _ _ := .of_eq rfl rfl rfl
  automation _ := .of_eq rfl rfl rfl
  start _ _ _ := .of_eq rfl rfl rfl

lemma trackUri_of_filesKept {a b : Engine} (h : FilesKept a.tracks b.tracks) {track : ℤ}
    (huri : trackUri env a track ≠ "") : trackUri env b track = WorkerEnv.trackUri env a track := by
  unfold WorkerEnv.trackUri at huri ⊢
  cases ha : a.tracks[track]? with
  | none => rw [ha] at huri; exact absurd rfl huri
  | some t =>
    obtain ⟨t', ht', hfile⟩ := h track t ha
    rw [ht']
    dsimp only
    rw [hfile]

/-! ### The texts before a tick -/

variable (w env) in
/-- What the texts and the tables of a station promise for a tick before it begins. -/
structure TextsFit (s : Engine) : Prop where
  startup : isStartupSoundPending w s = true →
    ∃ trackId, intSetting ((setting w.stationId s "startup_sound_track_id").getD "0") 0 =
        .ok trackId ∧
      (isTruthy ((setting w.stationId s "startup_sound_enabled").getD "false") = true →
        settingOr w.stationId s "startup_sound_mode" "random" = "specific" →
          trackId < integerBound)
  sweeper : ∃ sweeper, sweeperSettings w.stationId s = .ok sweeper ∧
    (sweeper.enabled = true → sweeper.unit = .minutes → baselineQueueId w s < integerBound)
  announce : isTruthy ((setting w.stationId s "ai_host_enabled").getD "false") = true →
    ∃ due, stationIdDue w env s = .ok due
  /-- no ad that plays can have to be given up -/
  ads : ∀ (id : ℤ) (r : AdBreakItem), s.adBreakItems[id]? = some r → r.stationId = w.stationId →
    r.status = .playing → adsEnabled w s = true ∧ (w.hasRuntime = true →
      trackUri env s r.trackId ≠ "" ∧ (restartSuppressed w env .restartAd .ads id s = false ∨
        ∀ asked, playbackMatches env (env.status .restartAd asked)
          (trackUri env s r.trackId) = true))
  hourly : ∃ interval,
    intSetting ((setting w.stationId s "hourly_ad_interval_minutes").getD "60") 60 =
        .ok interval ∧
      (adsEnabled w s = true →
        parseIdList ((setting w.stationId s "hourly_ad_track_ids").getD "") ≠ [] →
          hourlyDue env interval < maxSecond ∧
            ∀ id ∈ parseIdList ((setting w.stationId s "hourly_ad_track_ids").getD ""),
              id < integerBound)

namespace TextsFit

variable (h : TextsFit w env s)
include h

lemma startupFits (ht : SameTexts showKeys w s t) : StartupFits w t := by
  unfold StartupFits isStartupSoundPending
  rw [ht.station _ (by decide), ht.station _ (by decide), ht.station _ (by decide),
    ht.settingOr (by decide)]
  exact fun hpending _ => h.startup hpending

lemma sweeperFits (ht : SameTexts fillKeys w s t) : SweeperFits w t := by
  obtain ⟨sweeper, hsweeper, -⟩ := h.sweeper
  exact ⟨sweeper, by rw [ht.sweeperSettings (by decide), hsweeper]⟩

lemma baselineFits (ht : SameTexts fillKeys w s t) : BaselineFits w t := by
  obtain ⟨sweeper, hsweeper, hbaseline⟩ := h.sweeper
  refine ⟨sweeper, by rw [ht.sweeperSettings (by decide), hsweeper], fun hon hunit _ => ?_⟩
  rw [ht.baselineQueueId (by decide)]
  exact hbaseline hon hunit

lemma announceFits (ht : SameTexts fillKeys w s t) : AnnounceFits w env t := by
  unfold AnnounceFits
  rw [ht.station _ (by decide), ht.stationIdDue fun _ hk => hk]
  exact fun hon _ _ _ _ => h.announce hon

lemma adFits (hruntime : RuntimeWorks env) (ht : SameTexts tickKeys w s t) (ha : AdsKept w s t)
    {playing : ℤ × AdBreakItem} (hp : currentAd w.stationId t = some playing) :
    advanceGivesUp w env playing t = false := by
  obtain ⟨hrow, hst, hplays⟩ : t.adBreakItems[playing.1]? = some playing.2 ∧
      playing.2.stationId = w.stationId ∧ playing.2.status = .playing := by
    obtain ⟨hrow, hok⟩ := List.mem_filter.mp (Sql.firstBy_mem hp)
    exact ⟨mem_rows.mp hrow, by simpa using hok⟩
  obtain ⟨hads, hrest⟩ := h.ads playing.1 playing.2 (ha.rows _ _ hrow hplays) hst hplays
  unfold advanceGivesUp restartGivesUp
  rw [ht.adsEnabled fun _ hk => hk, hads]
  cases hon : w.hasRuntime with
  | false => simp
  | true =>
    obtain ⟨huri, hok⟩ := hrest hon
    have hsame := trackUri_of_filesKept ha.files huri
    have hmissing : trackUri env t playing.2.trackId ≠ "" := by rwa [hsame]
    rcases hok with hallowed | hmatches
    · have hfree : restartSuppressed w env .restartAd .ads playing.1 t = false := by
        unfold restartSuppressed at hallowed ⊢
        rwa [ha.attempts]
      simp [hfree, hmissing, hruntime .restartAd]
    · have hplays : adMatches w env playing t = true := by
        unfold adMatches
        rw [hsame]
        simpa [huri] using hmatches _
      simp [hplays]

lemma hourlyFits (ht : SameTexts tickKeys w s t) : HourlyFits w env t := by
  obtain ⟨interval, hinterval, hads⟩ := h.hourly
  unfold HourlyFits
  rw [ht.station _ (by decide), ht.station _ (by decide), ht.adsEnabled fun _ hk => hk]
  refine ⟨interval, hinterval, fun hon _ trackIds hids hne => ?_⟩
  subst hids
  exact (hads hon hne).imp_right fun hall id hid _ => hall id hid

end TextsFit

/-! ### From before the tick to its phases -/

lemma along_cons {p : Phase} {ps : List Phase} (hp : p.Fits w env s)
    (hps : ∀ t, final (p.run w env s) = t →
      Along (Phase.run w env) (Phase.Fits w env) ps t) :
    Along (Phase.run w env) (Phase.Fits w env) (p :: ps) s := ⟨hp, hps _ rfl⟩

lemma moves_phase {R : Engine → Engine → Prop} {α : Type} {x : WorkerM α} {s₀ : Engine}
    [IsPreorder Engine R] (hs : R s₀ s) (hx : Moves R x) (ht : final (x s) = t) : R s₀ t :=
  trans_of R hs (ht ▸ hx.final s)

/-- What the texts promise before the phases, the phases find. -/
theorem TextsFit.phasesFit (h : TextsFit w env s) (hruntime : RuntimeWorks env)
    {t₀ : Engine} (ht₀ : SameTexts showKeys w s t₀) (ha₀ : AdsKept w s t₀) :
    PhasesFit w env t₀ := by
  have hfill : Fills w (SameTexts fillKeys w) := fills_sameTexts fun _ hk => hk
  have hads : Prepares w (AdsKept w) := prepares_adsKept
  have hshow : showKeys ⊆ fillKeys := by decide
  have htick : fillKeys ⊆ tickKeys := by decide
  unfold PhasesFit filling others
  refine along_cons (h.startupFits ht₀) fun t₁ e₁ => ?_
  have ht₁ := moves_phase (ht₀.mono hshow) hfill.maybeInsertStartupSound e₁
  have ha₁ := moves_phase ha₀ hads.maybeInsertStartupSound e₁
  refine along_cons trivial fun t₂ e₂ => ?_
  have ht₂ := moves_phase ht₁ hfill.failCrossStationQueueItems e₂
  have ha₂ := moves_phase ha₁ hads.failCrossStationQueueItems e₂
  refine along_cons (fun _ => h.sweeperFits ht₂) fun t₃ e₃ => ?_
  have ht₃ := moves_phase ht₂ hfill.autofillQueue e₃
  have ha₃ := moves_phase ha₂ hads.autofillQueue e₃
  refine along_cons (h.baselineFits ht₃) fun t₄ e₄ => ?_
  have ht₄ := moves_phase ht₃ hfill.sweepQueue e₄
  have ha₄ := moves_phase ha₃ hads.sweepQueue e₄
  refine along_cons (h.announceFits ht₄) fun t₅ e₅ => ?_
  have ht₅ := moves_phase (ht₄.mono htick) prepares_sameTexts.maybePrepareAiQueue e₅
  have ha₅ := moves_phase ha₄ hads.maybePrepareAiQueue e₅
  refine along_cons trivial fun t₆ e₆ => ?_
  have ht₆ := moves_phase ht₅ prepares_sameTexts.advancePlayingQueueItem e₆
  have ha₆ := moves_phase ha₅ hads.advancePlayingQueueItem e₆
  refine along_cons (fun playing hp => h.adFits hruntime ht₆ ha₆ hp) fun t₇ e₇ => ?_
  have ht₇ := moves_phase ht₆ covers_sameTexts.advancePlayingAdItem e₇
  refine along_cons trivial fun t₈ e₈ => ?_
  have ht₈ := moves_phase ht₇ covers_sameTexts.failDisabledActiveAds e₈
  exact along_cons (h.hourlyFits ht₈) fun _ _ => trivial

/-- What the texts promise before a tick, the tick finds. -/
theorem TextsFit.tickFits (h : TextsFit w env s) (hruntime : RuntimeWorks env) :
    TickFits w env s := by
  intro _ t ht
  obtain ⟨leases, hleased⟩ := leased_eq w env s
  have htexts : SameTexts showKeys w s (leased w env s) := by
    rw [hleased]
    exact .of_eq rfl rfl
  have hads : AdsKept w s (leased w env s) := by
    rw [hleased]
    exact .of_eq rfl rfl rfl
  refine h.phasesFit hruntime ?_ ?_
  · exact trans_of _ htexts ((shows_sameTexts.processShowLifecycle _).ok ht)
  · exact trans_of _ hads ((shows_adsKept.processShowLifecycle _).ok ht)

/-! ### The values -/

/-- The times and intervals that are derived from the settings are finite and not negative,
whichever of them a tick comes to need. -/
structure FiniteValues (w : Worker) (s : Engine) : Prop where
  crossfade : ∃ c, defaultCrossfadeSeconds s = .num c ∧ 0 ≤ c
  sweeper : ∀ sweeper, sweeperSettings w.stationId s = .ok sweeper → 0 ≤ sweeper.interval
  notice : ∀ n, intOf (settingOr w.stationId s "ad_break_advance_notice" "5") = some n → 0 ≤ n
  tolerance : ∀ n, intOf (settingOr w.stationId s "ad_break_tolerance_minutes" "10") = some n →
    0 ≤ n

/-- The crossfade is not read as infinite, and the minutes around a break have no sign. -/
structure ValuesFit (w : Worker) (s : Engine) : Prop where
  crossfade : floatOf (s.systemSettings.getD "default_crossfade_seconds" "3.0") ≠
    some (.inf false)
  notice : ∀ n < 0, intOf (settingOr w.stationId s "ad_break_advance_notice" "5") ≠ some n
  tolerance : ∀ n < 0, intOf (settingOr w.stationId s "ad_break_tolerance_minutes" "10") ≠ some n

lemma finite_crossfade : (∃ c, defaultCrossfadeSeconds s = .num c ∧ 0 ≤ c) ↔
    floatOf (s.systemSettings.getD "default_crossfade_seconds" "3.0") ≠ some (.inf false) := by
  unfold defaultCrossfadeSeconds
  generalize s.systemSettings.getD "default_crossfade_seconds" "3.0" = raw
  dsimp only
  by_cases hraw : raw = ""
  · subst hraw
    rw [if_pos rfl]
    exact iff_of_true ⟨_, rfl, le_max_left 0 0⟩ (by decide +kernel)
  rw [if_neg hraw]
  rcases floatOf raw with _ | _ | negative | q
  · exact iff_of_true ⟨0, rfl, le_rfl⟩ (by simp)
  · exact iff_of_true ⟨0, rfl, le_rfl⟩ (by simp)
  · cases negative with
    | false => exact iff_of_false (fun ⟨c, hc, _⟩ => by cases hc) (by simp)
    | true => exact iff_of_true ⟨0, rfl, le_rfl⟩ (by simp)
  · exact iff_of_true ⟨_, rfl, le_max_left 0 q⟩ (by simp)

lemma one_le_interval {sweeper : Sweeper} (h : sweeperSettings w.stationId s = .ok sweeper) :
    1 ≤ sweeper.interval := by
  unfold sweeperSettings at h
  cases hi : intSetting ((setting w.stationId s "sweeper_interval").getD "2") 2 with
  | error e => rw [hi] at h; cases h
  | ok n =>
    rw [hi] at h
    have heq : sweeper.interval = max 1 n := congrArg Sweeper.interval (Except.ok.inj h).symm
    rw [heq]
    exact le_max_left 1 n

lemma finiteValues_iff : FiniteValues w s ↔ ValuesFit w s := by
  have hsign : ∀ raw : String, (∀ n, intOf raw = some n → 0 ≤ n) ↔
      ∀ n < 0, intOf raw ≠ some n := fun raw =>
    forall_congr' fun n => ⟨fun h hn hraw => absurd (h hraw) (not_le.mpr hn),
      fun h hraw => not_lt.mp fun hn => h hn hraw⟩
  constructor
  · exact fun h => ⟨finite_crossfade.mp h.crossfade, (hsign _).mp h.notice,
      (hsign _).mp h.tolerance⟩
  · exact fun h => ⟨finite_crossfade.mpr h.crossfade,
      fun _ hs => Int.one_nonneg.trans (one_le_interval hs), (hsign _).mpr h.notice,
      (hsign _).mpr h.tolerance⟩

/-! ### Ticks that return -/

/-- A song of the automation waits, with these texts in the settings. -/
def songWithTexts (crossfade : String) (texts : List (String × String)) : Engine :=
  { Engine.empty with
    tracks := Engine.empty.tracks.insert 1
      ⟨1, "", "", "/one.mp3", 200, "music", true, true, 0, none⟩
    queueItems := Engine.empty.queueItems.insert 1 (.new 1 1 1 (musicKey 1 1))
    stationSettings := Engine.empty.stationSettings.insert 1
      (texts.foldl (fun t text => t.insert text.1 text.2) ∅)
    systemSettings := Engine.empty.systemSettings.insert "default_crossfade_seconds" crossfade }

lemma validKeys_songWithTexts (crossfade : String) (texts : List (String × String)) :
    ValidKeys soleWorker (songWithTexts crossfade texts) where
  rows id r hr _ _ trackId pos hkey := by
    unfold songWithTexts at hr
    dsimp only at hr
    rw [lookup_insert] at hr
    split_ifs at hr
    · obtain rfl := Option.some.inj hr
      exact musicKey_track (Option.some.inj hkey)
    · cases hr
  tracks id t ht := by
    unfold songWithTexts at ht
    dsimp only at ht
    rw [lookup_insert] at ht
    split_ifs at ht with hid
    · exact hid ▸ Int.one_pos
    · cases ht

/-- Texts that are no numbers, not finite or negative, where the tick bears them. -/
def oddTexts : Engine :=
  songWithTexts "nan" [("sweeper_enabled", "on"), ("sweeper_interval", "-2e1"),
  ("sweeper_interval_unit", "minutes"), ("sweeper_baseline_queue_id", "soon"),
  ("hourly_ad_interval_minutes", "an hour"), ("ai_station_id_interval", "inf")]

/-- An interval that is infinite, and a crossfade that is. -/
def infiniteTexts : Engine := songWithTexts "1e400" [("sweeper_interval", "inf")]

end OnAir.SettingsAhead
