import OnAir.ShowBreaks

/-!
The ads of a show break.

While a session is on break and an ad is due, no song, no schedule item and no fallback starts.
The ads that wait are left alone until the choice, and there the ad that is due comes first, unless
the host has an item: then the host's item starts in the break.
-/

namespace OnAir.BreakAds

open CalmPhases OneSource PlayoutAdvance PlayoutTables Programs QueuePhases QuietPhases Runs
  ShowBreaks ShowPhases StationWorker OnAir.Table WorkerEnv

/-! ### A break with an ad that is due -/

/-- A tick has the lease and finds its session on break, ads enabled and an ad due; its clock does
not go back. -/
structure AdIsDue (w : Worker) (env : Env) (s : Engine) (session : Session) : Prop where
  granted : granted w env s = true
  active : activeSession w.stationId s = some session
  onBreak : session.2.status = .onBreak
  ads : adsEnabled w s = true
  due : (nextDue w.stationId s env.datetime (env.stamp .showDue)).isSome = true
  later : env.stamp .showDue ≤ env.stamp .choiceDue

/-- The kinds of sources that are not to start in a break. -/
def breakKinds : List StartKind := [.host, .manual, .schedule, .fallback]

/-- The ad plays, and the runtime was asked to play it, or it has failed. -/
def Attended (w : Worker) (env : Env) (ad : ℤ × AdBreakItem) (t : Engine) : Prop :=
  ∃ r, t.adBreakItems[ad.1]? = some r ∧ (r.status = .failed ∨ r.status = .playing ∧
    (w.hasRuntime = true → ∃ x rest, t.starts = x :: rest ∧ x.kind = .ads ∧
      x.uri = trackUri env t ad.2.trackId))

/-- The ad waits again, since the output failed in a way that may pass. -/
def Retried (env : Env) (ad : ℤ × AdBreakItem) (t : Engine) : Prop :=
  (∃ r, t.adBreakItems[ad.1]? = some r ∧ r.status = .pending) ∧
    ∃ text, env.startError .start = some text ∧ isTransientOutputFailure text = true

/-- No other source starts, and where no item plays, the ad that is due starts or fails. -/
def PlaysAds (w : Worker) (env : Env) (s : Engine) : Prop :=
  ∀ t ∈ tick w s env,
    (∃ new, t.starts = new ++ s.starts ∧ ∀ x ∈ new, x.kind ∉ breakKinds) ∧
      (currentPlaying w.stationId s = none → (current w.stationId s).source ≠ .host →
        ∃ ad, nextDue w.stationId s env.datetime (env.stamp .showDue) = some ad ∧
          Attended w env ad t)

/-! ### What happens before the choice -/

section Waiting

variable {w : Worker} {env : Env} {s t u : Engine} {id : ℤ} {session : Session}

/-- The ads that wait are the same, while `id` does not wait. -/
structure Waits (w : Worker) (id : ℤ) (s t : Engine) : Prop where
  other : (∀ r, s.adBreakItems[id]? = some r → r.status ≠ .pending) →
    ∀ r, t.adBreakItems[id]? = some r → r.status ≠ .pending
  pending : (∀ r, s.adBreakItems[id]? = some r → r.status ≠ .pending) →
    ∀ (j : ℤ) (r : AdBreakItem), r.status = .pending →
      (t.adBreakItems[j]? = some r ↔ s.adBreakItems[j]? = some r)
  ads : adsEnabled w t = adsEnabled w s
  host : hostPending w s = none → hostPending w t = none

instance : IsPreorder Engine (Waits w id) where
  refl _ := ⟨fun h => h, fun _ _ _ _ => Iff.rfl, rfl, fun h => h⟩
  trans _ _ _ h h' := ⟨fun hs => h'.other (h.other hs),
    fun hs j r hr => (h'.pending (h.other hs) j r hr).trans (h.pending hs j r hr),
    h'.ads.trans h.ads, fun hs => h'.host (h.host hs)⟩

lemma hostPending_aside (h : Aside w s t) : hostPending w t = hostPending w s := by
  unfold hostPending sourceIsHost nextHostItem
  rw [h.settings _ (by decide), h.host]

lemma Waits.of_aside (ha : Aside w s t) : Waits w id s t where
  other hs r hr := hs r (ha.ads ▸ hr)
  pending _ j r _ := by rw [ha.ads]
  ads := ha.adsEnabled
  host hs := (hostPending_aside ha).trans hs

/-- What writes neither ads nor settings, and takes host items at most. -/
lemma Waits.of_eq (ha : t.adBreakItems = s.adBreakItems)
    (hs : t.stationSettings = s.stationSettings)
    (hh : hostPending w s = none → hostPending w t = none) : Waits w id s t where
  other h r hr := h r (ha ▸ hr)
  pending _ j r _ := by rw [ha]
  ads := by
    unfold adsEnabled setting
    rw [hs]
  host := hh

lemma waits_updateAd {f : AdBreakItem → AdBreakItem} (hf : ∀ r, (f r).status ≠ .pending)
    (s : Engine) : Waits w id s (updateAd id f s) where
  other _ r hr := by
    rw [updateAd, lookup_modify, if_pos rfl] at hr
    obtain ⟨q, -, rfl⟩ := Option.map_eq_some_iff.mp hr
    exact hf q
  pending h j r hr := by
    rw [updateAd, lookup_modify]
    split_ifs with hj
    · subst hj
      refine ⟨fun hmap => ?_, fun hrow => absurd hr (h r hrow)⟩
      obtain ⟨q, -, rfl⟩ := Option.map_eq_some_iff.mp hmap
      exact absurd hr (hf q)
    · exact Iff.rfl
  ads := rfl
  host h := h

lemma effects_waits : Effects w (Waits w id) where
  preorder := inferInstance
  playout _ _ _ _ _ := .of_eq rfl rfl fun h => h
  filled _ := .of_aside (aside_ensureFilled ..)

lemma adAdvance_waits : AdAdvance w id (Waits w id) where
  toEffects := effects_waits
  closed _ hf := waits_updateAd fun r => (hf r).2
  again _ := waits_updateAd fun _ => by simp
  attempts _ _ := .of_eq rfl rfl fun h => h
  played _ _ _ := .of_eq rfl rfl fun h => h

lemma hostPending_popHostItem (item : ℤ) (h : hostPending w s = none) :
    hostPending w (popHostItem item s) = none := by
  have hsame : sourceIsHost w.stationId (popHostItem item s) = sourceIsHost w.stationId s := rfl
  unfold hostPending at h ⊢
  rw [hsame]
  split_ifs at h ⊢ with hsource
  · have hempty := Sql.firstBy_eq_none.mp h
    refine Sql.firstBy_eq_none.mpr (List.filter_eq_nil_iff.mpr fun r hr => ?_)
    have hrow : s.programQueueItems[r.1]? = some r.2 := by
      have := mem_rows.mp hr
      rw [popHostItem, lookup_erase] at this
      split_ifs at this
      exact this
    exact List.filter_eq_nil_iff.mp hempty r (mem_rows.mpr hrow)
  · rfl

/-- Some ad waits. -/
def SomeWaits (w : Worker) (s : Engine) : Prop :=
  ∃ (j : ℤ) (r : AdBreakItem),
    s.adBreakItems[j]? = some r ∧ r.stationId = w.stationId ∧ r.status = .pending

lemma listActiveAds_isEmpty (h : SomeWaits w s) (datetime : String → Option ℤ) :
    (listActiveAds w.stationId s datetime 1).isEmpty = false := by
  obtain ⟨j, r, hr, hst, hp⟩ := h
  rw [List.isEmpty_eq_false_iff]
  intro hnil
  rw [listActiveAds, List.take_eq_nil_iff] at hnil
  have hmem : (j, r) ∈ adRows w.stationId s [.pending, .playing] :=
    List.mem_filter.mpr ⟨mem_rows.mpr hr, by simp [hst, hp]⟩
  rcases hnil with hnil | hnil
  · cases hnil
  · rw [← Sql.mem_orderBy, hnil] at hmem
    cases hmem

lemma SomeWaits.waits (h : SomeWaits w s) (hw : Waits w id s t)
    (hid : ∀ r, s.adBreakItems[id]? = some r → r.status ≠ .pending) : SomeWaits w t := by
  obtain ⟨j, r, hr, hst, hp⟩ := h
  exact ⟨j, r, (hw.pending hid j r hp).mpr hr, hst, hp⟩

/-- The row that the advance of the ads may write, or else one that is not there. -/
def adWritten (w : Worker) (s : Engine) : ℤ :=
  ((currentAd w.stationId s).map (·.1)).getD (nextId s.adBreakItems)

lemma adWritten_not_pending {r : AdBreakItem} (hr : s.adBreakItems[adWritten w s]? = some r) :
    r.status ≠ .pending := by
  unfold adWritten at hr
  cases had : currentAd w.stationId s with
  | none =>
    rw [had, Option.map_none, Option.getD_none, lookup_nextId] at hr
    cases hr
  | some ad =>
    obtain ⟨q, hq, -, hp⟩ := adPlays_of_currentAd had
    rw [had, Option.map_some, Option.getD_some, hq] at hr
    cases hr
    rw [hp]
    decide

lemma waits_advancePlayingAdItem :
    Ends (advancePlayingAdItem w env) s (fun _ => Waits w (adWritten w s) s)
      (Waits w (adWritten w s) s) := by
  refine advancePlayingAdItem_ends (fun ad had => ?_) fun _ _ _ _ => .of_eq rfl rfl fun h => h
  rw [adWritten, had]
  exact adAdvance_waits

lemma failDisabledActiveAds_eq (h : adsEnabled w s = true) :
    failDisabledActiveAds w env s = .ok ⟨⟩ s := by
  rw [failDisabledActiveAds, run_bind]
  change (if adsEnabled w s then _ else _ : WorkerM Unit) s = _
  rw [if_pos h]
  rfl

lemma ensureHourlyAdBreak_waits (hads : adsEnabled w s = true) (hwaits : SomeWaits w s) :
    Ends (ensureHourlyAdBreak w env) s (fun _ t => t = s) (fun t => t = s) := by
  unfold ensureHourlyAdBreak
  rw [ends_bind, ends_get, ends_bind]
  have hlift : ∀ x : Except PythonText.IntError ℤ,
      Ends (liftSetting x) s (fun _ t => t = s) (fun t => t = s) := by
    intro x
    cases x <;> rfl
  refine (hlift _).mono (fun interval t ht => ?_) fun _ h => h
  subst ht
  simp only [hads, Bool.not_true, Bool.false_eq_true, if_false, listActiveAds_isEmpty hwaits,
    Bool.not_false, if_true]
  exact rfl

/-- Where ads are enabled and one waits, the rest of the advance leaves those that wait alone. -/
lemma advanceOthers_waits (hads : adsEnabled w s = true) (hwaits : SomeWaits w s) :
    Ends (advanceOthers w env) s (fun _ => Waits w (adWritten w s) s)
      (Waits w (adWritten w s) s) := by
  unfold advanceOthers
  refine waits_advancePlayingAdItem.bind fun _ t ht => ?_
  have hads' : adsEnabled w t = true := ht.ads.trans hads
  have hwaits' : SomeWaits w t := hwaits.waits ht fun _ => adWritten_not_pending
  rw [ends_bind, Ends, failDisabledActiveAds_eq hads']
  refine ((ensureHourlyAdBreak_waits hads' hwaits').mono (fun _ u hu => hu ▸ ht)
    fun u hu => hu ▸ ht).bind fun _ u hu => ?_
  exact (effects_waits.advanceHostTrack fun _ _ =>
    .of_eq rfl rfl (hostPending_popHostItem _)).after hu

end Waiting

/-! ### The choice in a break -/

section Choice

variable {w : Worker} {env : Env} {s t : Engine} {session : Session} {ad : ℤ × AdBreakItem}

lemma onBreak_some (h : session.2.status = .onBreak) :
    onBreak (some session) = true ∧ adSuppressed (some session) = false := by
  simp [onBreak, adSuppressed, h]

/-- In a break the ad that is due starts, or else the host's item. -/
lemma startSource_onBreak (h : session.2.status = .onBreak)
    (playing pending : Option (ℤ × QueueItem)) :
    startSource w env playing pending (some ad) (some session) s =
      (match hostPending w s with
        | some item => playHostTrack w env item
        | none => do
          finishPlayingQueueItem w env
          playManagedItem w env (managedAd env ad)) s := by
  obtain ⟨hon, hsuppressed⟩ := onBreak_some h
  rw [startSource, run_bind]
  change (_ : WorkerM Outcome) s = _
  simp only [hon, hsuppressed, Bool.not_true, Bool.and_false, Bool.false_eq_true, if_false,
    Option.isSome_some, Bool.not_false, Bool.and_true]
  cases hostPending w s with
  | none => simp only [chooseSource]; rfl
  | some item => rfl

lemma starts_ensureFilled (j : ℤ) (s : Engine) :
    (BroadcastQueue.ensureFilled j s).starts = s.starts := by
  unfold BroadcastQueue.ensureFilled BroadcastQueue.ensureReadyForPlayback
  dsimp only
  split
  · rfl
  split
  · rfl
  · refine inv_of_foldl (P := fun t : Engine => t.starts = s.starts) (fun t item h => ?_) _ rfl
    unfold enqueue
    split
    · exact h
    · exact h

/-- After the listing of the queue an ad is attended as it was before. -/
lemma attended_broadcastQueue {site : Site} {outcome : Outcome} (h : Attended w env ad s) :
    Ends (do
      broadcastQueue w env site
      pure outcome) s (fun _ => Attended w env ad) fun _ => False := by
  have hfilled : Attended w env ad (BroadcastQueue.ensureFilled w.stationId s) := by
    obtain ⟨r, hr, hst⟩ := h
    refine ⟨r, by rw [(aside_ensureFilled (w := w) _ _).ads]; exact hr, hst.imp_right ?_⟩
    refine And.imp_right fun hstart hruntime => ?_
    obtain ⟨x, rest, hx, hkind, huri⟩ := hstart hruntime
    refine ⟨x, rest, by rw [starts_ensureFilled, hx], hkind, ?_⟩
    rw [huri, (sameFiles_ensureFilled (w := w) _ _).uri]
  unfold broadcastQueue
  split_ifs
  · exact hfilled
  · exact h

/-- An ad that is chosen plays, or it has failed, or it waits again. -/
lemma playAd_ends (hrow : ∃ r, s.adBreakItems[ad.1]? = some r) :
    Ends (playManagedItem w env (managedAd env ad)) s (fun _ => Attended w env ad)
      fun t => Attended w env ad t ∨ Retried env ad t := by
  obtain ⟨row, hrow⟩ := hrow
  have hset : ∀ (f : AdBreakItem → AdBreakItem) (u : Engine) (r : AdBreakItem),
      u.adBreakItems[ad.1]? = some r → (updateAd ad.1 f u).adBreakItems[ad.1]? = some (f r) := by
    intro f u r hr
    rw [updateAd, lookup_modify, if_pos rfl, hr]
    rfl
  unfold playManagedItem setPlayoutState
  rw [ends_bind, ends_modify, ends_bind, ends_modify, ends_bind, ends_get]
  generalize hs₁ : setCurrent w.stationId (managedAd env ad).source (some (managedAd env ad).itemId)
    _ ((managedAd env ad).markPlaying s) = s₁
  have hplays : ∃ r, s₁.adBreakItems[ad.1]? = some r ∧ r.status = .playing := by
    have hmarked := hset (fun r => { r with
      status := .playing
      startedAt := if r.status = .playing && r.startedAt.isSome then r.startedAt
        else some (env.stamp .start) }) s row hrow
    exact ⟨_, by rw [← hs₁]; exact hmarked, rfl⟩
  obtain ⟨r, hr, hplaying⟩ := hplays
  dsimp only
  split_ifs
  · rw [ends_bind, ends_modify, ends_bind, ends_modify, ends_pure]
    exact ⟨_, hset _ s₁ r hr, .inl rfl⟩
  unfold startManagedItem
  rw [ends_bind, ends_get]
  cases hruntime : w.hasRuntime with
  | false =>
    refine Ends.tryCatch (F := fun _ => False) ?_ fun _ _ h => h.elim
    simp only [Bool.false_eq_true, if_false]
    exact attended_broadcastQueue ⟨r, hr, .inr ⟨hplaying, fun h => by simp [hruntime] at h⟩⟩
  | true =>
    simp only [if_true]
    unfold startStation
    cases hstart : env.startError .start with
    | none =>
      refine Ends.tryCatch (F := fun _ => False) ?_ fun _ _ h => h.elim
      dsimp only
      rw [ends_bind, ends_modify]
      refine attended_broadcastQueue ⟨r, hr, .inr ⟨hplaying, fun _ => ?_⟩⟩
      exact ⟨_, _, rfl, rfl, rfl⟩
    | some text =>
      change Ends (do
        modify (if isTransientOutputFailure text then (managedAd env ad).restore
          else (managedAd env ad).markFailed)
        modify (setCurrent w.stationId .none none _)
        throw (.start text) : WorkerM Outcome) s₁ _ _
      rw [ends_bind, ends_modify, ends_bind, ends_modify, ends_throw]
      split_ifs with htransient
      · exact .inr ⟨⟨_, hset _ s₁ r hr, rfl⟩, text, hstart, htransient⟩
      · exact .inl ⟨_, hset _ s₁ r hr, .inl rfl⟩

end Choice

/-! ### A tick in a break -/

/-- The calls of `start_station` since `s` are of kinds that satisfy `P`. -/
def NewStarts (P : StartKind → Prop) (s t : Engine) : Prop :=
  ∃ new, t.starts = new ++ s.starts ∧ ∀ x ∈ new, P x.kind

section NewStarts

variable {w : Worker} {env : Env} {P : StartKind → Prop} {s t u : Engine} {α : Type}
  {x : WorkerM α}

lemma NewStarts.refl (s : Engine) : NewStarts P s s := ⟨[], rfl, by simp⟩

lemma NewStarts.trans (h : NewStarts P s t) (h' : NewStarts P t u) : NewStarts P s u := by
  obtain ⟨new, hn, hk⟩ := h
  obtain ⟨new', hn', hk'⟩ := h'
  refine ⟨new' ++ new, by rw [hn', hn, List.append_assoc], fun x hx => ?_⟩
  exact (List.mem_append.mp hx).elim (hk' x) (hk x)

instance : IsPreorder Engine (NewStarts P) where
  refl := NewStarts.refl
  trans _ _ _ := NewStarts.trans

lemma newStarts_aside (h : Aside w s t) (hP : P .manualRestart) : NewStarts P s t := by
  obtain ⟨new, hn, hk⟩ := h.starts
  exact ⟨new, hn, fun x hx => hk x hx ▸ hP⟩

lemma newStarts_of_aside (h : Moves (Aside w) x) (hP : P .manualRestart) :
    Moves (NewStarts P) x :=
  h.mono fun _ _ ha => newStarts_aside ha hP

lemma newStarts_of_calm {st : ℤ} (h : Moves (Calm (fun k _ => P k) st) x) :
    Moves (NewStarts P) x :=
  h.mono fun _ _ hc => hc.starts

lemma NewStarts.of_eq (h : t.starts = s.starts) : NewStarts P s t := ⟨[], h, by simp⟩

lemma startsAt_newStarts {kind : StartKind} {site : Site} (hP : P kind) :
    StartsAt env (NewStarts P) kind site :=
  fun _ x hx _ => ⟨[x], rfl, by simpa [hx] using hP⟩

lemma effects_newStarts : Effects w (NewStarts P) where
  preorder := inferInstance
  playout _ _ _ _ _ := .of_eq rfl
  filled _ := .of_eq (starts_ensureFilled ..)

lemma newStarts_playHostTrack (hP : P .manualRestart) (hhost : P .host)
    (item : ℤ × ProgramQueueItem) : Moves (NewStarts P) (playHostTrack w env item) :=
  effects_newStarts.playHostTrack (startsAt_newStarts hhost)
    (newStarts_of_aside aside_finishPlayingQueueItem hP) (fun _ _ _ => .of_eq rfl)
    (fun _ _ => .of_eq rfl) item

lemma newStarts_playAd (hads : P .ads) (ad : ℤ × AdBreakItem) :
    Moves (NewStarts P) (playManagedItem w env (managedAd env ad)) :=
  effects_newStarts.playManagedItem (startsAt_newStarts hads) nofun (fun _ => .of_eq rfl)
    (fun _ => .of_eq rfl) (fun _ => .of_eq rfl) fun _ => .of_eq rfl

end NewStarts

section Tick

variable {w : Worker} {env : Env} {s t u c : Engine} {session : Session}

/-- What a tick brings to its choice. -/
structure AtChoice (w : Worker) (env : Env) (s c : Engine) : Prop where
  starts : NewStarts (· ∉ breakKinds) s c
  ads : adsEnabled w c = true
  host : hostPending w s = none → hostPending w c = none
  playout : (current w.stationId c).source = .host → (current w.stationId s).source = .host
  due : ∃ ad, nextDue w.stationId c env.datetime (env.stamp .choiceDue) = some ad ∧
    s.adBreakItems[ad.1]? = some ad.2

/-- The advance of queue, ads and host. -/
def advances (w : Worker) (env : Env) : WorkerM Unit := do
  prepareQueue w env
  advancePlayingQueueItem w env
  advanceOthers w env

lemma newStarts_advanceOthers : Moves (NewStarts (· ∉ breakKinds)) (advanceOthers w env) :=
  newStarts_of_calm (calm_advanceOthers (K := fun k _ => k ∉ breakKinds) (by decide))

/-- A pending ad that is due at some time is due later. -/
lemma isPast_mono {datetime : String → Option ℤ} {now later : ℤ} {text : String}
    (h : isPast datetime now text = true) (hle : now ≤ later) :
    isPast datetime later text = true := by
  unfold isPast at h ⊢
  cases hdue : datetime text with
  | none => simp [hdue] at h
  | some due =>
    simp only [hdue, Option.any_some, decide_eq_true_eq] at h ⊢
    omega

lemma nextDue_exists {id now : ℤ} {r : AdBreakItem} (hr : s.adBreakItems[id]? = some r)
    (hst : r.stationId = w.stationId) (hp : r.status = .pending)
    (hpast : isPast env.datetime now r.dueAt = true) :
    ∃ ad, nextDue w.stationId s env.datetime now = some ad := by
  rw [← Option.ne_none_iff_exists']
  intro hnone
  have hmem : (id, r) ∈ (adRows w.stationId s [.pending]).filter
      fun r => isPast env.datetime now r.2.dueAt :=
    List.mem_filter.mpr ⟨List.mem_filter.mpr ⟨mem_rows.mpr hr, by simp [hst, hp]⟩, hpast⟩
  rw [Sql.firstBy_eq_none.mp hnone] at hmem
  cases hmem

lemma nextDue_row {st now : ℤ} {datetime : String → Option ℤ} {ad : ℤ × AdBreakItem}
    (h : nextDue st s datetime now = some ad) :
    s.adBreakItems[ad.1]? = some ad.2 ∧ ad.2.stationId = st ∧
      ad.2.status = .pending ∧ isPast datetime now ad.2.dueAt = true := by
  obtain ⟨hmem, hpast⟩ := List.mem_filter.mp (Sql.firstBy_mem h)
  obtain ⟨hrow, hst⟩ := List.mem_filter.mp hmem
  simp only [List.mem_singleton, Bool.and_eq_true, decide_eq_true_eq] at hst
  exact ⟨mem_rows.mp hrow, hst.1, hst.2, hpast⟩

lemma aside_leased : Aside w s (leased w env s) := by
  obtain ⟨leases, h⟩ := leased_eq w env s
  rw [h]
  exact ⟨rfl, rfl, rfl, rfl, rfl, rfl, fun _ _ => rfl, fun _ => rfl, [], rfl, by simp⟩

/-- The advance of ads and host, from where the work on the queue has come. -/
lemma advanceOthers_ends (h : AdIsDue w env s session) {ad : ℤ × AdBreakItem}
    (had : nextDue w.stationId s env.datetime (env.stamp .showDue) = some ad)
    (hu : Aside w s u) :
    Ends (advanceOthers w env) u (fun _ c => AtChoice w env s c)
      (NewStarts (· ∉ breakKinds) s) := by
  have hdue := nextDue_row had
  have hnew : NewStarts (· ∉ breakKinds) s u := newStarts_aside hu (by decide)
  have hads : adsEnabled w u = true := hu.adsEnabled.trans h.ads
  have hrow : u.adBreakItems[ad.1]? = some ad.2 := by
    rw [hu.ads]
    exact hdue.1
  have hcalm : Moves (Calm (fun _ _ => True) w.stationId) (advanceOthers w env) :=
    calm_advanceOthers trivial
  have hends := (@advanceOthers_waits w env u hads ⟨ad.1, ad.2, hrow, hdue.2.1, hdue.2.2.1⟩).and
    ((@newStarts_advanceOthers w env).ends u)
  refine (hends.and (hcalm.ends u)).mono (fun _ c hc => ?_) fun c hc => hnew.trans hc.1.2
  obtain ⟨⟨hc, hstarts⟩, hcalm⟩ := hc
  have hpending := hc.pending fun _ => adWritten_not_pending
  refine ⟨hnew.trans hstarts, hc.ads.trans hads,
    fun hnone => hc.host ((hostPending_aside hu).trans hnone),
    fun hhost => hu.playout (hcalm.host hhost) ▸ hcalm.host hhost, ?_⟩
  obtain ⟨next, hnext⟩ := nextDue_exists (w := w) ((hpending ad.1 ad.2 hdue.2.2.1).mpr hrow)
    hdue.2.1 hdue.2.2.1 (isPast_mono hdue.2.2.2 h.later)
  have hnext' := nextDue_row hnext
  refine ⟨next, hnext, ?_⟩
  rw [← hu.ads]
  exact (hpending next.1 next.2 hnext'.2.2.1).mp hnext'.1

lemma ends_ok {α : Type} {x : WorkerM α} {Q : α → Engine → Prop} {E : Engine → Prop} {a : α}
    (h : Ends x s Q E) (hx : x s = .ok a t) : Q a t := by
  unfold Ends at h
  rwa [hx] at h

lemma ends_error {α : Type} {x : WorkerM α} {Q : α → Engine → Prop} {E : Engine → Prop}
    {e : WorkerError} (h : Ends x s Q E) (hx : x s = .error e t) : E t := by
  unfold Ends at h
  rwa [hx] at h

/-- What goes on after work that is done aside. -/
lemma ends_after {x y : WorkerM Unit} {s₀ : Engine} {Q : Unit → Engine → Prop}
    {E : Engine → Prop} (hx : Moves (Aside w) x) (hs : Aside w s₀ s)
    (hE : ∀ u, Aside w s₀ u → E u) (hy : ∀ u, Aside w s₀ u → Ends y u Q E) :
    Ends (do x; y) s Q E :=
  ((hx.after hs).mono (fun _ _ hu => hu) hE).bind fun _ u hu => hy u hu

lemma advances_ends (h : AdIsDue w env s session) {ad : ℤ × AdBreakItem}
    (had : nextDue w.stationId s env.datetime (env.stamp .showDue) = some ad)
    (hu : Aside w s u) :
    (∀ a c, advances w env u = .ok a c → AtChoice w env s c) ∧
      ∀ e v, advances w env u = .error e v → NewStarts (· ∉ breakKinds) s v := by
  have hnew : ∀ v, Aside w s v → NewStarts (· ∉ breakKinds) s v :=
    fun v hv => newStarts_aside hv (by decide)
  have hothers : ∀ v, Aside w s v → Ends (advanceOthers w env) v
      (fun _ c => AtChoice w env s c) (NewStarts (· ∉ breakKinds) s) :=
    fun v hv => advanceOthers_ends h had hv
  have hprepare : Moves (Aside w) (prepareQueue w env) := aside_prepareQueue
  have hadvance : Moves (Aside w) (advancePlayingQueueItem w env) :=
    aside_advancePlayingQueueItem
  have hthree : advances w env =
      (do prepareQueue w env; advancePlayingQueueItem w env; advanceOthers w env) := rfl
  -- what the three programs do in detail does not matter here
  generalize prepareQueue w env = x at *
  generalize advancePlayingQueueItem w env = y at *
  generalize advanceOthers w env = z at *
  rw [hthree]
  have hends := ends_after hprepare hu hnew fun v hv => ends_after hadvance hv hnew hothers
  exact ⟨fun a c hc => ends_ok (a := a) hends hc, fun e v hv => ends_error hends hv⟩

lemma advances_ok (h : AdIsDue w env s session) {a : Unit}
    (hc : advances w env (leased w env s) = .ok a c) : AtChoice w env s c := by
  obtain ⟨ad, had⟩ := Option.isSome_iff_exists.mp h.due
  exact (advances_ends h had aside_leased).1 a c hc

lemma advances_error (h : AdIsDue w env s session) {e : WorkerError}
    (hu : advances w env (leased w env s) = .error e u) : NewStarts (· ∉ breakKinds) s u := by
  obtain ⟨ad, had⟩ := Option.isSome_iff_exists.mp h.due
  exact (advances_ends h had aside_leased).2 e u hu

lemma processShowLifecycle_due (h : AdIsDue w env s session) :
    processShowLifecycle w env (some session) (leased w env s) = .ok none (leased w env s) := by
  unfold processShowLifecycle
  dsimp only
  rw [h.onBreak]
  refine handleOnBreak_due (adsEnabled_leased.trans h.ads) ?_
  obtain ⟨leases, hleased⟩ := leased_eq w env s
  rw [hleased]
  exact h.due

/-- The choice that two programs lead to. -/
def chosen (x y : WorkerM Unit) (session : Option Session) (s : Engine) :
    Option (Engine × Option Session) :=
  match x s with
  | .ok _ t =>
    match y t with
    | .ok _ u => some (u, session)
    | .error _ _ => none
  | .error _ _ => none

/-- A tick in a break comes to its choice, or a phase before it has raised. -/
lemma tick_onBreak (h : AdIsDue w env s session) :
    (∃ c, advances w env (leased w env s) = .ok ⟨⟩ c ∧
        choicePoint w env s = some (c, some session) ∧
        tick w s env = some (final (startNext w env (some session) c))) ∨
      ∃ e u, advances w env (leased w env s) = .error e u ∧ choicePoint w env s = none ∧
        tick w s env = some u := by
  have hthree : advances w env =
      (do prepareQueue w env; advancePlayingQueueItem w env; advanceOthers w env) := rfl
  have hfour : ∀ session, afterLifecycle w env session = (do
      prepareQueue w env
      advancePlayingQueueItem w env
      advanceOthers w env
      startNext w env session) := fun _ => rfl
  have htick : tick w s env = some (final (afterLifecycle w env (some session)
      (leased w env s))) := by
    rw [tick, processOnce_granted h.granted, h.active, processShowLifecycle_due h]
  have hupkeep := upkeep_granted h.granted
  rw [h.active, processShowLifecycle_due h] at hupkeep
  dsimp only at hupkeep
  unfold choicePoint
  rw [htick, hupkeep, hthree, hfour]
  -- what the programs do in detail does not matter here
  generalize leased w env s = u
  generalize prepareQueue w env = x
  generalize advancePlayingQueueItem w env = y
  generalize advanceOthers w env = z
  generalize startNext w env (some session) = r
  rw [run_bind, run_bind, run_bind]
  cases x u with
  | error e v => exact .inr ⟨e, v, rfl, rfl, rfl⟩
  | ok a v =>
    dsimp only
    rw [run_bind, run_bind]
    change (∃ c, _ ∧ chosen y z (some session) v = _ ∧ _) ∨
      ∃ e u, _ ∧ chosen y z (some session) v = none ∧ _
    unfold chosen
    cases y v with
    | error e v => exact .inr ⟨e, v, rfl, rfl, rfl⟩
    | ok b v =>
      dsimp only
      rw [run_bind]
      cases z v with
      | error e v => exact .inr ⟨e, v, rfl, rfl, rfl⟩
      | ok d v => exact .inl ⟨v, rfl, rfl, rfl⟩

/-- The choice in a break takes the host's item, if there is one, or else the ad that is due. -/
lemma startNext_onBreak (hon : session.2.status = .onBreak) (hads : adsEnabled w c = true)
    {ad : ℤ × AdBreakItem}
    (hdue : nextDue w.stationId c env.datetime (env.stamp .choiceDue) = some ad) :
    ∃ d, Aside w c d ∧ startNext w env (some session) c =
      if (current w.stationId c).source = .host then
        .ok (.of "playing" "host_track_in_progress") c
      else
        (match hostPending w d with
          | some item => playHostTrack w env item
          | none => do
            finishPlayingQueueItem w env
            playManagedItem w env (managedAd env ad)) d := by
  obtain ⟨items, hskip⟩ := skipDuplicatePending_eq w c
  have haside : Aside w c (skipDuplicatePending w c) := by
    rw [hskip]
    exact .of_queue items c.tracks c.restarts c
  have hrest : ∀ (playing : Option (ℤ × QueueItem)) (d : Engine), Aside w c d →
      (do
        let pending := nextPending w.stationId (← get)
        let dueAd ← nextDueAdIfAllowed w env .choiceDue
        startSource w env playing pending dueAd (some session) : WorkerM Outcome) d =
      (match hostPending w d with
        | some item => playHostTrack w env item
        | none => do
          finishPlayingQueueItem w env
          playManagedItem w env (managedAd env ad)) d := by
    intro playing d hd
    have hdue' : nextDue w.stationId d env.datetime (env.stamp .choiceDue) = some ad := by
      unfold nextDue adRows at hdue ⊢
      rw [hd.ads]
      exact hdue
    rw [run_bind]
    change (nextDueAdIfAllowed w env .choiceDue >>= _) d = _
    rw [run_bind, nextDueAdIfAllowed_eq (hd.adsEnabled.trans hads), hdue']
    exact startSource_onBreak hon playing _
  by_cases hhost : (current w.stationId c).source = .host
  · refine ⟨c, .refl c, ?_⟩
    rw [startNext, run_bind, if_pos hhost]
    change (if (current w.stationId c).source = .host then _ else _ : WorkerM Outcome) c = _
    rw [if_pos hhost]
    rfl
  · cases hplaying : currentPlaying w.stationId c with
    | none =>
      refine ⟨skipDuplicatePending w c, haside, ?_⟩
      rw [if_neg hhost, ← hrest none _ haside, startNext, run_bind]
      change (if (current w.stationId c).source = .host then _ else _ : WorkerM Outcome) c = _
      rw [if_neg hhost, run_bind]
      change (if (currentPlaying w.stationId c).isNone then _ else _ : WorkerM Outcome) c = _
      rw [hplaying]
      rfl
    | some playing =>
      refine ⟨c, .refl c, ?_⟩
      rw [if_neg hhost, ← hrest (some playing) c (.refl c), startNext, run_bind]
      change (if (current w.stationId c).source = .host then _ else _ : WorkerM Outcome) c = _
      rw [if_neg hhost, run_bind]
      change (if (currentPlaying w.stationId c).isNone then _ else _ : WorkerM Outcome) c = _
      rw [hplaying]
      rfl

/-- Of the sources that are not to start in a break, the host's alone. -/
def OnlyHost (kind : StartKind) : Prop := kind ∈ breakKinds → kind = .host

lemma NewStarts.mono {P Q : StartKind → Prop} (h : NewStarts P s t) (hPQ : ∀ k, P k → Q k) :
    NewStarts Q s t := by
  obtain ⟨new, hn, hk⟩ := h
  exact ⟨new, hn, fun x hx => hPQ _ (hk x hx)⟩

/-- The song that plays is marked done, whatever happens. -/
lemma finish_ends (s : Engine) :
    Ends (finishPlayingQueueItem w env) s (fun _ => Aside w s) fun _ => False := by
  have hreturns : Ends (finishPlayingQueueItem w env) s (fun _ _ => True) fun _ => False := by
    unfold finishPlayingQueueItem completeQueueItem setPlayoutState broadcastQueue
    rw [ends_bind, ends_get]
    cases currentPlaying w.stationId s with
    | none => trivial
    | some playing =>
      dsimp only
      rw [ends_bind, ends_modify, ends_bind, ends_modify]
      split_ifs <;> trivial
  exact (hreturns.and (aside_finishPlayingQueueItem.ends s)).mono (fun _ _ h => h.2)
    fun _ h => h.1

/-- What the choice of a tick in a break comes to. -/
lemma startNext_ends (h : AdIsDue w env s session) (hc : AtChoice w env s c) :
    NewStarts OnlyHost s (final (startNext w env (some session) c)) ∧
      (hostPending w s = none →
        NewStarts (· ∉ breakKinds) s (final (startNext w env (some session) c)) ∧
          ((current w.stationId s).source ≠ .host →
            ∃ ad, nextDue w.stationId c env.datetime (env.stamp .choiceDue) = some ad ∧
              s.adBreakItems[ad.1]? = some ad.2 ∧
              (Attended w env ad (final (startNext w env (some session) c)) ∨
                Retried env ad (final (startNext w env (some session) c))))) := by
  have honly : ∀ k, k ∉ breakKinds → OnlyHost k := fun k hk hk' => absurd hk' hk
  obtain ⟨ad, hdue, hrow⟩ := hc.due
  obtain ⟨d, hd, hnext⟩ := @startNext_onBreak w env c session h.onBreak hc.ads ad hdue
  have hd' : NewStarts (· ∉ breakKinds) s d :=
    hc.starts.trans (newStarts_aside hd (by decide))
  rw [hnext]
  split_ifs with hhost
  · exact ⟨hc.starts.mono honly, fun _ => ⟨hc.starts, fun hno => absurd (hc.playout hhost) hno⟩⟩
  cases hpending : hostPending w d with
  | some item =>
    refine ⟨(hd'.mono honly).trans ?_, fun hnone => ?_⟩
    · exact (newStarts_playHostTrack (P := OnlyHost) (honly _ (by decide)) (fun _ => rfl)
        item).final d
    · rw [hostPending_aside hd, hc.host hnone] at hpending
      cases hpending
  | none =>
    dsimp only
    have hplays : Moves (NewStarts (· ∉ breakKinds)) (do
        finishPlayingQueueItem w env
        playManagedItem w env (managedAd env ad) : WorkerM Outcome) :=
      (newStarts_of_aside aside_finishPlayingQueueItem (by decide)).bind fun _ =>
        newStarts_playAd (P := (· ∉ breakKinds)) (by decide) ad
    have hstarts := hd'.trans (hplays.final d)
    refine ⟨hstarts.mono honly, fun _ => ⟨hstarts, fun _ => ⟨ad, hdue, hrow, ?_⟩⟩⟩
    have hcrow : ∃ r, d.adBreakItems[ad.1]? = some r := ⟨ad.2, by
      rw [hd.ads]
      exact (nextDue_row hdue).1⟩
    let P : Engine → Prop := fun t => Attended w env ad t ∨ Retried env ad t
    have hfinish : Ends (finishPlayingQueueItem w env) d (fun _ => Aside w d) P :=
      (finish_ends d).mono (fun _ _ h => h) fun _ h => h.elim
    have hplay : ∀ u, Aside w d u →
        Ends (playManagedItem w env (managedAd env ad)) u (fun _ => P) P := by
      intro u hu
      have hurow : ∃ r, u.adBreakItems[ad.1]? = some r :=
        ⟨ad.2, by rw [hu.ads, hd.ads]; exact (nextDue_row hdue).1⟩
      exact (playAd_ends hurow).mono (fun _ _ h => .inl h) fun _ h => h
    exact (hfinish.bind fun _ u hu => hplay u hu).final

/-- **A break plays its ads.** A tick that finds an ad due in a break starts nothing by hand, no
schedule item and no fallback, and the host's item only if there is one. Where the host has no
item and plays none, the choice starts the ad that is due, or the ad has failed; it waits again
if the output failed in a way that may pass. -/
theorem break_plays_ads (h : AdIsDue w env s session) (ht : tick w s env = some t) :
    NewStarts OnlyHost s t ∧ (hostPending w s = none → NewStarts (· ∉ breakKinds) s t ∧
      ((current w.stationId s).source ≠ .host → ∀ c ∈ choicePoint w env s,
        ∃ ad, nextDue w.stationId c.1 env.datetime (env.stamp .choiceDue) = some ad ∧
          s.adBreakItems[ad.1]? = some ad.2 ∧ (Attended w env ad t ∨ Retried env ad t))) := by
  have honly : ∀ k, k ∉ breakKinds → OnlyHost k := fun k hk hk' => absurd hk' hk
  rcases tick_onBreak h with ⟨c, hc, hchoice, htick⟩ | ⟨e, u, hu, hchoice, htick⟩
  · obtain ⟨hstarts, hnone⟩ := startNext_ends h (advances_ok h hc)
    obtain rfl := Option.some.inj (ht.symm.trans htick)
    refine ⟨hstarts, fun hhost => ⟨(hnone hhost).1, fun hplayout c' hc' => ?_⟩⟩
    rw [hchoice, Option.mem_some_iff] at hc'
    subst hc'
    exact (hnone hhost).2 hplayout
  · obtain rfl := Option.some.inj (ht.symm.trans htick)
    have hstarts := advances_error h hu
    refine ⟨hstarts.mono honly, fun _ => ⟨hstarts, fun _ c hc => ?_⟩⟩
    rw [hchoice] at hc
    cases hc

end Tick

/-! ### An ad that waits again, and a host in a break -/

/-- The output fails at its start, in a way that may pass. -/
def brokenOutput (time : ℚ) : Env :=
  { calmWorld time with
    startError := fun _ => some "icecast source failed during startup: error muxing a packet" }

/-- The host has an item for the break. -/
def hostInBreak : Engine :=
  { breakWithAd with
    programQueueItems := breakWithAd.programQueueItems.insert 1 ⟨1, 3, 0⟩
    stationSettings := Engine.empty.stationSettings.insert 1
      (((∅ : Std.ExtTreeMap String String).insert "hourly_ad_enabled" "1").insert
        "program_queue_source" "host") }

lemma adIsDue_breakWithAd (env : Env) (h : env = calmWorld 101 ∨ env = brokenOutput 101)
    (s : Engine) (hs : s = breakWithAd ∨ s = hostInBreak) :
    AdIsDue soleWorker env s (1, ⟨1, 1, .onBreak⟩) := by
  rcases h with rfl | rfl <;> rcases hs with rfl | rfl <;>
    exact ⟨by decide +kernel, by decide +kernel, rfl, by decide +kernel, by decide +kernel,
      le_refl _⟩

/-- An ad whose output fails waits again, and the host's item starts in a break. -/
theorem break_without_ad :
    (AdIsDue soleWorker (brokenOutput 101) breakWithAd (1, ⟨1, 1, .onBreak⟩) ∧
        ¬ PlaysAds soleWorker (brokenOutput 101) breakWithAd) ∧
      AdIsDue soleWorker (calmWorld 101) hostInBreak (1, ⟨1, 1, .onBreak⟩) ∧
        ¬ PlaysAds soleWorker (calmWorld 101) hostInBreak := by
  refine ⟨⟨adIsDue_breakWithAd _ (.inr rfl) _ (.inl rfl), fun h => ?_⟩,
    adIsDue_breakWithAd _ (.inl rfl) _ (.inr rfl), fun h => ?_⟩
  · have hplaying : currentPlaying soleWorker.stationId breakWithAd = none := by decide +kernel
    have hplayout : (current soleWorker.stationId breakWithAd).source ≠ .host := by decide +kernel
    obtain ⟨-, hads⟩ := h _ rfl
    obtain ⟨ad, had, r, hr, hst⟩ := hads hplaying hplayout
    have hfirst : nextDue soleWorker.stationId breakWithAd (brokenOutput 101).datetime
        ((brokenOutput 101).stamp .showDue) =
          some (1, ⟨1, 3, "due", .pending, 0, none, none⟩) := by decide +kernel
    obtain rfl := Option.some.inj (had.symm.trans hfirst)
    have hwaits : ((tick soleWorker breakWithAd (brokenOutput 101)).any fun t =>
        t.adBreakItems[(1 : ℤ)]?.any (·.status = .pending)) = true := by decide +kernel
    obtain ⟨t, ht, hrow⟩ := (Option.any_eq_true ..).mp hwaits
    obtain rfl := Option.some.inj ht
    rw [hr] at hrow
    simp only [Option.any_some, decide_eq_true_eq] at hrow
    rw [hrow] at hst
    rcases hst with hst | ⟨hst, -⟩ <;> cases hst
  · have hhost : ((tick soleWorker hostInBreak (calmWorld 101)).any fun t =>
        decide (t.starts.map (·.kind) = [.host])) = true := by decide +kernel
    obtain ⟨t, ht, hkinds⟩ := (Option.any_eq_true ..).mp hhost
    obtain ⟨⟨new, hnew, hk⟩, -⟩ := h t ht
    have hempty : hostInBreak.starts = [] := rfl
    rw [hempty, List.append_nil] at hnew
    rw [hnew] at hkinds
    obtain ⟨x, hx⟩ := List.map_eq_singleton_iff.mp (of_decide_eq_true hkinds)
    have := hk x (by rw [hx.1]; exact List.mem_singleton.mpr rfl)
    rw [hx.2] at this
    exact this (by decide)

theorem break_plays_ads_breakWithAd :
    NewStarts (· ∉ breakKinds) breakWithAd
        (final (processOnce soleWorker (calmWorld 101) breakWithAd)) ∧
      ∃ ad, Attended soleWorker (calmWorld 101) ad
        (final (processOnce soleWorker (calmWorld 101) breakWithAd)) := by
  obtain ⟨-, h⟩ := break_plays_ads
    (adIsDue_breakWithAd _ (.inl rfl) _ (.inl rfl)) (rfl : tick soleWorker _ _ = some _)
  obtain ⟨hstarts, hads⟩ := h (by decide +kernel)
  have hchoice : (choicePoint soleWorker (calmWorld 101) breakWithAd).isSome = true := by
    decide +kernel
  obtain ⟨c, hc⟩ := Option.isSome_iff_exists.mp hchoice
  obtain ⟨ad, -, -, had | ⟨-, text, htext, -⟩⟩ := hads (by decide +kernel) c hc
  · exact ⟨hstarts, ad, had⟩
  · cases htext

end OnAir.BreakAds
