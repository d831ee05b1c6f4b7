import OnAir.PlayoutLog
import OnAir.QueueFilling
import OnAir.SweeperQueue

/-!
A track that is deactivated: no row refers to it any more that waits or plays, and nothing that
fills a queue by itself takes it again.

The filling picks its songs and jingles among the active tracks, each with a query of its own. A
row of an inactive track that waits or plays is therefore none that they have put there, and the
reconciliations only bring back what plays.
-/

namespace OnAir.RetiredTracks

open BroadcastQueue OnAir.Database PlayoutLog PlayoutTables Programs QueueUpkeep SweeperQueue
  OnAir.Table WorkerEnv

/-- No active track has the id. -/
def Inactive (tid : ℤ) (s : Engine) : Prop :=
  ∀ t : Track, s.tracks[tid]? = some t → t.isActive = false

/-- The queue rows of the track that wait or play. -/
def liveRows (tid : ℤ) (s : Engine) : Set ℤ :=
  {id | ∃ r : QueueItem, s.queueItems[id]? = some r ∧ r.trackId = tid ∧
    PlayoutTables.isActive r.status = true}

/-- The track is inactive, and these are all its rows that may wait or play. -/
structure Within (tid : ℤ) (live : Set ℤ) (s : Engine) : Prop where
  inactive : Inactive tid s
  rows : liveRows tid s ⊆ live

section Changes

variable {tid : ℤ} {live : Set ℤ} {s t : Engine}

lemma Within.same (h : Within tid live s) (htracks : t.tracks = s.tracks)
    (hqueue : t.queueItems = s.queueItems) : Within tid live t where
  inactive x hx := h.inactive x (htracks ▸ hx)
  rows := fun _ ⟨r, hr, hrow⟩ => h.rows ⟨r, hqueue ▸ hr, hrow⟩

/-- What writes the queue, and every row of the track that is live came from a live one. -/
lemma Within.of_queue (h : Within tid live s) (htracks : t.tracks = s.tracks)
    (hqueue : ∀ (id : ℤ) (r : QueueItem), t.queueItems[id]? = some r → r.trackId = tid →
      PlayoutTables.isActive r.status = true → id ∈ liveRows tid s) : Within tid live t where
  inactive x hx := h.inactive x (htracks ▸ hx)
  rows := fun id ⟨r, hr, htid, hlive⟩ => h.rows (hqueue id r hr htid hlive)

lemma Within.insertQueue (h : Within tid live s) {r : QueueItem} (hr : r.trackId ≠ tid) :
    Within tid live (insertQueue r s) := by
  refine h.of_queue rfl fun id q hq htid hlive => ?_
  rw [PlayoutTables.insertQueue, lookup_insert] at hq
  split_ifs at hq
  · exact absurd htid (Option.some.inj hq ▸ hr)
  · exact ⟨q, hq, htid, hlive⟩

lemma Within.insertOrIgnore (h : Within tid live s) {r : QueueItem} (hr : r.trackId ≠ tid) :
    Within tid live (insertOrIgnore r s).1 := by
  unfold QueueUpkeep.insertOrIgnore
  split_ifs
  · exact h
  · exact h.insertQueue hr

lemma Within.updateQueue (h : Within tid live s) {f : QueueItem → QueueItem}
    (hf : ∀ r, (f r).trackId = r.trackId ∧
      (PlayoutTables.isActive (f r).status = true → PlayoutTables.isActive r.status = true))
    (id : ℤ) : Within tid live (updateQueue id f s) := by
  refine h.of_queue rfl fun j q hq htid hlive => ?_
  rw [PlayoutTables.updateQueue, lookup_modify] at hq
  split_ifs at hq
  · obtain ⟨r, hr, rfl⟩ := Option.map_eq_some_iff.mp hq
    exact ⟨r, hr, (hf r).1 ▸ htid, (hf r).2 hlive⟩
  · exact ⟨q, hq, htid, hlive⟩

lemma Within.markFailed (h : Within tid live s) (id : ℤ) : Within tid live (markQueueFailed id s) :=
  h.updateQueue (f := fun r => { r with status := .failed })
    (fun _ => ⟨rfl, fun hfailed => nomatch hfailed⟩) id

lemma Within.filterQueue (h : Within tid live s) (p : ℤ → QueueItem → Bool) :
    Within tid live { s with queueItems := s.queueItems.filter p } := by
  refine h.of_queue rfl fun id q hq htid hlive => ?_
  rw [Std.ExtTreeMap.getElem?_filter'] at hq
  exact ⟨q, (Option.filter_eq_some_iff.mp hq).1, htid, hlive⟩

lemma Within.enqueue (h : Within tid live s) {track : ℤ} (htrack : track ≠ tid) (st : ℤ)
    (key : String) : Within tid live (enqueue st track key s).1 := by
  unfold PlayoutTables.enqueue
  split
  · exact h
  · exact (h.insertQueue (r := .new st track (nextPosition st s) key) htrack).same rfl rfl

/-! ### What is picked -/

lemma Within.ne_of_active (h : Within tid live s) {id : ℤ} {t : Track}
    (ht : s.tracks[id]? = some t) (hactive : t.isActive = true) : id ≠ tid := by
  rintro rfl
  exact Bool.false_ne_true ((h.inactive t ht).symm.trans hactive)

lemma Within.ne_of_playable (h : Within tid live s) {st : ℤ} {kind : String} {excluded : List ℤ}
    {r : ℤ × Track} (hr : r ∈ playable st s kind excluded) : r.1 ≠ tid := by
  obtain ⟨hrow, -, hactive, -⟩ := QueueFilling.mem_playable (w := ⟨st, "", false, ""⟩) hr
  exact h.ne_of_active hrow hactive

lemma Within.ne_of_pickJingle (h : Within tid live s) {st : ℤ} {excluded : List ℤ} {jingle : ℤ}
    (hj : pickJingle st s excluded = some jingle) : jingle ≠ tid := by
  obtain ⟨⟨t, ht, -, hactive, -⟩, -⟩ :=
    QueueFilling.pickJingle_eligible (w := ⟨st, "", false, ""⟩) hj
  exact h.ne_of_active ht hactive

lemma Within.ne_of_selectTracks (h : Within tid live s) {st : ℤ} {limit : ℕ} {excluded : List ℤ}
    {track : ℤ} (ht : track ∈ (selectTracks st s limit excluded).map Prod.fst) : track ≠ tid := by
  obtain ⟨r, hr, rfl⟩ := List.mem_map.mp ht
  exact h.ne_of_playable
    (List.mem_of_mem_filter (Sql.mem_orderBy.mp (List.mem_of_mem_take hr)))

lemma Within.ne_of_interleave (h : Within tid live s) {st : ℤ} (interval : ℤ) {music : List ℤ}
    (hmusic : ∀ track ∈ music, track ≠ tid) (counter : ℤ) (used : List ℤ) :
    ∀ track ∈ interleave st s interval music counter used, track ≠ tid := by
  induction music generalizing counter used with
  | nil => simp [interleave]
  | cons song music ih =>
    obtain ⟨hsong, hrest⟩ := List.forall_mem_cons.mp hmusic
    unfold interleave
    split
    case h_1 jingle hj =>
      have hpick : pickJingle st s used = some jingle := by
        split_ifs at hj
        exact hj
      exact List.forall_mem_cons.mpr ⟨h.ne_of_pickJingle hpick,
        List.forall_mem_cons.mpr ⟨hsong, ih hrest _ _⟩⟩
    case h_2 => exact List.forall_mem_cons.mpr ⟨hsong, ih hrest _ _⟩

lemma Within.ne_of_startupTrack (h : Within tid live s) {w : Worker} {mode : String}
    {trackId track : ℤ} (ht : startupTrack w s mode trackId = some track) : track ≠ tid := by
  unfold startupTrack at ht
  dsimp only at ht
  split_ifs at ht with hc
  · simp only [Bool.and_eq_true, Option.any_eq_true] at hc
    obtain ⟨-, x, hx, hactive, -⟩ := hc
    exact Option.some.inj ht ▸ h.ne_of_active hx hactive
  · exact h.ne_of_pickJingle (Option.filter_eq_some_iff.mp ht).1

lemma Within.ne_of_chooseMusic (h : Within tid live s) {w : Worker} {env : Env} {f g : Filling}
    {track : ℤ} (hc : chooseMusic w env f s = (g, some track)) : track ≠ tid := by
  obtain ⟨⟨t, ht, -, hactive, -⟩, -⟩ := QueueFilling.chooseMusic_eligible hc
  exact h.ne_of_active ht hactive

/-! ### The listing, and the reconciliation of the sweeper -/

lemma Within.ensureReadyForPlayback (h : Within tid live s) (st : ℤ) (allow : Bool) :
    Within tid live (ensureReadyForPlayback st s allow) := by
  unfold BroadcastQueue.ensureReadyForPlayback
  dsimp only
  split
  · exact h
  split
  · exact h
  · refine List.foldlRecOn _ _ h fun s' hs' item hitem => hs'.enqueue ?_ st _
    have hin : item.1 ∈ interleaveWithJingles st s _ _ :=
      (List.mem_zipIdx' (x := item.1) (i := item.2) hitem).2 ▸ List.getElem_mem _
    unfold interleaveWithJingles at hin
    split_ifs at hin
    · exact h.ne_of_selectTracks hin
    · exact h.ne_of_interleave _ (fun _ => h.ne_of_selectTracks) _ _ _ hin

lemma Within.place (h : Within tid live s) {st pos : ℤ} {slots : List Slot}
    (hslots : ∀ track, .jingle track ∈ slots → track ≠ tid) (ht : place st slots pos s = some t) :
    Within tid live t := by
  induction slots generalizing pos s with
  | nil => exact Option.some.inj ht ▸ h
  | cons slot slots ih =>
    have hrest : ∀ track, .jingle track ∈ slots → track ≠ tid := fun track hin =>
      hslots track (List.mem_cons_of_mem _ hin)
    cases slot with
    | jingle track =>
      unfold SweeperQueue.place at ht
      dsimp only at ht
      split_ifs at ht
      exact ih (h.insertQueue (hslots track List.mem_cons_self)) hrest ht
    | row r =>
      exact ih (h.updateQueue (f := fun q => { q with position := pos })
        (fun _ => ⟨rfl, id⟩) r.1) hrest ht

lemma Within.ne_of_sweepPlan (h : Within tid live s) {st interval : ℤ} {rows : List ActiveRows.Row}
    (counter : ℤ) (used : List ℤ) {track : ℤ}
    (hin : .jingle track ∈ sweepPlan st s interval rows counter used) : track ≠ tid := by
  induction rows generalizing counter used with
  | nil => cases hin
  | cons r rows ih =>
    unfold sweepPlan at hin
    dsimp only at hin
    split at hin
    case h_1 jingle hj =>
      rcases List.mem_cons.mp hin with heq | hin
      · obtain rfl := Slot.jingle.inj heq
        split_ifs at hj
        exact h.ne_of_pickJingle hj
      · exact ih _ _ (List.mem_of_ne_of_mem Slot.noConfusion hin)
    case h_2 => exact ih _ _ (List.mem_of_ne_of_mem Slot.noConfusion hin)

lemma Within.ne_of_slotsOf (h : Within tid live s) {st : ℤ} {sweeper : Sweeper} {track : ℤ}
    (hin : .jingle track ∈ slotsOf st sweeper s) : track ≠ tid := by
  unfold slotsOf at hin
  rcases List.mem_append.mp hin with hin | hin
  · simp at hin
  · split_ifs at hin
    · exact h.ne_of_sweepPlan _ _ hin
    · simp at hin

lemma Within.relayQueue (h : Within tid live s) (st : ℤ) (sweeper : Sweeper) :
    Within tid live (relayQueue st sweeper s) := by
  have hdrop : Within tid live (dropPendingJingles st s) := h.filterQueue _
  unfold SweeperQueue.relayQueue
  split
  case h_1 => exact h
  case h_2 t ht =>
    split_ifs
    · exact hdrop.place (fun _ => hdrop.ne_of_slotsOf) ht
    · exact h

lemma Within.reconcilePendingSweeperQueue (h : Within tid live s) (st : ℤ) :
    Within tid live (reconcilePendingSweeperQueue st s) := by
  unfold SweeperQueue.reconcilePendingSweeperQueue
  split
  · exact h
  · dsimp only
    split_ifs
    · exact (h.relayQueue st _).ensureReadyForPlayback st true
    · exact h.relayQueue st _

/-! ### The upkeep of the worker -/

section Upkeep

variable {w : Worker} {env : Env}

lemma keeps_liftSetting {α : Type} (x : Except PythonText.IntError α) :
    Moves (Keeps (Within tid live)) (liftSetting x) := by
  cases x with
  | ok a => exact Moves.pure a
  | error e => exact Moves.throw _

lemma keeps_broadcastQueue {site : Site} :
    Moves (Keeps (Within tid live)) (broadcastQueue w env site) :=
  Moves.ite (fun _ => Moves.modify fun _ h => h.ensureReadyForPlayback _ _) fun _ => Moves.pure _

/-- What a program finds in a state of `P` is known for its rest. -/
lemma moves_bindGet {α : Type} {P : Engine → Prop} {f : Engine → WorkerM α}
    (hf : ∀ s, P s → Moves (Keeps P) (f s)) : Moves (Keeps P) (get >>= f) :=
  QueueOrder.bindGet fun s hs => (hf s hs).keeps hs

lemma keeps_startupSound : Moves (Keeps (Within tid live)) (maybeInsertStartupSound w) := by
  have hclear : ∀ s, Keeps (Within tid live) s (clearStartupSoundPending w s) :=
    fun _ h => h.same rfl rfl
  unfold maybeInsertStartupSound
  refine moves_bindGet fun s hs => Moves.ite (fun _ => Moves.pure _) fun _ => ?_
  refine Moves.ite (fun _ => Moves.modify hclear) fun _ => ?_
  refine (keeps_liftSetting _).bind fun trackId => (QueuePhases.moves_bindInteger _ _).bind
    fun _ => ?_
  split
  case h_1 => exact Moves.modify hclear
  case h_2 track htrack =>
    split_ifs at htrack
    have hne : track ≠ tid := hs.ne_of_startupTrack htrack
    refine Moves.modify fun s' h => hclear _ (h.insertOrIgnore ?_)
    exact hne

lemma keeps_crossStation : Moves (Keeps (Within tid live)) (failCrossStationQueueItems w env) := by
  refine Moves.bindGet fun s => Moves.ite (fun _ => Moves.pure _) fun _ => ?_
  refine Moves.bindModify (fun s' h => ?_) fun _ => Moves.bindGet fun s' => ?_
  · exact Runs.inv_of_foldl (P := Within tid live) (fun _ id hs => hs.markFailed id) _ h
  · exact Moves.ite (fun _ => Moves.bindModify (fun _ h => h.same rfl rfl)
      fun _ => keeps_broadcastQueue) fun _ => keeps_broadcastQueue

lemma Within.probeAndStore (h : Within tid live s) (track : ℤ) :
    Within tid live (probeAndStore env track s).1 := by
  unfold QueueUpkeep.probeAndStore
  split
  · exact h
  split
  · exact h
  dsimp only
  split
  · exact h
  split
  · exact h
  · refine ⟨fun x hx => ?_, h.rows⟩
    rw [lookup_modify] at hx
    split_ifs at hx with hid
    · obtain ⟨y, hy, rfl⟩ := Option.map_eq_some_iff.mp hx
      exact h.inactive y hy
    · exact h.inactive x hx

lemma Within.insertDueJingle (h : Within tid live s) (sweeper : Sweeper) {f : Filling}
    (hf : Within tid live f.committed) : Ends (insertDueJingle w sweeper f) s
      (fun r t => Within tid live t ∧ Within tid live r.1.committed) (Within tid live) := by
  unfold QueueUpkeep.insertDueJingle
  rw [ends_bind, ends_get]
  dsimp only
  split
  case h_1 => exact ⟨h, hf⟩
  case h_2 jingle hj =>
    have hne : jingle ≠ tid := by
      split_ifs at hj
      exact h.ne_of_pickJingle hj
    split_ifs
    · exact ⟨h, hf⟩
    · rw [ends_bind, ends_modify]
      exact ⟨h.insertQueue hne, hf⟩

/-- An error brings back what was committed. -/
lemma Within.insertMusic (h : Within tid live s) {f : Filling} (hf : Within tid live f.committed)
    {track : ℤ} (htrack : track ≠ tid) : Ends (insertMusic w env f track) s
      (fun g t => Within tid live t ∧ Within tid live g.committed) (Within tid live) := by
  have hprobe : Within tid live (QueueUpkeep.probeAndStore env track s).1 := h.probeAndStore track
  unfold QueueUpkeep.insertMusic
  rw [ends_bind, ends_get]
  rcases hp : QueueUpkeep.probeAndStore env track s with ⟨s', duration, stored⟩
  rw [hp] at hprobe
  rw [ends_bind, ends_set]
  have hcommitted : Within tid live (if stored then s' else f.committed) := by
    split_ifs
    · exact hprobe
    · exact hf
  dsimp only
  generalize (if stored then s' else f.committed) = committed at hcommitted ⊢
  split_ifs
  · rw [ends_bind, ends_set, ends_throw]
    exact hcommitted
  · rw [ends_bind, ends_modify, ends_pure]
    exact ⟨hprobe.insertQueue htrack, hcommitted⟩

lemma Within.autofillLoop (h : Within tid live s) (sweeper : Sweeper) (n : ℕ) {f : Filling}
    (hf : Within tid live f.committed) :
    Ends (autofillLoop w env sweeper n f) s (fun _ => Within tid live) (Within tid live) := by
  induction n generalizing s f with
  | zero => exact h
  | succ n ih =>
    unfold QueueUpkeep.autofillLoop
    split_ifs
    · refine (h.insertDueJingle sweeper hf).bind fun r s' hr => ?_
      obtain ⟨hs', hc⟩ := hr
      obtain ⟨f', go⟩ := r
      dsimp only
      split_ifs
      · exact ih hs' hc
      · rw [ends_bind, ends_get]
        have hc' : (chooseMusic w env f' s').1.committed = f'.committed :=
          QueuePhases.chooseMusic_committed f' s'
        rcases hm : chooseMusic w env f' s' with ⟨f'', track⟩
        rw [hm] at hc'
        dsimp only at hc hc' ⊢
        cases track with
        | none => exact hs'
        | some track =>
          exact (hs'.insertMusic (hc' ▸ hc) (hs'.ne_of_chooseMusic hm)).bind
            fun f s hs => ih hs.1 hs.2
    · exact h

lemma keeps_autofillQueue : Moves (Keeps (Within tid live)) (autofillQueue w env) := by
  refine QueueOrder.bindGet fun s hs => ?_
  dsimp only
  split_ifs
  · exact ((keeps_liftSetting _).keeps hs).bind fun sweeper s' hs' => hs'.autofillLoop _ _ hs
  · exact hs

lemma Within.maybeInsertSweeperJingle (h : Within tid live s) (sweeper : Sweeper) :
    Within tid live (maybeInsertSweeperJingle w sweeper s) := by
  unfold QueueUpkeep.maybeInsertSweeperJingle
  split_ifs
  · exact h
  split
  case h_1 => exact h
  case h_2 jingle hj =>
    exact h.insertOrIgnore (r := .new _ jingle _ _) (h.ne_of_pickJingle hj)

lemma keeps_sweepQueue : Moves (Keeps (Within tid live)) (sweepQueue w) := by
  refine Moves.bindGet fun s => (keeps_liftSetting _).bind fun sweeper => ?_
  exact Moves.ite
    (fun _ => (QueuePhases.moves_bindInteger _ _).bind fun _ =>
      Moves.modify fun _ h => h.maybeInsertSweeperJingle sweeper)
    fun _ => Moves.modify fun _ h => h.filterQueue _

end Upkeep

end Changes

/-! ### What runs by itself -/

/-- The two tables as both models of the database have them. -/
structure Sees (l : Library) (s : Engine) : Prop where
  tracks : s.tracks = l.tracks
  queueItems : s.queueItems = l.queueItems

/-- An operation that fills, sweeps or reconciles a queue. The start of the process also measures
tracks that have no duration. -/
inductive Step : Engine → Engine → Prop
  | ensureReady (st : ℤ) (allow : Bool) (s : Engine) : Step s (ensureReadyForPlayback st s allow)
  | reconcileSweeper (st : ℤ) (s : Engine) : Step s (reconcilePendingSweeperQueue st s)
  | startupSound (w : Worker) (s : Engine) : Step s (final (maybeInsertStartupSound w s))
  | crossStation (w : Worker) (env : Env) (s : Engine) :
      Step s (final (failCrossStationQueueItems w env s))
  | autofill (w : Worker) (env : Env) (s : Engine) : Step s (final (autofillQueue w env s))
  | sweep (w : Worker) (s : Engine) : Step s (final (sweepQueue w s))
  | reconcileStartup (st : ℤ) (store : Store) {s t : Engine} (before : Sees store.library s)
      (after : Sees (reconcileStartup st store).library t) : Step s t
  | reconcileAllStartup (store : Store) (measured : ℤ → Option ℚ) {s t : Engine}
      (before : Sees store.library s)
      (tracks : t.tracks = (reconcileAllStartup store).library.tracks.map fun id x =>
        { x with duration := (measured id).getD x.duration })
      (queueItems : t.queueItems = (reconcileAllStartup store).library.queueItems) : Step s t

abbrev Run : Engine → Engine → Prop := Relation.ReflTransGen Step

section Steps

variable {tid : ℤ} {live : Set ℤ} {s t : Engine} {store store' : Store}

lemma mem_liveRows_of_requeue {p : QueueItem → Bool} {q : Table QueueItem}
    (hq : t.queueItems = requeue p q) (hs : s.queueItems = q) :
    liveRows tid t ⊆ liveRows tid s := by
  rintro id ⟨r, hr, htid, hlive⟩
  rw [hq, requeue, Std.ExtTreeMap.getElem?_map] at hr
  obtain ⟨r', hr', rfl⟩ := Option.map_eq_some_iff.mp hr
  refine ⟨r', hs ▸ hr', ?_⟩
  split_ifs at htid hlive with hplaying
  · exact ⟨htid, by simp [PlayoutTables.isActive, hplaying.1]⟩
  · exact ⟨htid, hlive⟩

lemma library_insertEntry (e : Entry) (store : Store) :
    (insertEntry e store).1.library = store.library := by
  unfold insertEntry
  split <;> rfl

lemma library_insertEntries (es : List Entry) (store : Store) :
    (insertEntries es store).1.library = store.library := by
  induction es generalizing store with
  | nil => rfl
  | cons e es ih =>
    unfold insertEntries
    dsimp only
    split_ifs
    · rw [ih, library_insertEntry]
    · exact library_insertEntry e store

lemma library_reconcileStartup (st : ℤ) (store : Store) :
    (reconcileStartup st store).library = { store.library with
      queueItems := requeue (fun q => q.stationId = st) store.library.queueItems } := by
  unfold PlayoutLog.reconcileStartup
  dsimp only
  split_ifs
  · rfl
  · rw [library_insertEntry]
    rfl

lemma endShows_kept (l : Library) :
    (endShows l).tracks = l.tracks ∧ (endShows l).queueItems = l.queueItems := by
  unfold endShows
  dsimp only
  split_ifs <;> exact ⟨rfl, rfl⟩

lemma library_reconcileAllStartup (store : Store) :
    (reconcileAllStartup store).library.tracks = store.library.tracks ∧
      (reconcileAllStartup store).library.queueItems =
        requeue (fun _ => true) store.library.queueItems := by
  unfold PlayoutLog.reconcileAllStartup
  dsimp only
  split_ifs
  · rw [(endShows_kept _).1, (endShows_kept _).2, library_insertEntries]
    exact ⟨rfl, rfl⟩
  · rw [library_insertEntries]
    exact ⟨rfl, rfl⟩

theorem Step.within (hstep : Step s t) (h : Within tid live s) : Within tid live t := by
  cases hstep with
  | ensureReady st allow => exact h.ensureReadyForPlayback st allow
  | reconcileSweeper st => exact h.reconcilePendingSweeperQueue st
  | startupSound w => exact keeps_startupSound.final s h
  | crossStation w env => exact keeps_crossStation.final s h
  | autofill w env => exact keeps_autofillQueue.final s h
  | sweep w => exact keeps_sweepQueue.final s h
  | reconcileStartup st store hbefore hafter =>
    have hlib := library_reconcileStartup st store
    refine ⟨fun x hx => h.inactive x ?_, ?_⟩
    · rw [hafter.tracks, hlib] at hx
      rw [hbefore.tracks]
      exact hx
    · exact (mem_liveRows_of_requeue (by rw [hafter.queueItems, hlib])
        hbefore.queueItems).trans h.rows
  | reconcileAllStartup store measured hbefore htracks hqueue =>
    obtain ⟨hlibTracks, hlibQueue⟩ := library_reconcileAllStartup store
    refine ⟨fun x hx => ?_, ?_⟩
    · rw [htracks, hlibTracks, Std.ExtTreeMap.getElem?_map] at hx
      obtain ⟨y, hy, rfl⟩ := Option.map_eq_some_iff.mp hx
      exact h.inactive y (hbefore.tracks ▸ hy)
    · exact (mem_liveRows_of_requeue (hqueue.trans hlibQueue) hbefore.queueItems).trans h.rows

theorem Run.within (hrun : Run s t) (h : Within tid live s) : Within tid live t := by
  induction hrun with
  | refl => exact h
  | tail _ hstep ih => exact hstep.within ih

end Steps

/-! ### `deactivate` -/

/-- Nothing that waits or plays refers to the track, and no list has it. -/
structure Unreferenced (tid : ℤ) (l : Library) : Prop where
  queue : ∀ (id : ℤ) (r : QueueItem), l.queueItems[id]? = some r → r.trackId = tid →
    r.status ≠ .pending ∧ r.status ≠ .playing
  schedule : ∀ (id : ℤ) (r : ScheduleItem), l.scheduleItems[id]? = some r → r.trackId = tid →
    r.status ≠ .pending ∧ r.status ≠ .playing
  ads : ∀ (id : ℤ) (r : AdBreakItem), l.adBreakItems[id]? = some r → r.trackId = tid →
    r.status ≠ .pending ∧ r.status ≠ .playing
  playlist : ∀ (id : ℤ) (r : PlaylistItem), l.playlistItems[id]? = some r → r.trackId ≠ tid
  program : ∀ (id : ℤ) (r : ProgramQueueItem), l.programQueueItems[id]? = some r → r.trackId ≠ tid

/-- A row of the track plays at the station, or the track is its fallback. -/
inductive PlaysAt (tid st : ℤ) (s : Store) : Prop
  | queue (id : ℤ) (r : QueueItem) (row : s.library.queueItems[id]? = some r)
      (track : r.trackId = tid) (status : r.status = .playing) (station : r.stationId = st)
  | schedule (id : ℤ) (r : ScheduleItem) (row : s.library.scheduleItems[id]? = some r)
      (track : r.trackId = tid) (status : r.status = .playing) (station : r.stationId = st)
  | ads (id : ℤ) (r : AdBreakItem) (row : s.library.adBreakItems[id]? = some r)
      (track : r.trackId = tid) (status : r.status = .playing) (station : r.stationId = st)
  | fallback (c : Current) (row : s.playoutState[st]? = some c) (track : isFallback tid c = true)

/-- The rows of other tracks are those that were there. -/
def SameRows {α : Type} (trackOf : α → ℤ) (tid : ℤ) (before after : Table α) : Prop :=
  ∀ (id : ℤ) (r : α), trackOf r ≠ tid → (after[id]? = some r ↔ before[id]? = some r)

/-- Nothing changes but what has to do with the track. -/
structure OthersKept (tid : ℤ) (s s' : Store) : Prop where
  tracks : ∀ id ≠ tid, s'.library.tracks[id]? = s.library.tracks[id]?
  queue : SameRows (·.trackId) tid s.library.queueItems s'.library.queueItems
  schedule : SameRows (·.trackId) tid s.library.scheduleItems s'.library.scheduleItems
  ads : SameRows (·.trackId) tid s.library.adBreakItems s'.library.adBreakItems
  playlist : SameRows (·.trackId) tid s.library.playlistItems s'.library.playlistItems
  program : SameRows (·.trackId) tid s.library.programQueueItems s'.library.programQueueItems
  playout : ∀ (st : ℤ) (c : Current), s.playoutState[st]? = some c → isFallback tid c = false →
    s'.playoutState[st]? = some c
  rest : s'.library.stations = s.library.stations ∧
    s'.library.showSessions = s.library.showSessions ∧
      s'.library.stationSettings = s.library.stationSettings ∧ s'.transitions = s.transitions

section Deactivate

variable {tid st : ℤ} {s : Store} {t : Track} {e : Engine}

lemma deactivate_active (ht : s.library.tracks[tid]? = some t) (hactive : t.isActive = true) :
    deactivate tid s = ({ s with
      library := dropLibrary tid s.library
      playoutState := s.playoutState.map fun _ c => if isFallback tid c then nothing else c },
      deactivated tid s) := by
  unfold deactivate
  rw [ht]
  simp [hactive]

/-- An `UPDATE` of rows of the track leaves those of others. -/
lemma sameRows_map {α : Type} {trackOf : α → ℤ} {f : α → α} {before : Table α}
    (hf : ∀ r, trackOf (f r) = trackOf r) (hsame : ∀ r, trackOf r ≠ tid → f r = r) :
    SameRows trackOf tid before (before.map fun _ r => f r) := by
  intro id r hr
  rw [Std.ExtTreeMap.getElem?_map]
  constructor
  · intro h
    obtain ⟨r', hr', rfl⟩ := Option.map_eq_some_iff.mp h
    rwa [hsame r' (hf r' ▸ hr)]
  · intro h
    rw [h, Option.map_some, hsame r hr]

/-- A `DELETE` of rows of the track leaves those of others. -/
lemma sameRows_filter {α : Type} {trackOf : α → ℤ} {before : Table α} :
    SameRows trackOf tid before (before.filter fun _ r => trackOf r ≠ tid) := by
  intro id r hr
  rw [Std.ExtTreeMap.getElem?_filter', Option.filter_eq_some_iff]
  exact and_iff_left (by simpa using hr)

/-- The `UPDATE` takes every live row of the track. -/
lemma not_live_of_failed {α : Type} {trackOf : α → ℤ} (live : α → Prop) [DecidablePred live]
    {fail : α → α} {before : Table α} {id : ℤ} {r : α} (hfail : ∀ r, ¬ live (fail r))
    (hr : (before.map fun _ r => if trackOf r = tid ∧ live r then fail r else r)[id]? = some r)
    (htid : trackOf r = tid) : ¬ live r := by
  rw [Std.ExtTreeMap.getElem?_map] at hr
  obtain ⟨r', -, rfl⟩ := Option.map_eq_some_iff.mp hr
  split_ifs at htid ⊢ with hc
  · exact hfail r'
  · exact fun h => hc ⟨htid, h⟩

lemma unreferenced_dropLibrary (l : Library) : Unreferenced tid (dropLibrary tid l) where
  queue _ _ hr htid := not_or.mp (not_live_of_failed
    (fun r : QueueItem => r.status = .pending ∨ r.status = .playing) (by simp) hr htid)
  schedule _ _ hr htid := not_or.mp (not_live_of_failed
    (fun r : ScheduleItem => r.status = .pending ∨ r.status = .playing) (by simp) hr htid)
  ads _ _ hr htid := not_or.mp (not_live_of_failed
    (fun r : AdBreakItem => r.status = .pending ∨ r.status = .playing) (by simp) hr htid)
  playlist id r hr := by
    rw [dropLibrary, Std.ExtTreeMap.getElem?_filter'] at hr
    simpa using (Option.filter_eq_some_iff.mp hr).2
  program id r hr := by
    rw [dropLibrary, Std.ExtTreeMap.getElem?_filter'] at hr
    simpa using (Option.filter_eq_some_iff.mp hr).2

lemma othersKept_deactivate (ht : s.library.tracks[tid]? = some t) (hactive : t.isActive = true) :
    OthersKept tid s (deactivate tid s).1 := by
  rw [deactivate_active ht hactive]
  refine ⟨fun id hid => ?_, sameRows_map (fun r => ?_) fun r hr => if_neg fun h => hr h.1,
    sameRows_map (fun r => ?_) fun r hr => if_neg fun h => hr h.1,
    sameRows_map (fun r => ?_) fun r hr => if_neg fun h => hr h.1, sameRows_filter,
    sameRows_filter, fun st c hc hother => ?_, rfl, rfl, rfl, rfl⟩
  · exact (lookup_modify ..).trans (if_neg hid)
  · split_ifs <;> rfl
  · split_ifs <;> rfl
  · split_ifs <;> rfl
  · dsimp only
    rw [Std.ExtTreeMap.getElem?_map, hc, Option.map_some, hother]
    rfl

lemma mem_stationsOf {α : Type} {station : α → ℤ} {p : α → Bool} {table : Table α} :
    st ∈ stationsOf station p table ↔
      ∃ (id : ℤ) (r : α), table[id]? = some r ∧ p r = true ∧ station r = st := by
  unfold stationsOf
  constructor
  · intro h
    obtain ⟨⟨id, r⟩, hr, rfl⟩ := List.mem_map.mp h
    obtain ⟨hrow, hp⟩ := List.mem_filter.mp hr
    exact ⟨id, r, mem_rows.mp hrow, hp, rfl⟩
  · rintro ⟨id, r, hrow, hp, rfl⟩
    exact List.mem_map.mpr ⟨(id, r), List.mem_filter.mpr ⟨mem_rows.mpr hrow, hp⟩, rfl⟩

lemma mem_sortedSet {l : List ℤ} : st ∈ sortedSet l ↔ st ∈ l := by
  rw [sortedSet, List.mem_dedup, List.mem_mergeSort]

/-- The stations to stop are those where the track plays. -/
lemma mem_runtimeStopStations :
    st ∈ (deactivated tid s).runtimeStopStations ↔ PlaysAt tid st s := by
  have hfallback : st ∈ ((rows s.playoutState).filter fun r => isFallback tid r.2).map Prod.fst ↔
      ∃ c, s.playoutState[st]? = some c ∧ isFallback tid c = true := by
    constructor
    · intro h
      obtain ⟨⟨_, c⟩, hr, rfl⟩ := List.mem_map.mp h
      obtain ⟨hrow, hc⟩ := List.mem_filter.mp hr
      exact ⟨c, mem_rows.mp hrow, hc⟩
    · rintro ⟨c, hrow, hc⟩
      exact List.mem_map.mpr ⟨(st, c), List.mem_filter.mpr ⟨mem_rows.mpr hrow, hc⟩, rfl⟩
  unfold deactivated
  simp only [mem_sortedSet, List.mem_append, mem_stationsOf, hfallback, Bool.and_eq_true,
    decide_eq_true_eq]
  constructor
  · rintro (((⟨id, r, hr, ⟨htid, hp⟩, hst⟩ | ⟨id, r, hr, ⟨htid, hp⟩, hst⟩) |
      ⟨id, r, hr, ⟨htid, hp⟩, hst⟩) | ⟨c, hc, hf⟩)
    · exact .queue id r hr htid hp hst
    · exact .schedule id r hr htid hp hst
    · exact .ads id r hr htid hp hst
    · exact .fallback c hc hf
  · rintro (⟨id, r, hr, htid, hp, hst⟩ | ⟨id, r, hr, htid, hp, hst⟩ |
      ⟨id, r, hr, htid, hp, hst⟩ | ⟨c, hc, hf⟩)
    · exact .inl (.inl (.inl ⟨id, r, hr, ⟨htid, hp⟩, hst⟩))
    · exact .inl (.inl (.inr ⟨id, r, hr, ⟨htid, hp⟩, hst⟩))
    · exact .inl (.inr ⟨id, r, hr, ⟨htid, hp⟩, hst⟩)
    · exact .inr ⟨c, hc, hf⟩

/-- The other model sees the track inactive, without live rows. -/
lemma within_dropLibrary {l : Library} (he : Sees (dropLibrary tid l) e) : Within tid ∅ e where
  inactive x hx := by
    rw [he.tracks, dropLibrary, lookup_modify, if_pos rfl] at hx
    obtain ⟨y, -, rfl⟩ := Option.map_eq_some_iff.mp hx
    rfl
  rows := fun id ⟨r, hr, htid, hlive⟩ => by
    obtain ⟨hpending, hplaying⟩ :=
      (unreferenced_dropLibrary l).queue id r (he.queueItems ▸ hr) htid
    rcases Bool.or_eq_true .. ▸ hlive with h | h
    · exact hpending (of_decide_eq_true h)
    · exact hplaying (of_decide_eq_true h)

/-- **A deactivated track is out of everything.** No row of it waits or plays, no playlist and no
program has it; every station where it played is told to stop, and the rows of other tracks are
as they were. Whatever fills, sweeps and reconciles the queues from there on, none of its rows
waits or plays, and no such run makes one live wherever the track is inactive. -/
theorem track_retired (ht : s.library.tracks[tid]? = some t) (hactive : t.isActive = true) :
    Unreferenced tid (deactivate tid s).1.library ∧
      (∀ st, st ∈ (deactivate tid s).2.runtimeStopStations ↔ PlaysAt tid st s) ∧
        OthersKept tid s (deactivate tid s).1 ∧
          (∀ e e', Sees (deactivate tid s).1.library e → Run e e' → liveRows tid e' = ∅) ∧
            ∀ e e', Inactive tid e → Run e e' →
              Inactive tid e' ∧ liveRows tid e' ⊆ liveRows tid e := by
  refine ⟨?_, ?_, othersKept_deactivate ht hactive, fun e e' he hrun => ?_,
    fun e e' he hrun => ?_⟩
  · rw [deactivate_active ht hactive]
    exact unreferenced_dropLibrary _
  · rw [deactivate_active ht hactive]
    exact fun st => mem_runtimeStopStations
  · rw [deactivate_active ht hactive] at he
    exact Set.subset_empty_iff.mp (hrun.within (within_dropLibrary he)).rows
  · obtain ⟨hinactive, hrows⟩ := hrun.within ⟨he, subset_rfl⟩
    exact ⟨hinactive, hrows⟩

/-- A station that plays the only track of the library. -/
def playedTrack : Library :=
  { oneTrack with
    queueItems := (∅ : Table QueueItem).insert 3 ⟨1, 7, 1, .playing, none, none⟩ }

theorem track_retired_played :
    playedTrack.tracks[(7 : ℤ)]?.any (·.isActive) = true ∧
      1 ∈ (deactivate 7 (start playedTrack)).2.runtimeStopStations ∧
        ∀ e e', Sees (deactivate 7 (start playedTrack)).1.library e → Run e e' →
          liveRows 7 e' = ∅ := by
  have ht : playedTrack.tracks[(7 : ℤ)]? =
      some ⟨1, "t", "a", "t.mp3", 180, "music", true, false, 0, none⟩ := by
    unfold playedTrack oneTrack
    simp
  obtain ⟨-, hstop, -, hrun, -⟩ := track_retired (s := start playedTrack) ht rfl
  refine ⟨by rw [ht]; rfl, (hstop 1).mpr ?_, hrun⟩
  exact .queue 3 ⟨1, 7, 1, .playing, none, none⟩ (by simp [start, playedTrack]) rfl rfl rfl

end Deactivate

end OnAir.RetiredTracks
