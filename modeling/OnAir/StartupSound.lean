import OnAir.QueueOrder
import OnAir.SettingsAhead

/-!
Whether the startup sound is heard, once and before everything else.

The sound is a row that is put in front of the queue, and the flag that asked for it is cleared at
once. What becomes of the row is up to the phases after that: one of them may remove it, fail it,
or put another row before it.
-/

namespace OnAir.StartupSound

open BroadcastQueue CalmPhases OneSource OtherPhases PhasesReturn PlayoutAdvance PlayoutTables
  Programs PythonText QueueOrder QueueUpkeep Runs SettingsAhead SettingsText ShowBreaks
  StationWorker OnAir.Table WorkerEnv

variable (w : Worker) (env : Env)

/-! ### What a run has inserted and started -/

/-- The state in which a tick comes to the startup sound. -/
def atSound (s : Engine) : Option Engine :=
  if granted w env s then
    match processShowLifecycle w env (activeSession w.stationId s) (leased w env s) with
    | .ok none t => some t
    | _ => none
  else none

/-- The state in which the tick goes on from the startup sound. -/
def afterSound (t : Engine) : Option Engine :=
  match maybeInsertStartupSound w t with
  | .ok _ u => some u
  | .error _ _ => none

/-- The row that `_maybe_insert_startup_sound` inserts. -/
def insertedSound (t : Engine) : Option ℤ :=
  (afterSound w t).bind fun u =>
    if u.queueItems[nextId t.queueItems]?.isSome then some (nextId t.queueItems) else none

/-- The rows of the station's queue that play now and did not before. -/
def begun (s t : Engine) : List ℤ :=
  ((queueRows w.stationId t [.playing]).map Prod.fst).filter fun id =>
    id ∉ (queueRows w.stationId s [.playing]).map Prod.fst

/-- A run so far: its state, the sounds it has inserted and the rows it has started. -/
structure Playback where
  engine : Engine
  sounds : List ℤ
  begun : List ℤ

def playTick (p : Playback) (env : Env) : Option Playback :=
  (tick w p.engine env).map fun t =>
    ⟨t, p.sounds ++ ((atSound w env p.engine).bind (insertedSound w)).toList,
      p.begun ++ begun w p.engine t⟩

/-- No sound was inserted and nothing started; or one sound was inserted, and the first row that
was started is the sound, and never again. -/
def PlaysOnce (p : Playback) : Prop :=
  p.sounds = [] ∧ p.begun = [] ∨ ∃ id, p.sounds = [id] ∧
    (p.begun = [] ∨ ∃ rest, p.begun = id :: rest ∧ id ∉ rest)

/-! ### Where the sound is due -/

def soundEnabled (s : Engine) : Bool :=
  isTruthy ((setting w.stationId s "startup_sound_enabled").getD "false")

def soundMode (s : Engine) : String := settingOr w.stationId s "startup_sound_mode" "random"

/-- The id of the sound's track, as the settings have it. -/
def soundTrackId (s : Engine) : Except IntError ℤ :=
  intSetting ((setting w.stationId s "startup_sound_track_id").getD "0") 0

/-- The startup sound is enabled and pending, and there is a track for it. -/
structure Due (s : Engine) : Prop where
  pending : isStartupSoundPending w s = true
  enabled : soundEnabled w s = true
  eligible : ∀ n, soundTrackId w s = .ok n → (startupTrack w s (soundMode w s) n).isSome

/-! ### What spares the sound -/

/-- The row that is inserted for a track. -/
def soundRow (s : Engine) (trackId : ℤ) : QueueItem :=
  .new w.stationId trackId (frontPosition w s) s!"startup_sound:{trackId}"

/-- The sound is inserted in front: no jingle was there, its key is free, and there is a place
before the rows that wait. -/
def insertFits (s : Engine) : Bool :=
  !nextPendingIsJingle w s &&
    match soundTrackId w s with
    | .error _ => true
    | .ok n => (startupTrack w s (soundMode w s) n).all fun trackId =>
      !dedupeTaken s (soundRow w s trackId) &&
        (queueRows w.stationId s [.pending]).all fun q => decide (1 < q.2.position)

/-- The track of the sound is of the station. -/
def crossSpares (r : QueueItem) (s : Engine) : Bool :=
  s.tracks[r.trackId]?.all (·.stationId = w.stationId)

/-- The sweeper neither removes the sound nor puts a jingle before it. -/
def sweepSpares (r : QueueItem) (s : Engine) : Bool :=
  match sweeperSettings w.stationId s with
  | .error _ => true
  | .ok sweeper =>
    if sweeper.enabled then
      nextPendingIsJingle w s || !sweeperDue w sweeper s || (pickJingle w.stationId s []).isNone ||
        decide (r.position ≤ 1)
    else sqlKindOf s r.trackId ≠ "jingle"

/-- An announcement is added before the target. -/
def announces (s : Engine) (target : ℤ) (row : QueueItem) : Bool :=
  trim ((s.tracks[row.trackId]?.map (·.title)).getD "") ≠ "" &&
      introReady w env s s!"ai-track-intro:{target}" ||
    stationIdDue w env s matches .ok true && introReady w env s s!"ai-station-id:{target}"

/-- The announcement is added behind the sound. -/
def announceSpares (r : QueueItem) (s : Engine) : Bool :=
  !isTruthy ((setting w.stationId s "ai_host_enabled").getD "false") ||
    (nextPendingAiTarget w s).all fun t =>
      decide (r.position < t.2.position) || !announces w env s t.1 t.2

def phaseSpares (r : QueueItem) : Phase → Engine → Bool
  | .crossStation, s => crossSpares w r s
  | .sweep, s => sweepSpares w r s
  | .announce, s => announceSpares w env r s
  | _, _ => true

/-- The phase spares the row, if it waits. -/
def spares (id : ℤ) (phase : Phase) (s : Engine) : Bool :=
  s.queueItems[id]?.all fun r => r.status ≠ .pending || phaseSpares w env r phase s

/-- What is put to the runtime at last is started, or kept for another try. -/
def startFits (r : QueueItem) (s : Engine) : Bool :=
  trackUri env s r.trackId ≠ "" && (!w.hasRuntime || (env.startError .start).all
    isTransientOutputFailure)

/-- What is put to the runtime at last is started. -/
def startsWell (r : QueueItem) (s : Engine) : Bool :=
  trackUri env s r.trackId ≠ "" && (!w.hasRuntime || (env.startError .start).isNone)

/-- At the choice the sound is no duplicate of what was played last, and it starts if it is
chosen. -/
def choiceSpares (id : ℤ) (session : Option Session) (s : Engine) : Bool :=
  s.queueItems[id]?.all fun r => r.status ≠ .pending ||
    (current w.stationId s).source = .host || (currentPlaying w.stationId s).isSome ||
      (!(kindOf s r.trackId = "music" && decide (0 < lastDoneTrackId w s) &&
          r.trackId = lastDoneTrackId w s) &&
        ((hostPending w s).isSome || onBreak session || startFits w env r s))

/-- The last of what a tick does before its choice, and the choice. -/
def endSpares (id : ℤ) (session : Option Session) (s : Engine) : Bool :=
  match advanceHostTrack w env s with
  | .ok _ c => choiceSpares w env id session c
  | .error _ _ => true

/-- The phases after the startup sound. -/
def rest : List Phase := .crossStation :: .autofill :: others

/-- The tick inserts the sound in front, if it is due, and every phase spares the sounds that the
run has inserted. -/
def SoundSpared (p : Playback) (env : Env) : Prop :=
  ∀ t ∈ atSound w env p.engine, (isStartupSoundPending w t = true → insertFits w t = true) ∧
    ∀ u ∈ afterSound w t, ∀ id ∈ p.sounds ++ (insertedSound w t).toList,
      Onward (Phase.run w env) (fun phase s => spares w env id phase s = true)
        (fun s => endSpares w env id (activeSession w.stationId p.engine) s = true) rest u

instance (p : Playback) : Decidable (SoundSpared w p env) := by
  unfold SoundSpared
  infer_instance

variable {w env} {s t : Engine} {id : ℤ}

/-! ### The row that waits first -/

/-- The row waits, and every other row that waits comes after it. -/
structure Waits (w : Worker) (id : ℤ) (r : QueueItem) (s : Engine) : Prop where
  row : s.queueItems[id]? = some r
  station : r.stationId = w.stationId
  pending : r.status = .pending
  unstarted : r.startedAt = none
  front : 1 ≤ r.position
  first : ∀ (j : ℤ) (q : QueueItem), j ≠ id → s.queueItems[j]? = some q →
    q.stationId = w.stationId → q.status = .pending →
      r.position < q.position ∨ r.position = q.position ∧ id < j

/-- What waits first is next. -/
lemma Waits.next {r : QueueItem} (h : Waits w id r s) {item : ℤ × QueueItem}
    (hn : nextPending w.stationId s = some item) : item = (id, r) := by
  have hsorted : (queueRows w.stationId s [.pending]).Pairwise fun a b => a.1 < b.1 :=
    (rows_sorted s.queueItems).filter _
  have hmem : (id, r) ∈ queueRows w.stationId s [.pending] :=
    mem_queueRows.mpr ⟨h.row, h.station, by simp [h.pending]⟩
  obtain ⟨hrow, hst, hp⟩ := mem_queueRows.mp
    (show (item.1, item.2) ∈ _ from Sql.firstBy_mem hn)
  by_contra hne
  have hid : item.1 ≠ id := by
    rintro rfl
    rw [h.row] at hrow
    exact hne (Prod.ext rfl (Option.some.inj hrow).symm)
  have hafter := h.first item.1 item.2 hid hrow hst (by simpa using hp)
  have hbefore := Sql.firstBy_first (f := fun q : ℤ × QueueItem => q.2.position) hsorted hn
    (id, r) hmem
  rcases hbefore with heq | hlt | ⟨heq, hlt⟩
  · exact hne heq.symm
  · dsimp only at hlt
    omega
  · dsimp only at heq hlt
    omega

lemma Waits.same {r : QueueItem} (h : Waits w id r s) (ht : t.queueItems = s.queueItems) :
    Waits w id r t :=
  ⟨by rw [ht]; exact h.row, h.station, h.pending, h.unstarted, h.front, by rw [ht]; exact h.first⟩

/-- A new row that comes after it. -/
lemma Waits.insert {r q : QueueItem} (h : Waits w id r s)
    (hq : q.stationId = w.stationId → q.status = .pending → r.position ≤ q.position) :
    Waits w id r (insertQueue q s) := by
  have hid : id < nextId s.queueItems := lt_nextId h.row
  refine ⟨?_, h.station, h.pending, h.unstarted, h.front, fun j q' hj hq' hst hp => ?_⟩
  · rw [insertQueue, lookup_insert, if_neg hid.ne]
    exact h.row
  · rw [insertQueue, lookup_insert] at hq'
    split_ifs at hq' with hnew
    · obtain rfl := Option.some.inj hq'
      have hle := hq hst hp
      rw [hnew]
      omega
    · exact h.first j q' hj hq' hst hp

/-- Another row is settled. -/
lemma Waits.settle {r : QueueItem} (h : Waits w id r s) {j : ℤ} (hj : j ≠ id)
    {f : QueueItem → QueueItem} (hf : ∀ r, (f r).status ≠ .pending) :
    Waits w id r (updateQueue j f s) := by
  refine ⟨?_, h.station, h.pending, h.unstarted, h.front, fun i q hi hq hst hp => ?_⟩
  · rw [updateQueue, lookup_modify, if_neg hj.symm]
    exact h.row
  · rw [updateQueue, lookup_modify] at hq
    split_ifs at hq
    · obtain ⟨q', -, rfl⟩ := Option.map_eq_some_iff.mp hq
      exact absurd hp (hf q')
    · exact h.first i q hi hq hst hp

/-- Other rows move back. -/
lemma Waits.map {r : QueueItem} (h : Waits w id r s) {f : ℤ → QueueItem → QueueItem}
    (hr : f id r = r) (hf : ∀ j q, (f j q).status = q.status ∧ (f j q).stationId = q.stationId ∧
      q.position ≤ (f j q).position) :
    Waits w id r { s with queueItems := s.queueItems.map f } := by
  refine ⟨?_, h.station, h.pending, h.unstarted, h.front, fun j q hj hq hst hp => ?_⟩
  · rw [Std.ExtTreeMap.getElem?_map, h.row, Option.map_some, hr]
  · rw [Std.ExtTreeMap.getElem?_map] at hq
    obtain ⟨q', hq', rfl⟩ := Option.map_eq_some_iff.mp hq
    obtain ⟨hstatus, hstation, hle⟩ := hf j q'
    have hfirst := h.first j q' hj hq' (hstation ▸ hst) (hstatus ▸ hp)
    omega

/-! ### Rows that play -/

lemma queuePlays_insert {q : QueueItem} (hq : q.status ≠ .playing) {j : ℤ}
    (h : QueuePlays w.stationId (insertQueue q s) j) : QueuePlays w.stationId s j :=
  have hcalm : Calm (fun _ _ => True) w.stationId s (insertQueue q s) :=
    (fills_calm (w := w)).insertQueue hq s
  hcalm.queue j h

lemma queuePlays_settle {f : QueueItem → QueueItem} (hf : ∀ r, (f r).status ≠ .playing) {i j : ℤ}
    (h : QueuePlays w.stationId (updateQueue i f s) j) : QueuePlays w.stationId s j :=
  have hcalm : Calm (fun _ _ => True) w.stationId s (updateQueue i f s) :=
    calm_updateQueue (fun r hr => absurd hr (hf r)) s
  hcalm.queue j h

lemma queuePlays_map {f : ℤ → QueueItem → QueueItem}
    (hf : ∀ j q, (f j q).stationId = q.stationId ∧ (f j q).status = q.status) {j : ℤ}
    (h : QueuePlays w.stationId { s with queueItems := s.queueItems.map f } j) :
    QueuePlays w.stationId s j :=
  have hcalm : Calm (fun _ _ => True) w.stationId s { s with
      queueItems := s.queueItems.map f } :=
    .of_noneStarts (QueuePhases.noneStarts_map hf _)
  hcalm.queue j h

lemma queuePlays_same (ht : t.queueItems = s.queueItems) {j : ℤ}
    (h : QueuePlays w.stationId t j) : QueuePlays w.stationId s j := by
  rwa [QueuePlays, ht] at h

/-! ### Before and after the sound is started -/

/-- The sound waits first in the queue, and no row has begun to play since `s₀`. -/
structure Before (w : Worker) (s₀ : Engine) (id : ℤ) (r : QueueItem) (t : Engine) : Prop where
  waits : Waits w id r t
  flag : isStartupSoundPending w t = false
  plays : ∀ j, QueuePlays w.stationId t j → QueuePlays w.stationId s₀ j

/-- The sound waits no more, and it has not begun to play since `s₀`. -/
structure After (w : Worker) (s₀ : Engine) (id : ℤ) (t : Engine) : Prop where
  past : ∃ r, t.queueItems[id]? = some r ∧ r.status ≠ .pending
  flag : isStartupSoundPending w t = false
  plays : QueuePlays w.stationId t id → QueuePlays w.stationId s₀ id

lemma settled_ne {f : QueueItem → QueueItem}
    (hf : ∀ r, (f r).status = .done ∨ (f r).status = .failed) (r : QueueItem) :
    (f r).status ≠ .pending ∧ (f r).status ≠ .playing := by
  rcases hf r with h | h <;> rw [h] <;> decide

lemma queueKept_before (s₀ : Engine) (r : QueueItem) :
    QueueKept w (· ≠ id) (Before w s₀ id r) where
  same s t ht hflag h :=
    ⟨h.waits.same ht, hflag.trans h.flag, fun j hj => h.plays j (queuePlays_same ht hj)⟩
  append s q _ hp hbeyond h := by
    refine ⟨h.waits.insert fun _ _ => (hbeyond id r h.waits.row h.waits.station).le, h.flag,
      fun j hj => h.plays j (queuePlays_insert ?_ hj)⟩
    rw [hp]
    decide
  settle s j f hj hf h := ⟨h.waits.settle hj fun r => (settled_ne hf r).1, h.flag,
    fun i hi => h.plays i (queuePlays_settle (fun r => (settled_ne hf r).2) hi)⟩
  playing s j q h hq hst := by
    rintro rfl
    rw [h.waits.row] at hq
    rw [← Option.some.inj hq, h.waits.pending] at hst
    cases hst

lemma After.insert {s₀ : Engine} (h : After w s₀ id s) {q : QueueItem} (hq : q.status ≠ .playing) :
    After w s₀ id (insertQueue q s) := by
  obtain ⟨r, hr, hst⟩ := h.past
  refine ⟨⟨r, ?_, hst⟩, h.flag, fun hid => h.plays (queuePlays_insert hq hid)⟩
  rw [insertQueue, lookup_insert, if_neg (lt_nextId hr).ne]
  exact hr

lemma After.settle {s₀ : Engine} (h : After w s₀ id s) (j : ℤ) {f : QueueItem → QueueItem}
    (hf : ∀ r, (f r).status = .done ∨ (f r).status = .failed) :
    After w s₀ id (updateQueue j f s) := by
  obtain ⟨r, hr, hst⟩ := h.past
  refine ⟨?_, h.flag, fun hid => h.plays (queuePlays_settle (fun r => (settled_ne hf r).2) hid)⟩
  rw [updateQueue, lookup_modify]
  split_ifs
  · exact ⟨f r, by rw [hr]; rfl, (settled_ne hf r).1⟩
  · exact ⟨r, hr, hst⟩

lemma queueKept_after (s₀ : Engine) : QueueKept w (fun _ => True) (After w s₀ id) where
  same s t ht hflag h := ⟨by rw [ht]; exact h.past, hflag.trans h.flag,
    fun hid => h.plays (queuePlays_same ht hid)⟩
  append s q _ hp _ h := h.insert (by rw [hp]; decide)
  settle s j f _ hf h := h.settle j hf
  playing _ _ _ _ _ _ := trivial

/-! ### The phases that deal with the front of the queue -/

lemma crossStation_before {s₀ : Engine} {r : QueueItem} (h : Before w s₀ id r s)
    (hspares : crossSpares w r s = true) :
    Stays (Before w s₀ id r) (failCrossStationQueueItems w env) s := by
  refine (queueKept_before s₀ r).failCrossStationQueueItems h fun j hj => ?_
  rintro rfl
  obtain ⟨q, hq, hid⟩ := List.mem_map.mp hj
  obtain ⟨hmem, hforeign⟩ := List.mem_filter.mp hq
  obtain ⟨hrow, -⟩ := mem_queueRows.mp (show (q.1, q.2) ∈ _ from hmem)
  rw [hid, h.waits.row] at hrow
  obtain rfl := Option.some.inj hrow
  unfold crossSpares at hspares
  cases ht : s.tracks[q.2.trackId]? with
  | none => simp [ht] at hforeign
  | some track => simp_all

lemma lookup_removePendingJingles {j : ℤ} {q : QueueItem}
    (h : (removePendingJingles w s).queueItems[j]? = some q) : s.queueItems[j]? = some q := by
  rw [removePendingJingles, Std.ExtTreeMap.getElem?_filter'] at h
  exact (Option.filter_eq_some_iff.mp h).1

lemma queuePlays_removePendingJingles {j : ℤ}
    (h : QueuePlays w.stationId (removePendingJingles w s) j) : QueuePlays w.stationId s j := by
  obtain ⟨q, hq, hrest⟩ := h
  exact ⟨q, lookup_removePendingJingles hq, hrest⟩

/-- A row that is inserted behind what waits first, or is there. -/
lemma before_insertOrIgnore {s₀ : Engine} {r : QueueItem} (h : Before w s₀ id r s)
    {trackId pos : ℤ} {key : String} (hpos : r.position ≤ pos) :
    Before w s₀ id r (insertOrIgnore (.new w.stationId trackId pos key) s).1 := by
  unfold insertOrIgnore
  split_ifs
  · exact h
  · refine ⟨h.waits.insert fun _ _ => hpos, h.flag,
      fun j hj => h.plays j (queuePlays_insert ?_ hj)⟩
    simp [QueueItem.new]

/-- The sweeper leaves what waits first in its place. -/
lemma sweep_before {s₀ : Engine} {r : QueueItem} (h : Before w s₀ id r s)
    (hspares : sweepSpares w r s = true) :
    Stays (Before w s₀ id r) (sweepQueue w) s := by
  refine ⟨?_⟩
  unfold sweepQueue
  rw [ends_bind, ends_get]
  unfold sweepSpares at hspares
  cases hsweeper : sweeperSettings w.stationId s with
  | error e => exact h
  | ok sweeper =>
    rw [hsweeper] at hspares
    dsimp only at hspares
    rw [ends_bind]
    change Ends (if sweeper.enabled = true then _ else _) s _ _
    cases hon : sweeper.enabled with
    | false =>
      rw [if_neg Bool.false_ne_true, ends_modify]
      have hkind : sqlKindOf s r.trackId ≠ "jingle" := by simpa [hon] using hspares
      refine ⟨⟨?_, h.waits.station, h.waits.pending, h.waits.unstarted, h.waits.front,
        fun j q hj hq => h.waits.first j q hj (lookup_removePendingJingles hq)⟩, h.flag,
        fun j hj => h.plays j (queuePlays_removePendingJingles hj)⟩
      rw [removePendingJingles, Std.ExtTreeMap.getElem?_filter', h.waits.row]
      simp [hkind]
    | true =>
      rw [if_pos rfl, ends_bind]
      have hinsert : Before w s₀ id r (maybeInsertSweeperJingle w sweeper s) := by
        unfold maybeInsertSweeperJingle
        split_ifs with hskip
        · exact h
        cases hpick : pickJingle w.stationId s [] with
        | none => exact h
        | some jingle =>
          have hposition : r.position ≤ 1 := by
            simp only [Bool.or_eq_true, not_or, Bool.not_eq_true] at hskip
            simpa [hon, hpick, hskip.1, hskip.2] using hspares
          exact before_insertOrIgnore h (hposition.trans (le_max_left 1 _))
      unfold Ends
      rw [bindInteger_eq]
      split_ifs
      · exact h
      · exact hinsert

/-- What the sweeper removes has not been started. -/
lemma sweep_after {s₀ : Engine} (h : After w s₀ id s) :
    Stays (After w s₀ id) (sweepQueue w) s := by
  refine ⟨?_⟩
  unfold sweepQueue
  rw [ends_bind, ends_get]
  cases sweeperSettings w.stationId s with
  | error e => exact h
  | ok sweeper =>
    rw [ends_bind]
    change Ends (if sweeper.enabled = true then _ else _) s _ _
    refine Ends.ite (fun _ => ?_) fun _ => ?_
    · have hinsert : After w s₀ id (maybeInsertSweeperJingle w sweeper s) := by
        unfold maybeInsertSweeperJingle insertOrIgnore
        split_ifs
        · exact h
        split
        · exact h
        dsimp only
        split_ifs
        · exact h
        · exact h.insert (by simp [QueueItem.new])
      rw [ends_bind]
      unfold Ends
      rw [bindInteger_eq]
      split_ifs
      · exact h
      · exact hinsert
    · obtain ⟨r, hr, hst⟩ := h.past
      rw [ends_modify]
      refine ⟨⟨r, ?_, hst⟩, h.flag, fun hid => h.plays (queuePlays_removePendingJingles hid)⟩
      rw [removePendingJingles, Std.ExtTreeMap.getElem?_filter', hr]
      simp [hst]

/-- An announcement before a row behind the first. -/
lemma insertBefore_before {s₀ : Engine} {r : QueueItem} (h : Before w s₀ id r s)
    {target trackId : ℤ} {key : String}
    (htarget : ∀ q, s.queueItems[target]? = some q → r.position < q.position) :
    Before w s₀ id r (insertBefore w.stationId target trackId key s).1 := by
  unfold insertBefore
  split
  · exact h
  split
  · exact (queueKept_before s₀ r).enqueue trackId key s h
  case h_2 _ j before hfound =>
    have hmem := List.mem_of_find?_eq_some hfound
    have hj : j = target := by simpa using List.find?_some hfound
    have hpos : r.position < before.position :=
      htarget before (hj ▸ (mem_queueRows.mp hmem).1)
    have hfront := h.waits.front
    have hne : before.position ≠ 0 := by omega
    rw [if_neg hne]
    dsimp only
    have hshift : ∀ q : QueueItem,
        let q' := if q.stationId = w.stationId && isActive q.status &&
          decide (before.position ≤ q.position) then { q with position := q.position + 1 } else q
        q'.status = q.status ∧ q'.stationId = q.stationId ∧ q.position ≤ q'.position := fun q => by
      dsimp only
      split_ifs
      · exact ⟨rfl, rfl, by simp⟩
      · exact ⟨rfl, rfl, le_rfl⟩
    have hstay : ¬ before.position ≤ r.position := not_le.mpr hpos
    have hmoved : Before w s₀ id r { s with
        queueItems := s.queueItems.map fun _ q => if q.stationId = w.stationId &&
          isActive q.status && decide (before.position ≤ q.position) then
            { q with position := q.position + 1 } else q } :=
      ⟨h.waits.map (by simp [hstay]) fun _ q => hshift q, h.flag, fun j hj => h.plays j
        (queuePlays_map (fun _ q => ⟨(hshift q).2.1, (hshift q).1⟩) hj)⟩
    refine ⟨hmoved.waits.insert fun _ _ => hpos.le, hmoved.flag,
      fun j hj => hmoved.plays j (queuePlays_insert ?_ hj)⟩
    simp [QueueItem.new]

lemma After.map {s₀ : Engine} (h : After w s₀ id s) {f : ℤ → QueueItem → QueueItem}
    (hf : ∀ j q, (f j q).stationId = q.stationId ∧ (f j q).status = q.status) :
    After w s₀ id { s with queueItems := s.queueItems.map f } := by
  obtain ⟨r, hr, hst⟩ := h.past
  refine ⟨⟨f id r, ?_, by rwa [(hf id r).2]⟩, h.flag, fun hid => h.plays (queuePlays_map hf hid)⟩
  rw [Std.ExtTreeMap.getElem?_map, hr]
  rfl

/-- An announcement leaves a row that waits no more as it is. -/
lemma insertBefore_after {s₀ : Engine} (h : After w s₀ id s) (target trackId : ℤ) (key : String) :
    After w s₀ id (insertBefore w.stationId target trackId key s).1 := by
  unfold insertBefore
  split
  · exact h
  split
  · exact (queueKept_after s₀).enqueue trackId key s h
  · dsimp only
    refine After.insert (h.map fun _ q => ?_) ?_
    · split_ifs <;> exact ⟨rfl, rfl⟩
    · simp [QueueItem.new]

/-! ### Announcements -/

variable (w) in
/-- The announcement is in the library, and its row before the target. -/
def announced (a : CachedAnnouncement) (target : ℤ) (key : String) (s : Engine) : Engine :=
  let u := upsertGeneratedAnnouncement w a (trim a.audioPath) s
  (insertBefore w.stationId target u.2 key u.1).1

/-- An assertion that bears what comes with an announcement: the listing of the queue, and the time
of the last station announcement. -/
structure Announcing (w : Worker) (env : Env) (P : Engine → Prop) : Prop where
  broadcast : Moves (Keeps P) (broadcastQueue w env .announcement)
  stamp : ∀ (value : String) (s : Engine),
    Keeps P s (upsertSetting w.stationId "_ai_last_station_id_at" value s)

section Announce

variable {P : Engine → Prop}

lemma enqueueAi_kept (h : Announcing w env P) (hs : P s) (a : CachedAnnouncement) (target : ℤ)
    (key : String) (hinsert : P (announced w a target key s)) :
    Ends (enqueueAiAnnouncement w env a target key) s (fun _ => P) P := by
  unfold enqueueAiAnnouncement
  dsimp only
  split_ifs
  · exact hs
  rw [ends_bind, ends_get]
  unfold announced at hinsert
  rcases hu : upsertGeneratedAnnouncement w a (trim a.audioPath) s with ⟨e, trackId⟩
  rw [hu] at hinsert
  dsimp only at hinsert ⊢
  rcases hi : insertBefore w.stationId target trackId key e with ⟨e', row, created⟩
  rw [hi] at hinsert
  dsimp only at hinsert ⊢
  rw [ends_bind, ends_set]
  exact (Moves.ite (fun _ => h.broadcast.bind fun _ => Moves.pure _)
    fun _ => Moves.pure _).keeps hinsert

/-- An announcement is added where it may be, or nothing is changed. -/
lemma announceBefore_kept (h : Announcing w env P) (hs : P s) (target : ℤ) (key : String)
    (hinsert : introReady w env s key = true → ∀ a, announcementFor w env s key = some a →
      P (announced w a target key s)) :
    Ends (announceBefore w env target key) s
      (fun done t => P t ∧ done = introReady w env s key ∧ (done = false → t = s)) P := by
  have hready := @ends_announceBefore w env target key s
  have hkept : Ends (announceBefore w env target key) s (fun _ => P) P := by
    cases hr : introReady w env s key with
    | false =>
      rw [hr] at hready
      exact hready.mono (fun done t ht => by rw [ht.2 ht.1]; exact hs) fun _ h => h.elim
    | true =>
      unfold announceBefore
      rw [ends_bind, ends_get]
      refine Ends.ite (fun _ => hs) fun _ => ?_
      cases ha : announcementFor w env s key with
      | none => exact hs
      | some a => exact enqueueAi_kept h hs a target key (hinsert hr a ha)
  exact (hkept.and hready).mono (fun _ _ ht => ht) fun _ ht => ht.1

/-- Announcements keep what their insertion keeps. -/
lemma announce_kept (h : Announcing w env P) (hs : P s)
    (hinsert : isTruthy ((setting w.stationId s "ai_host_enabled").getD "false") = true →
      ∀ (target : ℤ) (row : QueueItem), nextPendingAiTarget w s = some (target, row) →
        announces w env s target row = true →
          ∀ key ∈ [s!"ai-track-intro:{target}", s!"ai-station-id:{target}"],
            ∀ a, announcementFor w env s key = some a → P (announced w a target key s)) :
    Stays P (maybePrepareAiQueue w env) s := by
  refine ⟨?_⟩
  unfold maybePrepareAiQueue
  rw [ends_bind, ends_get]
  cases hon : isTruthy ((setting w.stationId s "ai_host_enabled").getD "false") with
  | false => exact hs
  | true =>
    simp only [Bool.not_true, Bool.false_eq_true, if_false]
    split
    · exact hs
    case h_2 target row htarget =>
      have hadd := hinsert hon target row htarget
      -- the station announcement, where the intro was not added
      have hid : Ends (do
          if ← liftSetting (stationIdDue w env (← get)) then
            if ← announceBefore w env target s!"ai-station-id:{target}" then
              modify (upsertSetting w.stationId "_ai_last_station_id_at"
                (env.isoText (env.stamp .stationId)))) s (fun _ => P) P := by
        rw [ends_bind, ends_get]
        cases hdue : stationIdDue w env s with
        | error e => exact hs
        | ok due =>
          rw [ends_bind]
          change Ends (if due = true then _ else _) s _ _
          refine Ends.ite (fun hd => ?_) fun _ => hs
          refine (announceBefore_kept h hs target _ fun hr => hadd ?_ _ (by simp)).bind
            fun done t ht => ?_
          · unfold announces
            rw [hdue, hd, hr]
            simp
          · exact Ends.ite (fun _ => h.stamp _ t ht.1) fun _ => ht.1
      refine Ends.ite (fun htitle => ?_) fun _ => hid
      refine (announceBefore_kept h hs target _ fun hr => hadd ?_ _ (by simp)).bind
        fun done t ht => ?_
      · unfold announces
        rw [hr]
        simp [htitle]
      · refine Ends.ite (fun _ => ht.1) fun hdone => ?_
        rw [ht.2.2 (by simpa using hdone)]
        exact hid

/-- Where an assertion is about the queue, the track that is added does not matter. -/
lemma announced_kept {ok : ℤ → Prop} (h : QueueKept w ok P) (hs : P s) {target : ℤ} {key : String}
    (hinsert : ∀ (e : Engine) (trackId : ℤ), e.queueItems = s.queueItems → P e →
      P (insertBefore w.stationId target trackId key e).1) (a : CachedAnnouncement) :
    P (announced w a target key s) := by
  have hitems : (upsertGeneratedAnnouncement w a (trim a.audioPath) s).1.queueItems =
      s.queueItems := upsertGeneratedAnnouncement_queueItems a _
  have hflag : isStartupSoundPending w (upsertGeneratedAnnouncement w a (trim a.audioPath) s).1 =
      isStartupSoundPending w s := by
    unfold upsertGeneratedAnnouncement
    dsimp only
    split <;> rfl
  exact hinsert _ _ hitems (h.same s _ hitems hflag hs)

lemma announcing_of_queueKept {ok : ℤ → Prop} (h : QueueKept w ok P) : Announcing w env P :=
  ⟨h.broadcastQueue, fun value s => h.upsertSetting (by decide) value s⟩

end Announce

lemma announce_before {s₀ : Engine} {r : QueueItem} (h : Before w s₀ id r s)
    (hspares : announceSpares w env r s = true) :
    Stays (Before w s₀ id r) (maybePrepareAiQueue w env) s := by
  refine announce_kept (announcing_of_queueKept (queueKept_before s₀ r)) h ?_
  intro hon target row htarget hadds key _ a _
  refine announced_kept (queueKept_before s₀ r) h (fun e trackId hitems he => ?_) a
  unfold announceSpares at hspares
  rw [hon, htarget] at hspares
  have hbehind : r.position < row.position := by simpa [hadds] using hspares
  refine insertBefore_before he fun q hq => ?_
  have hrow : s.queueItems[target]? = some row := by
    unfold nextPendingAiTarget at htarget
    obtain ⟨x, hx, heq⟩ := Option.map_eq_some_iff.mp htarget
    have hmem := Sql.mem_orderBy.mp (List.of_mem_zip (List.mem_of_find?_eq_some hx)).1
    rw [heq] at hmem
    exact (mem_queueRows.mp hmem).1
  rw [hitems, hrow] at hq
  exact Option.some.inj hq ▸ hbehind

lemma announce_after {s₀ : Engine} (h : After w s₀ id s) :
    Stays (After w s₀ id) (maybePrepareAiQueue w env) s := by
  refine announce_kept (announcing_of_queueKept (queueKept_after s₀)) h ?_
  intro _ target _ _ _ key _ a _
  exact announced_kept (queueKept_after s₀) h
    (fun e trackId _ he => insertBefore_after he target trackId key) a

lemma phase_before {s₀ : Engine} {r : QueueItem} (phase : Phase) (hp : phase ∈ rest) (s : Engine)
    (h : Before w s₀ id r s) (hspares : spares w env id phase s = true) :
    Stays (Before w s₀ id r) (phase.run w env) s := by
  have hkept : QueueKept w (· ≠ id) (Before w s₀ id r) := queueKept_before s₀ r
  have hphase : phaseSpares w env r phase s = true := by
    unfold spares at hspares
    rw [h.waits.row, Option.all_some, h.waits.pending] at hspares
    simpa using hspares
  cases phase with
  | startupSound => simp [rest, others] at hp
  | crossStation => exact crossStation_before h hphase
  | autofill => exact .of_moves hkept.autofillQueue h
  | sweep => exact sweep_before h hphase
  | announce => exact announce_before h hphase
  | advance => exact .of_moves hkept.advancePlayingQueueItem h
  | ad => exact .of_moves hkept.beside.advancePlayingAdItem h
  | adPolicy => exact .of_moves hkept.beside.failDisabledActiveAds h
  | hourlyAds => exact .of_moves hkept.beside.ensureHourlyAdBreak h

lemma phase_after {s₀ : Engine} (phase : Phase) (hp : phase ∈ rest) (s : Engine)
    (h : After w s₀ id s) : Stays (After w s₀ id) (phase.run w env) s := by
  have hkept : QueueKept w (fun _ => True) (After w s₀ id) := queueKept_after s₀
  cases phase with
  | startupSound => simp [rest, others] at hp
  | crossStation => exact hkept.failCrossStationQueueItems h fun _ _ => trivial
  | autofill => exact .of_moves hkept.autofillQueue h
  | sweep => exact sweep_after h
  | announce => exact announce_after h
  | advance => exact .of_moves hkept.advancePlayingQueueItem h
  | ad => exact .of_moves hkept.beside.advancePlayingAdItem h
  | adPolicy => exact .of_moves hkept.beside.failDisabledActiveAds h
  | hourlyAds => exact .of_moves hkept.beside.ensureHourlyAdBreak h

/-! ### The start -/

/-- The sound plays, and nothing else has begun to play since `s₀`. -/
structure Started (w : Worker) (s₀ : Engine) (id : ℤ) (t : Engine) : Prop where
  plays : ∃ r, t.queueItems[id]? = some r ∧ r.stationId = w.stationId ∧ r.status = .playing
  flag : isStartupSoundPending w t = false
  only : ∀ j, QueuePlays w.stationId t j → j = id ∨ QueuePlays w.stationId s₀ j

lemma queueFilled_started (s₀ : Engine) : QueueFilled w (Started w s₀ id) where
  same s t ht hflag h := ⟨by rw [ht]; exact h.plays, hflag.trans h.flag,
    fun j hj => h.only j (queuePlays_same ht hj)⟩
  append s q _ hp _ h := by
    obtain ⟨r, hr, hrest⟩ := h.plays
    refine ⟨⟨r, ?_, hrest⟩, h.flag, fun j hj => h.only j (queuePlays_insert ?_ hj)⟩
    · rw [insertQueue, lookup_insert, if_neg (lt_nextId hr).ne]
      exact hr
    · rw [hp]
      decide

lemma lookup_updateQueue (i j : ℤ) (f : QueueItem → QueueItem) (s : Engine) :
    (updateQueue i f s).queueItems[j]? =
      if j = i then s.queueItems[j]?.map f else s.queueItems[j]? := lookup_modify ..

/-- What looks the same in the queue waits as before. -/
lemma Before.lookups {s₀ : Engine} {r : QueueItem} (h : Before w s₀ id r s)
    (ht : ∀ j : ℤ, t.queueItems[j]? = s.queueItems[j]?)
    (hflag : isStartupSoundPending w t = isStartupSoundPending w s) : Before w s₀ id r t := by
  refine ⟨⟨(ht id).trans h.waits.row, h.waits.station, h.waits.pending, h.waits.unstarted,
    h.waits.front, fun j q hj hq => h.waits.first j q hj ((ht j).symm.trans hq)⟩,
    hflag.trans h.flag, fun j hj => h.plays j ?_⟩
  obtain ⟨q, hq, hrest⟩ := hj
  exact ⟨q, (ht j).symm.trans hq, hrest⟩

/-- Marked as playing, it is the one row that has begun. -/
lemma Before.marked {s₀ : Engine} {r : QueueItem} (h : Before w s₀ id r s) (now : ℤ) :
    Started w s₀ id (markQueuePlaying id now s) := by
  refine ⟨⟨{ r with status := .playing, startedAt := some now }, ?_, h.waits.station, rfl⟩, h.flag,
    fun j hj => (queuePlays_markQueuePlaying hj).imp_right (h.plays j)⟩
  rw [markQueuePlaying, lookup_updateQueue, if_pos rfl, h.waits.row]
  rfl

/-- What is put back waits as before. -/
lemma Before.restored {s₀ : Engine} {r : QueueItem} (h : Before w s₀ id r s) (now : ℤ)
    (source : PlayoutSource) (item : Option ℤ) (reason : String) :
    Before w s₀ id r (updateQueue id (fun r => { r with status := .pending, startedAt := none })
      (setCurrent w.stationId source item reason (markQueuePlaying id now s))) := by
  refine h.lookups (fun j => ?_) rfl
  have hset : (setCurrent w.stationId source item reason (markQueuePlaying id now s)).queueItems =
      (markQueuePlaying id now s).queueItems := rfl
  rw [lookup_updateQueue, hset, markQueuePlaying, lookup_updateQueue]
  by_cases hj : j = id
  · rw [if_pos hj, if_pos hj, hj, h.waits.row, Option.map_some, Option.map_some]
    have hp := h.waits.pending
    have hu := h.waits.unstarted
    cases r
    dsimp only at hp hu
    rw [hp, hu]
  · rw [if_neg hj, if_neg hj]

/-- What is kept from the mark on holds where a row of the queue is started; else the row fails, or
it is put back. -/
lemma playQueueItem_ends {P Q : Engine → Prop} (x : ℤ × QueueItem)
    (hshown : Moves (Keeps P) (broadcastQueue w env .start))
    (hstart : ∀ (t : Engine) (y : Start), Keeps P t { t with starts := y :: t.starts })
    (hQ : ∀ t, P t → Q t) (hmarked : ∀ reason, P (setCurrent w.stationId .manual (some x.1) reason
      (markQueuePlaying x.1 (env.stamp .start) s)))
    (hfailed : startFits w env x.2 s = false → ∀ reason text, Q (setCurrent w.stationId .none none
      text (markQueueFailed x.1 (setCurrent w.stationId .manual (some x.1) reason
        (markQueuePlaying x.1 (env.stamp .start) s)))))
    (hretry : startsWell w env x.2 s = false → ∀ reason text, Q (setCurrent w.stationId .none none
      text (updateQueue x.1 (fun r => { r with status := .pending, startedAt := none })
        (setCurrent w.stationId .manual (some x.1) reason
          (markQueuePlaying x.1 (env.stamp .start) s))))) :
    Stays Q (playManagedItem w env (managedQueueItem env x)) s := by
  refine ⟨?_⟩
  let reason := s!"{(managedQueueItem env x).name}_start"
  let t := setCurrent w.stationId .manual (some x.1) reason
    (markQueuePlaying x.1 (env.stamp .start) s)
  have hmark : P t := hmarked reason
  have htrack : trackUri env t x.2.trackId = trackUri env s x.2.trackId := rfl
  unfold playManagedItem setPlayoutState
  rw [ends_bind, ends_modify, ends_bind, ends_modify, ends_bind, ends_get]
  change Ends (if trackUri env t x.2.trackId = "" then _ else _) t _ _
  rw [htrack]
  by_cases huri : trackUri env s x.2.trackId = ""
  · rw [if_pos huri]
    have hunfit : startFits w env x.2 s = false := by
      unfold startFits
      rw [huri]
      rfl
    exact hfailed hunfit reason _
  rw [if_neg huri]
  unfold startManagedItem
  rw [ends_bind, ends_get]
  have hends : ∀ u, P u → Ends (broadcastQueue w env .start) u (fun _ => P) fun _ => False :=
    fun u hu => ((hshown.keeps hu).and (total_broadcastQueue.ends u)).mono (fun _ _ ht => ht.1)
      fun _ ht => ht.2
  cases hw : w.hasRuntime with
  | false =>
    refine Ends.tryCatch (F := fun _ => False) ?_ fun _ _ ht => ht.elim
    exact (hends t hmark).bind fun _ u hu => hQ u hu
  | true =>
    unfold startStation
    cases he : env.startError .start with
    | none =>
      refine Ends.tryCatch (F := fun _ => False) ?_ fun _ _ ht => ht.elim
      rw [if_pos rfl, ends_bind, ends_modify]
      exact (hends _ (hstart t _ hmark)).bind fun _ u hu => hQ u hu
    | some text =>
      rw [if_pos rfl, ends_tryCatch]
      change Ends (do
        modify (if isTransientOutputFailure text = true then _ else _)
        setPlayoutState w .none none _
        throw _) t _ _
      have hunwell : startsWell w env x.2 s = false := by
        unfold startsWell
        rw [hw, he]
        simp
      cases htransient : isTransientOutputFailure text with
      | true =>
        rw [if_pos rfl, ends_bind, ends_modify]
        exact hretry hunwell reason _
      | false =>
        rw [if_neg Bool.false_ne_true, ends_bind, ends_modify]
        refine hfailed ?_ reason _
        unfold startFits
        rw [hw, he]
        simp [htransient]

/-- The sound starts, or waits for another try. -/
lemma start_sound {s₀ : Engine} {r : QueueItem} (h : Before w s₀ id r s)
    (hfits : startFits w env r s = true) :
    Stays (fun t => Before w s₀ id r t ∨ Started w s₀ id t)
      (playManagedItem w env (managedQueueItem env (id, r))) s := by
  have hfilled : QueueFilled w (Started w s₀ id) := queueFilled_started s₀
  refine playQueueItem_ends (id, r) hfilled.broadcastQueue (fun t y => hfilled.same t _ rfl rfl)
    (fun _ ht => Or.inr ht) (fun reason => ?_) (fun hunfit => ?_) fun _ reason text => ?_
  · exact hfilled.same (markQueuePlaying id _ s) _ rfl rfl (h.marked (env.stamp .start))
  · exact absurd (hunfit.symm.trans hfits) (by decide)
  · have hback := h.restored (env.stamp .start) .manual (some id) reason
    refine Or.inl ((queueKept_before s₀ r).same _ _ ?_ ?_ hback) <;> rfl

/-! ### The choice -/

/-- What waits first is not skipped, unless it was played last. -/
lemma skipDuplicatePending_sound {s₀ : Engine} {r : QueueItem} (h : Before w s₀ id r s)
    (hdup : ¬ (kindOf s r.trackId = "music" ∧ 0 < lastDoneTrackId w s ∧
      r.trackId = lastDoneTrackId w s)) : skipDuplicatePending w s = s := by
  unfold skipDuplicatePending
  dsimp only
  split_ifs with hlast
  · rfl
  unfold skipDuplicates
  cases hn : nextPending w.stationId s with
  | none => rfl
  | some item =>
    rw [h.waits.next hn]
    refine if_neg ?_
    rw [Bool.and_eq_true, decide_eq_true_eq, decide_eq_true_eq]
    exact fun hsame => hdup ⟨hsame.1, not_le.mp hlast, hsame.2⟩

/-- Where the sound waits, nothing but the sound starts from the queue. -/
lemma choice_before {s₀ : Engine} {r : QueueItem} (h : Before w s₀ id r s)
    {session : Option Session} (hspares : choiceSpares w env id session s = true) :
    Stays (fun t => Before w s₀ id r t ∨ Started w s₀ id t) (startNext w env session) s := by
  unfold choiceSpares at hspares
  rw [h.waits.row, Option.all_some, h.waits.pending] at hspares
  have hfits : currentPlaying w.stationId s = none → (current w.stationId s).source ≠ .host →
      ¬ (kindOf s r.trackId = "music" ∧ 0 < lastDoneTrackId w s ∧
        r.trackId = lastDoneTrackId w s) ∧
      ((hostPending w s).isSome ∨ onBreak session = true ∨ startFits w env r s = true) := by
    intro hfree hhost
    have hsplit : (¬ kindOf s r.trackId = "music" ∨ lastDoneTrackId w s ≤ 0 ∨
        ¬ r.trackId = lastDoneTrackId w s) ∧
        ((hostPending w s).isSome ∨ onBreak session = true ∨ startFits w env r s = true) := by
      simpa [hfree, hhost, or_assoc] using hspares
    refine ⟨fun ⟨hmusic, hlast, hsame⟩ => ?_, hsplit.2⟩
    rcases hsplit.1 with h | h | h
    · exact h hmusic
    · exact absurd hlast (not_lt.mpr h)
    · exact h hsame
  refine ⟨(queueKept_before s₀ r).borne.startNext_ends (fun _ => Or.inl) h
    (fun hfree hhost => ?_) ?_⟩
  · rw [skipDuplicatePending_sound h (hfits hfree hhost).1]
    exact h
  · intro d₀ d item hd₀ hd hfiles hnext hfree hhost hnone hbreak
    obtain rfl := hd₀.waits.next hnext
    refine (start_sound hd ?_).ends
    have hstart : startFits w env r s = true := by
      simpa [hnone, hbreak] using (hfits hfree hhost).2
    unfold startFits at hstart ⊢
    rwa [hfiles.uri]

/-- Another row changes. -/
lemma After.other {s₀ : Engine} (h : After w s₀ id s) {j : ℤ} (hj : j ≠ id)
    (f : QueueItem → QueueItem) : After w s₀ id (updateQueue j f s) := by
  have hsame : (updateQueue j f s).queueItems[id]? = s.queueItems[id]? := by
    rw [lookup_updateQueue, if_neg hj.symm]
  obtain ⟨r, hr, hst⟩ := h.past
  refine ⟨⟨r, hsame.trans hr, hst⟩, h.flag, fun hid => h.plays ?_⟩
  rwa [QueuePlays, hsame] at hid

lemma skipDuplicates_after {s₀ : Engine} (last : ℤ) (n : ℕ) (h : After w s₀ id s) :
    After w s₀ id (skipDuplicates w last n s) := by
  induction n generalizing s with
  | zero => exact h
  | succ n ih =>
    unfold skipDuplicates
    split
    · exact h
    · split_ifs
      · exact ih (h.settle _ fun _ => .inl rfl)
      · exact h

/-- A row that waits no more is not started. -/
lemma choice_after {s₀ : Engine} (h : After w s₀ id s) (session : Option Session) :
    Stays (After w s₀ id) (startNext w env session) s := by
  refine ⟨(queueKept_after s₀).borne.startNext_ends (fun _ ht => ht) h (fun _ _ => ?_) ?_⟩
  · unfold skipDuplicatePending
    dsimp only
    split_ifs
    · exact h
    · exact skipDuplicates_after _ _ h
  · intro d₀ d item hd₀ hd _ hnext _ _ _ _
    have hne : item.1 ≠ id := by
      obtain ⟨hrow, -, hp⟩ := mem_queueRows.mp
        (show (item.1, item.2) ∈ _ from Sql.firstBy_mem hnext)
      obtain ⟨r, hr, hst⟩ := hd₀.past
      intro heq
      rw [heq, hr] at hrow
      rw [Option.some.inj hrow] at hst
      exact hst (by simpa using hp)
    have hborne : QueueBorne w (After w s₀ id) := (queueKept_after s₀).borne
    exact (hborne.playManagedItem (m := managedQueueItem env item) hborne.startsAt nofun
      (fun s hs => hs.other hne _) (fun s hs => hs.other hne _) (fun s hs => hs.other hne _)
      fun s hs => hs.other hne _).keeps hd

/-! ### From the insertion on -/

variable (w env) in
/-- The rest of a tick from the startup sound on. -/
def goOn (session : Option Session) : WorkerM Outcome := do
  rest.forM (Phase.run w env)
  advanceHostTrack w env
  startNext w env session

lemma afterLifecycle_goOn (session : Option Session) : afterLifecycle w env session =
    maybeInsertStartupSound w >>= fun _ => goOn w env session := by
  rw [afterLifecycle_eq]
  simp only [goOn, rest, filling, List.cons_append, List.nil_append, List.forM_eq_forM,
    List.forM_cons, Phase.run, bind_assoc]

/-- Where every phase spares the sound, it still waits first after the tick, or it was started and
nothing else. -/
lemma goOn_before {s₀ : Engine} {r : QueueItem} (h : Before w s₀ id r s) {session : Option Session}
    (hon : Onward (Phase.run w env) (fun phase s => spares w env id phase s = true)
      (fun s => endSpares w env id session s = true) rest s) :
    Stays (fun t => Before w s₀ id r t ∨ Started w s₀ id t) (goOn w env session) s := by
  refine ⟨?_⟩
  unfold goOn
  refine Ends.bind ((Onward.ends (fun phase hp s hs hspares =>
    (phase_before phase hp s hs hspares).ends) h hon).mono (fun _ _ ht => ht) fun _ => Or.inl)
    fun _ t ht => ?_
  have hhost : Moves (Keeps (Before w s₀ id r)) (advanceHostTrack w env) :=
    (queueKept_before s₀ r).borne.advanceHostTrack
  refine ((hhost.keeps ht.1).mono (fun _ _ hc => hc) fun _ => Or.inl).bindEq
    fun _ c hc hbefore => ?_
  have hspares := ht.2
  unfold endSpares at hspares
  rw [hc] at hspares
  exact (choice_before hbefore hspares).ends

/-- A row that waits no more is not started. -/
lemma goOn_after {s₀ : Engine} (h : After w s₀ id s) (session : Option Session) :
    Stays (After w s₀ id) (goOn w env session) s := by
  have hphases : ∀ phases ⊆ rest, ∀ s, After w s₀ id s →
      Ends (phases.forM (Phase.run w env)) s (fun _ => After w s₀ id) (After w s₀ id) := by
    intro phases hsub
    induction phases with
    | nil => exact fun s hs => hs
    | cons phase phases ih =>
      intro s hs
      rw [List.forM_eq_forM, List.forM_cons]
      exact (phase_after phase (hsub (by simp)) s hs).ends.bind fun _ t ht =>
        ih (fun _ hp => hsub (by simp [hp])) t ht
  refine ⟨?_⟩
  unfold goOn
  refine (hphases rest (List.Subset.refl _) s h).bind fun _ t ht => ?_
  have hhost : Moves (Keeps (After w s₀ id)) (advanceHostTrack w env) :=
    (queueKept_after s₀).borne.advanceHostTrack
  exact (hhost.keeps ht).bind fun _ c hc => (choice_after hc session).ends

/-! ### Up to the insertion -/

/-- Before the startup sound a tick changes neither tracks nor the settings of the sound, removes
no row of the queue and starts none. -/
structure Unbegun (w : Worker) (s t : Engine) : Prop where
  texts : SameTexts showKeys w s t
  tracks : t.tracks = s.tracks
  rows : ∀ j : ℤ, s.queueItems[j]?.isSome → t.queueItems[j]?.isSome
  plays : ∀ j, QueuePlays w.stationId t j → QueuePlays w.stationId s j

instance : IsPreorder Engine (Unbegun w) where
  refl s := ⟨refl_of (SameTexts showKeys w) s, rfl, fun _ h => h, fun _ h => h⟩
  trans _ _ _ h h' := ⟨trans_of (SameTexts showKeys w) h.texts h'.texts,
    h'.tracks.trans h.tracks, fun j hj => h'.rows j (h.rows j hj),
    fun j hj => h.plays j (h'.plays j hj)⟩

lemma Unbegun.of_eq (htexts : SameTexts showKeys w s t) (htracks : t.tracks = s.tracks)
    (hqueue : t.queueItems = s.queueItems) : Unbegun w s t :=
  ⟨htexts, htracks, fun j hj => by rwa [hqueue], fun j hj => queuePlays_same hqueue hj⟩

lemma unbegun_enqueue (trackId : ℤ) (key : String) (s : Engine) :
    Unbegun w s (enqueue w.stationId trackId key s).1 := by
  have htexts : SameTexts showKeys w s (enqueue w.stationId trackId key s).1 :=
    sameTexts_enqueue (by decide) _ _ _ _
  unfold enqueue at htexts ⊢
  split
  · exact refl_of (Unbegun w) s
  · rename_i hfree
    rw [hfree] at htexts
    refine ⟨htexts, rfl, fun j hj => ?_, fun j hj => queuePlays_insert ?_ hj⟩
    · change (insertQueue (.new w.stationId trackId _ key) s).queueItems[j]?.isSome
      rw [insertQueue, lookup_insert]
      split_ifs
      · rfl
      · exact hj
    · simp [QueueItem.new]

lemma shows_unbegun : Shows w (Unbegun w) where
  preorder := inferInstance
  playout _ _ _ _ _ := .of_eq (.of_eq rfl rfl) rfl rfl
  filled s := by
    unfold BroadcastQueue.ensureFilled ensureReadyForPlayback
    dsimp only
    split
    · exact refl_of (Unbegun w) s
    split
    · exact refl_of (Unbegun w) s
    · exact Runs.inv_of_foldl (P := Unbegun w s)
        (fun _ _ hs => trans_of (Unbegun w) hs (unbegun_enqueue ..)) _ (refl_of (Unbegun w) s)
  ads _ _ _ _ := .of_eq (.of_eq rfl rfl) rfl rfl
  sessions _ _ := .of_eq (.of_eq rfl rfl) rfl rfl
  automation s := .of_eq (sameTexts_upsertSetting (by decide) _ _ s) rfl rfl
  start _ _ _ := .of_eq (.of_eq rfl rfl) rfl rfl

lemma Due.unbegun (h : Due w s) (ht : Unbegun w s t) : Due w t := by
  have hsetting : ∀ key ∉ showKeys, setting w.stationId t key = setting w.stationId s key :=
    ht.texts.station
  have hpending : isStartupSoundPending w t = isStartupSoundPending w s := by
    unfold isStartupSoundPending
    rw [hsetting _ (by decide)]
  have henabled : soundEnabled w t = soundEnabled w s := by
    unfold soundEnabled
    rw [hsetting _ (by decide)]
  have hid : soundTrackId w t = soundTrackId w s := by
    unfold soundTrackId
    rw [hsetting _ (by decide)]
  have htrack : ∀ n, startupTrack w t (soundMode w t) n = startupTrack w s (soundMode w s) n := by
    intro n
    unfold startupTrack soundMode pickJingle playable
    rw [ht.texts.settingOr (by decide), ht.tracks]
  refine ⟨hpending.trans h.pending, henabled.trans h.enabled, fun n hn => ?_⟩
  rw [htrack]
  exact h.eligible n (hid ▸ hn)

/-- How a tick that comes to the startup sound in `u` ends in `t`. -/
structure GoesOn (w : Worker) (env : Env) (session : Option Session) (u t : Engine) : Prop where
  inserted : ∀ v, maybeInsertStartupSound w u = .ok () v →
    ∀ P : Engine → Prop, Stays P (goOn w env session) v → P t
  raised : ∀ e v, maybeInsertStartupSound w u = .error e v → t = v

lemma goesOn_final (session : Option Session) (u : Engine) :
    GoesOn w env session u (final (afterLifecycle w env session u)) := by
  rw [afterLifecycle_goOn, run_bind]
  constructor
  · intro v hv P hP
    rw [hv]
    exact hP.ends.final
  · intro e v hv
    rw [hv]
    rfl

/-- A tick ends before the startup sound, or comes to it. -/
lemma tick_cases {R : Engine → Engine → Prop} (hR : Shows w R) (hl : R s (leased w env s))
    (ht : tick w s env = some t) :
    atSound w env s = none ∧ R s t ∨ ∃ u, atSound w env s = some u ∧ R s u ∧
      GoesOn w env (activeSession w.stationId s) u t := by
  have := hR.preorder
  unfold atSound
  cases hgranted : granted w env s with
  | false =>
    rw [tick_denied hgranted] at ht
    exact .inl ⟨rfl, Option.some.inj ht ▸ hl⟩
  | true =>
    rw [tick, Option.some.injEq, processOnce_granted hgranted] at ht
    rw [if_pos rfl]
    have hshow : Moves R (processShowLifecycle w env (activeSession w.stationId s)) :=
      hR.processShowLifecycle _
    have hend := hshow.final (leased w env s)
    rcases hr : processShowLifecycle w env (activeSession w.stationId s) (leased w env s) with
      ⟨outcome, u⟩ | ⟨e, u⟩
    · rw [hr] at ht hend
      have hu : R s u := trans_of R hl hend
      cases outcome with
      | some outcome => exact .inl ⟨rfl, ht ▸ hu⟩
      | none => exact .inr ⟨u, rfl, hu, ht ▸ goesOn_final _ u⟩
    · rw [hr] at ht hend
      have hu : R s u := trans_of R hl hend
      exact .inl ⟨rfl, ht ▸ hu⟩

/-! ### The insertion -/

/-- `Ends`, closed. -/
structure EndsIn {α : Type} (x : WorkerM α) (s : Engine) (Q E : Engine → Prop) : Prop where
  ends : Ends x s (fun _ => Q) E

lemma EndsIn.stays {α : Type} {x : WorkerM α} {P Q E : Engine → Prop} (h : EndsIn x s Q E)
    (hQ : ∀ t, Q t → P t) (hE : ∀ t, E t → P t) : Stays P x s :=
  ⟨h.ends.mono (fun _ => hQ) hE⟩

lemma endsIn_of_stays {α : Type} {x : WorkerM α} {P E : Engine → Prop} (h : Stays P x s)
    (hE : ∀ t, P t → E t) : EndsIn x s P E := ⟨h.ends.mono (fun _ _ ht => ht) hE⟩

/-- The first phase of a list, and the others from where it returns. -/
lemma EndsIn.step {fits : Phase → Engine → Prop} {last P Q E : Engine → Prop} {phase : Phase}
    {phases : List Phase} (hon : Onward (Phase.run w env) fits last (phase :: phases) s)
    (hphase : fits phase s → EndsIn (phase.run w env) s P E)
    (hrest : ∀ t, P t → Onward (Phase.run w env) fits last phases t →
      EndsIn (phases.forM (Phase.run w env)) t Q E) :
    EndsIn ((phase :: phases).forM (Phase.run w env)) s Q E :=
  ⟨hon.step (fun hfits => (hphase hfits).ends) fun t ht hon => (hrest t ht hon).ends⟩

lemma EndsIn.cases {x : WorkerM Unit} {Q E : Engine → Prop} (h : EndsIn x s Q E) :
    (∃ t, x s = .ok () t ∧ Q t) ∨ ∃ e t, x s = .error e t ∧ E t := by
  have hends := h.ends
  unfold Ends at hends
  cases hr : x s with
  | ok a t => rw [hr] at hends; exact .inl ⟨t, rfl, hends⟩
  | error e t => rw [hr] at hends; exact .inr ⟨e, t, rfl, hends⟩

lemma EndsIn.ok {x : WorkerM Unit} (h : EndsIn x s (fun u => u = t) fun _ => False) :
    x s = .ok () t := by
  rcases h.cases with ⟨u, hr, rfl⟩ | ⟨_, _, _, hf⟩
  · exact hr
  · exact hf.elim

lemma maybeInsert_idle (h : isStartupSoundPending w s = false) :
    EndsIn (maybeInsertStartupSound w) s (fun u => u = s) fun _ => False := by
  refine ⟨?_⟩
  unfold maybeInsertStartupSound
  rw [ends_bind, ends_get, h]
  exact rfl

lemma ends_bindInteger {α : Type} {used : Bool} {n : ℤ} {f : Unit → WorkerM α}
    {Q : α → Engine → Prop} {E : Engine → Prop} (hf : Ends (f ()) s Q E) (hs : E s) :
    Ends (bindInteger used n >>= f) s Q E := by
  rw [ends_bind]
  unfold Ends
  rw [bindInteger_eq]
  split_ifs
  · exact hs
  · exact hf

lemma atMost_frontPosition {q : ℤ × QueueItem} (hq : q ∈ queueRows w.stationId s [.pending])
    (hall : ∀ q ∈ queueRows w.stationId s [.pending], 1 < q.2.position) :
    frontPosition w s < q.2.position := by
  unfold frontPosition
  dsimp only
  have hmem : q.2.position ∈ (queueRows w.stationId s [.pending]).map (·.2.position) :=
    List.mem_map_of_mem hq
  cases hmin : ((queueRows w.stationId s [.pending]).map (·.2.position)).min? with
  | none => rw [List.min?_eq_none_iff.mp hmin] at hmem; cases hmem
  | some m =>
    obtain ⟨hm, hle⟩ := List.min?_eq_some_iff.mp hmin
    obtain ⟨first, hfirst, rfl⟩ := List.mem_map.mp hm
    have := hall first hfirst
    have := hle _ hmem
    rw [Option.getD_some]
    omega

lemma before_soundRow {trackId : ℤ} (hfree : dedupeTaken s (soundRow w s trackId) = false)
    (hall : ∀ q ∈ queueRows w.stationId s [.pending], 1 < q.2.position) :
    Before w s (nextId s.queueItems) (soundRow w s trackId)
      (clearStartupSoundPending w (insertOrIgnore (soundRow w s trackId) s).1) := by
  unfold insertOrIgnore
  rw [hfree, if_neg Bool.false_ne_true]
  refine ⟨⟨?_, rfl, rfl, rfl, le_max_left 1 _, ?_⟩, ?_, fun j hj =>
    queuePlays_insert (q := soundRow w s trackId) (by simp [soundRow, QueueItem.new]) hj⟩
  · change (insertQueue (soundRow w s trackId) s).queueItems[nextId s.queueItems]? = _
    rw [insertQueue, lookup_insert, if_pos rfl]
  · intro j q hj hq hst hp
    change (insertQueue (soundRow w s trackId) s).queueItems[j]? = _ at hq
    rw [insertQueue, lookup_insert, if_neg hj] at hq
    exact .inl (atMost_frontPosition (mem_queueRows.mpr ⟨hq, hst, by simp [hp]⟩) hall)
  · unfold isStartupSoundPending clearStartupSoundPending
    rw [setting, upsertSetting, lookup_insert, if_pos rfl, Option.bind_some,
      Std.ExtTreeMap.getElem?_insert_self]
    decide +kernel

/-- Where it fits, the sound has a track, and its row is put before everything that waits. -/
lemma insertFits_before (hdue : Due w s) (hfits : insertFits w s = true) {n : ℤ}
    (hid : soundTrackId w s = .ok n) :
    ∃ trackId, startupTrack w s (soundMode w s) n = some trackId ∧
      Before w s (nextId s.queueItems) (soundRow w s trackId)
        (clearStartupSoundPending w (insertOrIgnore (soundRow w s trackId) s).1) := by
  obtain ⟨trackId, htrack⟩ := Option.isSome_iff_exists.mp (hdue.eligible n hid)
  unfold insertFits at hfits
  rw [hid] at hfits
  dsimp only at hfits
  rw [htrack, Option.all_some, Bool.and_eq_true, Bool.and_eq_true, Bool.not_eq_true',
    Bool.not_eq_true', List.all_eq_true] at hfits
  exact ⟨trackId, htrack, before_soundRow hfits.2.1 fun q hq => by simpa using hfits.2.2 q hq⟩

lemma insertion_before (hdue : Due w s) (hfits : insertFits w s = true) :
    EndsIn (maybeInsertStartupSound w) s
      (fun u => ∃ r, Before w s (nextId s.queueItems) r u) fun u => u = s := by
  have hjingle : nextPendingIsJingle w s = false := by
    unfold insertFits at hfits
    rw [Bool.and_eq_true, Bool.not_eq_true'] at hfits
    exact hfits.1
  have henabled : isTruthy ((setting w.stationId s "startup_sound_enabled").getD "false") = true :=
    hdue.enabled
  have hrow : ∀ n, soundTrackId w s = .ok n → _ := fun n => insertFits_before hdue hfits
  unfold soundTrackId soundMode at hrow
  refine ⟨?_⟩
  unfold maybeInsertStartupSound
  rw [ends_bind, ends_get, hdue.pending, hjingle]
  simp only [Bool.not_true, Bool.false_eq_true, if_false]
  rw [henabled, ends_bind]
  cases hid : intSetting ((setting w.stationId s "startup_sound_track_id").getD "0") 0 with
  | error e => exact rfl
  | ok n =>
    refine ends_bindInteger ?_ rfl
    refine Exists.elim (hrow n hid) ?_
    intro trackId hbefore
    rw [if_pos rfl, hbefore.1]
    exact ⟨_, hbefore.2⟩

/-! ### Rows that a tick starts -/

lemma mem_begun {j : ℤ} :
    j ∈ begun w s t ↔ QueuePlays w.stationId t j ∧ ¬ QueuePlays w.stationId s j := by
  have hplays : ∀ e : Engine, j ∈ (queueRows w.stationId e [.playing]).map Prod.fst ↔
      QueuePlays w.stationId e j := by
    intro e
    rw [List.mem_map]
    constructor
    · rintro ⟨q, hq, rfl⟩
      obtain ⟨hrow, hst, hp⟩ := mem_queueRows.mp (show (q.1, q.2) ∈ _ from hq)
      exact ⟨q.2, hrow, hst, by simpa using hp⟩
    · rintro ⟨q, hq, hst, hp⟩
      exact ⟨(j, q), mem_queueRows.mpr ⟨hq, hst, by simp [hp]⟩, rfl⟩
  unfold begun
  rw [List.mem_filter, decide_eq_true_eq, hplays, hplays]

lemma begun_eq_nil (h : ∀ j, QueuePlays w.stationId t j → QueuePlays w.stationId s j) :
    begun w s t = [] :=
  List.eq_nil_iff_forall_not_mem.mpr fun j hj => (mem_begun.mp hj).2 (h j (mem_begun.mp hj).1)

/-- Where one row has begun to play, it is all that has. -/
lemma begun_eq_singleton (hplays : QueuePlays w.stationId t id) (hs : ¬ QueuePlays w.stationId s id)
    (honly : ∀ j, QueuePlays w.stationId t j → j = id ∨ QueuePlays w.stationId s j) :
    begun w s t = [id] := by
  have hsorted : (queueRows w.stationId t [.playing]).Pairwise fun a b => a.1 < b.1 :=
    (rows_sorted t.queueItems).filter _
  have hnodup : (begun w s t).Nodup :=
    ((List.pairwise_map.mpr hsorted).imp ne_of_lt).filter _
  refine List.perm_singleton.mp ((List.perm_ext_iff_of_nodup hnodup (List.nodup_singleton id)).mpr
    fun j => ?_)
  rw [mem_begun, List.mem_singleton]
  refine ⟨fun hj => (honly j hj.1).resolve_right hj.2, ?_⟩
  rintro rfl
  exact ⟨hplays, hs⟩

/-- Where the sound is started, it is all that is. -/
lemma begun_started (h : Started w s id t) (hs : ¬ QueuePlays w.stationId s id) :
    begun w s t = [id] := begun_eq_singleton h.plays hs h.only

lemma Started.after {s₀ : Engine} (h : Started w s₀ id s) : After w s id s := by
  obtain ⟨r, hr, hst, hp⟩ := h.plays
  exact ⟨⟨r, hr, by rw [hp]; decide⟩, h.flag, fun hid => hid⟩

lemma Before.not_plays {s₀ : Engine} {r : QueueItem} (h : Before w s₀ id r s) :
    ¬ QueuePlays w.stationId s id := by
  rintro ⟨q, hq, -, hp⟩
  rw [h.waits.row] at hq
  rw [← Option.some.inj hq, h.waits.pending] at hp
  cases hp

/-! ### Runs -/

/-- The course of a run: the sound is due, or it waits first, or it was started first. -/
inductive Course (w : Worker) : Playback → Prop
  | due (s : Engine) (h : Due w s) : Course w ⟨s, [], []⟩
  | waits (s : Engine) (id : ℤ) (r : QueueItem) (h : Before w s id r s) : Course w ⟨s, [id], []⟩
  | started (s : Engine) (id : ℤ) (begun : List ℤ) (h : After w s id s) (hb : id ∉ begun) :
      Course w ⟨s, [id], id :: begun⟩

lemma Course.playsOnce {p : Playback} (h : Course w p) : PlaysOnce p := by
  cases h with
  | due s h => exact .inl ⟨rfl, rfl⟩
  | waits s id r h => exact .inr ⟨id, rfl, .inl rfl⟩
  | started s id begun h hb => exact .inr ⟨id, rfl, .inr ⟨begun, rfl, hb⟩⟩

/-- Where the sound waits before a tick or in it, it still does afterwards, or it has begun. -/
lemma course_of_before {r : QueueItem} (hs : ¬ QueuePlays w.stationId s id)
    (h : Before w s id r t ∨ Started w s id t) : Course w ⟨t, [id], begun w s t⟩ := by
  rcases h with hbefore | hstarted
  · rw [begun_eq_nil hbefore.plays]
    exact .waits t id r ⟨hbefore.waits, hbefore.flag, fun _ hj => hj⟩
  · rw [begun_started hstarted hs]
    exact .started t id [] hstarted.after (by simp)

lemma maybeInsert_idle_eq (h : isStartupSoundPending w s = false) :
    maybeInsertStartupSound w s = .ok () s := (maybeInsert_idle h).ok

lemma afterSound_ok {v : Engine} (h : maybeInsertStartupSound w s = .ok () v) :
    afterSound w s = some v := by
  unfold afterSound
  rw [h]

lemma insertedSound_error {e : WorkerError} {v : Engine}
    (h : maybeInsertStartupSound w s = .error e v) : insertedSound w s = none := by
  unfold insertedSound afterSound
  rw [h]
  rfl

/-- No sound is inserted where none is asked for. -/
lemma insertedSound_idle (h : isStartupSoundPending w s = false) : insertedSound w s = none := by
  unfold insertedSound afterSound
  rw [maybeInsert_idle_eq h]
  have hfree : s.queueItems[nextId s.queueItems]? = none := by
    by_contra hne
    obtain ⟨r, hr⟩ := Option.ne_none_iff_exists'.mp hne
    exact absurd (lt_nextId hr) (lt_irrefl _)
  rw [Option.bind_some, hfree]
  rfl

lemma leased_unbegun : Unbegun w s (leased w env s) := by
  obtain ⟨leases, hleased⟩ := leased_eq w env s
  rw [hleased]
  exact .of_eq (.of_eq rfl rfl) rfl rfl

lemma insertedSound_of_before {v : Engine} (hv : maybeInsertStartupSound w s = .ok () v)
    {r : QueueItem} (h : Before w s (nextId s.queueItems) r v) :
    insertedSound w s = some (nextId s.queueItems) := by
  rw [insertedSound, afterSound_ok hv, Option.bind_some, h.waits.row]
  rfl

/-- How the insertion ends where it is due and fits. -/
lemma insertion_cases (hdue : Due w s) (hfits : insertFits w s = true) :
    (∃ v r, maybeInsertStartupSound w s = .ok () v ∧ Before w s (nextId s.queueItems) r v) ∨
      ∃ e, maybeInsertStartupSound w s = .error e s := by
  have hcases := (insertion_before hdue hfits).cases
  generalize maybeInsertStartupSound w s = x at hcases ⊢
  refine hcases.imp ?_ ?_
  · rintro ⟨v, hv, r, hr⟩
    exact ⟨v, r, hv, hr⟩
  · rintro ⟨e, v, hv, rfl⟩
    exact ⟨e, hv⟩

lemma tick_due (h : Due w s) (hspared : SoundSpared w ⟨s, [], []⟩ env)
    (ht : tick w s env = some t) :
    Course w ⟨t, ((atSound w env s).bind (insertedSound w)).toList, begun w s t⟩ := by
  rcases tick_cases shows_unbegun leased_unbegun ht with ⟨hat, hR⟩ | ⟨u, hat, hR, hgo⟩
  · rw [hat, begun_eq_nil hR.plays]
    exact .due t (h.unbegun hR)
  have hdue : Due w u := h.unbegun hR
  obtain ⟨hfits, hon⟩ := hspared u hat
  rw [hat, Option.bind_some]
  rcases insertion_cases hdue (hfits hdue.pending) with ⟨v, r, hv, hbefore⟩ | ⟨e, hv⟩
  · have hsound := insertedSound_of_before hv hbefore
    have hnew : ¬ QueuePlays w.stationId s (nextId u.queueItems) := by
      rintro ⟨q, hq, -⟩
      obtain ⟨q', hq'⟩ := Option.isSome_iff_exists.mp (hR.rows _ (by rw [hq]; rfl))
      exact absurd (lt_nextId hq') (lt_irrefl _)
    have hkept : Before w s (nextId u.queueItems) r v :=
      ⟨hbefore.waits, hbefore.flag, fun j hj => hR.plays j (hbefore.plays j hj)⟩
    have hends := goOn_before hkept (hon v (afterSound_ok hv) _ (by rw [hsound]; simp))
    rw [hsound]
    exact course_of_before hnew (hgo.inserted v hv _ hends)
  · obtain rfl : t = u := hgo.raised e u hv
    rw [insertedSound_error hv, begun_eq_nil hR.plays]
    exact .due t hdue

lemma tick_waits {r : QueueItem} (h : Before w s id r s) {old : List ℤ}
    (hspared : SoundSpared w ⟨s, [id], old⟩ env) (ht : tick w s env = some t) :
    Course w ⟨t, [id] ++ ((atSound w env s).bind (insertedSound w)).toList, begun w s t⟩ := by
  have hkept : QueueKept w (· ≠ id) (Before w s id r) := queueKept_before s r
  rcases tick_cases hkept.beside.toShows (hkept.borne.tryAcquire s _) ht with
    ⟨hat, hR⟩ | ⟨u, hat, hR, hgo⟩
  · rw [hat]
    exact course_of_before h.not_plays (.inl (hR h))
  · have hu : Before w s id r u := hR h
    have hidle := maybeInsert_idle_eq hu.flag
    have hon := (hspared u hat).2 u (afterSound_ok hidle) id (by simp)
    rw [hat, Option.bind_some, insertedSound_idle hu.flag]
    exact course_of_before h.not_plays (hgo.inserted u hidle _ (goOn_before hu hon))

lemma tick_started (h : After w s id s) (ht : tick w s env = some t) {old : List ℤ}
    (hold : id ∉ old) :
    Course w ⟨t, [id] ++ ((atSound w env s).bind (insertedSound w)).toList,
      id :: old ++ begun w s t⟩ := by
  have hend : After w s id t → Course w ⟨t, [id], id :: old ++ begun w s t⟩ := by
    intro ht
    refine .started t id (old ++ begun w s t) ⟨ht.past, ht.flag, fun hid => hid⟩ fun hmem => ?_
    rcases List.mem_append.mp hmem with hmem | hmem
    · exact hold hmem
    · exact (mem_begun.mp hmem).2 (ht.plays (mem_begun.mp hmem).1)
  have hkept : QueueKept w (fun _ => True) (After w s id) := queueKept_after s
  rcases tick_cases hkept.beside.toShows (hkept.borne.tryAcquire s _) ht with
    ⟨hat, hR⟩ | ⟨u, hat, hR, hgo⟩
  · rw [hat]
    exact hend (hR h)
  · have hu : After w s id u := hR h
    rw [hat, Option.bind_some, insertedSound_idle hu.flag]
    exact hend (hgo.inserted u (maybeInsert_idle_eq hu.flag) _ (goOn_after hu _))

lemma course_tick {p p' : Playback} (h : Course w p) (hspared : SoundSpared w p env)
    (ht : playTick w p env = some p') : Course w p' := by
  obtain ⟨t, htick, rfl⟩ := Option.map_eq_some_iff.mp ht
  cases h with
  | due s h => exact tick_due h hspared htick
  | waits s id r h => exact tick_waits h hspared htick
  | started s id begun h hb => exact tick_started h htick hb

/-- **The startup sound comes first and once** in every run from a state in which it is due, if
each tick inserts it in front and all phases of the tick spare it. -/
theorem startup_sound_once {envs : List Env} {p : Playback} (h : Due w s)
    (hm : Meets (playTick w) (fun p env => SoundSpared w p env) ⟨s, [], []⟩ envs)
    (he : exec (playTick w) ⟨s, [], []⟩ envs = some p) : PlaysOnce p :=
  (inv_of_exec (P := Course w) (fun _ _ _ h hspared ht => course_tick h hspared ht) (.due s h) hm
    he).playsOnce

/-! ### A sound that is not heard -/

/-- The startup sound is due, its only jingle is the second track, and a song waits at the position
`pos`. -/
def soundBefore (pos : ℤ) (sweeper : String) : Engine :=
  { Engine.empty with
    tracks := (Engine.empty.tracks.insert 1
      ⟨1, "", "", "/one.mp3", 200, "music", true, true, 0, none⟩).insert 2
      ⟨1, "", "", "/jingle.mp3", 10, "jingle", true, true, 0, none⟩
    queueItems := Engine.empty.queueItems.insert 1 (.new 1 1 pos "one")
    stationSettings := Engine.empty.stationSettings.insert 1
      ((((∅ : Std.ExtTreeMap String String).insert "startup_sound_enabled" "true").insert
        "_startup_sound_pending" "true").insert "sweeper_enabled" sweeper) }

lemma due_soundBefore (pos : ℤ) (sweeper : String)
    (h : isStartupSoundPending soleWorker (soundBefore pos sweeper) = true ∧
      soundEnabled soleWorker (soundBefore pos sweeper) = true ∧
      soundTrackId soleWorker (soundBefore pos sweeper) = .ok 0 ∧
      (startupTrack soleWorker (soundBefore pos sweeper)
        (soundMode soleWorker (soundBefore pos sweeper)) 0).isSome) :
    Due soleWorker (soundBefore pos sweeper) := by
  refine ⟨h.1, h.2.1, fun n hn => ?_⟩
  obtain rfl : (0 : ℤ) = n := Except.ok.inj (h.2.2.1.symm.trans hn)
  exact h.2.2.2

/-- With the sweeper off, the sound is removed in the tick that inserts it. -/
theorem startup_sound_removed : Due soleWorker (soundBefore 1 "false") ∧
    nextPendingIsJingle soleWorker (soundBefore 1 "false") = false ∧
    ∃ p, exec (playTick soleWorker) ⟨soundBefore 1 "false", [], []⟩ [calmWorld 100] = some p ∧
      ¬ PlaysOnce p := by
  refine ⟨due_soundBefore _ _ (by decide +kernel), by decide +kernel, _, rfl, fun h => ?_⟩
  have hplayed : ((exec (playTick soleWorker) ⟨soundBefore 1 "false", [], []⟩
      [calmWorld 100]).map fun p => (p.sounds, p.begun)) = some ([2], [1]) := by decide +kernel
  obtain ⟨hsounds, hbegun⟩ := Prod.mk.inj (Option.some.inj hplayed)
  rcases h with ⟨hnone, -⟩ | ⟨id, hid, hnone | ⟨rest, hrest, -⟩⟩
  · exact absurd (hsounds.symm.trans hnone) (by decide)
  · exact absurd (hbegun.symm.trans hnone) (by decide)
  · have hsound : [2] = [id] := hsounds.symm.trans hid
    have hfirst : [1] = id :: rest := hbegun.symm.trans hrest
    obtain rfl := (List.cons.inj hsound).1
    exact absurd (List.cons.inj hfirst).1 (by decide)

/-- With the sweeper on, and a place before the song, it comes first. -/
theorem startup_sound_once_soundBefore : ∃ p, exec (playTick soleWorker)
    ⟨soundBefore 2 "true", [], []⟩ [calmWorld 100, calmWorld 101] = some p ∧ PlaysOnce p :=
  ⟨_, rfl, startup_sound_once (due_soundBefore _ _ (by decide +kernel))
    (show Meets (playTick soleWorker) (fun p env => SoundSpared soleWorker p env)
      ⟨soundBefore 2 "true", [], []⟩ [calmWorld 100, calmWorld 101] by decide +kernel) rfl⟩

end OnAir.StartupSound
