import OnAir.ActiveRows
import OnAir.QueueOrder
import OnAir.SettingsAhead

/-!
What the filling adds to the queue, and the number it returns.

The filling goes round up to a hundred times. What it has added so far stands behind all rows that
were active, in the order it was added, and the next row is put behind that again. A song is only
taken while no active row holds it, so its key is free.
-/

namespace OnAir.QueueFilling

open ActiveRows BroadcastQueue PlayoutTables Programs QueueOrder QueueUpkeep SettingsAhead
  SettingsText OnAir.Table WorkerEnv

open OneSource (soleWorker)
open ShowBreaks (silentWorld)

variable (w : Worker) (env : Env)

/-! ### The number of rows added -/

/-- The rows added once the jingle was seen to: with a jingle the next position moved on. -/
def countJingle (f g : Filling) (added : ℕ) : ℕ :=
  if g.nextPos = f.nextPos then added else added + 1

/-- The loop of `_autofill_queue` with the rows it counts. -/
def countingLoop (sweeper : Sweeper) : ℕ → Filling → ℕ → WorkerM ℕ
  | 0, _, added => pure added
  | n + 1, f, added => do
    if f.pendingDuration < 1800 || f.pendingMusicCount < 12 then
      let (g, go) ← insertDueJingle w sweeper f
      if !go then countingLoop sweeper n g added
      else
        let (h, track) := chooseMusic w env g (← get)
        match track with
        | none => return countJingle f g added
        | some track =>
          countingLoop sweeper n (← insertMusic w env h track) (countJingle f g added + 1)
    else return added

/-- `_autofill_queue` with the number it returns. -/
def countingAutofill : WorkerM ℕ := do
  let s ← get
  if isShort w s then
    let sweeper ← liftSetting (sweeperSettings w.stationId s)
    let active := activeTrackIds w s
    countingLoop w env sweeper 100 {
      pendingDuration := pendingQueueDuration w s
      pendingMusicCount := pendingMusicCount w s
      musicInPending := countPendingMusicSinceJingle w s
      nextPos := nextPosition w.stationId s
      recent := recentTrackIds w s ++ active
      active
      committed := s } 0
  else return 0

variable {w env} {s t : Engine}

/-! ### Rows added behind all others -/

variable (w) in
/-- An active song or jingle of the station. -/
def Eligible (s : Engine) (trackId : ℤ) : Prop :=
  ∃ track : Track, s.tracks[trackId]? = some track ∧ track.stationId = w.stationId ∧
    track.isActive = true ∧ (Sql.lower track.trackType = "music" ∨
      Sql.lower track.trackType = "jingle")

/-- The row is one of a song. -/
def isSong (s : Engine) (r : Row) : Bool := sqlKindOf s r.2.trackId = "music"

/-- From `s` to `t` the rows `new` were added: none was there, they stand behind all rows that were
active, and no song among them was in an active row or is added twice. -/
structure Filled (w : Worker) (s t : Engine) (new : List Row) : Prop where
  kept : ∀ (id : ℤ) (r : QueueItem), s.queueItems[id]? = some r → t.queueItems[id]? = some r
  rows : ∀ (id : ℤ) (r : QueueItem), t.queueItems[id]? = some r →
    s.queueItems[id]? = some r ∨ (id, r) ∈ new
  fresh : ∀ r ∈ new, s.queueItems[r.1]? = none
  behind : listActiveOrdered w.stationId t = listActiveOrdered w.stationId s ++ new
  eligible : ∀ r ∈ new, Eligible w s r.2.trackId
  notActive : ∀ r ∈ new, isSong s r = true → ∀ q ∈ listActiveOrdered w.stationId s,
    q.2.trackId ≠ r.2.trackId
  distinct : ((new.filter (isSong s)).map (·.2.trackId)).Nodup

lemma Filled.refl (s : Engine) : Filled w s s [] :=
  ⟨fun _ _ h => h, fun _ _ h => .inl h, by simp, (List.append_nil _).symm, by simp, by simp, .nil⟩

/-- The library stays, but for the durations that were measured. -/
def SameLibrary (s t : Engine) : Prop :=
  ∀ id : ℤ, t.tracks[id]?.map (fun r : Track => (r.stationId, r.isActive, r.trackType)) =
    s.tracks[id]?.map fun r : Track => (r.stationId, r.isActive, r.trackType)

lemma SameLibrary.eligible (h : SameLibrary s t) {trackId : ℤ} (ht : Eligible w t trackId) :
    Eligible w s trackId := by
  obtain ⟨track, hrow, hst, hactive, hkind⟩ := ht
  have hid := h trackId
  rw [hrow, Option.map_some] at hid
  obtain ⟨track', hrow', hfields⟩ := Option.map_eq_some_iff.mp hid.symm
  obtain ⟨hst', hactive', htype'⟩ := Prod.mk.inj hfields |>.imp id Prod.mk.inj
  exact ⟨track', hrow', hst'.trans hst, hactive'.trans hactive, by rwa [htype']⟩

lemma SameLibrary.sqlKindOf (h : SameLibrary s t) (trackId : ℤ) :
    PlayoutTables.sqlKindOf t trackId = PlayoutTables.sqlKindOf s trackId := by
  have hid := congrArg (Option.map fun r : ℤ × Bool × String => r.2.2) (h trackId)
  rw [Option.map_map, Option.map_map] at hid
  exact congrArg (fun o : Option String => Sql.lower (o.getD "music")) hid

lemma sameLibrary_probe (track : ℤ) (s : Engine) : SameLibrary s (probeAndStore env track s).1 := by
  intro id
  unfold probeAndStore
  split
  · rfl
  split
  · rfl
  dsimp only
  split
  · rfl
  split
  · rfl
  · rw [lookup_modify]
    split_ifs with hid
    · rw [Option.map_map]
      rfl
    · rfl

lemma SameLibrary.trans {u : Engine} (h : SameLibrary s t) (h' : SameLibrary t u) :
    SameLibrary s u := fun id => (h' id).trans (h id)

/-- A row is put behind all others. -/
lemma Filled.append {new : List Row} {row : QueueItem} (h : Filled w s t new)
    (hst : row.stationId = w.stationId) (hpending : row.status = .pending)
    (hbeyond : Beyond w.stationId t row.position) (heligible : Eligible w s row.trackId)
    (hactive : PlayoutTables.sqlKindOf s row.trackId = "music" →
      ∀ q ∈ listActiveOrdered w.stationId s, q.2.trackId ≠ row.trackId)
    (hnew : PlayoutTables.sqlKindOf s row.trackId = "music" →
      ∀ q ∈ new, isSong s q = true → q.2.trackId ≠ row.trackId) :
    Filled w s (insertQueue row t) (new ++ [(nextId t.queueItems, row)]) where
  kept id r hr := by
    have ht := h.kept id r hr
    rw [insertQueue, lookup_insert, if_neg (lt_nextId ht).ne]
    exact ht
  rows id r hr := by
    rw [insertQueue, lookup_insert] at hr
    split_ifs at hr with hid
    · obtain rfl := Option.some.inj hr
      exact .inr (List.mem_append_right _ (by rw [hid]; exact List.mem_singleton_self _))
    · exact (h.rows id r hr).imp_right fun hmem => List.mem_append_left _ hmem
  fresh r hr := by
    rcases List.mem_append.mp hr with hr | hr
    · exact h.fresh r hr
    · obtain rfl := List.mem_singleton.mp hr
      cases hs : s.queueItems[nextId t.queueItems]? with
      | none => rfl
      | some q => exact absurd (lt_nextId (h.kept _ q hs)) (lt_irrefl _)
  behind := by
    rw [listActiveOrdered_insertQueue hst (by rw [hpending]; rfl) hbeyond, h.behind,
      List.append_assoc]
  eligible r hr := by
    rcases List.mem_append.mp hr with hr | hr
    · exact h.eligible r hr
    · obtain rfl := List.mem_singleton.mp hr
      exact heligible
  notActive r hr hsong := by
    rcases List.mem_append.mp hr with hr | hr
    · exact h.notActive r hr hsong
    · obtain rfl := List.mem_singleton.mp hr
      exact hactive (of_decide_eq_true hsong)
  distinct := by
    rw [List.filter_append, List.map_append]
    by_cases hsong : isSong s (nextId t.queueItems, row) = true
    · rw [List.filter_cons_of_pos hsong, List.filter_nil]
      refine List.nodup_append.mpr ⟨h.distinct, List.nodup_singleton _, fun a ha b hb => ?_⟩
      obtain ⟨q, hq, rfl⟩ := List.mem_map.mp ha
      obtain ⟨hq, hqsong⟩ := List.mem_filter.mp hq
      rw [List.map_singleton, List.mem_singleton] at hb
      rw [hb]
      exact hnew (of_decide_eq_true hsong) q hq hqsong
    · rw [List.filter_cons_of_neg hsong, List.filter_nil, List.map_nil, List.append_nil]
      exact h.distinct

/-- In the midst of the filling: the next row stands behind all others, and no song is chosen that
is in an active row. -/
structure Underway (w : Worker) (s : Engine) (f : Filling) (t : Engine) (new : List Row) :
    Prop where
  filled : Filled w s t new
  library : SameLibrary s t
  beyond : Beyond w.stationId t f.nextPos
  known : KeysKnown w f t
  active : ∀ q ∈ listActiveOrdered w.stationId s, 0 < q.2.trackId → q.2.trackId ∈ f.active
  songs : ∀ q ∈ new, isSong s q = true → q.2.trackId ∈ f.active

/-! ### What is picked -/

lemma mem_playable {kind : String} {excluded : List ℤ} {r : ℤ × Track}
    (h : r ∈ playable w.stationId s kind excluded) : s.tracks[r.1]? = some r.2 ∧
      r.2.stationId = w.stationId ∧ r.2.isActive = true ∧ Sql.lower r.2.trackType = kind := by
  obtain ⟨hrow, hok⟩ := List.mem_filter.mp h
  simp only [Bool.and_eq_true, decide_eq_true_eq] at hok
  exact ⟨mem_rows.mp hrow, hok.1.1.1.1, hok.1.1.1.2, hok.1.1.2⟩

lemma sqlKindOf_of_lookup {trackId : ℤ} {track : Track} (h : s.tracks[trackId]? = some track) :
    sqlKindOf s trackId = Sql.lower track.trackType := by
  rw [sqlKindOf, trackTypeOf, h]
  rfl

/-- A jingle that is picked is one of the station. -/
lemma pickJingle_eligible {excluded : List ℤ} {jingle : ℤ}
    (h : pickJingle w.stationId s excluded = some jingle) :
    Eligible w s jingle ∧ sqlKindOf s jingle = "jingle" := by
  have hmem : ∃ r : ℤ × Track, (∃ excluded, r ∈ playable w.stationId s "jingle" excluded) ∧
      r.1 = jingle := by
    unfold pickJingle at h
    split at h
    case h_1 r hr => exact ⟨r, ⟨_, Sql.firstBy_mem hr⟩, Option.some.inj h⟩
    case h_2 =>
      obtain ⟨r, hr, heq⟩ := Option.map_eq_some_iff.mp h
      exact ⟨r, ⟨_, Sql.firstBy_mem hr⟩, heq⟩
  obtain ⟨r, ⟨excluded, hr⟩, rfl⟩ := hmem
  obtain ⟨hrow, hst, hactive, hkind⟩ := mem_playable hr
  exact ⟨⟨r.2, hrow, hst, hactive, .inr hkind⟩, (sqlKindOf_of_lookup hrow).trans hkind⟩

lemma shuffledTrack_eligible {excluded : List ℤ} {track : ℤ}
    (h : shuffledTrack w env s excluded = some track) : Eligible w s track := by
  unfold shuffledTrack at h
  obtain ⟨r, hr, rfl⟩ := Option.map_eq_some_iff.mp h
  have hmem := List.mem_of_mem_take (List.mem_of_mem_filter (Sql.firstBy_mem hr))
  obtain ⟨hrow, hst, hactive, hkind⟩ := mem_playable
    (List.mem_of_mem_filter (Sql.mem_orderBy.mp hmem))
  exact ⟨r.2, hrow, hst, hactive, .inl hkind⟩

lemma chooseMusic_eligible {f g : Filling} {track : ℤ}
    (h : chooseMusic w env f s = (g, some track)) : Eligible w s track ∧ g.nextPos = f.nextPos := by
  unfold chooseMusic at h
  dsimp only at h
  split at h
  case h_1 track' hfound =>
    obtain ⟨rfl, heq⟩ := Prod.mk.inj h
    exact ⟨shuffledTrack_eligible (hfound.trans heq), rfl⟩
  case h_2 =>
    split_ifs at h
    · obtain ⟨rfl, hfound⟩ := Prod.mk.inj h
      exact ⟨shuffledTrack_eligible hfound, rfl⟩
    · cases (Prod.mk.inj h).2

/-! ### One round -/

variable {f : Filling} {new : List Row}

/-- A jingle that is due is one more row behind all others; where its key is taken the position is
looked up again. -/
lemma Underway.insertDueJingle (h : Underway w s f t new) (sweeper : Sweeper) :
    Ends (QueueUpkeep.insertDueJingle w sweeper f) t (fun r t' => ∃ new' : List Row,
      Underway w s r.1 t' new' ∧ (r.2 = true → new'.length = countJingle f r.1 new.length) ∧
        (r.2 = false → new' = new)) fun _ => False := by
  have hknown := insertDueJingle_known h.known sweeper
  unfold QueueUpkeep.insertDueJingle at hknown ⊢
  rw [ends_bind, ends_get] at hknown ⊢
  dsimp only at hknown ⊢
  split
  case h_1 => exact ⟨new, h, fun _ => (if_pos rfl).symm, nofun⟩
  case h_2 jingle hpick =>
    rw [hpick] at hknown
    dsimp only at hknown
    have hjingle : pickJingle w.stationId t [] = some jingle := by
      split_ifs at hpick
      exact hpick
    obtain ⟨heligible, hkind⟩ := pickJingle_eligible hjingle
    have hnoSong : PlayoutTables.sqlKindOf s jingle ≠ "music" := by
      rw [← h.library.sqlKindOf, hkind]
      decide
    split_ifs at hknown ⊢ with htaken
    · exact ⟨new, ⟨h.filled, h.library, beyond_nextPosition _ _, h.known.of_active rfl rfl,
        h.active, h.songs⟩, nofun, fun _ => rfl⟩
    · rw [ends_bind, ends_modify] at hknown ⊢
      refine ⟨_, ⟨h.filled.append rfl rfl h.beyond (h.library.eligible heligible)
        (fun hsong => absurd hsong hnoSong) fun hsong => absurd hsong hnoSong, h.library,
        QueueKept.beyond_insert h.beyond rfl, hknown, h.active, fun q hq hsong => ?_⟩,
        fun _ => ?_, nofun⟩
      · rcases List.mem_append.mp hq with hq | hq
        · exact h.songs q hq hsong
        · obtain rfl := List.mem_singleton.mp hq
          exact absurd (of_decide_eq_true hsong) hnoSong
      · rw [List.length_append, List.length_singleton, countJingle, if_neg (by simp)]

lemma Underway.chooseMusic (h : Underway w s f t new) {g : Filling} {track : ℤ}
    (hm : QueueUpkeep.chooseMusic w env f t = (g, some track)) :
    Underway w s g t new ∧ Eligible w s track ∧ 0 < track ∧ track ∉ g.active := by
  obtain ⟨hknown, hpos, hout, hactive⟩ := chooseMusic_known h.known hm
  obtain ⟨heligible, hnext⟩ := chooseMusic_eligible hm
  refine ⟨⟨h.filled, h.library, ?_, hknown, ?_, ?_⟩, h.library.eligible heligible, hpos, hout⟩
  · rw [hnext]
    exact h.beyond
  · rw [hactive]
    exact h.active
  · rw [hactive]
    exact h.songs

/-- A song that no active row holds is one more row behind all others. -/
lemma Underway.insertMusic (h : Underway w s f t new) {track : ℤ} (heligible : Eligible w s track)
    (hpos : 0 < track) (hout : track ∉ f.active) :
    Ends (QueueUpkeep.insertMusic w env f track) t (fun g t' => ∃ new' : List Row,
      Underway w s g t' new' ∧ new'.length = new.length + 1) fun _ => False := by
  have hknown : Ends (QueueUpkeep.insertMusic w env f track) t (fun g t' => KeysKnown w g t')
      fun _ => False := insertMusic_known h.known hpos hout
  have hprobe : KeysKnown w f (probeAndStore env track t).1 := probeAndStore_known h.known track
  have hlibrary : SameLibrary s (probeAndStore env track t).1 :=
    h.library.trans (sameLibrary_probe track t)
  have hitems : (probeAndStore env track t).1.queueItems = t.queueItems :=
    (QueueKept.probeAndStore_kept track t).1
  unfold QueueUpkeep.insertMusic at hknown ⊢
  rw [ends_bind, ends_get] at hknown ⊢
  rcases hp : probeAndStore env track t with ⟨t', duration, stored⟩
  rw [hp] at hknown hprobe hlibrary hitems
  dsimp only at hknown hprobe hlibrary hitems ⊢
  rw [ends_bind, ends_set] at hknown ⊢
  have hfree : dedupeTaken t' (.new w.stationId track f.nextPos s!"music:{track}:{f.nextPos}") =
      false := dedupeTaken_music hprobe hpos hout f.nextPos
  rw [hfree, if_neg Bool.false_ne_true, ends_bind, ends_modify] at hknown ⊢
  have hfilled : Filled w s t' new := by
    refine ⟨?_, ?_, h.filled.fresh, ?_, h.filled.eligible, h.filled.notActive, h.filled.distinct⟩
    · rw [hitems]
      exact h.filled.kept
    · rw [hitems]
      exact h.filled.rows
    · rw [← h.filled.behind, listActiveOrdered, listActiveOrdered, queueRows, queueRows, hitems]
  have hbeyond : Beyond w.stationId t' f.nextPos := fun id r hr => by
    rw [hitems] at hr
    exact h.beyond id r hr
  refine ⟨_, ⟨hfilled.append rfl rfl hbeyond heligible (fun _ q hq heq => ?_)
    fun _ q hq hsong heq => ?_, hlibrary, QueueKept.beyond_insert hbeyond rfl, hknown,
    fun q hq hqpos => List.mem_cons_of_mem _ (h.active q hq hqpos), fun q hq hsong => ?_⟩, ?_⟩
  · have htrack : q.2.trackId = track := heq
    exact hout (htrack ▸ h.active q hq (htrack ▸ hpos))
  · have htrack : q.2.trackId = track := heq
    exact hout (htrack ▸ h.songs q hq hsong)
  · rcases List.mem_append.mp hq with hq | hq
    · exact List.mem_cons_of_mem _ (h.songs q hq hsong)
    · obtain rfl := List.mem_singleton.mp hq
      exact List.mem_cons_self
  · rw [List.length_append, List.length_singleton]

/-! ### All rounds -/

/-- However many rounds it has, the loop ends and has counted what it added. -/
theorem countingLoop_fills (sweeper : Sweeper) (n : ℕ) {added : ℕ} (h : Underway w s f t new)
    (hadded : new.length = added) :
    Ends (countingLoop w env sweeper n f added) t
      (fun added t' => ∃ new : List Row, Filled w s t' new ∧ new.length = added)
      fun _ => False := by
  induction n generalizing t f new added with
  | zero => exact ⟨new, h.filled, hadded⟩
  | succ n ih =>
    unfold countingLoop
    split_ifs
    · refine (h.insertDueJingle sweeper).bind fun r t' hr => ?_
      obtain ⟨g, go⟩ := r
      obtain ⟨new', hnew, hgo, hstay⟩ := hr
      subst hadded
      cases go with
      | false =>
        obtain rfl := hstay rfl
        exact ih hnew rfl
      | true =>
        have hcount : new'.length = countJingle f g new.length := hgo rfl
        simp only [Bool.not_true, Bool.false_eq_true, if_false]
        rw [ends_bind, ends_get]
        rcases hm : chooseMusic w env g t' with ⟨g', track⟩
        cases track with
        | none => exact ⟨new', hnew.filled, hcount⟩
        | some track =>
          obtain ⟨hchosen, heligible, hpos, hout⟩ := hnew.chooseMusic hm
          refine (hchosen.insertMusic heligible hpos hout).bind fun g'' t'' hlast => ?_
          obtain ⟨new'', hnew'', hlength⟩ := hlast
          exact ih hnew'' (by rw [hlength, hcount])
    · exact ⟨new, h.filled, hadded⟩

variable (w env) in
/-- The filling returns the number of the rows it added, and they are added as they should be. -/
def FillsSafely (s : Engine) : Prop :=
  Ends (countingAutofill w env) s
    (fun added t => ∃ new : List Row, Filled w s t new ∧ new.length = added) fun _ => False

lemma underway_start (h : ValidKeys w s) (f : Filling) (hactive : f.active = activeTrackIds w s)
    (hrecent : f.recent = recentTrackIds w s ++ activeTrackIds w s)
    (hnext : f.nextPos = nextPosition w.stationId s) : Underway w s f s [] where
  filled := Filled.refl s
  library := fun _ => rfl
  beyond := by rw [hnext]; exact beyond_nextPosition w.stationId s
  known := h.known hactive hrecent
  active q hq hpos := by
    obtain ⟨hrow, hst, ha⟩ := mem_listActiveOrdered.mp hq
    rw [hactive, activeTrackIds, List.mem_filter, List.mem_map]
    exact ⟨⟨q, mem_queueRows.mpr ⟨hrow, hst, isActive_iff.mp ha⟩, rfl⟩, by simpa using hpos⟩
  songs := by simp

/-- A song waits, and another one is to be had. -/
def oneMoreSong : Engine :=
  { songWithTexts "2" [("sweeper_interval", "4")] with
    tracks := (songWithTexts "2" []).tracks.insert 2
      ⟨1, "", "", "/two.mp3", 200, "music", true, false, 0, none⟩ }

end OnAir.QueueFilling
