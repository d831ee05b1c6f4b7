import OnAir.QueueStarts

/-!
Whether a song is heard twice in a row.

Before a row of the queue is chosen, those that wait in front and are of the track played last are
skipped. What is taken for the track played last is that of the row with the largest id, and at
most twenty rows are skipped.
-/

namespace OnAir.SongRepeats

open PlayoutTables Programs QueueStarts Runs StartupSound StationWorker OnAir.Table WaitingRows
  WorkerEnv

open ActiveRows (Row)
open OneSource (choicePoint soleWorker)
open ShowBreaks (silentWorld)

variable (w : Worker) (env : Env)

/-! ### What a run has completed and started -/

/-- The tracks of the songs that played in `s` and are done in `t`. -/
def songsDone (s t : Engine) : List ℤ :=
  ((queueRows w.stationId s [.playing]).filter fun r =>
    kindOf t r.2.trackId = "music" && t.queueItems[r.1]?.any (·.status = .done)).map (·.2.trackId)

/-- The song that was completed last. -/
def lastSong (last : Option ℤ) (s t : Engine) : Option ℤ := (songsDone w s t).getLast?.or last

/-- The state in which a tick chooses, or ends without a choice. -/
def atChoice (s : Engine) : Engine :=
  ((choicePoint w env s).map Prod.fst).getD (final (processOnce w env s))

/-- The tracks of the songs of the queue that begin to play; what a song is is read in `c`. -/
def songsBegun (s c t : Engine) : List ℤ :=
  ((queueRows w.stationId t [.playing]).filter fun r =>
    decide (r.1 ∈ begun w s t) && kindOf c r.2.trackId = "music").map (·.2.trackId)

/-- A run so far: its state, the track of the song that was completed last, and the songs that were
started, each with the song that was completed last before it. -/
structure Airing where
  engine : Engine
  last : Option ℤ
  starts : List (ℤ × Option ℤ)

def airTick (p : Airing) (env : Env) : Option Airing :=
  (tick w p.engine env).map fun t =>
    let c := atChoice w env p.engine
    let last := lastSong w p.last p.engine c
    ⟨t, lastSong w last c t, p.starts ++ (songsBegun w p.engine c t).map fun track => (track, last)⟩

/-- No song was started right after itself. -/
def NoRepeat (p : Airing) : Prop := ∀ x ∈ p.starts, x.2 ≠ some x.1

/-! ### What is skipped -/

/-- The row is a song of the track. -/
def isSongOf (s : Engine) (track : ℤ) (r : Row) : Bool :=
  kindOf s r.2.trackId = "music" && r.2.trackId = track

/-- The number of songs of the track that wait in front of all others. -/
def inFront (track : ℤ) (s : Engine) : ℕ :=
  ((waiting w.stationId s).takeWhile (isSongOf s track)).length

/-- The rows that are left to wait. -/
def unskipped (s : Engine) : List Row :=
  if 0 < lastDoneTrackId w s then
    (waiting w.stationId s).drop (min 20 (inFront w (lastDoneTrackId w s) s))
  else waiting w.stationId s

/-- A repeat of the track is told: the done song with the largest id is of the track, and not more
than twenty of it wait in front; or else the first row that is not skipped is no song of it. -/
def Tells (s : Engine) (track : ℤ) : Prop :=
  lastDoneTrackId w s = track ∧ 0 < track ∧ inFront w track s ≤ 20 ∨
    (lastDoneTrackId w s ≠ track ∨ track ≤ 0) ∧
      ∀ r ∈ (unskipped w s).head?, isSongOf s track r = false

instance (s : Engine) (track : ℤ) : Decidable (Tells w s track) := by
  unfold Tells
  infer_instance

/-- Where the tick chooses a row of the queue, a repeat of the song completed last is told. -/
def RepeatTold (p : Airing) (env : Env) : Prop :=
  ∀ c ∈ choicePoint w env p.engine, takesRow w c.1 c.2 = true →
    ∀ track ∈ lastSong w p.last p.engine c.1, Tells w c.1 track

instance (p : Airing) : Decidable (RepeatTold w p env) := by
  unfold RepeatTold
  infer_instance

variable {w env} {s t c : Engine}

/-- The loop skips the songs of the track in front, as many as it may. -/
lemma nextPending_skipDuplicates (last : ℤ) (n : ℕ) (s : Engine) :
    nextPending w.stationId (skipDuplicates w last n s) =
      ((waiting w.stationId s).drop (min n (inFront w last s))).head? := by
  induction n generalizing s with
  | zero =>
    rw [Nat.zero_min, List.drop_zero]
    exact nextPending_eq_head w.stationId s
  | succ n ih =>
    have hnext := nextPending_eq_head w.stationId s
    unfold skipDuplicates
    cases hw : waiting w.stationId s with
    | nil =>
      rw [hw, List.head?_nil] at hnext
      rw [hnext, List.drop_nil]
      exact hnext
    | cons r l =>
      rw [hw, List.head?_cons] at hnext
      rw [hnext, inFront, hw]
      change nextPending w.stationId (if isSongOf s last r = true then
        skipDuplicates w last n (markQueueDone r.1 s) else s) = _
      by_cases hdup : isSongOf s last r = true
      · have hrest : waiting w.stationId (markQueueDone r.1 s) = l :=
          waiting_leave_head (fun _ => by simp) hw
        have hkinds : isSongOf (markQueueDone r.1 s) last = isSongOf s last := rfl
        rw [if_pos hdup, ih, inFront, hrest, hkinds, List.takeWhile_cons_of_pos hdup,
          List.length_cons, Nat.succ_min_succ, List.drop_succ_cons]
      · rw [if_neg hdup, hnext, List.takeWhile_cons_of_neg hdup]
        rfl

/-- The row that is next once songs are skipped is the first one left. -/
lemma nextPending_skipDuplicatePending (s : Engine) :
    nextPending w.stationId (skipDuplicatePending w s) = (unskipped w s).head? := by
  unfold skipDuplicatePending unskipped
  dsimp only
  by_cases hlast : 0 < lastDoneTrackId w s
  · rw [if_neg hlast.not_ge, if_pos hlast]
    exact nextPending_skipDuplicates _ 20 s
  · rw [if_pos (not_lt.mp hlast), if_neg hlast]
    exact nextPending_eq_head _ s

/-- The rows of a list from the first on that is no song of the track. -/
lemma head_drop_takeWhile {p : Row → Bool} (l : List Row) :
    ∀ r ∈ (l.drop (l.takeWhile p).length).head?, p r = false := by
  induction l with
  | nil => simp
  | cons a l ih =>
    by_cases ha : p a = true
    · rw [List.takeWhile_cons_of_pos ha, List.length_cons, List.drop_succ_cons]
      exact ih
    · rw [List.takeWhile_cons_of_neg ha, List.length_nil, List.drop_zero, List.head?_cons]
      rintro r hr
      obtain rfl := Option.some.inj hr
      simpa using ha

/-- What a list starts with that is longer than what is dropped of it. -/
lemma head_drop_takeWhile_lt {p : Row → Bool} {l : List Row} {n : ℕ}
    (h : n < (l.takeWhile p).length) : ∃ r, (l.drop n).head? = some r ∧ p r = true := by
  induction n generalizing l with
  | zero =>
    cases l with
    | nil => simp at h
    | cons a l =>
      refine ⟨a, rfl, ?_⟩
      by_contra ha
      rw [List.takeWhile_cons_of_neg ha] at h
      cases h
  | succ n ih =>
    cases l with
    | nil => simp at h
    | cons a l =>
      by_cases ha : p a = true
      · rw [List.takeWhile_cons_of_pos ha, List.length_cons] at h
        exact ih (Nat.lt_of_succ_lt_succ h)
      · rw [List.takeWhile_cons_of_neg ha] at h
        cases h

/-- **A repeat is told** if and only if the row that is next is no song of the track. -/
theorem tells_iff (s : Engine) (track : ℤ) : Tells w s track ↔
    ∀ r ∈ nextPending w.stationId (skipDuplicatePending w s), isSongOf s track r = false := by
  rw [nextPending_skipDuplicatePending]
  unfold Tells
  by_cases hknown : lastDoneTrackId w s = track ∧ 0 < track
  · obtain ⟨hlast, hpos⟩ := hknown
    have hfalse : ¬ (lastDoneTrackId w s ≠ track ∨ track ≤ 0) := by
      rw [not_or, not_ne_iff]
      exact ⟨hlast, hpos.not_ge⟩
    rw [or_iff_left fun h => hfalse h.1, and_iff_right hlast, and_iff_right hpos]
    unfold unskipped
    rw [hlast, if_pos hpos]
    rcases le_or_gt (inFront w track s) 20 with hfew | hmany
    · rw [min_eq_right hfew]
      exact iff_of_true hfew (head_drop_takeWhile _)
    · rw [min_eq_left hmany.le]
      obtain ⟨r, hr, hsong⟩ := head_drop_takeWhile_lt hmany
      refine iff_of_false hmany.not_ge fun h => ?_
      rw [h r hr] at hsong
      cases hsong
  · have hother : lastDoneTrackId w s ≠ track ∨ track ≤ 0 := by
      rw [not_and_or, not_lt] at hknown
      exact hknown
    rw [and_iff_right hother]
    exact or_iff_right fun h => hknown ⟨h.1, h.2.1⟩

/-! ### Runs -/

/-- A song that begins is of the track of the row that was chosen. -/
lemma songsBegun_chosen (ht : tick w s env = some t) {track : ℤ}
    (h : track ∈ songsBegun w s c t) :
    kindOf c track = "music" ∧ ∃ item ∈ chosenRow w env s, item.2.trackId = track := by
  obtain ⟨r, hr, rfl⟩ := List.mem_map.mp h
  obtain ⟨hrow, hbegun⟩ := List.mem_filter.mp hr
  rw [Bool.and_eq_true, decide_eq_true_eq, decide_eq_true_eq] at hbegun
  obtain ⟨hq, hst, hplays⟩ := SettingsText.mem_queueRows.mp (show (r.1, r.2) ∈ _ from hrow)
  refine ⟨hbegun.2, ?_⟩
  rcases tick_begins ht r.1 r.2 hq hst (by simpa using hplays) with hold | ⟨item, hitem, -, htrack⟩
  · exact absurd hold (mem_begun.mp hbegun.1).2
  · exact ⟨item, hitem, htrack.symm⟩

lemma noRepeat_tick {p p' : Airing} (h : NoRepeat p) (htold : RepeatTold w p env)
    (ht : airTick w p env = some p') : NoRepeat p' := by
  obtain ⟨t, htick, rfl⟩ := Option.map_eq_some_iff.mp ht
  intro x hx
  rcases List.mem_append.mp hx with hx | hx
  · exact h x hx
  · obtain ⟨track, htrack, rfl⟩ := List.mem_map.mp hx
    obtain ⟨hmusic, item, hitem, rfl⟩ := songsBegun_chosen htick htrack
    obtain ⟨d, hd, hchosen⟩ := Option.bind_eq_some_iff.mp hitem
    have hc : atChoice w env p.engine = d.1 := by
      rw [atChoice, hd]
      rfl
    rw [hc] at hmusic ⊢
    unfold chosen at hchosen
    split_ifs at hchosen with htakes
    intro hlast
    have htells := (tells_iff d.1 _).mp (htold d hd htakes _ hlast) item hchosen
    rw [isSongOf, Bool.and_eq_false_iff, decide_eq_false_iff_not, decide_eq_false_iff_not] at htells
    exact htells.elim (fun hne => hne hmusic) fun hne => hne rfl

/-- **No song is heard twice in a row** in a run in which every repeat is told, whatever the queue
holds and whatever was completed before. -/
theorem no_repeat {envs : List Env} {p p' : Airing} (h : NoRepeat p)
    (hm : Meets (airTick w) (fun p env => RepeatTold w p env) p envs)
    (he : exec (airTick w) p envs = some p') : NoRepeat p' :=
  inv_of_exec (P := NoRepeat) (fun _ _ _ hp htold ht => noRepeat_tick hp htold ht) h hm he

/-! ### A song that is heard twice -/

/-- Two songs in the library, and rows of the queue in the order of their ids: the track and the
position of each. -/
def songRows (items : List (ℤ × ℤ)) : Engine :=
  { Engine.empty with
    tracks := (Engine.empty.tracks.insert 1
      ⟨1, "", "", "/one.mp3", 200, "music", true, true, 0, none⟩).insert 2
      ⟨1, "", "", "/two.mp3", 200, "music", true, true, 0, none⟩
    queueItems := items.foldl (fun t item => t.insert (nextId t) (.new 1 item.1 item.2 ""))
      Engine.empty.queueItems }

/-- The second row was moved before the first one. -/
def movedForward : Engine := songRows [(1, 2), (2, 1), (1, 3)]

theorem moved_song_repeats : ∃ p, exec (airTick soleWorker) ⟨movedForward, none, []⟩
    [silentWorld 100, silentWorld 400, silentWorld 700] = some p ∧ ¬ NoRepeat p := by
  refine ⟨_, rfl, fun h => ?_⟩
  have hstarts : ((exec (airTick soleWorker) ⟨movedForward, none, []⟩
      [silentWorld 100, silentWorld 400, silentWorld 700]).map (·.starts)) =
        some [(2, none), (1, some 2), (1, some 1)] := by decide +kernel
  have hmem : ((1 : ℤ), some (1 : ℤ)) ∈ [((2 : ℤ), none), (1, some 2), (1, some 1)] := by decide
  rw [← Option.some.inj hstarts] at hmem
  exact h _ hmem rfl

/-- The rows are played in the order of their ids, and a song that waits twice is skipped once. -/
theorem no_repeat_inOrder : ∃ p, exec (airTick soleWorker)
    ⟨songRows [(1, 1), (1, 2), (2, 3), (1, 4)], none, []⟩
      [silentWorld 100, silentWorld 400, silentWorld 700] = some p ∧
        p.starts = [(1, none), (2, some 1), (1, some 2)] ∧ NoRepeat p := by
  refine ⟨_, rfl, ?_, @no_repeat soleWorker [silentWorld 100, silentWorld 400, silentWorld 700]
    ⟨songRows [(1, 1), (1, 2), (2, 3), (1, 4)], none, []⟩ _ nofun
    (show Meets (airTick soleWorker) (fun p env => RepeatTold soleWorker p env) _ _ by
      decide +kernel) rfl⟩
  have hstarts : ((exec (airTick soleWorker) ⟨songRows [(1, 1), (1, 2), (2, 3), (1, 4)], none, []⟩
      [silentWorld 100, silentWorld 400, silentWorld 700]).map (·.starts)) =
        some [(1, none), (2, some 1), (1, some 2)] := by decide +kernel
  exact Option.some.inj hstarts

end OnAir.SongRepeats
