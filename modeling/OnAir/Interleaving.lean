import Mathlib.Data.List.Chain
import OnAir.BroadcastQueue

/-!
How `_interleave_with_jingles` puts jingles among songs.

A counter says how many songs have come since the last jingle. Jingles that were used are left
out of the choice, until there is no other.
-/

namespace OnAir.Interleaving

open BroadcastQueue PlayoutTables OnAir.Table

variable (st : ℤ) (s : Engine)

/-! ### The law -/

/-- `_interleave_with_jingles`, with the count of songs it starts from. -/
def interleaveFrom (music : List ℤ) (sweeper : Sweeper) (musicSinceJingle : ℤ) : List ℤ :=
  if !sweeper.enabled || sweeper.unit = .minutes then music
  else interleave st s sweeper.interval music musicSinceJingle (recentJingleTrackIds st s)

lemma interleaveWithJingles_eq (music : List ℤ) (sweeper : Sweeper) :
    interleaveWithJingles st s music sweeper =
      interleaveFrom st s music sweeper (countMusicSinceLastJingle st s) := rfl

def isJingle (trackId : ℤ) : Bool := sqlKindOf s trackId = "jingle"

/-- The jingles of the library. -/
def eligible : List ℤ := (playable st s "jingle" []).map Prod.fst

/-- The songs between jingles: those before the first, between one and the next, and after the
last. -/
def musicRuns (tracks : List ℤ) : List (List ℤ) := tracks.splitOnP (isJingle s)

/-- A jingle comes a second time only after all others of the library, but for some. -/
def RepeatsLate (tracks others : List ℤ) : Prop :=
  ∀ l₁ a l₂, tracks = l₁ ++ a :: l₂ → isJingle s a = true → a ∈ l₁ →
    ∀ b ∈ eligible st s, b ∉ others → b ∈ l₁

/-- The songs keep their order; between them jingles stand apart and before a song, the first after
the songs that are missing to the interval, and each later one after an interval of songs. -/
structure Interleaved (music : List ℤ) (interval counter : ℤ) (tracks : List ℤ) : Prop where
  songs : tracks.filter (!isJingle s ·) = music
  apart : tracks.IsChain fun a b => ¬ (isJingle s a = true ∧ isJingle s b = true)
  last : ∀ a ∈ tracks.getLast?, isJingle s a = false
  first : (musicRuns s tracks).head?.map (fun run => (run.length : ℤ)) =
    some (min (music.length : ℤ) (max 0 (interval - counter)))
  later : ∀ run ∈ (musicRuns s tracks).tail, (run.length : ℤ) ≤ interval
  full : ∀ run ∈ (musicRuns s tracks).tail.dropLast, (run.length : ℤ) = interval

variable {st s} {used music : List ℤ} {interval counter : ℤ}

/-! ### The choice of a jingle -/

lemma isJingle_of_playable {excluded : List ℤ} {r : ℤ × Track}
    (h : r ∈ playable st s "jingle" excluded) : isJingle s r.1 = true :=
  decide_eq_true (sqlKind_of_playable h)

lemma playable_subset {kind : String} {excluded : List ℤ} {r : ℤ × Track}
    (h : r ∈ playable st s kind excluded) : r ∈ playable st s kind [] := by
  obtain ⟨hrow, hok⟩ := List.mem_filter.mp h
  refine List.mem_filter.mpr ⟨hrow, ?_⟩
  simp only [Bool.and_eq_true] at hok ⊢
  exact ⟨hok.1, by simp⟩

/-- A jingle of the library is chosen, if there is one. -/
lemma pickJingle_some (h : eligible st s ≠ []) (used : List ℤ) :
    ∃ jingle, pickJingle st s used = some jingle ∧ isJingle s jingle = true := by
  unfold pickJingle
  cases hfirst : Sql.firstBy leastPlayed (playable st s "jingle" used) with
  | some r => exact ⟨r.1, rfl, isJingle_of_playable (Sql.firstBy_mem hfirst)⟩
  | none =>
    cases hany : Sql.firstBy leastPlayed (playable st s "jingle" []) with
    | some r => exact ⟨r.1, rfl, isJingle_of_playable (Sql.firstBy_mem hany)⟩
    | none => exact absurd (by rw [eligible, Sql.firstBy_eq_none.mp hany]; rfl) h

/-- One that was used is chosen only where all were. -/
lemma pickJingle_used (hids : ∀ j ∈ eligible st s, 0 < j) {jingle : ℤ}
    (h : pickJingle st s used = some jingle) (hused : jingle ∈ used) :
    ∀ b ∈ eligible st s, b ∈ used := by
  unfold pickJingle at h
  cases hfirst : Sql.firstBy leastPlayed (playable st s "jingle" used) with
  | some r =>
    rw [hfirst] at h
    obtain rfl := Option.some.inj h
    have hmem := Sql.firstBy_mem hfirst
    have hpos := hids r.1 (List.mem_map_of_mem (playable_subset hmem))
    obtain ⟨-, hok⟩ := List.mem_filter.mp hmem
    simp [hpos, hused] at hok
  | none =>
    intro b hb
    obtain ⟨r, hr, rfl⟩ := List.mem_map.mp hb
    by_contra hnot
    obtain ⟨hrow, hok⟩ := List.mem_filter.mp hr
    have hmem : r ∈ playable st s "jingle" used := by
      refine List.mem_filter.mpr ⟨hrow, ?_⟩
      simp only [Bool.and_eq_true] at hok ⊢
      exact ⟨hok.1, by simp [hnot]⟩
    rw [Sql.firstBy_eq_none.mp hfirst] at hmem
    cases hmem

/-! ### The loop -/

lemma interleave_jingle (hlib : eligible st s ≠ []) {track : ℤ} (h : interval ≤ counter) :
    ∃ jingle, pickJingle st s used = some jingle ∧ isJingle s jingle = true ∧
      interleave st s interval (track :: music) counter used =
        jingle :: track :: interleave st s interval music 1 (jingle :: used) := by
  obtain ⟨jingle, hpick, hjingle⟩ := pickJingle_some hlib used
  exact ⟨jingle, hpick, hjingle, by rw [interleave, if_pos h, hpick]⟩

lemma interleave_song {track : ℤ} (h : counter < interval) :
    interleave st s interval (track :: music) counter used =
      track :: interleave st s interval music (counter + 1) used := by
  rw [interleave, if_neg (not_le.mpr h)]

/-- What the loop keeps of the songs, and that a jingle is followed by a song. -/
theorem interleave_apart (hlib : eligible st s ≠ []) (hmusic : ∀ t ∈ music, isJingle s t = false) :
    (interleave st s interval music counter used).filter (!isJingle s ·) = music ∧
    (interleave st s interval music counter used).IsChain
      (fun a b => ¬ (isJingle s a = true ∧ isJingle s b = true)) ∧
    ∀ a ∈ (interleave st s interval music counter used).getLast?, isJingle s a = false := by
  induction music generalizing counter used with
  | nil => exact ⟨rfl, .nil, by simp [interleave]⟩
  | cons track music ih =>
    have htrack : isJingle s track = false := hmusic track List.mem_cons_self
    have hrest : ∀ t ∈ music, isJingle s t = false := fun t ht =>
      hmusic t (List.mem_cons_of_mem _ ht)
    -- a song, and what follows it
    have hsong : ∀ l : List ℤ, l.filter (!isJingle s ·) = music →
        l.IsChain (fun a b => ¬ (isJingle s a = true ∧ isJingle s b = true)) →
        (∀ a ∈ l.getLast?, isJingle s a = false) →
        (track :: l).filter (!isJingle s ·) = track :: music ∧
          (track :: l).IsChain (fun a b => ¬ (isJingle s a = true ∧ isJingle s b = true)) ∧
          ∀ a ∈ (track :: l).getLast?, isJingle s a = false := by
      intro l hfilter hchain hlast
      refine ⟨by simp [htrack, hfilter], ?_, fun a ha => ?_⟩
      · exact List.isChain_cons.mpr ⟨fun b _ hb => by simp [htrack] at hb, hchain⟩
      · cases l with
        | nil => simp_all
        | cons b l => exact hlast a (by rwa [List.getLast?_cons_cons] at ha)
    rcases le_or_gt interval counter with hdue | hwait
    · obtain ⟨jingle, -, hjingle, heq⟩ := interleave_jingle hlib hdue
      obtain ⟨hfilter, hchain, hlast⟩ := @ih (jingle :: used) 1 hrest
      obtain ⟨hfilter, hchain, hlast⟩ := hsong _ hfilter hchain hlast
      rw [heq]
      refine ⟨by simp [hjingle, hfilter], ?_, fun a ha => ?_⟩
      · refine List.isChain_cons.mpr ⟨fun b hb hboth => ?_, hchain⟩
        rw [List.head?_cons, Option.mem_some_iff] at hb
        rw [← hb, htrack] at hboth
        exact absurd hboth.2 (by decide)
      · exact hlast a (by rwa [List.getLast?_cons_cons] at ha)
    · obtain ⟨hfilter, hchain, hlast⟩ := @ih used (counter + 1) hrest
      rw [interleave_song hwait]
      exact hsong _ hfilter hchain hlast

/-- The runs of songs in what the loop returns. -/
theorem interleave_runs (hlib : eligible st s ≠ []) (hmusic : ∀ t ∈ music, isJingle s t = false)
    (hk : 1 ≤ interval) :
    ∃ run runs, musicRuns s (interleave st s interval music counter used) = run :: runs ∧
      (run.length : ℤ) = min (music.length : ℤ) (max 0 (interval - counter)) ∧
      (runs ≠ [] → (run.length : ℤ) = max 0 (interval - counter)) ∧
      (∀ r ∈ runs, (r.length : ℤ) ≤ interval) ∧ ∀ r ∈ runs.dropLast, (r.length : ℤ) = interval := by
  induction music generalizing counter used with
  | nil => exact ⟨[], [], rfl, by simp, by simp, by simp, by simp⟩
  | cons track music ih =>
    have htrack : isJingle s track = false := hmusic track List.mem_cons_self
    have hrest : ∀ t ∈ music, isJingle s t = false := fun t ht =>
      hmusic t (List.mem_cons_of_mem _ ht)
    rcases le_or_gt interval counter with hdue | hwait
    · obtain ⟨jingle, -, hjingle, heq⟩ := interleave_jingle hlib hdue
      obtain ⟨run, runs, hruns, hfirst, hmore, hlater, hfull⟩ :=
        @ih (jingle :: used) 1 hrest
      refine ⟨[], (track :: run) :: runs, ?_, ?_, ?_, ?_, ?_⟩
      · rw [heq, musicRuns, List.splitOnP_cons_eq_if_modifyHead, if_pos hjingle,
          List.splitOnP_cons_eq_if_modifyHead, if_neg (by simp [htrack])]
        rw [musicRuns] at hruns
        rw [hruns]
        rfl
      · simp only [List.length_nil, List.length_cons]
        omega
      · intro _
        simp only [List.length_nil]
        omega
      · intro r hr
        rcases List.mem_cons.mp hr with rfl | hr
        · rw [List.length_cons]
          omega
        · exact hlater r hr
      · intro r hr
        cases runs with
        | nil => simp at hr
        | cons r' runs =>
          rw [List.dropLast_cons_cons] at hr
          rcases List.mem_cons.mp hr with rfl | hr
          · have := hmore (by simp)
            rw [List.length_cons]
            omega
          · exact hfull r hr
    · obtain ⟨run, runs, hruns, hfirst, hmore, hlater, hfull⟩ :=
        @ih used (counter + 1) hrest
      refine ⟨track :: run, runs, ?_, ?_, fun hne => ?_, hlater, hfull⟩
      · rw [interleave_song hwait, musicRuns, List.splitOnP_cons_eq_if_modifyHead,
          if_neg (by simp [htrack])]
        rw [musicRuns] at hruns
        rw [hruns]
        rfl
      · simp only [List.length_cons]
        omega
      · have := hmore hne
        rw [List.length_cons]
        omega

/-- A jingle that was used is used again only after all others were. -/
theorem interleave_repeats (hlib : eligible st s ≠ []) (hids : ∀ j ∈ eligible st s, 0 < j)
    (hmusic : ∀ t ∈ music, isJingle s t = false) {l₁ l₂ : List ℤ} {a : ℤ}
    (h : interleave st s interval music counter used = l₁ ++ a :: l₂)
    (ha : isJingle s a = true) (hagain : a ∈ l₁ ∨ a ∈ used) :
    ∀ b ∈ eligible st s, b ∈ l₁ ∨ b ∈ used := by
  induction music generalizing counter used l₁ with
  | nil => simp [interleave] at h
  | cons track music ih =>
    have htrack : isJingle s track = false := hmusic track List.mem_cons_self
    have hrest : ∀ t ∈ music, isJingle s t = false := fun t ht =>
      hmusic t (List.mem_cons_of_mem _ ht)
    have hne : a ≠ track := by
      rintro rfl
      rw [htrack] at ha
      cases ha
    intro b hb
    rcases le_or_gt interval counter with hdue | hwait
    · obtain ⟨jingle, hpick, -, heq⟩ := interleave_jingle hlib hdue
      rw [heq] at h
      rcases l₁ with _ | ⟨x, _ | ⟨y, l₁⟩⟩
      · simp only [List.nil_append, List.cons.injEq] at h
        obtain rfl : jingle = a := h.1
        exact .inr (pickJingle_used hids hpick (by simpa using hagain) b hb)
      · simp only [List.cons_append, List.nil_append, List.cons.injEq] at h
        exact absurd h.2.1.symm hne
      · simp only [List.cons_append, List.cons.injEq] at h
        obtain ⟨rfl, rfl, htail⟩ := h
        have hagain' : a ∈ l₁ ∨ a ∈ jingle :: used := by
          rcases hagain with hmem | hmem
          · rcases List.mem_cons.mp hmem with heq | hmem
            · exact .inr (heq ▸ List.mem_cons_self)
            · exact .inl ((List.mem_cons.mp hmem).resolve_left hne)
          · exact .inr (List.mem_cons_of_mem _ hmem)
        rcases ih hrest htail hagain' b hb with hmem | hmem
        · exact .inl (List.mem_cons_of_mem _ (List.mem_cons_of_mem _ hmem))
        · rcases List.mem_cons.mp hmem with heq | hmem
          · exact .inl (heq ▸ List.mem_cons_self)
          · exact .inr hmem
    · rw [interleave_song hwait] at h
      cases l₁ with
      | nil =>
        simp only [List.nil_append, List.cons.injEq] at h
        exact absurd h.1.symm hne
      | cons x l₁ =>
        simp only [List.cons_append, List.cons.injEq] at h
        obtain ⟨rfl, htail⟩ := h
        have hagain' : a ∈ l₁ ∨ a ∈ used :=
          hagain.imp_left fun hmem => (List.mem_cons.mp hmem).resolve_left hne
        exact (ih hrest htail hagain' b hb).imp_left (List.mem_cons_of_mem _)

/-- **The interleaving law.** Songs keep their order, jingles stand apart and after an interval of
songs each, and none comes again before all others did but the one that was played last. -/
theorem interleave_law {sweeper : Sweeper} (hon : sweeper.enabled = true)
    (hunit : sweeper.unit = .tracks) (hk : 1 ≤ sweeper.interval) (hlib : eligible st s ≠ [])
    (hids : ∀ j ∈ eligible st s, 0 < j) (hmusic : ∀ t ∈ music, sqlKindOf s t = "music") :
    Interleaved s music sweeper.interval counter (interleaveFrom st s music sweeper counter) ∧
      RepeatsLate st s (interleaveFrom st s music sweeper counter) (recentJingleTrackIds st s) := by
  have hsongs : ∀ t ∈ music, isJingle s t = false := fun t ht => by
    rw [isJingle, hmusic t ht]
    decide
  have hrun : interleaveFrom st s music sweeper counter =
      interleave st s sweeper.interval music counter (recentJingleTrackIds st s) := by
    rw [interleaveFrom, hon, hunit]
    rfl
  rw [hrun]
  refine ⟨?_, fun l₁ a l₂ htracks ha hagain b hb hother => ?_⟩
  · obtain ⟨hfilter, hapart, hlast⟩ := @interleave_apart st s (recentJingleTrackIds st s) music
      sweeper.interval counter hlib hsongs
    obtain ⟨run, runs, hruns, hfirst, -, hlater, hfull⟩ := @interleave_runs st s
      (recentJingleTrackIds st s) music sweeper.interval counter hlib hsongs hk
    refine ⟨hfilter, hapart, hlast, ?_, ?_, ?_⟩
    · rw [hruns, List.head?_cons, Option.map_some, hfirst]
    · rw [hruns]
      exact hlater
    · rw [hruns]
      exact hfull
  · exact (interleave_repeats hlib hids hsongs htracks ha (.inl hagain) b hb).resolve_right hother

/-! ### Two jingles -/

/-- Two songs and two jingles, of which the second was played last and more often. -/
def twoJingles : Engine :=
  let track := fun (kind : String) (count : ℤ) =>
    (⟨1, "", "", "/track.mp3", 30, kind, true, false, count, none⟩ : Track)
  { Engine.empty with
    tracks := (((Engine.empty.tracks.insert 1 (track "music" 0)).insert 2 (track "jingle" 0)).insert
      3 (track "jingle" 1)).insert 4 (track "music" 0)
    queueItems := (∅ : Table QueueItem).insert 1 ⟨1, 3, 1, .done, some 0, none⟩ }

def everySong : Sweeper := ⟨true, 1, .tracks⟩

lemma eligible_twoJingles : eligible 1 twoJingles = [2, 3] := by decide +kernel

/-- The first jingle comes twice, and the second, which was played last, does not come. -/
theorem jingle_repeats_early :
    ¬ RepeatsLate 1 twoJingles (interleaveFrom 1 twoJingles [1, 4] everySong 1) [] := by
  have htracks : interleaveFrom 1 twoJingles [1, 4] everySong 1 = [2, 1, 2, 4] := by
    decide +kernel
  intro h
  have hother := h [2, 1] 2 [4] htracks (by decide +kernel) (by simp) 3
    (by rw [eligible_twoJingles]; simp) (by simp)
  simp at hother

theorem interleave_law_twoJingles :
    Interleaved twoJingles [1, 4] 1 1 (interleaveFrom 1 twoJingles [1, 4] everySong 1) ∧
      RepeatsLate 1 twoJingles (interleaveFrom 1 twoJingles [1, 4] everySong 1)
        (recentJingleTrackIds 1 twoJingles) := by
  have hone : (1 : ℤ) ≤ everySong.interval := by decide
  have hmusic : ∀ t ∈ ([1, 4] : List ℤ), sqlKindOf twoJingles t = "music" := by decide +kernel
  exact interleave_law rfl rfl hone (by rw [eligible_twoJingles]; simp)
    (by rw [eligible_twoJingles]; simp) hmusic

end OnAir.Interleaving
