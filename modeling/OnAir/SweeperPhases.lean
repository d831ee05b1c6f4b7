import OnAir.FrontInsertion
import OnAir.SweeperPace

/-!
The phases of a tick, in a queue whose jingles stand apart.

Filling puts a jingle behind songs only, and the sweeper puts one in front where none is next. Rows
of other stations that fail, an announcement whose file was a jingle, and a startup sound may bring
two jingles together.
-/

namespace OnAir.SweeperPhases

open BroadcastQueue FrontInsertion Interleaving PlayoutAdvance PlayoutTables Programs PythonText
  QueueOrder QueueRefill QueueUpkeep StartupSound SweeperPace OnAir.Table WaitingRows WorkerEnv

open ActiveRows (Row)
open CalmPhases (QueuePlays)
open SettingsAhead (SameTexts one_le_interval tickKeys)
open SettingsText (Phase bindInteger_eq mem_queueRows introReady
  upsertGeneratedAnnouncement_queueItems)

variable {w : Worker} {env : Env} {k : ℤ} {last : Option ℤ} {due : Bool} {s₀ s t : Engine}

/-! ### Filling -/

/-- What the filling knows of the queue: its next row stands behind all others, and after a jingle
no song was counted. -/
structure Fillable (w : Worker) (k : ℤ) (last : Option ℤ) (due : Bool) (s₀ : Engine) (f : Filling)
    (s : Engine) : Prop where
  holds : Pacing w k last due s₀ s
  beyond : Beyond w.stationId s f.nextPos
  committed : Pacing w k last due s₀ f.committed
  counted : 1 ≤ f.musicInPending → (marks w last s).getLast? ≠ some true

lemma kindOf_of_sqlKind_music {track : ℤ} (h : sqlKindOf s track = "music") :
    kindOf s track = "music" := (kinds_of_sqlKind (by decide) (by decide) h).1

lemma kindOf_of_sqlKind_jingle {track : ℤ} (h : sqlKindOf s track = "jingle") :
    kindOf s track = "jingle" := (kinds_of_sqlKind (by decide) (by decide) h).1

lemma pickJingle_plain {used : List ℤ} (hlib : eligible w.stationId s ≠ []) {jingle : ℤ}
    (h : pickJingle w.stationId s used = some jingle) : sqlKindOf s jingle = "jingle" := by
  obtain ⟨j, hj, hkind⟩ := pickJingle_some hlib used
  obtain rfl := Option.some.inj (hj.symm.trans h)
  exact of_decide_eq_true hkind

/-- A jingle that is due is put behind a song. -/
lemma insertDueJingle_paced {f : Filling} (hf : Fillable w k last due s₀ f s) :
    Ends (insertDueJingle w ⟨true, k, .tracks⟩ f) s
      (fun r t => Fillable w k last due s₀ r.1 t) (Pacing w k last due s₀) := by
  unfold insertDueJingle
  rw [ends_bind, ends_get]
  dsimp only
  split
  · exact hf
  next jingle hpick =>
    have hdue : k ≤ f.musicInPending ∧ pickJingle w.stationId s [] = some jingle := by
      split_ifs at hpick with hdue
      exact ⟨by simpa using hdue, hpick⟩
    have hplain := pickJingle_plain hf.holds.library hdue.2
    split_ifs
    · exact ⟨hf.holds, beyond_nextPosition w.stationId s, hf.committed,
        fun h => absurd (show (1 : ℤ) ≤ 0 from h) (by decide)⟩
    · rw [ends_bind, ends_modify]
      refine ⟨hf.holds.append rfl rfl hf.beyond fun _ => ⟨hplain, hf.counted ?_⟩,
        QueueKept.beyond_insert hf.beyond rfl, hf.committed,
        fun h => absurd (show (1 : ℤ) ≤ 0 from h) (by decide)⟩
      exact (one_le_interval hf.holds.sweeper).trans hdue.1

lemma sqlKind_of_shuffledTrack {excluded : List ℤ} {track : ℤ}
    (h : shuffledTrack w env s excluded = some track) : sqlKindOf s track = "music" := by
  obtain ⟨r, hr, rfl⟩ := Option.map_eq_some_iff.mp h
  have hmem := List.mem_of_mem_take (List.mem_filter.mp (Sql.firstBy_mem hr)).1
  exact sqlKind_of_playable (List.mem_filter.mp (Sql.mem_orderBy.mp hmem)).1

lemma sqlKind_of_chooseMusic {f f' : Filling} {track : ℤ}
    (h : chooseMusic w env f s = (f', some track)) : sqlKindOf s track = "music" := by
  unfold chooseMusic at h
  dsimp only at h
  split at h
  next hfirst =>
    obtain ⟨-, htrack⟩ := Prod.mk.inj h
    exact sqlKind_of_shuffledTrack (htrack ▸ hfirst)
  next =>
    split_ifs at h
    · exact sqlKind_of_shuffledTrack (Prod.mk.inj h).2
    · cases h

lemma shelf_probeAndStore (track : ℤ) (s : Engine) :
    Shelf w s (probeAndStore env track s).1 := by
  unfold probeAndStore
  split
  · exact refl_of (Shelf w) s
  split
  · exact refl_of (Shelf w) s
  dsimp only
  split
  · exact refl_of (Shelf w) s
  split
  · exact refl_of (Shelf w) s
  · exact shelf_modify (f := fun t => { t with duration := (env.probeDuration _).getD 0 })
      (fun _ => ⟨rfl, rfl, rfl, rfl⟩) track s

/-- A song is put behind all others. -/
lemma insertMusic_paced {f : Filling} (hf : Fillable w k last due s₀ f s) {track : ℤ}
    (htrack : sqlKindOf s track = "music") :
    Ends (insertMusic w env f track) s (fun f' t => Fillable w k last due s₀ f' t)
      (Pacing w k last due s₀) := by
  have hitems := (@QueueKept.probeAndStore_kept env track s).1
  have hprobe : Pacing w k last due s₀ (probeAndStore env track s).1 :=
    hf.holds.same hitems (shelf_probeAndStore track s)
  have hsong := (@shelf_probeAndStore w env track s).jingle track
  rw [kindOf_of_sqlKind_music htrack] at hsong
  unfold insertMusic
  rw [ends_bind, ends_get]
  rcases hp : probeAndStore env track s with ⟨s', duration, stored⟩
  rw [hp] at hitems hprobe hsong
  dsimp only at hitems hprobe hsong ⊢
  have hbeyond : Beyond w.stationId s' f.nextPos := fun id r hr => by
    rw [hitems] at hr
    exact hf.beyond id r hr
  have hcommitted : Pacing w k last due s₀ (if stored then s' else f.committed) := by
    split_ifs
    · exact hprobe
    · exact hf.committed
  rw [ends_bind, ends_set]
  generalize (if stored then s' else f.committed) = committed at hcommitted ⊢
  split_ifs
  · exact hcommitted
  · have hother : jingleRow s' (nextId s'.queueItems, .new w.stationId track f.nextPos
        s!"music:{track}:{f.nextPos}") = false :=
      decide_eq_false fun h => absurd (hsong.mp h) (by decide)
    rw [ends_bind, ends_modify]
    refine ⟨hprobe.append rfl rfl hbeyond fun h => absurd (hother.symm.trans h) (by decide),
      QueueKept.beyond_insert hbeyond rfl, hcommitted, fun _ => ?_⟩
    rw [marks_append rfl rfl hbeyond, hother, List.getLast?_concat]
    decide

lemma autofillLoop_paced (n : ℕ) {f : Filling} (hf : Fillable w k last due s₀ f s) :
    Ends (autofillLoop w env ⟨true, k, .tracks⟩ n f) s (fun _ => Pacing w k last due s₀)
      (Pacing w k last due s₀) := by
  induction n generalizing s f with
  | zero => exact hf.holds
  | succ n ih =>
    unfold autofillLoop
    split_ifs
    · refine (insertDueJingle_paced hf).bind fun r s' hr => ?_
      obtain ⟨f', go⟩ := r
      dsimp only
      split_ifs
      · exact ih hr
      · rw [ends_bind, ends_get]
        have hkept := @QueueKept.chooseMusic_kept w env f' s'
        have hcounted : (chooseMusic w env f' s').1.musicInPending = f'.musicInPending := by
          unfold chooseMusic
          dsimp only
          split
          · rfl
          · split_ifs <;> rfl
        rcases hm : chooseMusic w env f' s' with ⟨f'', track⟩
        rw [hm] at hkept hcounted
        dsimp only at hr hkept hcounted ⊢
        have hf' : Fillable w k last due s₀ f'' s' :=
          ⟨hr.holds, by rw [hkept.1]; exact hr.beyond, by rw [hkept.2]; exact hr.committed,
            by rw [hcounted]; exact hr.counted⟩
        cases track with
        | none => exact hr.holds
        | some track =>
          exact (insertMusic_paced hf' (sqlKind_of_chooseMusic hm)).bind fun f s hf => ih hf
    · exact hf.holds

/-- Where songs are counted at the end of what waits, it ends with no jingle. -/
lemma counted_pending (h : 1 ≤ countPendingMusicSinceJingle w s) :
    (marks w last s).getLast? ≠ some true := by
  intro hlast
  unfold countPendingMusicSinceJingle at h
  rw [orderBy_pending] at h
  unfold marks at hlast
  rcases List.eq_nil_or_concat' (waiting w.stationId s) with hnil | ⟨l, r, hl⟩
  · rw [hnil] at h
    exact absurd (show (1 : ℤ) ≤ 0 from h) (by decide)
  · rw [hl, List.map_append, ← List.cons_append, List.map_cons, List.map_nil,
      List.getLast?_concat, Option.some.injEq] at hlast
    have hkind : kindOf s r.2.trackId = "jingle" := of_decide_eq_true hlast
    rw [hl, List.reverse_append, List.reverse_singleton, List.singleton_append, musicBeforeJingle,
      List.takeWhile_cons_of_neg (by simp [hkind])] at h
    exact absurd (show (1 : ℤ) ≤ 0 from h) (by decide)

/-- **Filling keeps the pace.** -/
theorem autofillQueue_paced :
    Moves (Keeps (Pacing w k last due s₀)) (autofillQueue w env) := by
  refine bindGet fun s hs => ?_
  dsimp only
  split_ifs
  · rw [hs.sweeper]
    exact autofillLoop_paced 100
      ⟨hs, beyond_nextPosition w.stationId s, hs, fun hcount => counted_pending hcount⟩
  · exact hs

/-! ### The sweeper -/

variable (w) in
instance (s : Engine) : Decidable (FrontFree w s) := by
  unfold FrontFree
  infer_instance

variable (w k due) in
/-- Where a jingle has to come before the next song, one is next, or the sweeper puts one there; and
what it puts is put in front. -/
def sweepFits (s : Engine) : Bool :=
  nextPendingIsJingle w s ||
    if sweeperDue w ⟨true, k, .tracks⟩ s then
      (pickJingle w.stationId s []).all fun jingle =>
        if dedupeTaken s (sweeperRow w s jingle) then !due else decide (FrontFree w s)
    else !due

lemma nextPendingIsJingle_eq (s : Engine) :
    nextPendingIsJingle w s = (waiting w.stationId s).head?.any (jingleRow s) := by
  unfold nextPendingIsJingle
  rw [nextPending_eq_head]
  rfl

/-- A jingle that is next is before all songs. -/
lemma fronted_of_next (h : nextPendingIsJingle w s = true) : Fronted w s := by
  rw [nextPendingIsJingle_eq] at h
  cases hw : waiting w.stationId s with
  | nil =>
    rw [hw] at h
    cases h
  | cons a l =>
    rw [hw, List.head?_cons, Option.any_some] at h
    refine ⟨a, hw ▸ List.mem_cons_self, h, fun b hb hsong => ?_⟩
    have hsorted := waiting_sorted w.stationId s
    rw [hw] at hb hsorted
    rcases List.mem_cons.mp hb with rfl | hb
    · rw [songRow_of_jingleRow h] at hsong
      cases hsong
    · exact (List.pairwise_cons.mp hsorted).1 b hb

/-- No jingle is due after a jingle. -/
lemma last_of_due (h : Paced w k last s) (hdue : sweeperDue w ⟨true, k, .tracks⟩ s = true) :
    last = none := by
  by_contra hne
  obtain ⟨i, hi⟩ := Option.ne_none_iff_exists'.mp hne
  have hheard := h.last i hi
  obtain ⟨q, hq, -, -, hj, -⟩ := hheard.row
  have hcount := @HeardLast.count w s i hheard (kindOf s)
    (fun q' hq' => by rw [← Option.some.inj (hq.symm.trans hq')]; exact of_decide_eq_true hj)
    fun _ => id
  unfold sweeperDue at hdue
  rw [hcount] at hdue
  exact absurd (of_decide_eq_true hdue) (not_le.mpr h.pos)

/-- A jingle that is put before all that waits, where none is next. -/
lemma insertFront_paced (h : Pacing w k none false s₀ s)
    (hnext : nextPendingIsJingle w s = false) {jingle : ℤ}
    (hplain : sqlKindOf s jingle = "jingle") (hfree : FrontFree w s) :
    Pacing w k none due s₀ (insertQueue (sweeperRow w s jingle) s) := by
  have hj : jingleRow s (nextId s.queueItems, sweeperRow w s jingle) = true :=
    decide_eq_true (kindOf_of_sqlKind_jingle hplain)
  have hbefore : ∀ r ∈ waiting w.stationId s, (sweeperRow w s jingle).position < r.2.position :=
    fun r hr => frontPosition_lt_iff.mpr hfree r
      (mem_queueRows.mpr (by simpa using mem_waiting.mp hr))
  have hwaiting : waiting w.stationId (insertQueue (sweeperRow w s jingle) s) =
      (nextId s.queueItems, sweeperRow w s jingle) :: waiting w.stationId s :=
    waiting_front (q := sweeperRow w s jingle) rfl rfl hbefore
  refine ⟨h.toPaced.insertJingle rfl hplain hj ?_, h.toSince.insert rfl, fun _ =>
    ⟨(nextId s.queueItems, sweeperRow w s jingle), ?_, hj, fun b hb hsong => ?_⟩⟩
  · unfold marks
    rw [hwaiting]
    refine apart_false_cons.mpr (List.isChain_cons.mpr ⟨fun y hy hboth => ?_, h.apart.tail⟩)
    rw [nextPendingIsJingle_eq] at hnext
    change y ∈ ((waiting w.stationId s).map (jingleRow s)).head? at hy
    rw [List.head?_map] at hy
    obtain ⟨r, hr, rfl⟩ := Option.map_eq_some_iff.mp hy
    rw [hr, Option.any_some] at hnext
    exact absurd (hnext.symm.trans hboth.2) (by decide)
  · rw [hwaiting]
    exact List.mem_cons_self
  · rcases mem_waiting_insert hb with rfl | hb
    · have hno : songRow s (nextId s.queueItems, sweeperRow w s jingle) = false :=
        songRow_of_jingleRow hj
      exact absurd (hno.symm.trans hsong) (by decide)
    · exact .inl (hbefore b hb)

lemma pacing_front (h : Pacing w k last false s₀ s) (hfront : due = true → Fronted w s) :
    Pacing w k last due s₀ s := ⟨h.toPaced, h.toSince, hfront⟩

/-- **The sweeper keeps the pace**, and puts a jingle in front where one is due. -/
theorem sweep_paced (h : Pacing w k last false s₀ s) (hfits : sweepFits w k due s = true) :
    Stays (Pacing w k last due s₀) (sweepQueue w) s := by
  have hinsert : Pacing w k last due s₀ (maybeInsertSweeperJingle w ⟨true, k, .tracks⟩ s) := by
    unfold maybeInsertSweeperJingle
    unfold sweepFits at hfits
    cases hnext : nextPendingIsJingle w s with
    | true => exact pacing_front h fun _ => fronted_of_next hnext
    | false =>
      rw [hnext, Bool.false_or] at hfits
      cases hdue : sweeperDue w ⟨true, k, .tracks⟩ s with
      | false =>
        rw [hdue, if_neg Bool.false_ne_true, Bool.not_eq_true'] at hfits
        exact pacing_front h fun hd => absurd (hfits.symm.trans hd) (by decide)
      | true =>
        obtain ⟨jingle, hpick, hplain⟩ := pickJingle_some h.library []
        rw [hdue, if_pos rfl, hpick, Option.all_some] at hfits
        rw [hpick]
        change Pacing w k last due s₀ (insertOrIgnore (sweeperRow w s jingle) s).1
        unfold insertOrIgnore
        cases htaken : dedupeTaken s (sweeperRow w s jingle) with
        | true =>
          rw [htaken, if_pos rfl, Bool.not_eq_true'] at hfits
          exact pacing_front h fun hd => absurd (hfits.symm.trans hd) (by decide)
        | false =>
          rw [htaken, if_neg Bool.false_ne_true, decide_eq_true_eq] at hfits
          obtain rfl := last_of_due h.toPaced hdue
          exact insertFront_paced h hnext (of_decide_eq_true hplain) hfits
  refine ⟨?_⟩
  unfold sweepQueue
  rw [ends_bind, ends_get, h.sweeper]
  simp only [liftSetting, pure_bind, if_true]
  rw [ends_bind]
  unfold Ends
  rw [bindInteger_eq, if_neg (by simp)]
  exact hinsert

/-! ### Rows of other stations -/

variable (w last) in
/-- The jingles stand apart without the rows of other stations, and the row that was started last is
none of these. -/
def quarantineFits (s : Engine) : Bool :=
  last.all (· ∉ crossStationItems w s) &&
    decide (Apart (last.isSome :: ((waiting w.stationId s).filter fun r =>
      r.1 ∉ crossStationItems w s).map (jingleRow s)))

/-- What rows leave that fail, one after the other. -/
structure Quarantined (w : Worker) (k : ℤ) (last : Option ℤ) (s₀ : Engine) (ids : List ℤ)
    (s t : Engine) : Prop extends Laid w k t, Since w s₀ t where
  last : ∀ i ∈ last, HeardLast w t i
  tracks : t.tracks = s.tracks
  waits : waiting w.stationId t = (waiting w.stationId s).filter fun r => r.1 ∉ ids

lemma quarantined (ids : List ℤ) (h : Laid w k s) (hlast : ∀ i ∈ last, HeardLast w s i)
    (hs : Since w s₀ s) (hids : ∀ i ∈ last, i ∉ ids) :
    Quarantined w k last s₀ ids s (ids.foldl (fun s id => markQueueFailed id s) s) := by
  induction ids generalizing s with
  | nil => exact ⟨h, hs, hlast, rfl, by simp⟩
  | cons id ids ih =>
    have hne : ∀ q : QueueItem, { q with status := ItemStatus.failed }.status ≠ .pending :=
      fun _ => by simp
    have hsilent : ∀ q : QueueItem, ¬ Heard { q with status := ItemStatus.failed } := fun _ => by
      simp [Heard]
    have hstep := ih (s := markQueueFailed id s)
      (h.leave hne (fun _ => ⟨rfl, rfl⟩) fun q _ _ hnow => absurd hnow (hsilent q))
      (fun i hi => (hlast i hi).leave (fun _ => ⟨rfl, rfl⟩)
        (fun heq => absurd (List.mem_cons.mpr (.inl heq)) (hids i hi))
        fun q _ _ hnow => absurd hnow (hsilent q))
      (hs.settle (fun _ => .inr rfl) id)
      (fun i hi hmem => hids i hi (List.mem_cons_of_mem _ hmem))
    have hleft : waiting w.stationId (markQueueFailed id s) =
        (waiting w.stationId s).filter fun r => r.1 ≠ id := waiting_leave hne
    refine ⟨hstep.toLaid, hstep.toSince, hstep.last, hstep.tracks, ?_⟩
    rw [List.foldl_cons, hstep.waits, hleft, List.filter_filter]
    refine List.filter_congr fun r _ => ?_
    simp only [List.mem_cons, not_or, ne_eq, Bool.decide_and, Bool.and_comm]

/-- Rows of other stations fail, and jingles stay apart. -/
theorem quarantine_paced (h : Pacing w k last false s₀ s) (hfits : quarantineFits w last s = true) :
    Stays (Pacing w k last false s₀) (failCrossStationQueueItems w env) s := by
  unfold quarantineFits at hfits
  rw [Bool.and_eq_true, Option.all_eq_true, decide_eq_true_eq] at hfits
  obtain ⟨hlast, hapart⟩ := hfits
  refine queueBorne_pacing.failCrossStationQueueItems h ?_
  have hq := quarantined (crossStationItems w s) h.toLaid h.last h.toSince
    fun i hi => of_decide_eq_true (hlast i hi)
  refine ⟨⟨hq.toLaid, ?_, hq.last⟩, hq.toSince, fun hd => by cases hd⟩
  unfold marks
  rw [hq.waits]
  have hkinds : ∀ r : Row, jingleRow _ r = jingleRow s r := fun r =>
    @jingleRow_congr s _ r r hq.tracks rfl
  rw [List.map_congr_left fun r _ => hkinds r]
  exact hapart

/-! ### The startup sound -/

variable (w last) in
/-- The startup sound is not inserted; or it is a jingle that stands apart from the others, or a
song and no jingle waits, or neither. -/
def soundFits (s : Engine) : Bool :=
  match soundDue w s with
  | some (some trackId) =>
    dedupeTaken s (soundRow w s trackId) ||
      if kindOf s trackId = "jingle" then
        sqlKindOf s trackId = "jingle" &&
          decide (Apart (marks w last (insertQueue (soundRow w s trackId) s)))
      else !decide (kindOf s trackId = "music") || (waiting w.stationId s).all (!jingleRow s ·)
  | _ => true

/-- The startup sound keeps the pace. -/
theorem sound_paced (h : Pacing w k last false s₀ s) (hfits : soundFits w last s = true) :
    Stays (Pacing w k last false s₀) (maybeInsertStartupSound w) s := by
  have hclear : ∀ t, Pacing w k last false s₀ t →
      Pacing w k last false s₀ (clearStartupSoundPending w t) := fun t ht =>
    ht.same rfl (shelf_upsertSetting (by decide) _ t)
  have hinsert : ∀ t inserted, insertStartupSound w s = some (t, inserted) →
      Pacing w k last false s₀ t := by
    intro t inserted ht
    unfold insertStartupSound at ht
    unfold soundFits at hfits
    match hdue : soundDue w s with
    | none =>
      rw [hdue] at ht
      cases ht
    | some none =>
      rw [hdue] at ht
      obtain rfl := (Prod.mk.inj (Option.some.inj ht)).1
      split_ifs
      · exact hclear s h
      · exact h
    | some (some trackId) =>
      rw [hdue] at ht hfits
      obtain rfl := (Prod.mk.inj (Option.some.inj ht)).1
      refine hclear _ ?_
      unfold insertOrIgnore
      cases htaken : dedupeTaken s (soundRow w s trackId) with
      | true => exact h
      | false =>
        dsimp only at hfits
        rw [htaken, Bool.false_or] at hfits
        rw [if_neg Bool.false_ne_true]
        refine ⟨?_, h.toSince.insert rfl, fun hd => by cases hd⟩
        split_ifs at hfits with hj
        · rw [Bool.and_eq_true, decide_eq_true_eq, decide_eq_true_eq] at hfits
          exact h.toPaced.insertJingle rfl hfits.1 (decide_eq_true hj) hfits.2
        · refine h.toPaced.insertOther rfl rfl (decide_eq_false hj) fun hsong a ha haj => ?_
          have hmusic : kindOf s trackId = "music" := of_decide_eq_true hsong
          rw [decide_eq_true hmusic, Bool.not_true, Bool.false_or, List.all_eq_true] at hfits
          have hno := hfits a ha
          rw [haj] at hno
          cases hno
  refine (maybeInsertStartupSound_eq w s).stays (fun t ht => ?_) fun t ht => ?_
  · obtain ⟨inserted, hi⟩ := ht
    exact hinsert t inserted hi
  · rw [ht.1]
    exact h

/-! ### Announcements -/

variable (w env) in
/-- No announcement is to be added, or its file is the file of no jingle. -/
def announceFits (s : Engine) : Bool :=
  !isTruthy ((setting w.stationId s "ai_host_enabled").getD "false") ||
    (nextPendingAiTarget w s).all fun t => !announces w env s t.1 t.2 ||
      [s!"ai-track-intro:{t.1}", s!"ai-station-id:{t.1}"].all fun key =>
        (announcementFor w env s key).all fun a =>
          ((rows s.tracks).find? fun r => r.2.filePath = trim a.audioPath).all
            fun r => kindOf s r.1 ≠ "jingle"

lemma jingleRow_new (e : Engine) (id st track pos : ℤ) (key : String) :
    jingleRow e (id, .new st track pos key) = decide (kindOf e track = "jingle") := rfl

lemma songRow_new (e : Engine) (id st track pos : ℤ) (key : String) :
    songRow e (id, .new st track pos key) = decide (kindOf e track = "music") := rfl

lemma kindOf_announcement {track : ℤ} (h : trackTypeOf s track = "announcement") :
    kindOf s track = "announcement" := by
  unfold kindOf
  rw [h]
  decide +kernel

/-- One track that was no jingle is an announcement. -/
lemma shelf_announcement {i : ℤ} (htexts : SameTexts tickKeys w s t)
    (hsame : ∀ track : ℤ, track ≠ i → t.tracks[track]? = s.tracks[track]?)
    (hi : trackTypeOf t i = "announcement") (hj : kindOf s i ≠ "jingle") : Shelf w s t := by
  have htype : ∀ track : ℤ, track ≠ i → trackTypeOf t track = trackTypeOf s track :=
    fun track hne => by
      unfold trackTypeOf
      rw [hsame track hne]
  have hkind : ∀ track : ℤ, track ≠ i → kindOf t track = kindOf s track := fun track hne => by
    unfold kindOf
    rw [htype track hne]
  have hplain : ∀ track, sqlKindOf s track = "jingle" → track ≠ i := by
    rintro track h rfl
    exact hj (kindOf_of_sqlKind_jingle h)
  refine ⟨htexts, fun hlib => ?_, fun track => ?_, fun track h => ?_, fun track h => ?_⟩
  · obtain ⟨track, htrack⟩ := List.exists_mem_of_ne_nil _ hlib
    obtain ⟨r, hr, hok⟩ := mem_eligible.mp htrack
    have hne : track ≠ i := hplain track (by simp [sqlKindOf, trackTypeOf, hr, hok.2.2.1])
    exact List.ne_nil_of_mem (mem_eligible.mpr ⟨r, (hsame track hne).trans hr, hok⟩)
  · by_cases hne : track = i
    · subst hne
      rw [kindOf_announcement hi]
      exact iff_of_false (by decide) hj
    · rw [hkind track hne]
  · unfold sqlKindOf at h ⊢
    rw [htype track (hplain track h)]
    exact h
  · by_cases hne : track = i
    · subst hne
      rw [kindOf_announcement hi] at h
      exact absurd h (by decide)
    · rwa [← hkind track hne]

/-- The announcement is in the library. -/
lemma upsertAnnouncement_shelf {a : CachedAnnouncement} {path : String}
    (hj : ∀ r ∈ (rows s.tracks).find? fun r => r.2.filePath = path, kindOf s r.1 ≠ "jingle") :
    Shelf w s (upsertGeneratedAnnouncement w a path s).1 ∧
      kindOf (upsertGeneratedAnnouncement w a path s).1
        (upsertGeneratedAnnouncement w a path s).2 = "announcement" := by
  unfold upsertGeneratedAnnouncement
  dsimp only
  split
  next r hr =>
    have hrow : s.tracks[r.1]? = some r.2 := mem_rows.mp (List.mem_of_find?_eq_some hr)
    have htype : trackTypeOf { s with tracks := s.tracks.modify r.1 fun t => { t with
        title := if a.title = "" then "AI Announcement" else a.title
        artist := if a.artist = "" then "AI Host" else a.artist
        stationId := w.stationId, trackType := "announcement"
        duration := a.duration, isActive := false, excludeFromAutoplay := true } } r.1 =
          "announcement" := by
      unfold trackTypeOf
      rw [lookup_modify, if_pos rfl, hrow]
      rfl
    refine ⟨shelf_announcement (.of_eq rfl rfl) (fun track hne => ?_) htype (hj r hr),
      kindOf_announcement htype⟩
    rw [lookup_modify, if_neg hne]
  next =>
    have htype : ∀ row : Track, row.trackType = "announcement" → trackTypeOf { s with
        tracks := s.tracks.insert (nextId s.tracks) row } (nextId s.tracks) = "announcement" := by
      intro row hrow
      unfold trackTypeOf
      rw [lookup_insert, if_pos rfl]
      exact hrow
    have hnew : kindOf s (nextId s.tracks) = "music" := by
      unfold kindOf trackTypeOf
      rw [lookup_nextId]
      decide +kernel
    refine ⟨shelf_announcement (.of_eq rfl rfl) (fun track hne => ?_) (htype _ rfl) ?_,
      kindOf_announcement (htype _ rfl)⟩
    · rw [lookup_insert, if_neg hne]
    · rw [hnew]
      decide

/-- A row before another one, which is neither a jingle nor a song. -/
lemma insertBefore_paced (h : Pacing w k last due s₀ s) {target trackId : ℤ} {key : String}
    (hkind : kindOf s trackId = "announcement") :
    Pacing w k last due s₀ (insertBefore w.stationId target trackId key s).1 := by
  have hother : ∀ (e : Engine) (id pos : ℤ), e.tracks = s.tracks →
      jingleRow e (id, .new w.stationId trackId pos key) = false ∧
        songRow e (id, .new w.stationId trackId pos key) = false := by
    intro e id pos he
    rw [jingleRow_new, songRow_new, kindOf_congr he, hkind]
    decide
  unfold insertBefore
  split
  · exact h
  split
  · unfold enqueue
    split
    · exact h
    · obtain ⟨hj, hsong⟩ := hother s (nextId s.queueItems) (nextPosition w.stationId s) rfl
      exact (h.insertOther rfl rfl hj hsong).same rfl (shelf_upsertSetting (by decide) _ _)
  next j before hfound =>
    dsimp only
    generalize (if before.position = 0 then 1 else before.position) = pos
    have hmoved : Moved w (fun _ q => if q.stationId = w.stationId && isActive q.status &&
        decide (pos ≤ q.position) then { q with position := q.position + 1 } else q) s
        { s with queueItems := s.queueItems.map fun _ r =>
          if r.stationId = w.stationId && isActive r.status && decide (pos ≤ r.position) then
            { r with position := r.position + 1 } else r } := by
      refine ⟨.of_eq rfl rfl rfl, fun id => ?_, fun id q => ?_, fun a ha b hb hab => ?_⟩
      · exact Std.ExtTreeMap.getElem?_map
      · split_ifs <;> exact ⟨rfl, rfl, rfl⟩
      · obtain ⟨-, hast, hap⟩ := mem_waiting.mp ha
        obtain ⟨-, hbst, hbp⟩ := mem_waiting.mp hb
        have hplace : ∀ q : QueueItem, q.stationId = w.stationId → q.status = .pending →
            (if q.stationId = w.stationId && isActive q.status && decide (pos ≤ q.position) then
              { q with position := q.position + 1 } else q).position =
                if pos ≤ q.position then q.position + 1 else q.position := by
          intro q hst hp
          have hactive : isActive q.status = true := by rw [hp]; rfl
          rw [hactive, decide_eq_true hst, Bool.true_and, Bool.true_and]
          simp only [decide_eq_true_eq]
          split_ifs <;> rfl
        rw [earlier_iff] at hab ⊢
        dsimp only
        rw [hplace a.2 hast hap, hplace b.2 hbst hbp]
        split_ifs <;> omega
    obtain ⟨hj, hsong⟩ := hother _ (nextId (s.queueItems.map fun _ r =>
      if r.stationId = w.stationId && isActive r.status && decide (pos ≤ r.position) then
        { r with position := r.position + 1 } else r)) pos rfl
    exact (h.moved hmoved).insertOther rfl rfl hj hsong

/-- Announcements keep the pace. -/
theorem announce_paced (h : Pacing w k last due s₀ s) (hfits : announceFits w env s = true) :
    Stays (Pacing w k last due s₀) (maybePrepareAiQueue w env) s := by
  have hborne : QueueBorne w (Pacing w k last due s₀) := queueBorne_pacing
  refine announce_kept ⟨hborne.toShows.broadcast, fun value t ht =>
    ht.same rfl (shelf_upsertSetting (by decide) value t)⟩ h ?_
  intro hon target row htarget hadds key hkey a ha
  unfold announceFits at hfits
  rw [hon, htarget, Bool.not_true, Bool.false_or, Option.all_some] at hfits
  dsimp only at hfits
  rw [hadds, Bool.not_true, Bool.false_or, List.all_eq_true] at hfits
  have hfile := hfits key hkey
  rw [ha, Option.all_some, Option.all_eq_true] at hfile
  obtain ⟨hshelf, hkind⟩ := @upsertAnnouncement_shelf w s a (trim a.audioPath)
    fun r hr => of_decide_eq_true (hfile r hr)
  have hitems : (upsertGeneratedAnnouncement w a (trim a.audioPath) s).1.queueItems =
      s.queueItems := upsertGeneratedAnnouncement_queueItems a _
  exact insertBefore_paced (h.same hitems hshelf) hkind

/-! ### The row that plays -/

/-- A row that has left the queue is no jingle. -/
def PastOther (id : ℤ) (s : Engine) : Prop :=
  ∃ q, s.queueItems[id]? = some q ∧ q.status ≠ .pending ∧ kindOf s q.trackId ≠ "jingle"

lemma PastOther.same {id : ℤ} (h : PastOther id s) (ht : t.queueItems = s.queueItems)
    (hshelf : Shelf w s t) : PastOther id t := by
  obtain ⟨q, hq, hp, hj⟩ := h
  exact ⟨q, by rw [ht]; exact hq, hp, mt (hshelf.jingle _).mp hj⟩

lemma PastOther.rows {id : ℤ} (h : PastOther id s) (hrows : QueueStarts.RowsKept s t)
    (hkinds : kindOf t = kindOf s) : PastOther id t := by
  obtain ⟨q, hq, hp, hj⟩ := h
  exact ⟨q, hrows id q hq, hp, by rwa [hkinds]⟩

lemma PastOther.settle {id j : ℤ} (h : PastOther id s) {f : QueueItem → QueueItem}
    (hf : ∀ q, (f q).status ≠ .pending ∧ (f q).trackId = q.trackId) :
    PastOther id (updateQueue j f s) := by
  obtain ⟨q, hq, hp, hj⟩ := h
  have hkind : kindOf (updateQueue j f s) = kindOf s := kindOf_congr rfl
  unfold PastOther
  rw [lookup_updateQueue, hq, hkind]
  split_ifs
  · exact ⟨f q, rfl, (hf q).1, by rwa [(hf q).2]⟩
  · exact ⟨q, rfl, hp, hj⟩

/-- The row that plays is completed, or it is started again, or it fails; a jingle is always
completed. -/
theorem advance_paced :
    Moves (Keeps (Pacing w k last due s₀)) (advancePlayingQueueItem w env) := by
  have hborne : QueueBorne w (Pacing w k last due s₀) := queueBorne_pacing
  refine hborne.advancePlayingQueueItem fun s playing offset hs hp hkind => ?_
  obtain ⟨hrow, -, hstatus⟩ := mem_queueRows.mp
    (show (playing.1, playing.2) ∈ _ from List.mem_of_mem_head? hp)
  have hplays : playing.2.status = .playing := by simpa using hstatus
  let P : Engine → Prop := fun t => Pacing w k last due s₀ t ∧ PastOther playing.1 t
  have hpast : QueueBorne w P := by
    refine queueBorne_of_same (fun u v hitems hshelf h => ⟨h.1.same hitems hshelf,
      h.2.same hitems hshelf⟩) (fun u h => ⟨h.1.ensureFilled, ?_⟩)
      fun u item h hitem => ⟨hborne.complete u item h.1 hitem, h.2.settle fun _ => ⟨by simp, rfl⟩⟩
    have hfilled : Unbegun w u (BroadcastQueue.ensureFilled w.stationId u) :=
      shows_unbegun.filled u
    have hrows : QueueStarts.RowsKept u (BroadcastQueue.ensureFilled w.stationId u) :=
      (@QueueStarts.shows_rowsKept w).filled u
    exact h.2.rows hrows (kindOf_congr hfilled.tracks)
  have hfail : ∀ u, Keeps P u (markQueueFailed playing.1 u) := by
    intro u hu
    obtain ⟨q, hq, hpending, hj⟩ := hu.2
    refine ⟨hu.1.settle (fun _ => .inr rfl) (fun _ => ⟨rfl, rfl⟩) (fun q' hq' => ?_)
      (fun _ _ hnow => absurd hnow (by simp [Heard])) (fun hlast => ?_), hu.2.settle
        fun _ => ⟨by simp, rfl⟩⟩
    · rw [← Option.some.inj (hq.symm.trans hq')]
      exact hpending
    · obtain ⟨q', hq', -, -, hj', -⟩ := (hu.1.last _ hlast).row
      rw [← Option.some.inj (hq.symm.trans hq')] at hj'
      exact absurd (of_decide_eq_true hj') hj
  have hrestart : Moves (Keeps P) (restartQueueItem w env playing offset) :=
    hpast.restartQueueItem hfail offset
  exact ⟨(hrestart.keeps ⟨hs, _, hrow, by rw [hplays]; decide, hkind⟩).mono
    (fun _ _ ht => ht.1) fun _ ht => ht.1⟩

end OnAir.SweeperPhases
