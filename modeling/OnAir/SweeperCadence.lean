import OnAir.SongRepeats
import OnAir.SweeperPhases

/-!
How many songs there are between two jingles.

The sweeper counts songs by the ids of their rows. As long as that agrees with the order in which
they were started, a jingle comes after `k` songs, and never right after another one.
-/

namespace OnAir.SweeperCadence

open BroadcastQueue CalmPhases FrontInsertion Interleaving OtherPhases PhasesReturn PlayoutAdvance
  PlayoutTables Programs QueueOrder QueueRefill QueueUpkeep Runs SongRepeats StartupSound
  StationWorker SweeperPace SweeperPhases OnAir.Table WaitingRows WorkerEnv

open ActiveRows (Row)
open OneSource (SameFiles skipDuplicatePending_eq soleWorker)
open QueueStarts (RowsKept shows_rowsKept takesRow)
open SettingsText (Phase mem_queueRows others)
open ShowBreaks (silentWorld)

/-! ### Jingles and songs that were started -/

/-- The number of songs since the last jingle. -/
def songsSince (kinds : List String) : ℕ :=
  (kinds.reverse.takeWhile (· ≠ "jingle")).count "music"

/-- No jingle comes right after another one, and between two of them there are no more than `k`
songs. -/
structure Cadence (k : ℤ) (kinds : List String) : Prop where
  apart : kinds.IsChain fun a b => ¬ (a = "jingle" ∧ b = "jingle")
  songs : ∀ before between after : List String,
    kinds = before ++ "jingle" :: (between ++ "jingle" :: after) → "jingle" ∉ between →
      (between.count "music" : ℤ) ≤ k

/-- Nor are there since the last one. -/
structure InCadence (k : ℤ) (kinds : List String) : Prop extends Cadence k kinds where
  since : "jingle" ∈ kinds → (songsSince kinds : ℤ) ≤ k

section Cadence

variable {k : ℤ} {kinds : List String} {kind : String}

lemma inCadence_nil (k : ℤ) : InCadence k [] :=
  ⟨⟨List.isChain_nil, fun before _ _ h => by simp at h⟩, fun h => by cases h⟩

lemma songsSince_jingle : songsSince (kinds ++ ["jingle"]) = 0 := by
  unfold songsSince
  rw [List.reverse_concat, List.takeWhile_cons_of_neg (by simp)]
  rfl

lemma songsSince_concat (h : kind ≠ "jingle") :
    songsSince (kinds ++ [kind]) = songsSince kinds + if kind = "music" then 1 else 0 := by
  unfold songsSince
  rw [List.reverse_concat, List.takeWhile_cons_of_pos (by simpa using h), List.count_cons]
  simp

/-- What comes after the last jingle. -/
lemma songsSince_split {before between : List String} (h : "jingle" ∉ between) :
    songsSince (before ++ "jingle" :: between) = between.count "music" := by
  unfold songsSince
  rw [List.reverse_append, List.reverse_cons, List.append_assoc, List.takeWhile_append_of_pos,
    List.singleton_append, List.takeWhile_cons_of_neg (by simp), List.append_nil,
    List.count_reverse]
  intro x hx
  rw [decide_eq_true_eq]
  rintro rfl
  exact h (List.mem_reverse.mp hx)

/-- One more start: no jingle after a jingle, and no song where a jingle is due. -/
lemma InCadence.concat (h : InCadence k kinds) (hk : 0 ≤ k)
    (hjingle : kind = "jingle" → kinds.getLast? ≠ some "jingle")
    (hsong : kind = "music" → "jingle" ∈ kinds → (songsSince kinds : ℤ) < k) :
    InCadence k (kinds ++ [kind]) := by
  refine ⟨⟨?_, fun before between after heq hbetween => ?_⟩, fun hmem => ?_⟩
  · refine List.isChain_append.mpr ⟨h.apart, List.isChain_singleton kind, fun x hx y hy hboth => ?_⟩
    obtain ⟨rfl, rfl⟩ := hboth
    exact hjingle (Option.some.inj hy) hx
  · rcases List.eq_nil_or_concat' after with rfl | ⟨after, last, rfl⟩
    · have hkinds : kinds = before ++ "jingle" :: between := by
        have hassoc : before ++ "jingle" :: (between ++ ["jingle"]) =
            (before ++ "jingle" :: between) ++ ["jingle"] := by simp
        rw [hassoc] at heq
        exact (List.append_inj' heq rfl).1
      rw [← @songsSince_split before between hbetween, ← hkinds]
      exact h.since (by simp [hkinds])
    · have hassoc : before ++ "jingle" :: (between ++ "jingle" :: (after ++ [last])) =
          (before ++ "jingle" :: (between ++ "jingle" :: after)) ++ [last] := by simp
      rw [hassoc] at heq
      exact h.songs before between after (List.append_inj' heq rfl).1 hbetween
  · by_cases hkind : kind = "jingle"
    · subst hkind
      rw [songsSince_jingle]
      exact hk
    · have hold : "jingle" ∈ kinds := by
        rcases List.mem_append.mp hmem with hmem | hmem
        · exact hmem
        · exact absurd (List.mem_singleton.mp hmem).symm hkind
      rw [songsSince_concat hkind]
      split_ifs with hmusic
      · have hless := hsong hmusic hold
        omega
      · exact h.since hold

end Cadence

/-! ### Runs -/

variable (w : Worker) (env : Env)

/-- The rows that a tick starts, each with the kind of its track. -/
def startsOf (s t : Engine) : List (ℤ × String) :=
  (begun w s t).filterMap fun id => t.queueItems[id]?.map fun q => (id, kindOf t q.trackId)

/-- A run so far: its state and the rows it has started. -/
structure Rotation where
  engine : Engine
  starts : List (ℤ × String)

def rotate (p : Rotation) (env : Env) : Option Rotation :=
  (tick w p.engine env).map fun t => ⟨t, p.starts ++ startsOf w p.engine t⟩

def kindsOf (p : Rotation) : List String := p.starts.map Prod.snd

/-- A row, if it is a jingle. -/
def ifJingle (id : ℤ) (kind : String) : Option ℤ := if kind = "jingle" then some id else none

/-- The row that was started last, if it is a jingle. -/
def lastJingle (p : Rotation) : Option ℤ := p.starts.getLast?.bind fun x => ifJingle x.1 x.2

/-- There were `k` songs since the last jingle. -/
def jingleIsDue (k : ℤ) (p : Rotation) : Bool :=
  decide ("jingle" ∈ kindsOf p) && decide (k ≤ songsSince (kindsOf p))

/-! ### Where the pace is kept -/

/-- After a jingle the row that is next is started or put back, or the one behind it is no jingle;
where songs are skipped, one that is no jingle is started. -/
def choiceFits (last : Option ℤ) (session : Option Session) (c : Engine) : Bool :=
  last.isNone || decide ((current w.stationId c).source = .host) ||
    (currentPlaying w.stationId c).isSome ||
      if unskipped w c = waiting w.stationId c then
        !takesRow w c session || (waiting w.stationId c).head?.all (startFits w env ·.2 c) ||
          (waiting w.stationId c).tail.head?.all (!jingleRow c ·)
      else
        takesRow w c session &&
          (unskipped w c).head?.any fun r => !jingleRow c r && startsWell w env r.2 c

/-- The last of what a tick does before its choice, and the choice. -/
def endFits (last : Option ℤ) (session : Option Session) (s : Engine) : Bool :=
  match advanceHostTrack w env s with
  | .ok _ c => choiceFits w env last session c
  | .error _ _ => true

def phaseFits (k : ℤ) (last : Option ℤ) (due : Bool) : Phase → Engine → Bool
  | .crossStation, s => quarantineFits w last s
  | .sweep, s => sweepFits w k due s
  | .announce, s => announceFits w env s
  | _, _ => true

/-- The startup sound, and every phase of the tick after it, keeps jingles apart, and puts one in
front where one is due. -/
def PaceKept (k : ℤ) (p : Rotation) (env : Env) : Prop :=
  ∀ t ∈ atSound w env p.engine, soundFits w (lastJingle p) t = true ∧ ∀ u ∈ afterSound w t,
    Onward (Phase.run w env)
      (fun phase s => phaseFits w env k (lastJingle p) (jingleIsDue k p) phase s = true)
      (fun s => endFits w env (lastJingle p) (activeSession w.stationId p.engine) s = true) rest u

instance (k : ℤ) (p : Rotation) : Decidable (PaceKept w k p env) := by
  unfold PaceKept
  infer_instance

variable {w env} {k : ℤ} {last : Option ℤ} {due : Bool} {s₀ s t c d : Engine} {x : Row}
  {l : List Row}

/-! ### The start -/

/-- The row plays, nothing else has begun to play since `s₀`, and the queue is paced from it on. -/
structure Taken (w : Worker) (k : ℤ) (s₀ : Engine) (x : Row) (t : Engine) : Prop
    extends Paced w k (ifJingle x.1 (kindOf t x.2.trackId)) t where
  row : ∃ q, t.queueItems[x.1]? = some q ∧ q.stationId = w.stationId ∧ q.status = .playing ∧
    q.trackId = x.2.trackId
  only : ∀ j, QueuePlays w.stationId t j → j = x.1 ∨ QueuePlays w.stationId s₀ j
  fresh : ¬ QueuePlays w.stationId s₀ x.1

lemma Taken.starts (h : Taken w k s₀ x t) :
    startsOf w s₀ t = [(x.1, kindOf t x.2.trackId)] := by
  obtain ⟨q, hq, hst, hp, htrack⟩ := h.row
  rw [startsOf, begun_eq_singleton ⟨q, hq, hst, hp⟩ h.fresh h.only, List.filterMap_cons, hq,
    ← htrack]
  rfl

lemma Taken.same (h : Taken w k s₀ x s) (hitems : t.queueItems = s.queueItems)
    (htracks : t.tracks = s.tracks) (hsettings : t.stationSettings = s.stationSettings)
    (hsystem : t.systemSettings = s.systemSettings) : Taken w k s₀ x t := by
  have hshelf : Shelf w s t := .of_eq htracks hsettings hsystem
  refine ⟨?_, by rw [hitems]; exact h.row, fun j hj => h.only j ?_, h.fresh⟩
  · rw [kindOf_congr htracks]
    exact h.toPaced.moved (.of_same hitems hshelf)
  · exact queuePlays_same hitems hj

lemma Taken.ensureFilled (h : Taken w k s₀ x s) :
    Taken w k s₀ x (BroadcastQueue.ensureFilled w.stationId s) := by
  have hfilled : Unbegun w s (BroadcastQueue.ensureFilled w.stationId s) :=
    shows_unbegun.filled s
  have hrows : RowsKept s (BroadcastQueue.ensureFilled w.stationId s) :=
    (@shows_rowsKept w).filled s
  have hpacing : Pacing w k (ifJingle x.1 (kindOf s x.2.trackId)) false s s :=
    ⟨h.toPaced, .refl w s, fun hd => by cases hd⟩
  obtain ⟨q, hq, hrow⟩ := h.row
  refine ⟨?_, ⟨q, hrows _ q hq, hrow⟩, fun j hj => h.only j (hfilled.plays j hj), h.fresh⟩
  rw [kindOf_congr hfilled.tracks]
  exact hpacing.ensureFilled.toPaced

lemma taken_marked (h : Pacing w k last due s₀ d) (hw : waiting w.stationId d = x :: l) (now : ℤ)
    (reason : String) : Taken w k s₀ x (setCurrent w.stationId .manual (some x.1) reason
      (markQueuePlaying x.1 now d)) := by
  obtain ⟨hrow, hst, hp⟩ := mem_waiting.mp (hw ▸ List.mem_cons_self : x ∈ waiting w.stationId d)
  have hmarked : Taken w k s₀ x (markQueuePlaying x.1 now d) := by
    refine ⟨?_, ⟨{ x.2 with status := .playing, startedAt := some now }, ?_, hst, rfl, rfl⟩,
      fun j hj => ?_, h.toSince.not_plays hrow hp⟩
    · have hstart := h.toPaced.start (f := fun q => { q with
        status := .playing, startedAt := some now }) hw (fun _ => rfl) fun _ => ⟨rfl, rfl⟩
      have hkind : kindOf (markQueuePlaying x.1 now d) = kindOf d := kindOf_congr rfl
      rw [hkind]
      unfold ifJingle
      unfold jingleRow at hstart
      simp only [decide_eq_true_eq] at hstart
      exact hstart
    · rw [markQueuePlaying, lookup_updateQueue, if_pos rfl, hrow]
      rfl
    · exact (OneSource.queuePlays_markQueuePlaying hj).imp_right (h.begins j)
  exact hmarked.same rfl rfl rfl rfl

/-- The row that is next fails. -/
lemma fail_paced (h : Pacing w k last due s₀ d) (hw : waiting w.stationId d = x :: l)
    (hapart : Apart (last.isSome :: l.map (jingleRow d))) {f : QueueItem → QueueItem}
    (hf : ∀ q, (f q).status = .failed)
    (hsame : ∀ q, (f q).stationId = q.stationId ∧ (f q).trackId = q.trackId) :
    Pacing w k last false s₀ (updateQueue x.1 f d) := by
  obtain ⟨hrow, -, hp⟩ := mem_waiting.mp (hw ▸ List.mem_cons_self : x ∈ waiting w.stationId d)
  have hne : ∀ q, (f q).status ≠ .pending := fun q => by
    rw [hf]
    decide
  have hsilent : ∀ q, ¬ Heard (f q) := fun q => by
    unfold Heard
    rw [hf]
    decide
  refine ⟨h.toPaced.leave hne hsame (fun q _ hnow => absurd hnow (hsilent q)) (fun hi => ?_) ?_,
    h.toSince.settle (fun q => .inr (hf q)) _, fun hd => by cases hd⟩
  · exact absurd rfl ((h.last _ hi).ne hrow hp)
  · unfold marks
    rw [waiting_leave_head hne hw]
    exact hapart

/-- The row that is next is started, or it fails, or it is put back. -/
lemma start_taken {Q : Engine → Prop} (h : Pacing w k last due s₀ d)
    (hw : waiting w.stationId d = x :: l)
    (hQ : ∀ t, Taken w k s₀ x t → kindOf t = kindOf d → Q t)
    (hfailed : startFits w env x.2 d = false →
      Apart (last.isSome :: l.map (jingleRow d)) ∧ ∀ t, Pacing w k last false s₀ t → Q t)
    (hretry : startsWell w env x.2 d = false → ∀ t, Pacing w k last false s₀ t → Q t) :
    Stays Q (playManagedItem w env (managedQueueItem env x)) d := by
  obtain ⟨hrow, -, hp⟩ := mem_waiting.mp (hw ▸ List.mem_cons_self : x ∈ waiting w.stationId d)
  let P : Engine → Prop := fun t => Taken w k s₀ x t ∧ kindOf t = kindOf d
  have hfilled : ∀ t, Keeps P t (BroadcastQueue.ensureFilled w.stationId t) := fun t ht => by
    have hunbegun : Unbegun w t (BroadcastQueue.ensureFilled w.stationId t) :=
      shows_unbegun.filled t
    exact ⟨ht.1.ensureFilled, (kindOf_congr hunbegun.tracks).trans ht.2⟩
  have hshown : Moves (Keeps P) (broadcastQueue w env .start) :=
    Moves.ite (fun _ => Moves.modify hfilled) fun _ => Moves.pure _
  refine playQueueItem_ends x hshown (fun t y ht => ⟨ht.1.same rfl rfl rfl rfl, ht.2⟩)
    (fun t ht => hQ t ht.1 ht.2) (fun reason => ⟨taken_marked h hw _ reason, kindOf_congr rfl⟩)
    (fun hunfit reason text => ?_) fun hunwell reason text => ?_
  · obtain ⟨hapart, hQ⟩ := hfailed hunfit
    refine hQ _ (Pacing.moved (fail_paced (f := fun q => { q with
      status := .failed, startedAt := some (env.stamp .start) }) h hw hapart (fun _ => rfl)
        fun _ => ⟨rfl, rfl⟩) (f := fun _ q => q) ⟨.of_eq rfl rfl rfl, fun id => ?_, ?_, ?_⟩)
    · change (updateQueue x.1 _ (updateQueue x.1 _ d)).queueItems[id]? = _
      rw [lookup_updateQueue, lookup_updateQueue, lookup_updateQueue, Option.map_id']
      split_ifs
      · rw [Option.map_map]
        rfl
      · rfl
    · exact fun _ _ => ⟨rfl, rfl, rfl⟩
    · exact fun _ _ _ _ hab => hab
  · have hback : Pacing w k last false s₀ d := ⟨h.toPaced, h.toSince, fun hd => by cases hd⟩
    refine hretry hunwell _ (hback.moved (f := fun id q => if id = x.1 then
      { q with startedAt := none } else q) ⟨.of_eq rfl rfl rfl, fun id => ?_, fun id q => ?_,
        fun a _ b _ hab => ?_⟩)
    · change (updateQueue x.1 _ (updateQueue x.1 _ d)).queueItems[id]? = _
      rw [lookup_updateQueue, lookup_updateQueue]
      split_ifs with hid
      · rw [hid, hrow]
        change some _ = some _
        rw [← hp]
      · rw [Option.map_id']
    · split_ifs <;> exact ⟨rfl, rfl, rfl⟩
    · rw [earlier_iff] at hab ⊢
      dsimp only
      split_ifs <;> exact hab

/-! ### Songs that are skipped -/

lemma skipDuplicates_eq_self {track : ℤ} (n : ℕ)
    (h : ∀ r ∈ (waiting w.stationId c).head?, isSongOf c track r = false) :
    skipDuplicates w track n c = c := by
  cases n with
  | zero => rfl
  | succ n =>
    have hnext := nextPending_eq_head w.stationId c
    unfold skipDuplicates
    cases hw : nextPending w.stationId c with
    | none => rfl
    | some r =>
      have hno : isSongOf c track r = false := h r (hnext ▸ hw)
      unfold isSongOf at hno
      dsimp only
      rw [hno, if_neg Bool.false_ne_true]

/-- Where no song is next, nothing is skipped. -/
lemma skipDuplicatePending_eq_self
    (h : ∀ r ∈ (waiting w.stationId c).head?, isSongOf c (lastDoneTrackId w c) r = false) :
    skipDuplicatePending w c = c := by
  unfold skipDuplicatePending
  dsimp only
  split_ifs
  · rfl
  · exact skipDuplicates_eq_self 20 h

/-- Where all are left to wait, nothing is skipped. -/
lemma skipDuplicatePending_of_unskipped (h : unskipped w c = waiting w.stationId c) :
    skipDuplicatePending w c = c := by
  by_cases hlast : 0 < lastDoneTrackId w c
  · refine skipDuplicatePending_eq_self fun r hr => ?_
    unfold unskipped at h
    rw [if_pos hlast] at h
    cases hw : waiting w.stationId c with
    | nil =>
      rw [hw] at hr
      cases hr
    | cons a l =>
      rw [hw, List.head?_cons] at hr
      obtain rfl := Option.some.inj hr
      by_contra hsong
      rw [Bool.not_eq_false] at hsong
      have hlength := congrArg List.length h
      rw [inFront, hw, List.takeWhile_cons_of_pos hsong, List.length_drop, List.length_cons,
        List.length_cons] at hlength
      omega
  · unfold skipDuplicatePending
    exact if_pos (not_lt.mp hlast)

lemma skipDuplicates_paced {track : ℤ} (n : ℕ) (h : Pacing w k none false s₀ c) :
    Pacing w k none false s₀ (skipDuplicates w track n c) := by
  induction n generalizing c with
  | zero => exact h
  | succ n ih =>
    have hnext := nextPending_eq_head w.stationId c
    unfold skipDuplicates
    cases hw : nextPending w.stationId c with
    | none => exact h
    | some r =>
      dsimp only
      split_ifs with hsong
      · obtain ⟨l, hl⟩ := List.head?_eq_some_iff.mp (hnext.symm.trans hw)
        rw [Bool.and_eq_true, decide_eq_true_eq] at hsong
        exact ih ⟨h.toPaced.skip hl (decide_eq_true hsong.1),
          h.toSince.settle (fun _ => .inl rfl) _, fun hd => by cases hd⟩
      · exact h

/-- Songs that are skipped after no jingle are none of those before which a jingle has to come. -/
lemma skip_paced (h : Pacing w k none due s₀ c) :
    Pacing w k none due s₀ (skipDuplicatePending w c) := by
  cases due with
  | false =>
    unfold skipDuplicatePending
    dsimp only
    split_ifs
    · exact h
    · exact skipDuplicates_paced 20 h
  | true =>
    rw [skipDuplicatePending_eq_self]
    · exact h
    intro r hr
    obtain ⟨l, hl⟩ := List.head?_eq_some_iff.mp hr
    have hno := (h.front rfl).head hl
    unfold songRow at hno
    unfold isSongOf
    rw [hno, Bool.false_and]

/-! ### The choice -/

/-- The pace is kept and nothing was started; or one row was, and it is no jingle after a jingle,
and no song where a jingle is due. -/
inductive Next (w : Worker) (k : ℤ) (last : Option ℤ) (due : Bool) (s₀ t : Engine) : Prop
  | idle (h : Pacing w k last false s₀ t)
  | taken (x : Row) (h : Taken w k s₀ x t)
      (hjingle : kindOf t x.2.trackId = "jingle" → last = none)
      (hsong : kindOf t x.2.trackId = "music" → due = false)

lemma Next.of_pacing {front : Bool} (h : Pacing w k last front s₀ t) : Next w k last due s₀ t :=
  .idle ⟨h.toPaced, h.toSince, fun hd => by cases hd⟩

/-- Where no row of the queue is taken, none is started. -/
lemma noRow_paced (h : Pacing w k last due s₀ d) {session : Option Session}
    {playing : Option (ℤ × QueueItem)}
    (hno : ∀ item, nextPending w.stationId d = some item → playing = none →
      hostPending w d = none → onBreak session = true) :
    Stays (Next w k last due s₀) (do
      let pending := nextPending w.stationId (← get)
      let dueAd ← nextDueAdIfAllowed w env .choiceDue
      startSource w env playing pending dueAd session) d := by
  have hborne : QueueBorne w (Pacing w k last due s₀) := queueBorne_pacing
  refine ⟨?_⟩
  rw [ends_bind, ends_get]
  refine Ends.bind (((hborne.nextDueAdIfAllowed.keeps h).and
    (Covers.sameFiles_nextDueAdIfAllowed.ends d)).mono (fun _ _ ht => ht)
      fun _ ht => .of_pacing ht.1) fun dueAd e he => ?_
  refine hborne.startSource_ends (fun _ => .of_pacing) (fun item hitem hp hhost hbreak => ?_) dueAd
    he.1
  rw [he.2.host] at hhost
  exact absurd (hbreak.symm.trans (hno item hitem hp hhost)) (by decide)

/-- Until a row is put to the runtime it stays next. -/
lemma queueBorne_next : QueueBorne w fun t => Pacing w k last due s₀ t ∧
    waiting w.stationId t = x :: l ∧
      ∀ track, kindOf t track = "jingle" ↔ kindOf c track = "jingle" := by
  refine queueBorne_of_same (fun u v hitems hshelf h => ⟨h.1.same hitems hshelf, ?_, ?_⟩)
    (fun u h => ?_) fun u item h hitem => ⟨queueBorne_pacing.complete u item h.1 hitem, ?_, ?_⟩
  · have hwaiting := (Moved.of_same hitems hshelf).waiting_eq
    rw [List.map_id'] at hwaiting
    exact hwaiting.trans h.2.1
  · exact fun track => (hshelf.jingle track).trans (h.2.2 track)
  · have hactive : listActiveOrdered w.stationId u ≠ [] := by
      intro hnone
      have hwaiting := h.2.1
      rw [waiting, hnone] at hwaiting
      cases hwaiting
    rw [ensureFilled_active hactive]
    exact h
  · obtain ⟨hrow, -, hstatus⟩ := mem_queueRows.mp
      (show (item.1, item.2) ∈ _ from List.mem_of_mem_head? hitem)
    have hplays : item.2.status = .playing := by simpa using hstatus
    rw [markQueueDone, waiting_settle (fun _ => by simp) fun q hq => ?_]
    · exact h.2.1
    · rw [← Option.some.inj (hrow.symm.trans hq), hplays]
      decide
  · exact h.2.2

/-- The row that is next is put to the runtime. -/
lemma row_paced {Q : Engine → Prop} (h : Pacing w k last due s₀ d)
    (hw : waiting w.stationId d = x :: l) (hhost : hostPending w d = none)
    {session : Option Session} (hbreak : onBreak session = false)
    (hstart : ∀ e, Pacing w k last due s₀ e → waiting w.stationId e = x :: l →
      (∀ track, kindOf e track = "jingle" ↔ kindOf d track = "jingle") → SameFiles w d e →
        Stays Q (playManagedItem w env (managedQueueItem env x)) e) :
    Stays Q (do
      let pending := nextPending w.stationId (← get)
      let dueAd ← nextDueAdIfAllowed w env .choiceDue
      startSource w env none pending dueAd session) d := by
  have hborne : QueueBorne w fun t => Pacing w k last due s₀ t ∧ waiting w.stationId t = x :: l ∧
      ∀ track, kindOf t track = "jingle" ↔ kindOf d track = "jingle" := queueBorne_next
  have hnext : nextPending w.stationId d = some x := by
    rw [nextPending_eq_head, hw]
    rfl
  refine ⟨?_⟩
  rw [ends_bind, ends_get, hnext]
  refine Ends.bind ((((hborne.nextDueAdIfAllowed.keeps ⟨h, hw, fun _ => Iff.rfl⟩).and
    (Covers.sameFiles_nextDueAdIfAllowed.ends d)).and
      (total_nextDueAdIfAllowed.ends d)).mono (fun _ _ ht => ht.1) fun _ ht => ht.2.elim)
        fun dueAd e he => ?_
  obtain ⟨⟨hpacing, hwaiting, hkinds⟩, hfiles⟩ := he
  have hfree : hostPending w e = none := hfiles.host.trans hhost
  unfold startSource
  rw [ends_bind, ends_get]
  dsimp only
  rw [hfree, hbreak]
  exact (hstart e hpacing hwaiting hkinds hfiles).ends

/-- Where it is taken, the row that is next is started, put back or fails. -/
lemma start_paced (h : Pacing w k last due s₀ d) (hw : waiting w.stationId d = x :: l)
    (hapart : startFits w env x.2 d = false → Apart (last.isSome :: l.map (jingleRow d))) :
    Stays (Next w k last due s₀) (playManagedItem w env (managedQueueItem env x)) d := by
  refine start_taken h hw (fun t ht hkind => .taken x ht (fun hj => ?_) fun hm => ?_)
    (fun hunfit => ⟨hapart hunfit, fun _ => .idle⟩) fun _ _ => .idle
  · rw [hkind] at hj
    exact h.toPaced.jingle_next hw (decide_eq_true hj)
  · rw [hkind] at hm
    by_contra hdue
    rw [Bool.not_eq_false] at hdue
    have hno : songRow d x = false := (h.front hdue).head hw
    exact absurd (hno.symm.trans (decide_eq_true hm)) (by decide)

lemma startFits_of_startsWell {r : QueueItem} (h : startsWell w env r s = true) :
    startFits w env r s = true := by
  unfold startsWell at h
  unfold startFits
  rw [Bool.and_eq_true, Bool.or_eq_true, Option.isNone_iff_eq_none] at h
  rcases h with ⟨huri, hrun | hstart⟩
  · rw [huri, hrun]
    rfl
  · rw [huri, hstart]
    simp

/-- After a jingle, where nothing is skipped. -/
lemma unskipped_paced {i : ℤ} (h : Pacing w k (some i) false s₀ c)
    (hw : waiting w.stationId c = x :: l) (hhost : hostPending w c = none)
    {session : Option Session} (hbreak : onBreak session = false)
    (hfits : startFits w env x.2 c = true ∨ ∀ r ∈ l.head?, jingleRow c r = false) :
    Stays (Next w k (some i) false s₀) (do
      let pending := nextPending w.stationId (← get)
      let dueAd ← nextDueAdIfAllowed w env .choiceDue
      startSource w env none pending dueAd session) c := by
  refine row_paced h hw hhost hbreak fun e he hwe hkinds hfiles => ?_
  refine start_paced he hwe fun hunfit => ?_
  unfold startFits at hunfit hfits
  rw [hfiles.uri] at hunfit
  have hnone := hfits.resolve_left (by rw [hunfit]; decide)
  refine List.isChain_cons.mpr ⟨fun y hy hboth => ?_, he.toPaced.apart_tail hwe⟩
  rw [List.head?_map] at hy
  obtain ⟨r, hr, rfl⟩ := Option.map_eq_some_iff.mp hy
  have hj : jingleRow c r = true :=
    decide_eq_true ((hkinds _).mp (of_decide_eq_true hboth.2))
  rw [hnone r hr] at hj
  cases hj

/-- After a jingle, where songs were skipped. -/
lemma skipped_paced {i : ℤ} (h : Pacing w k none false s₀ d)
    (hw : waiting w.stationId d = x :: l) (hhost : hostPending w d = none)
    {session : Option Session} (hbreak : onBreak session = false)
    (hj : jingleRow d x = false) (hwell : startsWell w env x.2 d = true) :
    Stays (Next w k (some i) false s₀) (do
      let pending := nextPending w.stationId (← get)
      let dueAd ← nextDueAdIfAllowed w env .choiceDue
      startSource w env none pending dueAd session) d := by
  refine row_paced h hw hhost hbreak fun e he hwe hkinds hfiles => ?_
  have hwell' : startsWell w env x.2 e = true := by
    unfold startsWell at hwell ⊢
    rwa [hfiles.uri]
  have hfits := startFits_of_startsWell hwell'
  refine start_taken he hwe (fun t ht hkind => .taken x ht (fun hkj => ?_) fun _ => rfl)
    (fun hunfit => absurd (hunfit.symm.trans hfits) (by decide))
    fun hunwell => absurd (hunwell.symm.trans hwell') (by decide)
  rw [hkind] at hkj
  exact absurd (hj.symm.trans (decide_eq_true ((hkinds _).mp hkj))) (by decide)

/-- Where nothing plays, songs are skipped and a row is taken. -/
lemma free_paced (h : Pacing w k last due s₀ c) (hdue : last.isSome = true → due = false)
    {session : Option Session} (hfits : choiceFits w env last session c = true)
    (hhost : (current w.stationId c).source ≠ .host) (hp : currentPlaying w.stationId c = none) :
    Stays (Next w k last due s₀) (do
      let pending := nextPending w.stationId (← get)
      let dueAd ← nextDueAdIfAllowed w env .choiceDue
      startSource w env none pending dueAd session) (skipDuplicatePending w c) := by
  have htakes : takesRow w c session = ((hostPending w c).isNone && !onBreak session) := by
    unfold takesRow
    rw [hp, decide_eq_true hhost]
    rfl
  have hfiles : SameFiles w c (skipDuplicatePending w c) := by
    obtain ⟨items, hs⟩ := skipDuplicatePending_eq w c
    rw [hs]
    exact .of_eq rfl rfl rfl rfl
  -- no row is taken where none may be, or where none waits
  have hidle : Pacing w k last due s₀ (skipDuplicatePending w c) →
      (takesRow w c session = true → waiting w.stationId (skipDuplicatePending w c) = []) →
        Stays (Next w k last due s₀) (do
          let pending := nextPending w.stationId (← get)
          let dueAd ← nextDueAdIfAllowed w env .choiceDue
          startSource w env none pending dueAd session) (skipDuplicatePending w c) := by
    intro hσ hnil
    refine noRow_paced hσ fun item hitem _ hfree => ?_
    by_contra hbreak
    rw [Bool.not_eq_true] at hbreak
    rw [nextPending_eq_head, hnil ?_] at hitem
    · cases hitem
    · rw [htakes, ← hfiles.host, hfree, hbreak]
      rfl
  have hfree : takesRow w c session = true →
      hostPending w (skipDuplicatePending w c) = none ∧ onBreak session = false := by
    intro htake
    rw [htakes, Bool.and_eq_true, Option.isNone_iff_eq_none, Bool.not_eq_true'] at htake
    exact ⟨hfiles.host.trans htake.1, htake.2⟩
  cases last with
  | none =>
    have hσ : Pacing w k none due s₀ (skipDuplicatePending w c) := skip_paced h
    cases hw : waiting w.stationId (skipDuplicatePending w c) with
    | nil => exact hidle hσ fun _ => hw
    | cons x l =>
      cases htake : takesRow w c session with
      | false => exact hidle hσ fun ht => absurd (htake.symm.trans ht) (by decide)
      | true =>
        obtain ⟨hnone, hbreak⟩ := hfree htake
        refine row_paced hσ hw hnone hbreak fun e he hwe _ _ => ?_
        exact start_paced he hwe fun _ => apart_false_cons.mpr (he.toPaced.apart_tail hwe)
  | some i =>
    obtain rfl := hdue rfl
    unfold choiceFits at hfits
    rw [hp, decide_eq_false hhost] at hfits
    simp only [Option.isNone_some, Option.isSome_none, Bool.or_self, Bool.false_or] at hfits
    by_cases hun : unskipped w c = waiting w.stationId c
    · rw [if_pos hun] at hfits
      have hself := skipDuplicatePending_of_unskipped hun
      rw [hself] at hidle hfree ⊢
      cases hw : waiting w.stationId c with
      | nil => exact hidle h fun _ => hw
      | cons x l =>
        cases htake : takesRow w c session with
        | false => exact hidle h fun ht => absurd (htake.symm.trans ht) (by decide)
        | true =>
          obtain ⟨hnone, hbreak⟩ := hfree htake
          rw [htake, hw] at hfits
          have hsplit : startFits w env x.2 c = true ∨
              l.head?.all (!jingleRow c ·) = true := by simpa using hfits
          refine unskipped_paced h hw hnone hbreak (hsplit.imp_right fun hall r hr => ?_)
          rw [Option.all_eq_true] at hall
          simpa using hall r hr
    · rw [if_neg hun, Bool.and_eq_true, Option.any_eq_true] at hfits
      obtain ⟨htake, x, hx, hrow⟩ := hfits
      rw [← nextPending_skipDuplicatePending, nextPending_eq_head] at hx
      obtain ⟨l, hw⟩ := List.head?_eq_some_iff.mp hx
      obtain ⟨hnone, hbreak⟩ := hfree htake
      rw [Bool.and_eq_true, Bool.not_eq_true'] at hrow
      have hσ : Pacing w k none false s₀ (skipDuplicatePending w c) :=
        skip_paced ⟨h.toPaced.forget, h.toSince, fun hd => by cases hd⟩
      refine skipped_paced hσ hw hnone hbreak ?_ ?_
      · obtain ⟨items, hs⟩ := skipDuplicatePending_eq w c
        rw [hs]
        exact hrow.1
      · unfold startsWell
        rw [hfiles.uri]
        exact hrow.2

/-- **The choice keeps the pace.** -/
theorem choice_paced (h : Pacing w k last due s₀ c) (hdue : last.isSome = true → due = false)
    {session : Option Session} (hfits : choiceFits w env last session c = true) :
    Stays (Next w k last due s₀) (startNext w env session) c := by
  refine ⟨?_⟩
  unfold startNext
  rw [ends_bind, ends_get]
  by_cases hhost : (current w.stationId c).source = .host
  · rw [if_pos hhost]
    exact .of_pacing h
  rw [if_neg hhost, ends_bind, ends_get]
  dsimp only
  cases hp : currentPlaying w.stationId c with
  | none => exact (free_paced h hdue hfits hhost hp).ends
  | some playing => exact (noRow_paced h fun _ _ hnone => by cases hnone).ends

/-! ### Ticks -/

/-- The phases after the sweeper keep the pace. -/
lemma late_paced (phase : Phase) (hp : phase ∈ others.tail) (s : Engine)
    (h : Pacing w k last due s₀ s) (hfits : phaseFits w env k last due phase s = true) :
    Stays (Pacing w k last due s₀) (phase.run w env) s := by
  have hborne : QueueBorne w (Pacing w k last due s₀) := queueBorne_pacing
  cases phase with
  | startupSound | crossStation | autofill | sweep => simp [others] at hp
  | announce => exact announce_paced h hfits
  | advance => exact .of_moves advance_paced h
  | ad => exact .of_moves hborne.advancePlayingAdItem h
  | adPolicy => exact .of_moves hborne.failDisabledActiveAds h
  | hourlyAds => exact .of_moves hborne.ensureHourlyAdBreak h

lemma rest_eq : rest = .crossStation :: .autofill :: .sweep :: others.tail := rfl

/-- The phases up to the sweeper keep the pace, the sweeper puts a jingle in front where one is due,
and those after it keep that. -/
lemma phases_paced (h : Pacing w k last false s₀ s) {fits : Engine → Prop}
    (hon : Onward (Phase.run w env) (fun phase s => phaseFits w env k last due phase s = true)
      fits rest s) :
    EndsIn (rest.forM (Phase.run w env)) s (fun t => Pacing w k last due s₀ t ∧ fits t)
      (Next w k last due s₀) := by
  have hnext : ∀ front t, Pacing w k last front s₀ t → Next w k last due s₀ t :=
    fun _ _ => .of_pacing
  rw [rest_eq] at hon ⊢
  refine EndsIn.step hon (fun hfits => endsIn_of_stays (quarantine_paced h hfits) (hnext false))
    fun t ht hon => ?_
  refine EndsIn.step hon (fun _ => endsIn_of_stays (.of_moves autofillQueue_paced ht) (hnext false))
    fun u hu hon => ?_
  refine EndsIn.step hon (fun hfits => endsIn_of_stays (sweep_paced hu hfits) (hnext due))
    fun v hv hon => ?_
  generalize hlate : others.tail = late at hon ⊢
  refine ⟨?_⟩
  have htail : Ends (late.forM (Phase.run w env)) v
      (fun _ t => Pacing w k last due s₀ t ∧ fits t) (Pacing w k last due s₀) :=
    hon.ends (fun phase hp s hs hfits => (late_paced phase (hlate ▸ hp) s hs hfits).ends) hv
  exact htail.mono (fun _ _ ht => ht) (hnext due)

/-- From the startup sound on, a tick keeps the pace. -/
lemma goOn_paced (h : Pacing w k last false s₀ s) (hdue : last.isSome = true → due = false)
    {session : Option Session}
    (hon : Onward (Phase.run w env) (fun phase s => phaseFits w env k last due phase s = true)
      (fun s => endFits w env last session s = true) rest s) :
    Stays (Next w k last due s₀) (goOn w env session) s := by
  refine ⟨?_⟩
  unfold goOn
  refine (phases_paced h hon).ends.bind fun _ t ht => ?_
  have hborne : QueueBorne w (Pacing w k last due s₀) := queueBorne_pacing
  refine ((hborne.advanceHostTrack.keeps ht.1).mono (fun _ _ hc => hc)
    fun _ => .of_pacing).bindEq fun _ c hc hpacing => ?_
  have hfits := ht.2
  unfold endFits at hfits
  rw [hc] at hfits
  exact (choice_paced hpacing hdue hfits).ends

/-- A tick keeps the pace. -/
theorem tick_paced {p : Rotation} (h : Paced w k (lastJingle p) p.engine)
    (hdue : (lastJingle p).isSome = true → jingleIsDue k p = false) (hkept : PaceKept w k p env)
    (ht : tick w p.engine env = some t) :
    Next w k (lastJingle p) (jingleIsDue k p) p.engine t := by
  have hborne : QueueBorne w (Pacing w k (lastJingle p) false p.engine) := queueBorne_pacing
  have hstart : Pacing w k (lastJingle p) false p.engine p.engine :=
    ⟨h, .refl w _, fun hd => by cases hd⟩
  rcases tick_cases hborne.toShows (hborne.tryAcquire p.engine _) ht with
    ⟨-, hR⟩ | ⟨u, hat, hR, hgo⟩
  · exact .of_pacing (hR hstart)
  · obtain ⟨hsound, hon⟩ := hkept u hat
    have hinsert := endsIn_of_stays (sound_paced (hR hstart) hsound) fun _ hv => hv
    rcases hinsert.cases with ⟨v, hv, hpacing⟩ | ⟨e, v, hv, hpacing⟩
    · exact hgo.inserted v hv _ (goOn_paced hpacing hdue (hon v (afterSound_ok hv)))
    · rw [hgo.raised e v hv]
      exact .of_pacing hpacing

/-! ### Runs -/

/-- The queue is paced from the row on that was started last, and the rows were started in
cadence. -/
structure Rotating (w : Worker) (k : ℤ) (p : Rotation) : Prop where
  paced : Paced w k (lastJingle p) p.engine
  cadence : InCadence k (kindsOf p)

lemma getLast_kindsOf (p : Rotation) : (kindsOf p).getLast? = p.starts.getLast?.map Prod.snd := by
  rw [kindsOf, List.getLast?_map]

lemma lastJingle_isSome {p : Rotation} :
    (lastJingle p).isSome = true ↔ (kindsOf p).getLast? = some "jingle" := by
  rw [getLast_kindsOf, lastJingle]
  cases p.starts.getLast? with
  | none => simp
  | some x =>
    unfold ifJingle
    rw [Option.bind_some, Option.map_some, Option.some.injEq]
    split_ifs with hj <;> simp [hj]

lemma lastJingle_concat (starts : List (ℤ × String)) (y : ℤ × String) :
    lastJingle ⟨t, starts ++ [y]⟩ = ifJingle y.1 y.2 := by
  rw [lastJingle, List.getLast?_concat, Option.bind_some]

lemma kindsOf_concat (p : Rotation) (y : ℤ × String) :
    kindsOf ⟨t, p.starts ++ [y]⟩ = kindsOf p ++ [y.2] := List.map_append

/-- No jingle is due after a jingle. -/
lemma due_of_last {p : Rotation} (hk : 0 < k) (h : (lastJingle p).isSome = true) :
    jingleIsDue k p = false := by
  obtain ⟨kinds, hkinds⟩ := List.getLast?_eq_some_iff.mp (lastJingle_isSome.mp h)
  unfold jingleIsDue
  rw [hkinds, songsSince_jingle]
  simp [hk]

lemma rotating_tick {p p' : Rotation} (h : Rotating w k p) (hkept : PaceKept w k p env)
    (ht : rotate w p env = some p') : Rotating w k p' := by
  obtain ⟨t, htick, rfl⟩ := Option.map_eq_some_iff.mp ht
  have hk : 0 < k := h.paced.toLaid.pos
  cases tick_paced h.paced (due_of_last hk) hkept htick with
  | idle hidle =>
    have hnone : startsOf w p.engine t = [] := by
      rw [startsOf, begun_eq_nil hidle.begins]
      rfl
    rw [hnone, List.append_nil]
    exact ⟨hidle.toPaced, h.cadence⟩
  | taken x htaken hjingle hsong =>
    rw [htaken.starts]
    constructor
    · rw [lastJingle_concat]
      exact htaken.toPaced
    · rw [kindsOf_concat]
      refine h.cadence.concat hk.le (fun hj hlast => ?_) fun hm hmem => ?_
      · have hnone := hjingle hj
        rw [← lastJingle_isSome, hnone] at hlast
        cases hlast
      · have hdue := hsong hm
        unfold jingleIsDue at hdue
        rw [decide_eq_true hmem, Bool.true_and, decide_eq_false_iff_not, not_le] at hdue
        exact hdue

/-- An empty queue is paced. -/
lemma paced_of_empty (hempty : ∀ (id : ℤ) (q : QueueItem), s.queueItems[id]? = some q →
      q.stationId ≠ w.stationId)
    (hsweeper : sweeperSettings w.stationId s = .ok ⟨true, k, .tracks⟩)
    (hlibrary : eligible w.stationId s ≠ []) : Paced w k none s := by
  have hnone : waiting w.stationId s = [] := List.eq_nil_iff_forall_not_mem.mpr fun r hr => by
    obtain ⟨hrow, hst, -⟩ := mem_waiting.mp hr
    exact hempty r.1 r.2 hrow hst
  refine ⟨⟨hsweeper, hlibrary, fun a ha => ?_, fun a ha => ?_⟩, ?_, fun _ hi => by cases hi⟩
  · rw [hnone] at ha
    cases ha
  · rw [hnone] at ha
    cases ha
  · rw [marks, hnone]
    exact List.isChain_singleton _

/-- **Jingles and songs are in cadence** in every run from an empty queue in which each tick keeps
the pace. -/
theorem sweeper_cadence {envs : List Env} {p : Rotation}
    (hempty : ∀ (id : ℤ) (q : QueueItem), s.queueItems[id]? = some q → q.stationId ≠ w.stationId)
    (hsweeper : sweeperSettings w.stationId s = .ok ⟨true, k, .tracks⟩)
    (hlibrary : eligible w.stationId s ≠ [])
    (hm : Meets (rotate w) (fun p env => PaceKept w k p env) ⟨s, []⟩ envs)
    (he : exec (rotate w) ⟨s, []⟩ envs = some p) : Cadence k (kindsOf p) :=
  (inv_of_exec (P := Rotating w k) (fun _ _ _ h hkept ht => rotating_tick h hkept ht)
    (show Rotating w k ⟨s, []⟩ from
      ⟨paced_of_empty hempty hsweeper hlibrary, inCadence_nil k⟩) hm he).cadence.toCadence

/-! ### Out of cadence -/

/-- A library of one jingle and some songs, and how many songs make a jingle due. -/
def smallLibrary (songs : List ℤ) (interval : String) : Engine :=
  { Engine.empty with
    tracks := songs.foldl (fun t id => t.insert id
      ⟨1, "", "", "/song.mp3", 200, "music", true, false, 0, none⟩)
        (Engine.empty.tracks.insert 1
          ⟨1, "", "", "/jingle.mp3", 10, "jingle", true, true, 0, none⟩)
    stationSettings := Engine.empty.stationSettings.insert 1
      (((∅ : Std.ExtTreeMap String String).insert "sweeper_enabled" "true").insert
        "sweeper_interval" interval) }

lemma smallLibrary_empty (songs : List ℤ) (interval : String) (id : ℤ) (q : QueueItem)
    (h : (smallLibrary songs interval).queueItems[id]? = some q) :
    q.stationId ≠ soleWorker.stationId := by
  change (∅ : Table QueueItem)[id]? = some q at h
  simp at h

/-- With two songs and an interval of three, four songs come between two jingles; with one song and
an interval of one, a jingle comes after a jingle. -/
theorem sweeper_cadence_fails :
    (∃ p, exec (rotate soleWorker) ⟨smallLibrary [2, 3] "3", []⟩
        ([100, 400, 700, 1000, 1300, 1600, 1900, 2200, 2500].map silentWorld) = some p ∧
      sweeperSettings 1 (smallLibrary [2, 3] "3") = .ok ⟨true, 3, .tracks⟩ ∧
      eligible 1 (smallLibrary [2, 3] "3") ≠ [] ∧ ¬ Cadence 3 (kindsOf p)) ∧
    ∃ p, exec (rotate soleWorker) ⟨smallLibrary [2] "1", []⟩
        ([100, 400, 700].map silentWorld) = some p ∧
      sweeperSettings 1 (smallLibrary [2] "1") = .ok ⟨true, 1, .tracks⟩ ∧
      eligible 1 (smallLibrary [2] "1") ≠ [] ∧ ¬ Cadence 1 (kindsOf p) := by
  have hsongs : (exec (rotate soleWorker) ⟨smallLibrary [2, 3] "3", []⟩
      ([100, 400, 700, 1000, 1300, 1600, 1900, 2200, 2500].map silentWorld)).map kindsOf =
        some ["music", "music", "music", "jingle", "music", "music", "music", "music", "jingle"] :=
    by decide +kernel
  have hjingles : (exec (rotate soleWorker) ⟨smallLibrary [2] "1", []⟩
      ([100, 400, 700].map silentWorld)).map kindsOf = some ["music", "jingle", "jingle"] := by
    decide +kernel
  obtain ⟨p, hp, hkinds⟩ := Option.map_eq_some_iff.mp hsongs
  obtain ⟨q, hq, hkinds'⟩ := Option.map_eq_some_iff.mp hjingles
  refine ⟨⟨p, hp, by decide +kernel, by decide +kernel, fun h => ?_⟩,
    q, hq, by decide +kernel, by decide +kernel, fun h => ?_⟩
  · have hcount := h.songs ["music", "music", "music"] ["music", "music", "music", "music"] []
      hkinds (by decide)
    exact absurd hcount (by decide)
  · rw [hkinds'] at h
    exact absurd h.apart (by decide)

/-- With three songs and an interval of two, a jingle comes after every two songs. -/
theorem sweeper_cadence_smallLibrary : ∃ p, exec (rotate soleWorker)
    ⟨smallLibrary [2, 3, 4] "2", []⟩ ([100, 400, 700, 1000, 1300, 1600].map silentWorld) = some p ∧
      Cadence 2 (kindsOf p) :=
  ⟨_, rfl, sweeper_cadence (smallLibrary_empty _ _)
    (show sweeperSettings 1 (smallLibrary [2, 3, 4] "2") = .ok ⟨true, 2, .tracks⟩ by
      decide +kernel)
    (show eligible 1 (smallLibrary [2, 3, 4] "2") ≠ [] by decide +kernel)
    (show Meets (rotate soleWorker) (fun p env => PaceKept soleWorker 2 p env)
      ⟨smallLibrary [2, 3, 4] "2", []⟩
        ([100, 400, 700, 1000, 1300, 1600].map silentWorld) by decide +kernel) rfl⟩

end OnAir.SweeperCadence
