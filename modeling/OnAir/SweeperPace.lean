import OnAir.QueueRefill
import OnAir.QueueStarts

/-!
A queue in which jingles stand apart.

Once a jingle was started, no song with a larger id may have been heard before it; else the rows
that were played do not tell how many songs there were since. What is put behind all others keeps
this, and what is put in front.
-/

namespace OnAir.SweeperPace

open BroadcastQueue CalmPhases Interleaving PlayoutTables Programs QueueOrder QueueRefill
  SettingsAhead StationWorker OnAir.Table WaitingRows WorkerEnv

open ActiveRows (Row)
open SettingsText (mem_queueRows)
open StartupSound (lookup_updateQueue queuePlays_insert queuePlays_settle settled_ne)

/-! ### Marks that stand apart -/

/-- No two that are marked come together. -/
def Apart (l : List Bool) : Prop := l.IsChain fun a b => ¬ (a = true ∧ b = true)

instance : DecidablePred Apart := fun l => by
  unfold Apart
  infer_instance

lemma Apart.tail {a : Bool} {l : List Bool} (h : Apart (a :: l)) : Apart l :=
  (List.isChain_cons.mp h).2

lemma apart_false_cons {l : List Bool} : Apart (false :: l) ↔ Apart l := by
  unfold Apart
  rw [List.isChain_cons]
  simp

lemma apart_concat {l : List Bool} {b : Bool} (h : Apart l)
    (hb : b = true → l.getLast? ≠ some true) : Apart (l ++ [b]) := by
  refine List.isChain_append.mpr ⟨h, List.isChain_singleton b, fun x hx y hy hboth => ?_⟩
  obtain ⟨rfl, rfl⟩ := hboth
  exact hb (Option.some.inj hy) hx

lemma apart_insert_false {l₁ l₂ : List Bool} (h : Apart (l₁ ++ l₂)) :
    Apart (l₁ ++ false :: l₂) := by
  obtain ⟨h₁, h₂, -⟩ := List.isChain_append.mp h
  refine List.isChain_append.mpr ⟨h₁, apart_false_cons.mpr h₂, fun x _ y hy hboth => ?_⟩
  obtain rfl : false = y := Option.some.inj hy
  exact absurd hboth.2 (by decide)

/-! ### Rows and their kinds -/

def jingleRow (s : Engine) (r : Row) : Bool := kindOf s r.2.trackId = "jingle"

def songRow (s : Engine) (r : Row) : Bool := kindOf s r.2.trackId = "music"

lemma songRow_of_jingleRow {s : Engine} {r : Row} (h : jingleRow s r = true) :
    songRow s r = false := by
  unfold jingleRow at h
  unfold songRow
  rw [of_decide_eq_true h]
  decide

lemma kindOf_congr {s t : Engine} (h : t.tracks = s.tracks) : kindOf t = kindOf s := by
  unfold kindOf trackTypeOf
  rw [h]

lemma jingleRow_congr {s t : Engine} {a b : Row} (h : t.tracks = s.tracks)
    (htrack : b.2.trackId = a.2.trackId) : jingleRow t b = jingleRow s a := by
  unfold jingleRow
  rw [kindOf_congr h, htrack]

lemma songRow_congr {s t : Engine} {a b : Row} (h : t.tracks = s.tracks)
    (htrack : b.2.trackId = a.2.trackId) : songRow t b = songRow s a := by
  unfold songRow
  rw [kindOf_congr h, htrack]

/-- The row was started, and did not fail. -/
def Heard (q : QueueItem) : Prop := q.status = .playing ∨ q.status = .done

lemma not_heard_of_pending {q : QueueItem} (h : q.status = .pending) : ¬ Heard q := by
  unfold Heard
  rw [h]
  decide

/-- Whether the row that was started last is a jingle, and whether those that wait are. -/
def marks (w : Worker) (last : Option ℤ) (s : Engine) : List Bool :=
  last.isSome :: (waiting w.stationId s).map (jingleRow s)

/-- No song with a larger id was heard, or waits before the row. -/
def Ahead (w : Worker) (s : Engine) (a : Row) : Prop :=
  ∀ (id : ℤ) (q : QueueItem), s.queueItems[id]? = some q → q.stationId = w.stationId →
    songRow s (id, q) = true → a.1 < id → ¬ Heard q ∧ (q.status = .pending → Earlier a (id, q))

/-- The row is a jingle that was heard, and no song with a larger id was. -/
structure HeardLast (w : Worker) (s : Engine) (i : ℤ) : Prop where
  row : ∃ q, s.queueItems[i]? = some q ∧ q.stationId = w.stationId ∧ Heard q ∧
    jingleRow s (i, q) = true ∧ sqlKindOf s q.trackId = "jingle"
  songs : ∀ (id : ℤ) (q : QueueItem), s.queueItems[id]? = some q → q.stationId = w.stationId →
    songRow s (id, q) = true → i < id → ¬ Heard q

/-- A jingle is due after `k` songs, there are jingles, and those that wait are ahead. -/
structure Laid (w : Worker) (k : ℤ) (s : Engine) : Prop where
  sweeper : sweeperSettings w.stationId s = .ok ⟨true, k, .tracks⟩
  library : eligible w.stationId s ≠ []
  plain : ∀ a ∈ waiting w.stationId s, jingleRow s a = true → sqlKindOf s a.2.trackId = "jingle"
  ahead : ∀ a ∈ waiting w.stationId s, jingleRow s a = true → Ahead w s a

/-- And jingles stand apart, from the row that was started last on. -/
structure Paced (w : Worker) (k : ℤ) (last : Option ℤ) (s : Engine) : Prop extends Laid w k s where
  apart : Apart (marks w last s)
  last : ∀ i ∈ last, HeardLast w s i

/-- A jingle waits before all songs. -/
def Fronted (w : Worker) (s : Engine) : Prop :=
  ∃ a ∈ waiting w.stationId s, jingleRow s a = true ∧
    ∀ b ∈ waiting w.stationId s, songRow s b = true → Earlier a b

/-! ### What the library may change -/

/-- The settings of the sweeper are the same, and jingles stay what they are. -/
structure Shelf (w : Worker) (s t : Engine) : Prop where
  texts : SameTexts tickKeys w s t
  library : eligible w.stationId s ≠ [] → eligible w.stationId t ≠ []
  jingle : ∀ track, kindOf t track = "jingle" ↔ kindOf s track = "jingle"
  plain : ∀ track, sqlKindOf s track = "jingle" → sqlKindOf t track = "jingle"
  song : ∀ track, kindOf t track = "music" → kindOf s track = "music"

instance (w : Worker) : IsPreorder Engine (Shelf w) where
  refl s := ⟨refl_of (SameTexts tickKeys w) s, id, fun _ => Iff.rfl, fun _ => id, fun _ => id⟩
  trans _ _ _ h h' := ⟨trans_of (SameTexts tickKeys w) h.texts h'.texts,
    fun hl => h'.library (h.library hl), fun track => (h'.jingle track).trans (h.jingle track),
    fun track hp => h'.plain track (h.plain track hp),
    fun track hm => h.song track (h'.song track hm)⟩

variable {w : Worker} {k : ℤ} {last : Option ℤ} {s t : Engine} {id : ℤ}

lemma mem_eligible {st track : ℤ} : track ∈ eligible st s ↔ ∃ r, s.tracks[track]? = some r ∧
    r.stationId = st ∧ r.isActive = true ∧ Sql.lower r.trackType = "jingle" ∧ r.filePath ≠ "" := by
  unfold eligible playable
  simp only [List.mem_map, List.mem_filter, Prod.exists, mem_rows, Bool.and_eq_true,
    decide_eq_true_eq, List.not_mem_nil, decide_false, Bool.and_false, Bool.not_false, and_true,
    and_assoc]
  simp

/-- The texts are the same, and each track keeps what makes it a jingle. -/
lemma shelf_of_tracks (htexts : SameTexts tickKeys w s t)
    (htracks : ∀ id : ℤ, t.tracks[id]?.map (fun r => (r.stationId, r.isActive, r.trackType,
      r.filePath)) = s.tracks[id]?.map fun r => (r.stationId, r.isActive, r.trackType,
        r.filePath)) : Shelf w s t := by
  have htype : trackTypeOf t = trackTypeOf s := by
    funext track
    have h := congrArg (Option.map fun x : ℤ × Bool × String × String => x.2.2.1) (htracks track)
    rw [Option.map_map, Option.map_map] at h
    unfold trackTypeOf
    exact congrArg (Option.getD · "music") h
  have hkind : kindOf t = kindOf s := by
    unfold kindOf
    rw [htype]
  refine ⟨htexts, fun hlib => ?_, fun _ => by rw [hkind], fun _ h => ?_, fun _ h => hkind ▸ h⟩
  · obtain ⟨track, htrack⟩ := List.exists_mem_of_ne_nil _ hlib
    obtain ⟨r, hr, hok⟩ := mem_eligible.mp htrack
    have h := htracks track
    rw [hr, Option.map_some] at h
    obtain ⟨r', hr', heq⟩ := Option.map_eq_some_iff.mp h
    refine List.ne_nil_of_mem (mem_eligible.mpr ⟨r', hr', ?_⟩)
    simp only [Prod.mk.injEq] at heq
    rw [heq.1, heq.2.1, heq.2.2.1, heq.2.2.2]
    exact hok
  · unfold sqlKindOf at h ⊢
    rw [htype]
    exact h

lemma Shelf.of_eq (htracks : t.tracks = s.tracks)
    (hsettings : t.stationSettings = s.stationSettings)
    (hsystem : t.systemSettings = s.systemSettings) : Shelf w s t :=
  shelf_of_tracks (.of_eq hsettings hsystem) fun id => by rw [htracks]

lemma shelf_upsertSetting {key : String} (hkey : key ∈ tickKeys) (value : String) (s : Engine) :
    Shelf w s (upsertSetting w.stationId key value s) :=
  shelf_of_tracks (sameTexts_upsertSetting hkey _ _ s) fun _ => rfl

lemma shelf_modify {f : Track → Track} (hf : ∀ r, (f r).stationId = r.stationId ∧
    (f r).isActive = r.isActive ∧ (f r).trackType = r.trackType ∧ (f r).filePath = r.filePath)
    (track : ℤ) (s : Engine) : Shelf w s { s with tracks := s.tracks.modify track f } := by
  refine shelf_of_tracks (.of_eq rfl rfl) fun id => ?_
  dsimp only
  rw [lookup_modify]
  split_ifs
  · rw [Option.map_map]
    refine congrArg (Option.map · _) (funext fun r => ?_)
    obtain ⟨h₁, h₂, h₃, h₄⟩ := hf r
    simp only [Function.comp, h₁, h₂, h₃, h₄]
  · rfl

lemma shelf_markPlayed (track now : ℤ) (s : Engine) : Shelf w s (markPlayed track now s) :=
  shelf_modify (f := fun t => { t with playCount := t.playCount + 1, lastPlayedAt := some now })
    (fun _ => ⟨rfl, rfl, rfl, rfl⟩) track s

lemma Shelf.jingleRow (h : Shelf w s t) {a b : Row} (htrack : b.2.trackId = a.2.trackId) :
    SweeperPace.jingleRow t b = SweeperPace.jingleRow s a := by
  unfold SweeperPace.jingleRow
  rw [htrack]
  exact decide_eq_decide.mpr (h.jingle _)

lemma Shelf.songRow (h : Shelf w s t) {a b : Row} (htrack : b.2.trackId = a.2.trackId)
    (hb : SweeperPace.songRow t b = true) : SweeperPace.songRow s a = true := by
  unfold SweeperPace.songRow at hb ⊢
  rw [htrack] at hb
  exact decide_eq_true (h.song _ (of_decide_eq_true hb))

lemma Shelf.sweeper (h : Shelf w s t) :
    sweeperSettings w.stationId t = sweeperSettings w.stationId s :=
  h.texts.sweeperSettings (List.Subset.refl _)

/-! ### Changes of the queue -/

/-- Rows keep what they are, and those that wait their order. -/
structure Moved (w : Worker) (f : ℤ → QueueItem → QueueItem) (s t : Engine) : Prop
    extends Shelf w s t where
  rows : ∀ id : ℤ, t.queueItems[id]? = s.queueItems[id]?.map (f id)
  same : ∀ id q, (f id q).stationId = q.stationId ∧ (f id q).trackId = q.trackId ∧
    (f id q).status = q.status
  order : ∀ a ∈ waiting w.stationId s, ∀ b ∈ waiting w.stationId s, Earlier a b →
    Earlier (a.1, f a.1 a.2) (b.1, f b.1 b.2)

namespace Moved

variable {f : ℤ → QueueItem → QueueItem}

lemma of_same (ht : t.queueItems = s.queueItems) (hs : Shelf w s t) :
    Moved w (fun _ q => q) s t :=
  ⟨hs, fun id => by rw [ht, Option.map_id'], fun _ _ => ⟨rfl, rfl, rfl⟩, fun _ _ _ _ h => h⟩

lemma waiting_eq (h : Moved w f s t) :
    waiting w.stationId t = (waiting w.stationId s).map fun r => (r.1, f r.1 r.2) :=
  waiting_map h.rows (fun id q => ⟨(h.same id q).1, (h.same id q).2.2⟩) h.order

lemma marks_eq (h : Moved w f s t) (last : Option ℤ) : marks w last t = marks w last s := by
  have hrow : ∀ r : Row, SweeperPace.jingleRow t (r.1, f r.1 r.2) = SweeperPace.jingleRow s r :=
    fun r => @Shelf.jingleRow w s t h.toShelf r (r.1, f r.1 r.2) (h.same r.1 r.2).2.1
  rw [marks, marks, h.waiting_eq, List.map_map]
  exact congrArg (last.isSome :: ·) (List.map_congr_left fun r _ =>
    Function.comp_apply.trans (hrow r))

lemma row (h : Moved w f s t) {q : QueueItem} (hq : t.queueItems[id]? = some q) :
    ∃ q₀, s.queueItems[id]? = some q₀ ∧ f id q₀ = q :=
  Option.map_eq_some_iff.mp ((h.rows id).symm.trans hq)

lemma heard (h : Moved w f s t) (id : ℤ) (q : QueueItem) : Heard (f id q) ↔ Heard q := by
  unfold Heard
  rw [(h.same id q).2.2]

end Moved

lemma Laid.moved (h : Laid w k s) {f : ℤ → QueueItem → QueueItem} (hm : Moved w f s t) :
    Laid w k t where
  sweeper := hm.sweeper.trans h.sweeper
  library := hm.library h.library
  plain a ha hj := by
    rw [hm.waiting_eq] at ha
    obtain ⟨r, hr, rfl⟩ := List.mem_map.mp ha
    have htrack := (hm.same r.1 r.2).2.1
    have hplain := hm.plain _ (h.plain r hr ((hm.jingleRow htrack).symm.trans hj))
    rwa [← htrack] at hplain
  ahead a ha hj := by
    rw [hm.waiting_eq] at ha
    obtain ⟨r, hr, rfl⟩ := List.mem_map.mp ha
    intro id q hq hst hsong hlt
    obtain ⟨q₀, hq₀, rfl⟩ := hm.row hq
    obtain ⟨hstation, htrack, hstatus⟩ := hm.same id q₀
    have hrow := h.ahead r hr ((hm.jingleRow (hm.same r.1 r.2).2.1).symm.trans hj) id q₀ hq₀
      (hstation.symm.trans hst) (hm.songRow htrack hsong) hlt
    refine ⟨mt (hm.heard id q₀).mp hrow.1, fun hp => ?_⟩
    rw [hstatus] at hp
    exact hm.order r hr (id, q₀) (mem_waiting.mpr ⟨hq₀, hstation.symm.trans hst, hp⟩)
      (hrow.2 hp)

/-- What waits is not the row that was started last. -/
lemma HeardLast.ne {i : ℤ} (h : HeardLast w s i) {r : QueueItem}
    (hr : s.queueItems[id]? = some r) (hp : r.status = .pending) : i ≠ id := by
  rintro rfl
  obtain ⟨q, hq, -, hheard, -⟩ := h.row
  rw [← Option.some.inj (hr.symm.trans hq)] at hheard
  exact not_heard_of_pending hp hheard

lemma HeardLast.moved {i : ℤ} (h : HeardLast w s i) {f : ℤ → QueueItem → QueueItem}
    (hm : Moved w f s t) : HeardLast w t i := by
  obtain ⟨q, hq, hst, hheard, hj, hplain⟩ := h.row
  obtain ⟨hstation, htrack, -⟩ := hm.same i q
  refine ⟨⟨f i q, by rw [hm.rows, hq]; rfl, hstation.trans hst, (hm.heard i q).mpr hheard,
    (hm.jingleRow htrack).trans hj, ?_⟩, fun id q hq hst hsong hlt => ?_⟩
  · rw [htrack]
    exact hm.plain _ hplain
  · obtain ⟨q₀, hq₀, rfl⟩ := hm.row hq
    obtain ⟨hstation, htrack, -⟩ := hm.same id q₀
    exact mt (hm.heard id q₀).mp (h.songs id q₀ hq₀ (hstation.symm.trans hst)
      (hm.songRow htrack hsong) hlt)

lemma Paced.moved (h : Paced w k last s) {f : ℤ → QueueItem → QueueItem} (hm : Moved w f s t) :
    Paced w k last t :=
  ⟨h.toLaid.moved hm, (hm.marks_eq last).symm ▸ h.apart, fun i hi => (h.last i hi).moved hm⟩

lemma Fronted.moved (h : Fronted w s) {f : ℤ → QueueItem → QueueItem} (hm : Moved w f s t) :
    Fronted w t := by
  obtain ⟨a, ha, hj, hfirst⟩ := h
  refine ⟨(a.1, f a.1 a.2), ?_, (hm.jingleRow (hm.same a.1 a.2).2.1).trans hj, fun b hb hsong => ?_⟩
  · rw [hm.waiting_eq]
    exact List.mem_map_of_mem (f := fun r : Row => (r.1, f r.1 r.2)) ha
  · rw [hm.waiting_eq] at hb
    obtain ⟨r, hr, rfl⟩ := List.mem_map.mp hb
    exact hm.order a ha r hr (hfirst r hr (hm.songRow (hm.same r.1 r.2).2.1 hsong))

/-! ### New rows -/

section Insert

variable {r : QueueItem}

lemma mem_waiting_insert {a : Row} (ha : a ∈ waiting w.stationId (insertQueue r s)) :
    a = (nextId s.queueItems, r) ∨ a ∈ waiting w.stationId s := by
  obtain ⟨hrow, hrest⟩ := mem_waiting.mp ha
  rw [insertQueue, lookup_insert] at hrow
  split_ifs at hrow with hid
  · exact .inl (Prod.ext hid (Option.some.inj hrow).symm)
  · exact .inr (mem_waiting.mpr ⟨hrow, hrest⟩)

/-- A new row that waits; if it is a song, then behind all jingles. -/
lemma Laid.insert (h : Laid w k s) (hp : r.status = .pending)
    (hplain : jingleRow s (nextId s.queueItems, r) = true → sqlKindOf s r.trackId = "jingle")
    (hsong : songRow s (nextId s.queueItems, r) = true →
      ∀ a ∈ waiting w.stationId s, jingleRow s a = true → Earlier a (nextId s.queueItems, r)) :
    Laid w k (insertQueue r s) where
  sweeper := h.sweeper
  library := h.library
  plain a ha hj := by
    rcases mem_waiting_insert ha with rfl | ha
    · exact hplain hj
    · exact h.plain a ha hj
  ahead a ha hj id q hq hst hq' hlt := by
    rw [insertQueue, lookup_insert] at hq
    split_ifs at hq with hid
    · obtain rfl := Option.some.inj hq
      subst hid
      refine ⟨not_heard_of_pending hp, fun _ => ?_⟩
      rcases mem_waiting_insert ha with rfl | ha
      · exact absurd hlt (lt_irrefl _)
      · exact hsong hq' a ha hj
    · rcases mem_waiting_insert ha with rfl | ha
      · exact absurd (lt_nextId hq) hlt.asymm
      · exact h.ahead a ha hj id q hq hst hq' hlt

lemma HeardLast.insert {i : ℤ} (h : HeardLast w s i) (hp : r.status = .pending) :
    HeardLast w (insertQueue r s) i := by
  obtain ⟨q, hq, hrest⟩ := h.row
  refine ⟨⟨q, ?_, hrest⟩, fun id q hq hst hsong hlt => ?_⟩
  · rw [insertQueue, lookup_insert, if_neg (lt_nextId hq).ne]
    exact hq
  · rw [insertQueue, lookup_insert] at hq
    split_ifs at hq
    · obtain rfl := Option.some.inj hq
      exact not_heard_of_pending hp
    · exact h.songs id q hq hst hsong hlt

/-- A new row that is no jingle parts no two that stand apart. -/
lemma apart_insert_other (h : Apart (marks w last s)) (hst : r.stationId = w.stationId)
    (hp : r.status = .pending) (hj : jingleRow s (nextId s.queueItems, r) = false) :
    Apart (marks w last (insertQueue r s)) := by
  obtain ⟨l₁, l₂, hold, hnew⟩ := waiting_insert (s := s) hst hp
  unfold marks at h ⊢
  rw [hold, List.map_append, ← List.cons_append] at h
  rw [hnew, List.map_append, ← List.cons_append, List.map_cons]
  change Apart (_ ++ jingleRow s (nextId s.queueItems, r) :: _)
  rw [hj]
  exact apart_insert_false h

lemma marks_append (hst : r.stationId = w.stationId) (hp : r.status = .pending)
    (hbeyond : Beyond w.stationId s r.position) : marks w last (insertQueue r s) =
      marks w last s ++ [jingleRow s (nextId s.queueItems, r)] := by
  unfold marks
  rw [waiting_append hst hp hbeyond, List.map_append, ← List.cons_append]
  rfl

/-- A new row that is no jingle; if it is a song, then behind all jingles. -/
lemma Paced.insertOther (h : Paced w k last s) (hst : r.stationId = w.stationId)
    (hp : r.status = .pending) (hj : jingleRow s (nextId s.queueItems, r) = false)
    (hsong : songRow s (nextId s.queueItems, r) = true →
      ∀ a ∈ waiting w.stationId s, jingleRow s a = true → Earlier a (nextId s.queueItems, r)) :
    Paced w k last (insertQueue r s) :=
  ⟨h.toLaid.insert hp (fun hj' => absurd (hj.symm.trans hj') (by decide)) hsong,
    apart_insert_other h.apart hst hp hj, fun i hi => (h.last i hi).insert hp⟩

/-- A jingle that is put where it stands apart. -/
lemma Paced.insertJingle (h : Paced w k last s) (hp : r.status = .pending)
    (hplain : sqlKindOf s r.trackId = "jingle")
    (hj : jingleRow s (nextId s.queueItems, r) = true)
    (hapart : Apart (marks w last (insertQueue r s))) : Paced w k last (insertQueue r s) := by
  refine ⟨h.toLaid.insert hp (fun _ => hplain) fun hsong => ?_, hapart,
    fun i hi => (h.last i hi).insert hp⟩
  rw [songRow_of_jingleRow hj] at hsong
  cases hsong

/-- A row behind all others; if it is a jingle, then after none. -/
lemma Paced.append (h : Paced w k last s) (hst : r.stationId = w.stationId)
    (hp : r.status = .pending) (hbeyond : Beyond w.stationId s r.position)
    (hplain : jingleRow s (nextId s.queueItems, r) = true → sqlKindOf s r.trackId = "jingle" ∧
      (marks w last s).getLast? ≠ some true) : Paced w k last (insertQueue r s) := by
  cases hj : jingleRow s (nextId s.queueItems, r) with
  | false =>
    refine h.insertOther hst hp hj fun _ a ha _ => .inl ?_
    obtain ⟨hrow, hast, -⟩ := mem_waiting.mp ha
    exact hbeyond a.1 a.2 hrow hast
  | true =>
    refine h.insertJingle hp (hplain hj).1 hj ?_
    rw [marks_append hst hp hbeyond]
    exact apart_concat h.apart fun _ => (hplain hj).2

lemma Fronted.insert (h : Fronted w s) (hst : r.stationId = w.stationId)
    (hp : r.status = .pending) (hsong : songRow s (nextId s.queueItems, r) = true →
      ∀ a ∈ waiting w.stationId s, jingleRow s a = true → Earlier a (nextId s.queueItems, r)) :
    Fronted w (insertQueue r s) := by
  obtain ⟨a, ha, hj, hfirst⟩ := h
  obtain ⟨l₁, l₂, hold, hnew⟩ := waiting_insert (s := s) hst hp
  refine ⟨a, ?_, hj, fun b hb hb' => ?_⟩
  · rw [hold] at ha
    rw [hnew]
    exact List.mem_append.mpr ((List.mem_append.mp ha).imp_right (List.mem_cons_of_mem _))
  · rcases mem_waiting_insert hb with rfl | hb
    · exact hsong hb' a ha hj
    · exact hfirst b hb hb'

end Insert

/-! ### Rows that leave -/

section Leave

variable {f : QueueItem → QueueItem}

lemma mem_waiting_leave {a : Row} (hf : ∀ q, (f q).status ≠ .pending)
    (ha : a ∈ waiting w.stationId (updateQueue id f s)) : a ∈ waiting w.stationId s := by
  rw [waiting_leave hf] at ha
  exact (List.mem_filter.mp ha).1

/-- A row is started, done or fails; if it is a song that was not heard, no jingle is behind it. -/
lemma Laid.leave (h : Laid w k s) (hf : ∀ q, (f q).status ≠ .pending)
    (hsame : ∀ q, (f q).stationId = q.stationId ∧ (f q).trackId = q.trackId)
    (hheard : ∀ q, s.queueItems[id]? = some q → q.stationId = w.stationId → Heard (f q) →
      Heard q ∨ (songRow s (id, q) = true →
        ∀ a ∈ waiting w.stationId s, jingleRow s a = true → ¬ a.1 < id)) :
    Laid w k (updateQueue id f s) where
  sweeper := h.sweeper
  library := h.library
  plain a ha hj := h.plain a (mem_waiting_leave hf ha) hj
  ahead a ha hj j q hq hst hsong hlt := by
    have ha' := mem_waiting_leave hf ha
    rw [lookup_updateQueue] at hq
    split_ifs at hq with hid
    · subst hid
      obtain ⟨q₀, hq₀, rfl⟩ := Option.map_eq_some_iff.mp hq
      obtain ⟨hstation, htrack⟩ := hsame q₀
      have hst₀ : q₀.stationId = w.stationId := hstation.symm.trans hst
      have hsong₀ : songRow s (j, q₀) = true :=
        (songRow_congr (a := (j, q₀)) (b := (j, f q₀)) rfl htrack).symm.trans hsong
      have hrow := h.ahead a ha' hj j q₀ hq₀ hst₀ hsong₀ hlt
      refine ⟨fun hnow => ?_, fun hp => absurd hp (hf q₀)⟩
      rcases hheard q₀ hq₀ hst₀ hnow with hold | hnone
      · exact hrow.1 hold
      · exact hnone hsong₀ a ha' hj hlt
    · exact h.ahead a ha' hj j q hq hst hsong hlt

lemma HeardLast.leave {i : ℤ} (h : HeardLast w s i)
    (hsame : ∀ q, (f q).stationId = q.stationId ∧ (f q).trackId = q.trackId)
    (hi : i = id → ∀ q, Heard (f q))
    (hheard : ∀ q, s.queueItems[id]? = some q → q.stationId = w.stationId → Heard (f q) →
      Heard q ∨ (songRow s (id, q) = true → ¬ i < id)) :
    HeardLast w (updateQueue id f s) i := by
  obtain ⟨q, hq, hst, hrow, hj, hplain⟩ := h.row
  constructor
  · rw [lookup_updateQueue]
    split_ifs with hid
    · obtain ⟨hstation, htrack⟩ := hsame q
      refine ⟨f q, by rw [hq]; rfl, hstation.trans hst, hi hid q,
        (jingleRow_congr (a := (i, q)) (b := (i, f q)) rfl htrack).trans hj, ?_⟩
      rw [htrack]
      exact hplain
    · exact ⟨q, hq, hst, hrow, hj, hplain⟩
  · intro j q hq hst hsong hlt
    rw [lookup_updateQueue] at hq
    split_ifs at hq with hid
    · subst hid
      obtain ⟨q₀, hq₀, rfl⟩ := Option.map_eq_some_iff.mp hq
      obtain ⟨hstation, htrack⟩ := hsame q₀
      have hst₀ : q₀.stationId = w.stationId := hstation.symm.trans hst
      have hsong₀ : songRow s (j, q₀) = true :=
        (songRow_congr (a := (j, q₀)) (b := (j, f q₀)) rfl htrack).symm.trans hsong
      intro hnow
      rcases hheard q₀ hq₀ hst₀ hnow with hold | hnone
      · exact h.songs j q₀ hq₀ hst₀ hsong₀ hlt hold
      · exact hnone hsong₀ hlt
    · exact h.songs j q hq hst hsong hlt

end Leave

/-! ### What becomes of a row that leaves -/

section Leave

variable {f : QueueItem → QueueItem} {x : Row} {l : List Row}

/-- A row that does not wait changes, and none waits instead. -/
lemma waiting_settle (hf : ∀ q, (f q).status ≠ .pending)
    (hrow : ∀ q, s.queueItems[id]? = some q → q.status ≠ .pending) :
    waiting w.stationId (updateQueue id f s) = waiting w.stationId s := by
  rw [waiting_leave hf, List.filter_eq_self]
  intro r hr
  obtain ⟨hlookup, -, hp⟩ := mem_waiting.mp hr
  rw [decide_eq_true_eq]
  rintro rfl
  exact hrow r.2 hlookup hp

lemma Paced.leave (h : Paced w k last s) (hf : ∀ q, (f q).status ≠ .pending)
    (hsame : ∀ q, (f q).stationId = q.stationId ∧ (f q).trackId = q.trackId)
    (hheard : ∀ q, s.queueItems[id]? = some q → Heard (f q) → Heard q)
    (hlast : id ∈ last → ∀ q, Heard (f q)) (hapart : Apart (marks w last (updateQueue id f s))) :
    Paced w k last (updateQueue id f s) :=
  ⟨h.toLaid.leave hf hsame fun q hq _ hnow => .inl (hheard q hq hnow), hapart,
    fun i hi => (h.last i hi).leave hsame (fun heq => hlast (heq ▸ hi))
      fun q hq _ hnow => .inl (hheard q hq hnow)⟩

/-- A row that does not wait is done, or fails. -/
lemma Paced.settle (h : Paced w k last s) (hf : ∀ q, (f q).status ≠ .pending)
    (hsame : ∀ q, (f q).stationId = q.stationId ∧ (f q).trackId = q.trackId)
    (hrow : ∀ q, s.queueItems[id]? = some q → q.status ≠ .pending)
    (hheard : ∀ q, s.queueItems[id]? = some q → Heard (f q) → Heard q)
    (hlast : id ∈ last → ∀ q, Heard (f q)) : Paced w k last (updateQueue id f s) := by
  refine h.leave hf hsame hheard hlast ?_
  unfold marks
  rw [waiting_settle hf hrow]
  exact h.apart

lemma Fronted.settle (h : Fronted w s) (hf : ∀ q, (f q).status ≠ .pending)
    (hrow : ∀ q, s.queueItems[id]? = some q → q.status ≠ .pending) :
    Fronted w (updateQueue id f s) := by
  unfold Fronted
  rw [waiting_settle hf hrow]
  exact h

/-- No jingle is behind the song that is next. -/
lemma Laid.head_song (h : Laid w k s) (hw : waiting w.stationId s = x :: l)
    (hsong : songRow s x = true) {a : Row} (ha : a ∈ waiting w.stationId s)
    (hj : jingleRow s a = true) : ¬ a.1 < x.1 := by
  intro hlt
  obtain ⟨hrow, hst, hp⟩ := mem_waiting.mp (hw ▸ List.mem_cons_self : x ∈ waiting w.stationId s)
  have hbefore : Earlier a x := (h.ahead a ha hj x.1 x.2 hrow hst hsong hlt).2 hp
  rw [hw] at ha
  rcases List.mem_cons.mp ha with rfl | ha
  · exact Earlier.irrefl a hbefore
  · have hsorted := waiting_sorted w.stationId s
    rw [hw] at hsorted
    exact ((List.pairwise_cons.mp hsorted).1 a ha).asymm hbefore

/-- Where the row that was started last does not matter. -/
lemma Paced.forget (h : Paced w k last s) : Paced w k none s :=
  ⟨h.toLaid, apart_false_cons.mpr h.apart.tail, fun _ hi => by cases hi⟩

/-- The row that is next is started. -/
lemma Paced.start (h : Paced w k last s) (hw : waiting w.stationId s = x :: l)
    (hf : ∀ q, (f q).status = .playing)
    (hsame : ∀ q, (f q).stationId = q.stationId ∧ (f q).trackId = q.trackId) :
    Paced w k (if jingleRow s x = true then some x.1 else none) (updateQueue x.1 f s) := by
  have hmem : x ∈ waiting w.stationId s := hw ▸ List.mem_cons_self
  obtain ⟨hrow, hst, -⟩ := mem_waiting.mp hmem
  have hne : ∀ q, (f q).status ≠ .pending := fun q => by
    rw [hf q]
    decide
  refine ⟨h.toLaid.leave hne hsame fun q hq _ _ => .inr fun hsong a ha hj => ?_, ?_, ?_⟩
  · obtain rfl := Option.some.inj (hrow.symm.trans hq)
    exact h.toLaid.head_song hw hsong ha hj
  · have hmarks : marks w (if jingleRow s x = true then some x.1 else none) (updateQueue x.1 f s) =
        jingleRow s x :: l.map (jingleRow s) := by
      unfold marks
      rw [waiting_leave_head hne hw]
      cases jingleRow s x <;> rfl
    have hapart := h.apart.tail
    rw [hw, List.map_cons] at hapart
    rw [hmarks]
    exact hapart
  · intro i hi
    cases hj : jingleRow s x with
    | false =>
      rw [hj, if_neg Bool.false_ne_true] at hi
      cases hi
    | true =>
      rw [hj, if_pos rfl] at hi
      obtain rfl := Option.some.inj hi
      obtain ⟨hstation, htrack⟩ := hsame x.2
      refine ⟨⟨f x.2, ?_, hstation.trans hst, .inl (hf x.2),
        (jingleRow_congr (a := x) (b := (x.1, f x.2)) rfl htrack).trans hj, ?_⟩, ?_⟩
      · rw [lookup_updateQueue, if_pos rfl, hrow]
        rfl
      · rw [htrack]
        exact h.plain x hmem hj
      · intro id q hq hq' hsong hlt
        rw [lookup_updateQueue, if_neg hlt.ne'] at hq
        exact (h.ahead x hmem hj id q hq hq' hsong hlt).1

/-- The song that is next is taken for played. -/
lemma Paced.skip (h : Paced w k none s) (hw : waiting w.stationId s = x :: l)
    (hsong : songRow s x = true) : Paced w k none (markQueueDone x.1 s) := by
  obtain ⟨hrow, -⟩ := mem_waiting.mp (hw ▸ List.mem_cons_self : x ∈ waiting w.stationId s)
  refine ⟨h.toLaid.leave (fun _ => by simp) (fun _ => ⟨rfl, rfl⟩)
    fun q hq _ _ => .inr fun hsong' a ha hj => ?_, ?_, fun _ hi => by cases hi⟩
  · exact h.toLaid.head_song hw hsong ha hj
  · have hapart := h.apart.tail
    rw [hw, List.map_cons] at hapart
    have hrest : waiting w.stationId (markQueueDone x.1 s) = l :=
      waiting_leave_head (fun _ => by simp) hw
    rw [marks, hrest]
    exact apart_false_cons.mpr hapart.tail

/-- Where the row that is next is a jingle, the one before it was none. -/
lemma Paced.jingle_next (h : Paced w k last s) (hw : waiting w.stationId s = x :: l)
    (hj : jingleRow s x = true) : last = none := by
  have hapart := h.apart
  rw [marks, hw, List.map_cons, hj] at hapart
  have hne := (List.isChain_cons_cons.mp hapart).1
  rw [and_iff_left rfl, Bool.not_eq_true, Option.isSome_eq_false_iff, Option.isNone_iff_eq_none]
    at hne
  exact hne

/-- What is behind the row that is next stands apart. -/
lemma Paced.apart_tail (h : Paced w k last s) (hw : waiting w.stationId s = x :: l) :
    Apart (l.map (jingleRow s)) := by
  have hapart := h.apart.tail
  rw [hw, List.map_cons] at hapart
  exact hapart.tail

/-- Where a jingle waits before all songs, no song is next. -/
lemma Fronted.head (h : Fronted w s) (hw : waiting w.stationId s = x :: l) :
    songRow s x = false := by
  obtain ⟨a, ha, hj, hfirst⟩ := h
  by_contra hsong
  rw [Bool.not_eq_false] at hsong
  have hbefore : Earlier a x := hfirst x (hw ▸ List.mem_cons_self) hsong
  rw [hw] at ha
  rcases List.mem_cons.mp ha with rfl | ha
  · exact Earlier.irrefl a hbefore
  · have hsorted := waiting_sorted w.stationId s
    rw [hw] at hsorted
    exact ((List.pairwise_cons.mp hsorted).1 a ha).asymm hbefore

end Leave

/-! ### Songs since the last jingle -/

lemma Laid.pos (h : Laid w k s) : 0 < k := Int.zero_lt_one.trans_le (one_le_interval h.sweeper)

/-- **After a jingle no song is counted**, whichever way kinds are read. -/
theorem HeardLast.count {i : ℤ} (h : HeardLast w s i) {kind : ℤ → String}
    (hjingle : ∀ q, s.queueItems[i]? = some q → kind q.trackId = "jingle")
    (hmusic : ∀ track, kind track = "music" → kindOf s track = "music") :
    musicBeforeJingle kind ((played w.stationId s).take 50) = [] := by
  obtain ⟨q, hq, hst, hheard, -⟩ := h.row
  refine List.filter_eq_nil_iff.mpr fun r hr hsong => ?_
  rw [decide_eq_true_eq] at hsong
  have hplayed : ∀ r : Row, r ∈ played w.stationId s ↔ s.queueItems[r.1]? = some r.2 ∧
      r.2.stationId = w.stationId ∧ Heard r.2 := fun r => by
    rw [played, List.mem_reverse]
    exact mem_queueRows.trans (by simp [Heard, or_comm])
  have hdown : (played w.stationId s).Pairwise fun a b => b.1 < a.1 :=
    List.pairwise_reverse.mpr ((rows_sorted _).filter _)
  -- what is read up to the row is all that was played after it
  obtain ⟨rest, hrest⟩ : ((played w.stationId s).take 50).takeWhile
      (fun r => kind r.2.trackId ≠ "jingle") <+: played w.stationId s :=
    (List.takeWhile_prefix _).trans (List.take_prefix 50 _)
  obtain ⟨hrow, hrst, hrheard⟩ := (hplayed r).mp (hrest ▸ List.mem_append_left _ hr)
  have hle : r.1 ≤ i := by
    by_contra hlt
    exact h.songs r.1 r.2 hrow hrst (decide_eq_true (hmusic _ hsong)) (not_le.mp hlt) hrheard
  have hne : r.1 ≠ i := by
    intro heq
    rw [heq, hq] at hrow
    rw [← Option.some.inj hrow, hjingle q hq] at hsong
    exact absurd hsong (by decide)
  have hmem : (i, q) ∈ played w.stationId s := (hplayed (i, q)).mpr ⟨hq, hst, hheard⟩
  rw [← hrest] at hmem hdown
  rcases List.mem_append.mp hmem with hbefore | hafter
  · have hkind := List.mem_takeWhile_imp hbefore
    rw [decide_eq_true_eq] at hkind
    exact hkind (hjingle q hq)
  · have hless := (List.pairwise_append.mp hdown).2.2 r hr (i, q) hafter
    exact absurd hless (lt_of_le_of_ne hle hne).asymm

/-! ### From one state on -/

/-- No row has begun to play since `s₀`, and none that played then waits. -/
structure Since (w : Worker) (s₀ s : Engine) : Prop where
  begins : ∀ j, QueuePlays w.stationId s j → QueuePlays w.stationId s₀ j
  stayed : ∀ j, QueuePlays w.stationId s₀ j → ∃ q, s.queueItems[j]? = some q ∧ q.status ≠ .pending

/-- The queue is paced, and nothing has begun since `s₀`; if a jingle is `due`, it waits before all
songs. -/
structure Pacing (w : Worker) (k : ℤ) (last : Option ℤ) (due : Bool) (s₀ s : Engine) : Prop
    extends Paced w k last s, Since w s₀ s where
  front : due = true → Fronted w s

section Since

variable {s₀ : Engine} {f : QueueItem → QueueItem} {r : QueueItem}

lemma Since.refl (w : Worker) (s : Engine) : Since w s s :=
  ⟨fun _ h => h, fun _ ⟨q, hq, _, hp⟩ => ⟨q, hq, by rw [hp]; decide⟩⟩

/-- What waits has not played. -/
lemma Since.not_plays (h : Since w s₀ s) (hq : s.queueItems[id]? = some r)
    (hp : r.status = .pending) : ¬ QueuePlays w.stationId s₀ id := by
  intro hplays
  obtain ⟨q, hq', hne⟩ := h.stayed id hplays
  rw [← Option.some.inj (hq.symm.trans hq')] at hne
  exact hne hp

lemma Since.moved (h : Since w s₀ s) {f : ℤ → QueueItem → QueueItem} (hm : Moved w f s t) :
    Since w s₀ t := by
  refine ⟨fun j ⟨q, hq, hst, hp⟩ => ?_, fun j hj => ?_⟩
  · obtain ⟨q₀, hq₀, rfl⟩ := hm.row hq
    obtain ⟨hstation, -, hstatus⟩ := hm.same j q₀
    exact h.begins j ⟨q₀, hq₀, hstation.symm.trans hst, hstatus.symm.trans hp⟩
  · obtain ⟨q, hq, hp⟩ := h.stayed j hj
    refine ⟨f j q, by rw [hm.rows, hq]; rfl, ?_⟩
    rw [(hm.same j q).2.2]
    exact hp

lemma Since.insert (h : Since w s₀ s) (hp : r.status = .pending) :
    Since w s₀ (insertQueue r s) := by
  refine ⟨fun j hj => h.begins j (queuePlays_insert ?_ hj), fun j hj => ?_⟩
  · rw [hp]
    decide
  · obtain ⟨q, hq, hp'⟩ := h.stayed j hj
    refine ⟨q, ?_, hp'⟩
    rw [insertQueue, lookup_insert, if_neg (lt_nextId hq).ne]
    exact hq

/-- A row is done, or fails. -/
lemma Since.settle (h : Since w s₀ s) (hf : ∀ q, (f q).status = .done ∨ (f q).status = .failed)
    (id : ℤ) : Since w s₀ (updateQueue id f s) := by
  refine ⟨fun j hj => h.begins j (queuePlays_settle (fun q => (settled_ne hf q).2) hj),
    fun j hj => ?_⟩
  obtain ⟨q, hq, hp⟩ := h.stayed j hj
  rw [lookup_updateQueue, hq]
  split_ifs
  · exact ⟨f q, rfl, (settled_ne hf q).1⟩
  · exact ⟨q, rfl, hp⟩

end Since

namespace Pacing

variable {due : Bool} {s₀ : Engine} {r : QueueItem}

lemma moved (h : Pacing w k last due s₀ s) {f : ℤ → QueueItem → QueueItem} (hm : Moved w f s t) :
    Pacing w k last due s₀ t :=
  ⟨h.toPaced.moved hm, h.toSince.moved hm, fun hd => (h.front hd).moved hm⟩

lemma same (h : Pacing w k last due s₀ s) (ht : t.queueItems = s.queueItems) (hs : Shelf w s t) :
    Pacing w k last due s₀ t := h.moved (.of_same ht hs)

/-- A row behind all others; if it is a jingle, then after none. -/
lemma append (h : Pacing w k last due s₀ s) (hst : r.stationId = w.stationId)
    (hp : r.status = .pending) (hbeyond : Beyond w.stationId s r.position)
    (hplain : jingleRow s (nextId s.queueItems, r) = true → sqlKindOf s r.trackId = "jingle" ∧
      (marks w last s).getLast? ≠ some true) : Pacing w k last due s₀ (insertQueue r s) := by
  refine ⟨h.toPaced.append hst hp hbeyond hplain, h.toSince.insert hp, fun hd =>
    (h.front hd).insert hst hp fun _ a ha _ => .inl ?_⟩
  obtain ⟨hrow, hast, -⟩ := mem_waiting.mp ha
  exact hbeyond a.1 a.2 hrow hast

/-- A new row that is neither a jingle nor a song. -/
lemma insertOther (h : Pacing w k last due s₀ s) (hst : r.stationId = w.stationId)
    (hp : r.status = .pending) (hj : jingleRow s (nextId s.queueItems, r) = false)
    (hsong : songRow s (nextId s.queueItems, r) = false) :
    Pacing w k last due s₀ (insertQueue r s) := by
  have hno : songRow s (nextId s.queueItems, r) = true → ∀ a ∈ waiting w.stationId s,
      jingleRow s a = true → Earlier a (nextId s.queueItems, r) := fun h => by
    rw [hsong] at h
    cases h
  exact ⟨h.toPaced.insertOther hst hp hj hno, h.toSince.insert hp,
    fun hd => (h.front hd).insert hst hp hno⟩

/-- A row that does not wait is done, or fails. -/
lemma settle (h : Pacing w k last due s₀ s) {f : QueueItem → QueueItem}
    (hf : ∀ q, (f q).status = .done ∨ (f q).status = .failed)
    (hsame : ∀ q, (f q).stationId = q.stationId ∧ (f q).trackId = q.trackId)
    (hrow : ∀ q, s.queueItems[id]? = some q → q.status ≠ .pending)
    (hheard : ∀ q, s.queueItems[id]? = some q → Heard (f q) → Heard q)
    (hlast : id ∈ last → ∀ q, Heard (f q)) : Pacing w k last due s₀ (updateQueue id f s) :=
  ⟨h.toPaced.settle (fun q => (settled_ne hf q).1) hsame hrow hheard hlast,
    h.toSince.settle hf id, fun hd => (h.front hd).settle (fun q => (settled_ne hf q).1) hrow⟩

/-! ### Filling an empty queue -/

lemma addItem (h : Pacing w k last due s₀ s) {item : ℤ × String} (hkey : item.2 ≠ "")
    (hfree : some item.2 ∉ keysOf w.stationId s)
    (hplain : kindOf s item.1 = "jingle" → sqlKindOf s item.1 = "jingle" ∧
      (marks w last s).getLast? ≠ some true) :
    Pacing w k last due s₀ (addItem w.stationId s item) ∧
      marks w last (QueueRefill.addItem w.stationId s item) =
        marks w last s ++ [decide (kindOf s item.1 = "jingle")] := by
  have hfind := (findByDedupeKey_iff hkey).mpr hfree
  have hbeyond := beyond_nextPosition w.stationId s
  unfold QueueRefill.addItem enqueue
  rw [hfind]
  constructor
  · exact (h.append (r := .new w.stationId item.1 (nextPosition w.stationId s) item.2) rfl rfl
      hbeyond fun hj => hplain (of_decide_eq_true hj)).same rfl
        (shelf_upsertSetting (by decide) _ _)
  · exact marks_append (r := .new w.stationId item.1 (nextPosition w.stationId s) item.2) rfl rfl
      hbeyond

/-- Items with new keys are added, where jingles stand apart in them too. -/
lemma addItems (items : List (ℤ × String)) (h : Pacing w k last due s₀ s)
    (hkeys : ∀ item ∈ items, item.2 ≠ "" ∧ some item.2 ∉ keysOf w.stationId s)
    (hnodup : (items.map Prod.snd).Nodup)
    (hplain : ∀ item ∈ items, kindOf s item.1 = "jingle" → sqlKindOf s item.1 = "jingle")
    (hapart : Apart (marks w last s ++ items.map fun i => decide (kindOf s i.1 = "jingle"))) :
    Pacing w k last due s₀ (items.foldl (QueueRefill.addItem w.stationId) s) := by
  induction items generalizing s with
  | nil => exact h
  | cons item items ih =>
    obtain ⟨hkey, hfree⟩ := hkeys item List.mem_cons_self
    obtain ⟨hother, hnodup⟩ := List.nodup_cons.mp hnodup
    have hadded := added_addItem hkey hfree
    have hkind : kindOf (QueueRefill.addItem w.stationId s item) = kindOf s :=
      kindOf_congr hadded.tracks
    obtain ⟨hstep, hmarks⟩ := h.addItem hkey hfree fun hj => ⟨hplain item List.mem_cons_self hj,
      fun hlast => (List.isChain_append.mp hapart).2.2 true hlast (decide (kindOf s item.1 =
        "jingle")) rfl ⟨rfl, decide_eq_true hj⟩⟩
    rw [List.foldl_cons]
    refine ih hstep (fun i hi => ⟨(hkeys i (List.mem_cons_of_mem _ hi)).1, fun hk => ?_⟩) hnodup
      (fun i hi hj => ?_) ?_
    · rw [hadded.keysOf] at hk
      rcases List.mem_append.mp hk with hk | hk
      · exact (hkeys i (List.mem_cons_of_mem _ hi)).2 hk
      · rw [List.map_cons, List.map_nil, List.mem_singleton, Option.some.injEq] at hk
        exact hother (hk ▸ List.mem_map_of_mem hi)
    · rw [hkind] at hj
      have hp := hplain i (List.mem_cons_of_mem _ hi) hj
      unfold sqlKindOf trackTypeOf at hp ⊢
      rwa [hadded.tracks]
    · rw [hmarks, hkind, List.append_assoc]
      exact hapart

end Pacing

/-- Jingles stand apart in what is added to a queue in which nothing is active. -/
lemma Paced.refill_apart (h : Paced w k last s) (hnone : listActiveOrdered w.stationId s = []) :
    Apart (marks w last s ++ (refillItems w.stationId s ⟨true, k, .tracks⟩).map
      fun i => isJingle s i.1) := by
  have htracks : (refillItems w.stationId s ⟨true, k, .tracks⟩).map Prod.fst =
      refillTracks w.stationId s ⟨true, k, .tracks⟩ := by
    rw [refillItems, List.map_map]
    exact List.zipIdx_map_fst 0 _
  have hwaiting : waiting w.stationId s = [] := by
    rw [waiting, hnone]
    rfl
  have hmap : (refillItems w.stationId s ⟨true, k, .tracks⟩).map (fun i => isJingle s i.1) =
      (refillTracks w.stationId s ⟨true, k, .tracks⟩).map (isJingle s) := by
    rw [← htracks, List.map_map]
    rfl
  rw [marks, hwaiting, hmap, List.map_nil, List.singleton_append]
  unfold refillTracks
  dsimp only
  generalize hmusic : (selectTracks w.stationId s 10 _).map Prod.fst = music
  have hsongs : ∀ t ∈ music, isJingle s t = false := fun t ht => by
    rw [isJingle, sqlKind_of_selectTracks (hmusic ▸ ht)]
    decide
  change Apart (last.isSome :: (interleave w.stationId s k music
    (countMusicSinceLastJingle w.stationId s) (recentJingleTrackIds w.stationId s)).map
      (isJingle s))
  obtain ⟨-, hchain, -⟩ := @interleave_apart w.stationId s
    (recentJingleTrackIds w.stationId s) music k (countMusicSinceLastJingle w.stationId s)
      h.library hsongs
  refine List.isChain_cons.mpr ⟨fun y hy hboth => ?_, (List.isChain_map _).mpr hchain⟩
  obtain ⟨i, hi⟩ := Option.isSome_iff_exists.mp hboth.1
  have hheard := h.last i hi
  obtain ⟨q, hq, -, -, -, hplain⟩ := hheard.row
  have hcount : countMusicSinceLastJingle w.stationId s = 0 := by
    have hnil := @HeardLast.count w s i hheard (sqlKindOf s)
      (fun q' hq' => by rw [← Option.some.inj (hq.symm.trans hq')]; exact hplain)
      fun track htrack => (kinds_of_sqlKind (by decide) (by decide) htrack).1
    rw [countMusicSinceLastJingle, hnil]
    rfl
  -- after a jingle, a song comes first
  rw [hcount] at hy
  cases music with
  | nil => cases hy
  | cons track music =>
    rw [interleave_song h.pos, List.map_cons, List.head?_cons, Option.mem_some_iff,
      hsongs track List.mem_cons_self] at hy
    rw [← hy] at hboth
    exact absurd hboth.2 (by decide)

/-! ### What a tick does besides -/

lemma ensureFilled_active {st : ℤ} (h : listActiveOrdered st s ≠ []) : ensureFilled st s = s := by
  have hactive : (listActiveOrdered st s).isEmpty = false := by simpa using h
  unfold ensureFilled ensureReadyForPlayback
  dsimp only
  rw [hactive]
  rfl

lemma ensureFilled_empty {st : ℤ} (h : listActiveOrdered st s = []) :
    ensureFilled st s = ensureReadyForPlayback st s true := by
  unfold ensureFilled ensureReadyForPlayback
  rw [h]
  rfl

/-- What is kept where the queue stays, and where it is filled or a row is completed, is kept by
what a tick does besides. -/
lemma queueBorne_of_same {P : Engine → Prop}
    (hsame : ∀ s t, t.queueItems = s.queueItems → Shelf w s t → P s → P t)
    (hfilled : ∀ s, P s → P (ensureFilled w.stationId s))
    (hcomplete : ∀ (s : Engine) (playing : ℤ × QueueItem), P s →
      currentPlaying w.stationId s = some playing → P (markQueueDone playing.1 s)) :
    QueueBorne w P where
  preorder := inferInstance
  playout _ _ _ _ s := hsame s _ rfl (.of_eq rfl rfl rfl)
  filled := hfilled
  ads _ _ _ s := hsame s _ rfl (.of_eq rfl rfl rfl)
  sessions s _ := hsame s _ rfl (.of_eq rfl rfl rfl)
  automation s := hsame s _ rfl (shelf_upsertSetting (by decide) _ s)
  start s _ _ := hsame s _ rfl (.of_eq rfl rfl rfl)
  adTable s _ := hsame s _ rfl (.of_eq rfl rfl rfl)
  attempts s _ := hsame s _ rfl (.of_eq rfl rfl rfl)
  played id now s := hsame s _ rfl (shelf_markPlayed id now s)
  playoutHost _ _ s := hsame s _ rfl (.of_eq rfl rfl rfl)
  startHost s _ := hsame s _ rfl (.of_eq rfl rfl rfl)
  hostItems s _ := hsame s _ rfl (.of_eq rfl rfl rfl)
  scheduleTable s _ := hsame s _ rfl (.of_eq rfl rfl rfl)
  lease s _ := hsame s _ rfl (.of_eq rfl rfl rfl)
  complete := hcomplete

section Borne

variable {due : Bool} {s₀ : Engine}

lemma Pacing.ensureFilled (h : Pacing w k last due s₀ s) :
    Pacing w k last due s₀ (ensureFilled w.stationId s) := by
  by_cases hnone : listActiveOrdered w.stationId s = []
  · rw [ensureFilled_empty hnone, ensureReady_eq (by rw [hnone]; simp) h.sweeper]
    obtain ⟨hkinds, -⟩ := @refillTracks_kinds w.stationId s ⟨true, k, .tracks⟩ h.library
    obtain ⟨hkeys, hnodup⟩ := @refillItems_keys w.stationId s ⟨true, k, .tracks⟩ h.library
    have hkind : ∀ item ∈ refillItems w.stationId s ⟨true, k, .tracks⟩,
        decide (kindOf s item.1 = "jingle") = isJingle s item.1 := by
      intro item hitem
      obtain ⟨x, hx, rfl⟩ := List.mem_map.mp hitem
      unfold isJingle
      rcases hkinds x.1 ((List.mem_zipIdx' hx).2 ▸ List.getElem_mem _) with hk | hk
      · rw [hk, (kinds_of_sqlKind (by decide) (by decide) hk).1]
      · rw [hk, (kinds_of_sqlKind (by decide) (by decide) hk).1]
    refine h.addItems _ (fun item hitem => ⟨hkeys item hitem, ?_⟩) hnodup
      (fun item hitem hj => ?_) ?_
    · rw [keysOf, hnone]
      exact List.not_mem_nil
    · exact of_decide_eq_true ((hkind item hitem).symm.trans (decide_eq_true hj))
    · rw [List.map_congr_left hkind]
      exact h.toPaced.refill_apart hnone
  · rw [ensureFilled_active hnone]
    exact h

/-- **The pace is kept** by what a tick does besides. -/
theorem queueBorne_pacing : QueueBorne w (Pacing w k last due s₀) := by
  refine queueBorne_of_same (fun s t ht hs h => h.same ht hs) (fun s h => h.ensureFilled)
    fun s playing h hp => ?_
  obtain ⟨hrow, -, hstatus⟩ := mem_queueRows.mp
    (show (playing.1, playing.2) ∈ _ from List.mem_of_mem_head? hp)
  have hplays : playing.2.status = .playing := by simpa using hstatus
  refine h.settle (fun _ => .inl rfl) (fun _ => ⟨rfl, rfl⟩) (fun q hq => ?_) (fun q hq _ => ?_)
    fun _ _ => .inr rfl
  · rw [← Option.some.inj (hrow.symm.trans hq), hplays]
    decide
  · rw [← Option.some.inj (hrow.symm.trans hq)]
    exact .inl hplays

end Borne

end OnAir.SweeperPace
