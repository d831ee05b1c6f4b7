import OnAir.WaitingRows

/-!
`_preserve_operator_playout`: what was playing when an operator stopped the station waits again.

Every playing row becomes pending and keeps its position, so the active rows stand as before. The
row that is played when the station starts again is the first that waits; whether that is the one
that was interrupted depends on where the others stand.
-/

namespace OnAir.OperatorStop

open ActiveRows OnAir.Database PlayoutTables OnAir.Table WaitingRows

open SettingsText (mem_queueRows)

/-- The payload of `_preserve_operator_playout`. -/
structure Preservation where
  playlistPreserved : Bool
  queueItemsBefore : ℕ
  queueItemsAfter : ℕ
  queueItemsRequeued : ℕ
  adsRequeued : ℕ
  schedulesRequeued : ℕ
  previousSource : PlayoutSource
  previousItemId : Option ℤ
  resumeBehavior : String
  deriving DecidableEq, Repr

section Stop

variable (st : ℤ) (s : Engine)

def requeued (r : QueueItem) : QueueItem :=
  if r.stationId = st ∧ r.status = .playing then { r with status := .pending, startedAt := none }
  else r

def requeuedAd (r : AdBreakItem) : AdBreakItem :=
  if r.stationId = st ∧ r.status = .playing then { r with status := .pending, startedAt := none }
  else r

def requeuedSchedule (r : ScheduleItem) : ScheduleItem :=
  if r.stationId = st ∧ r.status = .playing then { r with status := .pending } else r

/-- The `UPDATE`s of the three tables. -/
def requeue : Engine :=
  { s with
    queueItems := s.queueItems.map fun _ => requeued st
    adBreakItems := s.adBreakItems.map fun _ => requeuedAd st
    scheduleItems := s.scheduleItems.map fun _ => requeuedSchedule st }

/-- `_preserve_operator_playout`. -/
def preserveOperatorPlayout : Engine × Preservation :=
  let previous := current st s
  let before := (queueRows st s [.pending, .playing]).length
  let t := setCurrent st .none none "operator_stop_preserve_playlist" (requeue st s)
  let after := (queueRows st t [.pending, .playing]).length
  (t, {
    playlistPreserved := after = before
    queueItemsBefore := before
    queueItemsAfter := after
    queueItemsRequeued := (queueRows st s [.playing]).length
    adsRequeued := (adRows st s [.playing]).length
    schedulesRequeued := ((rows s.scheduleItems).filter fun r =>
      r.2.stationId = st && r.2.status = .playing).length
    previousSource := previous.source
    previousItemId := previous.itemId
    resumeBehavior := "The interrupted item remains in place and restarts from its beginning." })

end Stop

variable {st : ℤ} {s : Engine} {p r : Row}

/-! ### The queue afterwards -/

lemma queueItems_preserve : (preserveOperatorPlayout st s).1.queueItems =
    s.queueItems.map fun _ => requeued st := rfl

lemma requeued_keeps (q : QueueItem) : (requeued st q).stationId = q.stationId ∧
    (requeued st q).position = q.position ∧ (requeued st q).trackId = q.trackId ∧
      isActive (requeued st q).status = isActive q.status := by
  unfold requeued
  split_ifs with h
  · exact ⟨rfl, rfl, rfl, by rw [h.2]; rfl⟩
  · exact ⟨rfl, rfl, rfl, rfl⟩

lemma lookup_preserve (st : ℤ) (s : Engine) (id : ℤ) :
    (preserveOperatorPlayout st s).1.queueItems[id]? = s.queueItems[id]?.map (requeued st) := by
  rw [queueItems_preserve, Std.ExtTreeMap.getElem?_map]

lemma requeued_status (q : QueueItem) : (requeued st q).stationId = st →
    (isActive (requeued st q).status = true ↔ (requeued st q).status = .pending) := by
  unfold requeued
  split_ifs with h
  · exact fun _ => iff_of_true rfl rfl
  · intro hst
    have hno : q.status ≠ .playing := fun hp => h ⟨hst, hp⟩
    simp [isActive, hno]

instance : DecidableRel Earlier := fun _ _ => decidable_of_iff _ earlier_iff.symm

lemma active_sorted (st : ℤ) (s : Engine) : (listActiveOrdered st s).Pairwise Earlier := by
  have h : (listActiveOrdered st s).Pairwise fun a b => Before (key a) (key b) :=
    List.pairwise_map.mp (ActiveRows.keys_sorted st s)
  exact h

/-- The active rows stand as before. -/
lemma listActiveOrdered_preserve (st : ℤ) (s : Engine) :
    listActiveOrdered st (preserveOperatorPlayout st s).1 =
      (listActiveOrdered st s).map fun r => (r.1, requeued st r.2) := by
  symm
  refine eq_listActiveOrdered (List.pairwise_map.mpr ?_) fun r => ?_
  · refine (active_sorted st s).imp fun {a b} h => ?_
    have hpos : ∀ q : QueueItem, (requeued st q).position = q.position :=
      fun q => (requeued_keeps q).2.1
    simpa only [Earlier, Before, key, hpos] using h
  · rw [List.mem_map, lookup_preserve]
    constructor
    · rintro ⟨q, hq, rfl⟩
      obtain ⟨hrow, hst, hact⟩ := mem_listActiveOrdered.mp hq
      obtain ⟨hst', -, -, hact'⟩ := @requeued_keeps st q.2
      exact ⟨by rw [hrow]; rfl, hst'.trans hst, hact'.trans hact⟩
    · rintro ⟨hrow, hst, hact⟩
      obtain ⟨q, hq, hr⟩ := Option.map_eq_some_iff.mp hrow
      obtain ⟨hst', -, -, hact'⟩ := @requeued_keeps st q
      refine ⟨(r.1, q), mem_listActiveOrdered.mpr ⟨hq, ?_, ?_⟩, Prod.ext rfl hr⟩
      · rw [← hst', hr, hst]
      · rw [← hact', hr, hact]

/-- Nothing plays, and all active rows wait. -/
lemma waiting_preserve (st : ℤ) (s : Engine) :
    waiting st (preserveOperatorPlayout st s).1 =
      listActiveOrdered st (preserveOperatorPlayout st s).1 := by
  refine List.filter_eq_self.mpr fun r hr => ?_
  obtain ⟨hrow, hst, hact⟩ := mem_listActiveOrdered.mp hr
  rw [lookup_preserve] at hrow
  obtain ⟨q, -, hq⟩ := Option.map_eq_some_iff.mp hrow
  rw [← hq] at hst hact
  rw [decide_eq_true_eq, ← hq]
  exact (requeued_status q hst).mp hact

lemma playing_preserve (st : ℤ) (s : Engine) :
    queueRows st (preserveOperatorPlayout st s).1 [.playing] = [] := by
  refine List.eq_nil_iff_forall_not_mem.mpr fun r hr => ?_
  obtain ⟨hrow, hst, hp⟩ : (preserveOperatorPlayout st s).1.queueItems[r.1]? = some r.2 ∧
      r.2.stationId = st ∧ r.2.status = .playing := by simpa using mem_queueRows.mp hr
  have hact : r ∈ listActiveOrdered st (preserveOperatorPlayout st s).1 :=
    mem_listActiveOrdered.mpr ⟨hrow, hst, by rw [hp]; rfl⟩
  rw [← waiting_preserve] at hact
  rw [(mem_waiting.mp hact).2.2] at hp
  cases hp

lemma nextPending_preserve (st : ℤ) (s : Engine) :
    nextPending st (preserveOperatorPlayout st s).1 =
      (listActiveOrdered st s).head?.map fun r => (r.1, requeued st r.2) := by
  rw [nextPending_eq_head, waiting_preserve, listActiveOrdered_preserve, List.head?_map]

/-! ### The row that is played next -/

/-- What an operator sees of an active row: its id, its track and its position. -/
def place (r : Row) : ℤ × ℤ × ℤ := (r.1, r.2.trackId, r.2.position)

/-- The active rows are those of before in their order, none plays, and `p` is the next. -/
structure Resumes (st : ℤ) (p : Row) (s t : Engine) : Prop where
  rows : (listActiveOrdered st t).map place = (listActiveOrdered st s).map place
  idle : queueRows st t [.playing] = []
  next : (nextPending st t).map Prod.fst = some p.1

/-- The row that plays alone comes first if and only if none that waits comes before it. -/
lemma head_iff (hp : queueRows st s [.playing] = [p]) :
    (listActiveOrdered st s).head?.map Prod.fst = some p.1 ↔
      ∀ r ∈ waiting st s, ¬ Earlier r p := by
  have honly : ∀ r : Row, r ∈ queueRows st s [.playing] ↔ r = p := fun r => by
    rw [hp, List.mem_singleton]
  have hpmem : p ∈ listActiveOrdered st s := by
    obtain ⟨hrow, hst, hplays⟩ := mem_queueRows.mp ((honly p).mpr rfl)
    exact mem_listActiveOrdered.mpr ⟨hrow, hst, by rw [List.mem_singleton.mp hplays]; rfl⟩
  have hsorted := active_sorted st s
  obtain ⟨a, l, hl⟩ := List.exists_cons_of_ne_nil (List.ne_nil_of_mem hpmem)
  have hmem : ∀ r ∈ waiting st s, r = a ∨ r ∈ l := fun r hr => by
    have : r ∈ listActiveOrdered st s := List.mem_of_mem_filter hr
    rwa [hl, List.mem_cons] at this
  rw [hl] at hsorted hpmem
  have hfirst := (List.pairwise_cons.mp hsorted).1
  rw [hl, List.head?_cons, Option.map_some, Option.some.injEq]
  constructor
  · intro hid r hr hearlier
    have hap : a = p := by
      have hnodup := nodup_ids st s
      rw [hl] at hnodup
      exact List.inj_on_of_nodup_map hnodup List.mem_cons_self hpmem hid
    subst hap
    rcases hmem r hr with rfl | hrl
    · exact hearlier.irrefl
    · exact hearlier.asymm (hfirst r hrl)
  · intro hnone
    rcases List.mem_cons.mp hpmem with rfl | hpl
    · rfl
    have hact : a ∈ listActiveOrdered st s := by
      rw [hl]
      exact List.mem_cons_self
    obtain ⟨hrow, hst, hact⟩ := mem_listActiveOrdered.mp hact
    have hwait : a.2.status = .pending ∨ a.2.status = .playing := by simpa [isActive] using hact
    rcases hwait with hw | hw
    · exact absurd (hfirst p hpl) (hnone a (mem_waiting.mpr ⟨hrow, hst, hw⟩))
    · rw [(honly a).mp (mem_queueRows.mpr ⟨hrow, hst, by simp [hw]⟩)]

lemma resumes_iff (hp : queueRows st s [.playing] = [p]) :
    Resumes st p s (preserveOperatorPlayout st s).1 ↔ ∀ r ∈ waiting st s, ¬ Earlier r p := by
  have hnext : (nextPending st (preserveOperatorPlayout st s).1).map Prod.fst =
      (listActiveOrdered st s).head?.map Prod.fst := by
    rw [nextPending_preserve, Option.map_map]
    rfl
  constructor
  · intro h
    rw [← head_iff hp, ← hnext]
    exact h.next
  · intro h
    refine ⟨?_, playing_preserve st s, by rw [hnext, head_iff hp]; exact h⟩
    rw [listActiveOrdered_preserve, List.map_map]
    refine List.map_congr_left fun r _ => ?_
    obtain ⟨-, hpos, htrack, -⟩ := @requeued_keeps st r.2
    simp only [Function.comp, place, hpos, htrack]

/-- **Operator stop.** Where one row of the station plays, the active rows are the same in the same
order after the stop, none plays, and the row that was interrupted is the next one, if and only if
no row that waits comes before it. -/
theorem operator_stop_resumes_iff (st : ℤ) (s : Engine) (p : Row)
    (hp : queueRows st s [.playing] = [p]) :
    Resumes st p s (preserveOperatorPlayout st s).1 ↔ ∀ r ∈ waiting st s, ¬ Earlier r p :=
  resumes_iff hp

/-! ### An announcement that came late -/

/-- Two songs, of which the first plays. -/
def firstSong : Engine :=
  markQueuePlaying 1 0 (enqueue 1 20 "song:2" (enqueue 1 10 "song:1" .empty).1).1

/-- The announcement of the first song is inserted before it when it plays already. -/
def announcedLate : Engine := (insertBefore 1 1 30 "ai:1" firstSong).1

theorem operator_stop_resumes_firstSong :
    Resumes 1 (1, ⟨1, 10, 1, .playing, some 0, some "song:1"⟩) firstSong
      (preserveOperatorPlayout 1 firstSong).1 :=
  (operator_stop_resumes_iff 1 firstSong _ (by decide +kernel)).mpr (by decide +kernel)

/-- The announcement is played next, and not the song that was interrupted. -/
theorem operator_stop_skips_back : ¬ ∀ (st : ℤ) (s : Engine) (p : Row),
    queueRows st s [.playing] = [p] → Resumes st p s (preserveOperatorPlayout st s).1 := by
  intro hall
  have hnext := (hall 1 announcedLate (1, ⟨1, 10, 2, .playing, some 0, some "song:1"⟩)
    (by decide +kernel)).next
  have hthird : (nextPending 1 (preserveOperatorPlayout 1 announcedLate).1).map Prod.fst =
      some 3 := by
    decide +kernel
  rw [hthird] at hnext
  exact absurd hnext (by decide)

end OnAir.OperatorStop
