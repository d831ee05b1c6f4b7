import OnAir.Interleaving
import OnAir.QueueEdits
import OnAir.Reconciliation

/-!
What `reconcile_pending_sweeper_queue` keeps of the queue, and what it does a second time.

The rows that are laid out are followed as they are, but for their positions: the second plan puts
the same jingles among the same rows.
-/

namespace OnAir.SweepStability

open ActiveRows BroadcastQueue PlayoutTables QueueEdits Reconciliation SweeperQueue OnAir.Table

variable {st pos next id : ℤ} {s s' : Engine} {slots : List Slot} {r : Row}

/-! ### What is laid out -/

/-- The rows of slots that are laid out, where new ones get the ids from `next` on. -/
def laidRows (st : ℤ) : List Slot → ℤ → ℤ → List Row
  | [], _, _ => []
  | .jingle trackId :: slots, pos, next =>
    (next, .new st trackId pos (jingleKey trackId pos)) :: laidRows st slots (pos + 1) (next + 1)
  | .row r :: slots, pos, next =>
    (r.1, { r.2 with position := pos }) :: laidRows st slots (pos + 1) next

lemma laidRows_sorted (slots : List Slot) (pos next : ℤ) :
    (laidRows st slots pos next).Pairwise (fun a b => Before (key a) (key b)) ∧
      ∀ r ∈ laidRows st slots pos next, pos ≤ r.2.position := by
  induction slots generalizing pos next with
  | nil => exact ⟨List.Pairwise.nil, fun r hr => by simp [laidRows] at hr⟩
  | cons slot slots ih =>
    have hcons : ∀ (r : Row) (next : ℤ), r.2.position = pos →
        (r :: laidRows st slots (pos + 1) next).Pairwise (fun a b => Before (key a) (key b)) ∧
          ∀ q ∈ r :: laidRows st slots (pos + 1) next, pos ≤ q.2.position := by
      intro r next hr
      obtain ⟨hsorted, hpos⟩ := ih (pos + 1) next
      refine ⟨List.pairwise_cons.mpr ⟨fun q hq => ?_, hsorted⟩, fun q hq => ?_⟩
      · have := hpos q hq
        exact .inl (by dsimp only [key]; omega)
      · rcases List.mem_cons.mp hq with rfl | hq
        · exact hr.ge
        · have := hpos q hq
          omega
    cases slot with
    | jingle trackId => exact hcons _ _ rfl
    | row r => exact hcons _ _ rfl

lemma laidRows_ids (h : r ∈ laidRows st slots pos next) :
    next ≤ r.1 ∨ ∃ q ∈ rowsIn slots, q.1 = r.1 := by
  induction slots generalizing pos next with
  | nil => simp [laidRows] at h
  | cons slot slots ih =>
    cases slot with
    | jingle trackId =>
      rcases List.mem_cons.mp h with rfl | h
      · exact .inl le_rfl
      · rcases ih h with hle | hrow
        · exact .inl (by omega)
        · exact .inr hrow
    | row q =>
      rcases List.mem_cons.mp h with rfl | h
      · exact .inr ⟨q, by simp [rowsIn], rfl⟩
      · rcases ih h with hle | ⟨q', hq', hid⟩
        · exact .inl hle
        · exact .inr ⟨q', List.mem_cons_of_mem _ hq', hid⟩

/-- **What is laid out is there**, and under all other ids nothing changes. -/
lemma lookup_place (h : place st slots pos s = some s')
    (hrows : ∀ r ∈ rowsIn slots, s.queueItems[r.1]? = some r.2)
    (hnodup : ((rowsIn slots).map Prod.fst).Nodup) :
    (∀ r ∈ laidRows st slots pos (nextId s.queueItems), s'.queueItems[r.1]? = some r.2) ∧
      ∀ id, (∀ r ∈ laidRows st slots pos (nextId s.queueItems), r.1 ≠ id) →
        s'.queueItems[id]? = s.queueItems[id]? := by
  induction slots generalizing pos s with
  | nil =>
    obtain rfl := Option.some.inj h
    simp [laidRows]
  | cons slot slots ih =>
    cases slot with
    | jingle trackId =>
      unfold place at h
      dsimp only at h
      split_ifs at h
      generalize hrow : QueueItem.new st trackId pos s!"jingle:{trackId}:{pos}" = row at h
      have hnext : nextId (insertQueue row s).queueItems = nextId s.queueItems + 1 :=
        nextId_insert ..
      have hlookup : ∀ id : ℤ, (insertQueue row s).queueItems[id]? =
          if id = nextId s.queueItems then some row else s.queueItems[id]? :=
        fun id => lookup_insert ..
      obtain ⟨hlaid, hrest⟩ := ih h (fun r hr => by
        rw [hlookup, if_neg (lt_nextId (hrows r hr)).ne, hrows r hr]) hnodup
      rw [hnext] at hlaid hrest
      have hnew : ∀ r ∈ laidRows st slots (pos + 1) (nextId s.queueItems + 1),
          r.1 ≠ nextId s.queueItems := by
        intro r hr
        rcases laidRows_ids hr with hle | ⟨q, hq, hid⟩
        · omega
        · have := lt_nextId (hrows q hq)
          omega
      refine ⟨fun r hr => ?_, fun id hid => ?_⟩
      · rcases List.mem_cons.mp hr with rfl | hr
        · rw [hrest _ hnew, hlookup, if_pos rfl, ← hrow]
          rfl
        · exact hlaid r hr
      · have hne : id ≠ nextId s.queueItems := fun he => hid _ List.mem_cons_self he.symm
        rw [hrest id fun r hr => hid r (List.mem_cons_of_mem _ hr), hlookup, if_neg hne]
    | row q =>
      rw [place] at h
      have hnext : nextId (updateQueue q.1 (fun q => { q with position := pos }) s).queueItems =
          nextId s.queueItems := nextId_modify ..
      have hlookup : ∀ id : ℤ, (updateQueue q.1 (fun q => { q with position := pos })
          s).queueItems[id]? = if id = q.1 then s.queueItems[id]?.map
            fun q => { q with position := pos } else s.queueItems[id]? :=
        fun id => lookup_modify ..
      obtain ⟨hother, hnodup⟩ := List.nodup_cons.mp hnodup
      have hq := hrows q List.mem_cons_self
      obtain ⟨hlaid, hrest⟩ := ih h (fun r hr => by
        have hne : r.1 ≠ q.1 := fun he => hother (List.mem_map.mpr ⟨r, hr, he⟩)
        rw [hlookup, if_neg hne, hrows r (List.mem_cons_of_mem _ hr)]) hnodup
      rw [hnext] at hlaid hrest
      have hnew : ∀ r ∈ laidRows st slots (pos + 1) (nextId s.queueItems), r.1 ≠ q.1 := by
        intro r hr
        rcases laidRows_ids hr with hle | ⟨q', hq', hid⟩
        · have := lt_nextId hq
          omega
        · intro he
          exact hother (List.mem_map.mpr ⟨q', hq', hid.trans he⟩)
      refine ⟨fun r hr => ?_, fun id hid => ?_⟩
      · rcases List.mem_cons.mp hr with rfl | hr
        · rw [hrest _ hnew, hlookup, if_pos rfl, hq]
          rfl
        · exact hlaid r hr
      · have hne : id ≠ q.1 := fun he => hid _ List.mem_cons_self he.symm
        rw [hrest id fun r hr => hid r (List.mem_cons_of_mem _ hr), hlookup, if_neg hne]

lemma laid_of_rowsIn (pos next : ℤ) (h : id ∈ (rowsIn slots).map Prod.fst) :
    ∃ r ∈ laidRows st slots pos next, r.1 = id := by
  induction slots generalizing pos next with
  | nil => simp [rowsIn] at h
  | cons slot slots ih =>
    cases slot with
    | jingle trackId =>
      obtain ⟨r, hr, hid⟩ := ih (pos + 1) (next + 1) h
      exact ⟨r, List.mem_cons_of_mem _ hr, hid⟩
    | row r =>
      rcases List.mem_cons.mp h with rfl | h
      · exact ⟨_, List.mem_cons_self, rfl⟩
      · obtain ⟨q, hq, hid⟩ := ih (pos + 1) next h
        exact ⟨q, List.mem_cons_of_mem _ hq, hid⟩

lemma laidRows_active (hrows : ∀ r ∈ rowsIn slots, r.2.stationId = st ∧ isActive r.2.status = true)
    (h : r ∈ laidRows st slots pos next) : r.2.stationId = st ∧ isActive r.2.status = true := by
  induction slots generalizing pos next with
  | nil => simp [laidRows] at h
  | cons slot slots ih =>
    cases slot with
    | jingle trackId =>
      rcases List.mem_cons.mp h with rfl | h
      · exact ⟨rfl, rfl⟩
      · exact ih hrows h
    | row q =>
      rcases List.mem_cons.mp h with rfl | h
      · exact hrows q List.mem_cons_self
      · exact ih (fun r hr => hrows r (List.mem_cons_of_mem _ hr)) h

/-- **The active rows, once all of them are laid out.** -/
theorem listActive_place (h : place st slots pos s = some s')
    (hperm : (rowsIn slots).Perm (listActiveOrdered st s)) :
    listActiveOrdered st s' = laidRows st slots pos (nextId s.queueItems) := by
  have hmem : ∀ r : Row, r ∈ rowsIn slots → s.queueItems[r.1]? = some r.2 ∧
      r.2.stationId = st ∧ isActive r.2.status = true := fun r hr =>
    mem_listActiveOrdered.mp (hperm.mem_iff.mp hr)
  have hnodup : ((rowsIn slots).map Prod.fst).Nodup :=
    ((hperm.map Prod.fst).nodup_iff).mpr (nodup_ids st s)
  obtain ⟨hlaid, hrest⟩ := lookup_place h (fun r hr => (hmem r hr).1) hnodup
  symm
  refine eq_listActiveOrdered (laidRows_sorted ..).1 fun r =>
    ⟨fun hr => ⟨hlaid r hr, laidRows_active (fun q hq => (hmem q hq).2) hr⟩, ?_⟩
  rintro ⟨hr, hactive⟩
  by_contra hno
  have hids : ∀ q ∈ laidRows st slots pos (nextId s.queueItems), q.1 ≠ r.1 := by
    intro q hq he
    have hsame := hlaid q hq
    rw [he, hr] at hsame
    exact hno ((Prod.ext he (Option.some.inj hsame).symm : q = r) ▸ hq)
  rw [hrest r.1 hids] at hr
  have hrow : r.1 ∈ (rowsIn slots).map Prod.fst :=
    List.mem_map_of_mem (hperm.mem_iff.mpr (mem_listActiveOrdered.mpr ⟨hr, hactive⟩))
  obtain ⟨q, hq, hid⟩ := laid_of_rowsIn pos (nextId s.queueItems) hrow
  exact hids q hq hid

/-! ### Rows but for their positions -/

/-- All of a row but its position. -/
def unplaced (r : Row) : Row := (r.1, content r.2)

def unplacedSlot : Slot → Slot
  | .jingle trackId => .jingle trackId
  | .row r => .row (unplaced r)

def trackOf : Slot → ℤ
  | .jingle trackId => trackId
  | .row r => r.2.trackId

/-- The row is not a pending jingle. -/
def keeps (s : Engine) (r : Row) : Bool :=
  !(decide (r.2.status = .pending) && decide (sqlKindOf s r.2.trackId = "jingle"))

lemma listActive_drop (st : ℤ) (s : Engine) :
    listActiveOrdered st (dropPendingJingles st s) = (listActiveOrdered st s).filter (keeps s) := by
  symm
  have hsorted : (listActiveOrdered st s).Pairwise fun a b => Before (key a) (key b) :=
    List.pairwise_map.mp (keys_sorted st s)
  refine eq_listActiveOrdered (hsorted.filter _) fun r => ?_
  rw [List.mem_filter, mem_listActiveOrdered, dropPendingJingles, Std.ExtTreeMap.getElem?_filter']
  constructor
  · rintro ⟨⟨hr, hst, hactive⟩, hkeeps⟩
    refine ⟨?_, hst, hactive⟩
    rw [hr, Option.filter_some, if_pos (by simpa [keeps, hst] using hkeeps)]
  · rintro ⟨hr, hst, hactive⟩
    obtain ⟨hrow, hkeeps⟩ := Option.filter_eq_some_iff.mp hr
    exact ⟨⟨hrow, hst, hactive⟩, by simpa [keeps, hst] using hkeeps⟩

lemma laidRows_tracks (slots : List Slot) (pos next : ℤ) :
    (laidRows st slots pos next).map (·.2.trackId) = slots.map trackOf := by
  induction slots generalizing pos next with
  | nil => rfl
  | cons slot slots ih =>
    cases slot with
    | jingle trackId => exact congrArg (trackId :: ·) (ih ..)
    | row r => exact congrArg (r.2.trackId :: ·) (ih ..)

/-- Without the jingles that were put, the rows are those that were laid out. -/
lemma laidRows_keeps (pos next : ℤ)
    (hjingles : ∀ trackId, Slot.jingle trackId ∈ slots → sqlKindOf s trackId = "jingle")
    (hrows : ∀ r ∈ rowsIn slots, keeps s r = true) :
    ((laidRows st slots pos next).filter (keeps s)).map unplaced =
      (rowsIn slots).map unplaced := by
  induction slots generalizing pos next with
  | nil => rfl
  | cons slot slots ih =>
    have hrest := fun trackId h => hjingles trackId (List.mem_cons_of_mem _ h)
    cases slot with
    | jingle trackId =>
      have hkind := hjingles trackId List.mem_cons_self
      have hdrop : keeps s (next, .new st trackId pos (jingleKey trackId pos)) = false := by
        simp [keeps, QueueItem.new, hkind]
      rw [laidRows, List.filter_cons, if_neg (by rw [hdrop]; exact Bool.false_ne_true)]
      exact ih _ _ hrest hrows
    | row r =>
      have hkeep : keeps s (r.1, { r.2 with position := pos }) = true :=
        hrows r List.mem_cons_self
      rw [laidRows, List.filter_cons, if_pos hkeep]
      exact congrArg (unplaced r :: ·)
        (ih _ _ hrest fun q hq => hrows q (List.mem_cons_of_mem _ hq))

/-! ### The second plan -/

section Plan

variable {t : Engine} {interval counter : ℤ} {sweeper : Sweeper} {rows rows' : List Row}

lemma sweepPlan_congr (ht : t.tracks = s.tracks) (h : rows'.map unplaced = rows.map unplaced)
    (used : List ℤ) :
    (sweepPlan st t interval rows' counter used).map unplacedSlot =
      (sweepPlan st s interval rows counter used).map unplacedSlot := by
  induction rows generalizing rows' counter used with
  | nil =>
    rw [List.map_nil, List.map_eq_nil_iff] at h
    rw [h]
    rfl
  | cons r rows ih =>
    cases rows' with
    | nil => simp at h
    | cons q rows' =>
      rw [List.map_cons, List.map_cons] at h
      obtain ⟨hrow, hrest⟩ := List.cons.inj h
      have htrack : (unplaced q).2.trackId = (unplaced r).2.trackId := by rw [hrow]
      change q.2.trackId = r.2.trackId at htrack
      rw [sweepPlan, sweepPlan, kindOf_congr ht, pickJingle_congr ht, htrack]
      generalize kindOf s r.2.trackId = kind
      have hslot : unplacedSlot (.row q) = unplacedSlot (.row r) := congrArg Slot.row hrow
      split
      · rw [List.map_cons, List.map_cons, List.map_cons, List.map_cons, hslot, ih hrest]
      · rw [List.map_cons, List.map_cons, hslot, ih hrest]

/-- The statuses of rows do not depend on where they stand. -/
lemma filter_status (h : rows'.map unplaced = rows.map unplaced) (status : ItemStatus) :
    (rows'.filter (·.2.status = status)).map unplaced =
      (rows.filter (·.2.status = status)).map unplaced := by
  have hfilter : ∀ l : List Row, (l.filter (·.2.status = status)).map unplaced =
      (l.map unplaced).filter (·.2.status = status) := fun l => by
    rw [List.filter_map]
    rfl
  rw [hfilter, hfilter, h]

lemma rowsIn_planned (st : ℤ) (sweeper : Sweeper) (s : Engine) : rowsIn (slotsOf st sweeper s) =
    (listActiveOrdered st s).filter (·.2.status = .playing) ++
      (listActiveOrdered st s).filter (·.2.status = .pending) := by
  unfold slotsOf
  dsimp only
  rw [rowsIn, List.filterMap_append]
  refine congrArg₂ _ (rowsIn_map_row _) ?_
  split_ifs
  · exact rowsIn_sweepPlan ..
  · exact rowsIn_map_row _

lemma filter_rowsIn (sweeper : Sweeper) (s : Engine) :
    (rowsIn (slotsOf st sweeper s)).filter (·.2.status = .playing) =
        (listActiveOrdered st s).filter (·.2.status = .playing) ∧
      (rowsIn (slotsOf st sweeper s)).filter (·.2.status = .pending) =
        (listActiveOrdered st s).filter (·.2.status = .pending) := by
  have hself : ∀ status, ((listActiveOrdered st s).filter (·.2.status = status)).filter
      (·.2.status = status) = (listActiveOrdered st s).filter (·.2.status = status) := fun status =>
    List.filter_eq_self.mpr fun r hr => (List.mem_filter.mp hr).2
  have hother : ∀ status status' : ItemStatus, status ≠ status' →
      ((listActiveOrdered st s).filter (·.2.status = status)).filter (·.2.status = status') = [] :=
    fun status status' hne => List.filter_eq_nil_iff.mpr fun r hr => by
      have hstatus : r.2.status = status := by simpa using (List.mem_filter.mp hr).2
      simpa [hstatus] using hne
  rw [rowsIn_planned, List.filter_append, List.filter_append, hself, hself,
    hother .playing .pending (by decide), hother .pending .playing (by decide)]
  simp

/-- **The second plan is the first one**, where the rows are those that were laid out. -/
lemma slotsOf_congr (ht : t.tracks = s.tracks)
    (hcount : countMusicSinceLastJingle st t = countMusicSinceLastJingle st s)
    (hrecent : recentJingleTrackIds st t = recentJingleTrackIds st s)
    (h : (listActiveOrdered st t).map unplaced = (rowsIn (slotsOf st sweeper s)).map unplaced) :
    (slotsOf st sweeper t).map unplacedSlot = (slotsOf st sweeper s).map unplacedSlot := by
  have hplaying := filter_status h .playing
  have hpending := filter_status h .pending
  rw [(filter_rowsIn sweeper s).1] at hplaying
  rw [(filter_rowsIn sweeper s).2] at hpending
  have hrow : ∀ l l' : List Row, l'.map unplaced = l.map unplaced →
      (l'.map Slot.row).map unplacedSlot = (l.map Slot.row).map unplacedSlot := fun l l' hl => by
    have hall : ∀ l : List Row, (l.map Slot.row).map unplacedSlot = (l.map unplaced).map .row :=
      fun l => by rw [List.map_map, List.map_map]; rfl
    rw [hall, hall, hl]
  unfold slotsOf
  dsimp only
  rw [List.map_append, List.map_append, hrow _ _ hplaying, hcount, hrecent]
  split_ifs
  · rw [sweepPlan_congr ht hpending]
  · rw [hrow _ _ hpending]

/-- What was played, and the library, are the same. -/
structure SamePlayed (st : ℤ) (s t : Engine) : Prop where
  tracks : t.tracks = s.tracks
  history : (played st t).map (·.2.trackId) = (played st s).map (·.2.trackId)

lemma SamePlayed.trans {u : Engine} (h : SamePlayed st s t) (h' : SamePlayed st t u) :
    SamePlayed st s u :=
  ⟨h'.tracks.trans h.tracks, h'.history.trans h.history⟩

lemma SamePlayed.kind (h : SamePlayed st s t) : sqlKindOf t = sqlKindOf s := by
  funext trackId
  unfold sqlKindOf trackTypeOf
  rw [h.tracks]

lemma SamePlayed.count (h : SamePlayed st s t) :
    countMusicSinceLastJingle st t = countMusicSinceLastJingle st s := by
  unfold countMusicSinceLastJingle
  rw [played_eq, played_eq, List.map_take, List.map_take, h.history, h.kind]

lemma SamePlayed.recent (h : SamePlayed st s t) :
    recentJingleTrackIds st t = recentJingleTrackIds st s := by
  have hrecent : ∀ u : Engine, recentJingleTrackIds st u =
      ((((played st u).map (·.2.trackId)).filter
        fun trackId => sqlKindOf u trackId = "jingle").take 1).filter (0 < ·) := fun u => by
    rw [recentJingleTrackIds, List.map_take, List.filter_map]
    rfl
  rw [hrecent, hrecent, h.history, h.kind]

lemma samePlayed_drop (st : ℤ) (s : Engine) : SamePlayed st s (dropPendingJingles st s) :=
  ⟨rfl, by rw [played_drop]⟩

lemma samePlayed_setPosition (id pos : ℤ) : SamePlayed st s (setPosition id pos s) :=
  ⟨rfl, by rw [played, played, List.map_reverse, List.map_reverse, queueRows_setPosition]⟩

lemma samePlayed_insert (st : ℤ) (s : Engine) {row : QueueItem} (hrow : row.status = .pending) :
    SamePlayed st s (insertQueue row s) := by
  refine ⟨rfl, ?_⟩
  unfold played queueRows insertQueue
  dsimp only
  rw [rows_insert_last fun j b hb => lt_nextId hb, List.filter_append]
  simp [hrow]

lemma samePlayed_place (h : place st slots pos s = some s') : SamePlayed st s s' := by
  induction slots generalizing pos s with
  | nil =>
    obtain rfl := Option.some.inj h
    exact ⟨rfl, rfl⟩
  | cons slot slots ih =>
    cases slot with
    | jingle trackId =>
      unfold place at h
      dsimp only at h
      split_ifs at h
      exact (samePlayed_insert _ _ rfl).trans (ih h)
    | row r => exact (samePlayed_setPosition r.1 pos).trans (ih h)

/-- The keys that stand against jingles are those of the active rows. -/
lemma keysFree_iff : KeysFree st s slots pos ↔ ∀ (i : ℕ) (jingle : ℤ),
    slots[i]? = some (.jingle jingle) →
      some (jingleKey jingle (pos + i)) ∉ (listActiveOrdered st s).map (·.2.dedupeKey) := by
  refine forall₃_congr fun i jingle _ => ?_
  rw [List.mem_map]
  constructor
  · rintro h ⟨r, hr, hkey⟩
    obtain ⟨hrow, hst, hactive⟩ := mem_listActiveOrdered.mp hr
    exact h r.1 r.2 hrow hst hactive hkey
  · intro h id r hr hst hactive hkey
    exact h ⟨(id, r), mem_listActiveOrdered.mpr ⟨hr, hst, hactive⟩, hkey⟩

lemma keysFree_congr {slots' : List Slot}
    (hslots : slots'.map unplacedSlot = slots.map unplacedSlot)
    (hrows : ((listActiveOrdered st t).map unplaced).Perm ((listActiveOrdered st s).map unplaced)) :
    KeysFree st t slots' pos ↔ KeysFree st s slots pos := by
  have hkeys : ((listActiveOrdered st t).map (·.2.dedupeKey)).Perm
      ((listActiveOrdered st s).map (·.2.dedupeKey)) := by
    have hmap := hrows.map (·.2.dedupeKey)
    rwa [List.map_map, List.map_map] at hmap
  have hjingle : ∀ (l : List Slot) (i : ℕ) (jingle : ℤ), l[i]? = some (.jingle jingle) ↔
      (l.map unplacedSlot)[i]? = some (.jingle jingle) := fun l i jingle => by
    rw [List.getElem?_map, Option.map_eq_some_iff]
    constructor
    · exact fun h => ⟨_, h, rfl⟩
    · rintro ⟨slot, hslot, hsame⟩
      cases slot with
      | jingle trackId => rw [hslot, ← hsame, unplacedSlot]
      | row r => cases hsame
  rw [keysFree_iff, keysFree_iff]
  refine forall₂_congr fun i jingle => ?_
  rw [hjingle slots', hslots, ← hjingle, hkeys.mem_iff]

lemma tracks_congr {slots' : List Slot}
    (hslots : slots'.map unplacedSlot = slots.map unplacedSlot) :
    slots'.map trackOf = slots.map trackOf := by
  have htrack : ∀ l : List Slot, l.map trackOf = (l.map unplacedSlot).map trackOf := fun l => by
    rw [List.map_map]
    refine List.map_congr_left fun slot _ => ?_
    cases slot <;> rfl
  rw [htrack slots', hslots, ← htrack]

lemma jingle_of_sweepPlan {trackId : ℤ} {used : List ℤ}
    (h : .jingle trackId ∈ sweepPlan st s interval rows counter used) :
    sqlKindOf s trackId = "jingle" := by
  induction rows generalizing counter used with
  | nil => simp [sweepPlan] at h
  | cons r rows ih =>
    rw [sweepPlan] at h
    split at h
    · rename_i jingle hpick
      split_ifs at hpick
      rcases List.mem_cons.mp h with heq | h
      · obtain rfl : trackId = jingle := Slot.jingle.inj heq
        have hlib : Interleaving.eligible st s ≠ [] := fun hnil => by
          rw [Interleaving.eligible, List.map_eq_nil_iff] at hnil
          rw [(pickJingle_eq_none used).mpr hnil] at hpick
          cases hpick
        obtain ⟨jingle, hpick', hjingle⟩ := Interleaving.pickJingle_some hlib used
        obtain rfl := Option.some.inj (hpick.symm.trans hpick')
        simpa [Interleaving.isJingle] using hjingle
      · rcases List.mem_cons.mp h with heq | h
        · cases heq
        · exact ih h
    · rcases List.mem_cons.mp h with heq | h
      · cases heq
      · exact ih h

lemma jingle_of_slotsOf {trackId : ℤ} (h : .jingle trackId ∈ slotsOf st sweeper s) :
    sqlKindOf s trackId = "jingle" := by
  unfold slotsOf at h
  dsimp only at h
  have hrow : ∀ l : List Row, Slot.jingle trackId ∉ l.map Slot.row := fun l hl => by
    obtain ⟨r, -, hr⟩ := List.mem_map.mp hl
    cases hr
  rcases List.mem_append.mp h with h | h
  · exact absurd h (hrow _)
  · split_ifs at h
    · exact jingle_of_sweepPlan h
    · exact absurd h (hrow _)

lemma keeps_congr (ht : t.tracks = s.tracks) : keeps t = keeps s := by
  funext r
  unfold keeps sqlKindOf trackTypeOf
  rw [ht]

/-- Once the queue is laid out and its jingles are gone, the rows that were laid out are left. -/
lemma active_of_place (h : place st (planned st sweeper s) 1 (dropPendingJingles st s) = some s') :
    (listActiveOrdered st (dropPendingJingles st s')).map unplaced =
      (rowsIn (planned st sweeper s)).map unplaced := by
  have hsame := (samePlayed_drop st s).trans (samePlayed_place h)
  rw [listActive_drop, listActive_place h (rowsIn_slotsOf sweeper), keeps_congr hsame.tracks]
  refine laidRows_keeps _ _ (fun trackId hjingle => ?_) fun r hr => ?_
  · have hkind := jingle_of_slotsOf hjingle
    rwa [(samePlayed_drop st s).kind] at hkind
  · have hactive := (rowsIn_slotsOf sweeper).mem_iff.mp hr
    rw [listActive_drop] at hactive
    exact (List.mem_filter.mp hactive).2

/-- **The second layout** is there whenever the first one is, and has the same tracks. -/
lemma place_again (h : place st (planned st sweeper s) 1 (dropPendingJingles st s) = some s') :
    ∃ t, place st (planned st sweeper s') 1 (dropPendingJingles st s') = some t ∧
      (listActiveOrdered st t).map (·.2.trackId) = (listActiveOrdered st s').map (·.2.trackId) ∧
      (pendingRows st s').map unplaced = (pendingRows st s).map unplaced := by
  have hactive := active_of_place h
  have hperm : (rowsIn (planned st sweeper s)).Perm
      (listActiveOrdered st (dropPendingJingles st s)) := rowsIn_slotsOf sweeper
  have hsame : SamePlayed st (dropPendingJingles st s) (dropPendingJingles st s') :=
    (samePlayed_place h).trans (samePlayed_drop st s')
  have hslots : (planned st sweeper s').map unplacedSlot =
      (planned st sweeper s).map unplacedSlot :=
    slotsOf_congr hsame.tracks hsame.count hsame.recent hactive
  have hfree : KeysFree st (dropPendingJingles st s) (planned st sweeper s) 1 :=
    place_ne_none_iff.mp (by rw [h]; exact Option.some_ne_none _)
  have hfree' := (keysFree_congr hslots (by rw [hactive]; exact hperm.map unplaced)).mpr hfree
  obtain ⟨t, ht⟩ := Option.ne_none_iff_exists'.mp (place_ne_none_iff.mpr hfree')
  refine ⟨t, ht, ?_, ?_⟩
  · rw [listActive_place ht (rowsIn_slotsOf sweeper), listActive_place h hperm, laidRows_tracks,
      laidRows_tracks, tracks_congr hslots]
  · have hpending := filter_status hactive .pending
    rwa [show (rowsIn (planned st sweeper s)).filter (·.2.status = .pending) = _ from
      (filter_rowsIn sweeper (dropPendingJingles st s)).2] at hpending

end Plan

/-! ### A second call -/

section Stable

variable {sweeper : Sweeper} {c : Connection} {laid : Engine}

def playingIds (st : ℤ) (s : Engine) : List ℤ :=
  ((listActiveOrdered st s).filter (·.2.status = .playing)).map Prod.fst

/-- The pending rows whose tracks are no jingles. -/
def pendingIds (st : ℤ) (s : Engine) : List ℤ :=
  ((listActiveOrdered st s).filter fun r => decide (r.2.status = .pending) &&
    !decide (sqlKindOf s r.2.trackId = "jingle")).map Prod.fst

def tracksOf (rows : List Row) : List ℤ := rows.map (·.2.trackId)

/-- The index takes all that is put, the rows that play and the pending ones that are no jingles
keep their order, and a second call, on the same connection or on a fresh one, returns the same
tracks. -/
def Stable (st : ℤ) (s : Engine) : Prop :=
  ∃ c rows, reconcile st (connect s) = (c, .ok rows) ∧
    (playingIds st s).Sublist (rows.map Prod.fst) ∧
    (pendingIds st s).Sublist (rows.map Prod.fst) ∧
    ∀ c', c' = c ∨ c' = connect c.disk → ∃ c'' rows', reconcile st c' = (c'', .ok rows') ∧
      tracksOf rows' = tracksOf rows

lemma playingIds_drop (st : ℤ) (s : Engine) : playingIds st s =
    ((listActiveOrdered st (dropPendingJingles st s)).filter
      (·.2.status = .playing)).map Prod.fst := by
  rw [listActive_drop, List.filter_filter]
  refine congrArg _ (List.filter_congr fun r _ => ?_)
  cases hstatus : r.2.status <;> simp [keeps, hstatus]

lemma pendingIds_drop (st : ℤ) (s : Engine) :
    pendingIds st s = (pendingRows st s).map Prod.fst := by
  unfold pendingIds pendingRows
  rw [listActive_drop, List.filter_filter]
  refine congrArg (List.map Prod.fst) (List.filter_congr fun r _ => ?_)
  cases hstatus : r.2.status <;> simp [keeps, hstatus]

lemma rowsIn_sublist (st : ℤ) (slots : List Slot) (pos next : ℤ) :
    ((rowsIn slots).map Prod.fst).Sublist ((laidRows st slots pos next).map Prod.fst) := by
  induction slots generalizing pos next with
  | nil => exact List.Sublist.refl _
  | cons slot slots ih =>
    cases slot with
    | jingle trackId => exact (ih ..).cons _
    | row r => exact (ih ..).cons_cons _

/-- The order is kept wherever the rows are laid out. -/
lemma order_of_place
    (h : place st (planned st sweeper s) 1 (dropPendingJingles st s) = some laid) :
    (playingIds st s).Sublist ((listActiveOrdered st laid).map Prod.fst) ∧
      (pendingIds st s).Sublist ((listActiveOrdered st laid).map Prod.fst) := by
  have hrows := rowsIn_planned st sweeper (dropPendingJingles st s)
  have hall := rowsIn_sublist st (planned st sweeper s) 1
    (nextId (dropPendingJingles st s).queueItems)
  rw [listActive_place h (rowsIn_slotsOf sweeper), playingIds_drop, pendingIds_drop]
  rw [show rowsIn (planned st sweeper s) = _ from hrows, List.map_append] at hall
  exact ⟨(List.sublist_append_left ..).trans hall, (List.sublist_append_right ..).trans hall⟩

lemma settings_place
    (h : place st (planned st sweeper s) 1 (dropPendingJingles st s) = some laid) :
    sweeperSettings st laid = sweeperSettings st s := by
  have hsettings := place_settings h
  unfold sweeperSettings settingOr setting
  rw [hsettings]
  rfl

/-- What is returned where the queue is not refilled. -/
lemma reconcile_ok (hsettings : sweeperSettings st c.view = .ok sweeper)
    (hrows : ¬ (sweeper.enabled = true ∧ pendingRows st c.view = []))
    (h : place st (planned st sweeper c.view) 1 (dropPendingJingles st c.view) = some laid) :
    reconcile st c = (if commits st sweeper c.view then connect laid else ⟨c.disk, laid, true⟩,
      .ok (listActiveOrdered st laid)) := by
  have hreconcile := reconcile_eq hsettings
  rw [h] at hreconcile
  dsimp only at hreconcile
  rwa [if_neg (by simpa using hrows)] at hreconcile

/-- **The function is stable** if and only if the keys of the jingles are free, where the queue is
not refilled. -/
theorem stable_iff (hsettings : sweeperSettings st s = .ok sweeper)
    (hrows : ¬ (sweeper.enabled = true ∧ pendingRows st s = [])) : Stable st s ↔
      KeysFree st (dropPendingJingles st s) (planned st sweeper s) 1 := by
  rw [← place_ne_none_iff]
  constructor
  · rintro ⟨c, rows, hreconcile, -⟩ hnone
    have hraises := reconcile_eq (c := connect s) hsettings
    rw [show place st (planned st sweeper (connect s).view) 1
      (dropPendingJingles st (connect s).view) = none from hnone] at hraises
    obtain ⟨c', hc', -⟩ := hraises
    rw [hreconcile] at hc'
    cases hc'
  · intro hplace
    obtain ⟨laid, hlaid⟩ := Option.ne_none_iff_exists'.mp hplace
    obtain ⟨again, hagain, htracks, hpending⟩ := place_again hlaid
    have hfirst := reconcile_ok (c := connect s) hsettings hrows hlaid
    have hrows' : ¬ (sweeper.enabled = true ∧ pendingRows st laid = []) := fun ⟨hon, hnil⟩ => by
      rw [hnil] at hpending
      exact hrows ⟨hon, List.map_eq_nil_iff.mp hpending.symm⟩
    obtain ⟨hplaying, hkept⟩ := order_of_place hlaid
    refine ⟨_, _, hfirst, hplaying, hkept, fun c' hc' => ?_⟩
    -- the second call sees what was laid out, or all was lost with the first connection
    have hview : c'.view = laid ∨ c'.view = s := by
      rcases hc' with rfl | rfl
      · split_ifs
        · exact .inl rfl
        · exact .inl rfl
      · split_ifs
        · exact .inl rfl
        · exact .inr rfl
    rcases hview with hview | hview
    · refine ⟨_, _, @reconcile_ok st sweeper _ again ?_ ?_ ?_, htracks⟩
      · rw [hview, settings_place hlaid, hsettings]
      · rw [hview]
        exact hrows'
      · rw [hview]
        exact hagain
    · refine ⟨_, _, @reconcile_ok st sweeper _ laid ?_ ?_ ?_, rfl⟩
      · rw [hview, hsettings]
      · rw [hview]
        exact hrows
      · rw [hview]
        exact hlaid

end Stable

end OnAir.SweepStability
