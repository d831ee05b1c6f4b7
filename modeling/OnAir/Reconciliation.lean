import OnAir.SweeperQueue

/-!
`reconcile_pending_sweeper_queue` on a connection, statement by statement.

The first write opens a transaction. What a connection has written and not committed is seen by
itself only, and the four ways out of the function commit by rules of their own.
-/

namespace OnAir.Reconciliation

open ActiveRows BroadcastQueue PlayoutTables SweeperQueue OnAir.Table

/-! ### The connection -/

structure Connection where
  /-- what a fresh connection reads -/
  disk : Engine
  view : Engine
  inTransaction : Bool

def connect (s : Engine) : Connection := ⟨s, s, false⟩

namespace Connection

variable (c : Connection)

def write (f : Engine → Engine) : Connection := { c with view := f c.view, inTransaction := true }

def commit : Connection := connect c.view

@[simp] lemma view_commit : c.commit.view = c.view := rfl

end Connection

inductive Raised
  /-- of a setting -/
  | overflow
  | integrity
  deriving DecidableEq

/-! ### The function -/

/-- The variables of the loop. -/
structure Sweep where
  conn : Connection
  nextPos : ℤ
  counter : ℤ
  /-- the jingle played last, and the ones that were put -/
  used : List ℤ
  inserted : ℕ

def setPosition (id pos : ℤ) : Engine → Engine :=
  updateQueue id fun q => { q with position := pos }

def Sweep.put (p : Sweep) (r : Row) : Sweep :=
  { p with conn := p.conn.write (setPosition r.1 p.nextPos), nextPos := p.nextPos + 1 }

def jingleKey (trackId pos : ℤ) : String := s!"jingle:{trackId}:{pos}"

def Sweep.jingle (st trackId : ℤ) (p : Sweep) : Sweep :=
  ⟨p.conn.write (insertQueue (.new st trackId p.nextPos (jingleKey trackId p.nextPos))),
    p.nextPos + 1, 0, trackId :: p.used, p.inserted + 1⟩

/-- The jingle that is put where one is due; the connection is left where its key is taken. -/
def insertJingle (st : ℤ) (p : Sweep) : Except Connection Sweep :=
  match pickJingle st p.conn.view p.used with
  | none => .ok p
  | some jingle =>
    if dedupeTaken p.conn.view (.new st jingle p.nextPos (jingleKey jingle p.nextPos)) then
      .error p.conn
    else .ok (p.jingle st jingle)

def Sweep.count (p : Sweep) (kind : String) : Sweep :=
  { p with counter := countAfter kind p.counter }

def sweepRow (st interval : ℤ) (p : Sweep) (r : Row) : Except Connection Sweep := do
  let kind := kindOf p.conn.view r.2.trackId
  let p ← if kind = "music" && decide (interval ≤ p.counter) then insertJingle st p else pure p
  return (p.put r).count kind

def refill (st : ℤ) (c : Connection) : Connection × Except Raised (List Row) :=
  let s := ensureReadyForPlayback st c.view true
  (connect s, .ok (listActiveOrdered st s))

/-- The rows that are left are laid out, the playing ones first. -/
def relay (st : ℤ) (sweeper : Sweeper) (removed : Bool) (playing pending : List Row)
    (c : Connection) : Connection × Except Raised (List Row) :=
  let p := playing.foldl Sweep.put ⟨c, 1, 0, [], 0⟩
  if !sweeper.enabled then
    let c := (pending.foldl Sweep.put p).conn
    let c := if removed then c.commit else c
    (c, .ok (listActiveOrdered st c.view))
  else if sweeper.unit = .minutes then
    let c := (pending.foldl Sweep.put p).conn.commit
    if pending.isEmpty then refill st c else (c, .ok (listActiveOrdered st c.view))
  else if pending.isEmpty then refill st p.conn.commit
  else
    let p := { p with
      counter := countMusicSinceLastJingle st p.conn.view
      used := recentJingleTrackIds st p.conn.view }
    match pending.foldlM (sweepRow st sweeper.interval) p with
    | .error c => (c, .error .integrity)
    | .ok p =>
      let c := if removed || decide (0 < p.inserted) then p.conn.commit else p.conn
      (c, .ok (listActiveOrdered st c.view))

/-- `reconcile_pending_sweeper_queue`. -/
def reconcile (st : ℤ) (c : Connection) : Connection × Except Raised (List Row) :=
  match sweeperSettings st c.view with
  | .error _ => (c, .error .overflow)
  | .ok sweeper =>
    let removed := pendingJingles st c.view
    let c := c.write (dropPendingJingles st)
    let rows := listActiveOrdered st c.view
    let playing := rows.filter fun r => r.2.status = .playing
    let pending := rows.filter fun r => r.2.status = .pending
    relay st sweeper (!removed.isEmpty) playing pending c

/-! ### The loop and the plan -/

section Loop

variable {st interval id pos : ℤ} {s : Engine} {p : Sweep} {r : Row} {rows : List Row}

lemma queueRows_setPosition (statuses : List ItemStatus) :
    (queueRows st (setPosition id pos s) statuses).map (·.2.trackId) =
      (queueRows st s statuses).map (·.2.trackId) := by
  unfold queueRows setPosition updateQueue
  dsimp only
  rw [rows_modify]
  generalize rows s.queueItems = l
  induction l with
  | nil => rfl
  | cons r l ih =>
    rw [List.map_cons, List.filter_cons, List.filter_cons]
    by_cases hid : r.1 = id
    · rw [if_pos hid]
      dsimp only
      split_ifs
      · exact congrArg (r.2.trackId :: ·) ih
      · exact ih
    · rw [if_neg hid]
      split_ifs
      · exact congrArg (r.2.trackId :: ·) ih
      · exact ih

lemma played_eq (l : List Row) (kind : ℤ → String) :
    ((musicBeforeJingle kind l).length : ℤ) =
      (((l.map (·.2.trackId)).takeWhile fun t => kind t ≠ "jingle").filter
        fun t => kind t = "music").length := by
  rw [musicBeforeJingle, List.takeWhile_map, List.filter_map, List.length_map]
  rfl

lemma countMusic_setPosition :
    countMusicSinceLastJingle st (setPosition id pos s) = countMusicSinceLastJingle st s := by
  unfold countMusicSinceLastJingle played
  rw [played_eq, played_eq, List.map_take, List.map_take, List.map_reverse, List.map_reverse,
    queueRows_setPosition]
  rfl

lemma recentJingles_setPosition :
    recentJingleTrackIds st (setPosition id pos s) = recentJingleTrackIds st s := by
  have hrecent : ∀ t : Engine, recentJingleTrackIds st t =
      ((((queueRows st t [.done, .playing]).map (·.2.trackId)).reverse.filter
        fun trackId => sqlKindOf t trackId = "jingle").take 1).filter (0 < ·) := fun t => by
    rw [recentJingleTrackIds, played, List.map_take, ← List.map_reverse, List.filter_map]
    rfl
  rw [hrecent, hrecent, queueRows_setPosition]
  rfl

lemma kindOf_congr {t : Engine} (h : t.tracks = s.tracks) (trackId : ℤ) :
    kindOf t trackId = kindOf s trackId := by
  unfold kindOf trackTypeOf
  rw [h]

lemma pickJingle_congr {t : Engine} (h : t.tracks = s.tracks) (used : List ℤ) :
    pickJingle st t used = pickJingle st s used := by
  unfold pickJingle playable
  rw [h]

lemma place_append (slots slots' : List Slot) (pos : ℤ) (s : Engine) :
    place st (slots ++ slots') pos s =
      (place st slots pos s).bind (place st slots' (pos + slots.length)) := by
  induction slots generalizing pos s with
  | nil => simp [place]
  | cons slot slots ih =>
    have hlength : pos + (slot :: slots).length = pos + 1 + slots.length := by
      push_cast [List.length_cons]
      omega
    rw [hlength]
    cases slot with
    | jingle trackId =>
      rw [List.cons_append, place, place]
      split_ifs
      · rfl
      · exact ih ..
    | row r => exact ih ..

/-- From `p` to `q` the slots are laid out on the open transaction. -/
structure Lays (st : ℤ) (slots : List Slot) (p q : Sweep) : Prop where
  placed : place st slots p.nextPos p.conn.view = some q.conn.view
  inserted : q.inserted = p.inserted + slots.countP Slot.isJingle
  disk : q.conn.disk = p.conn.disk
  inTransaction : p.conn.inTransaction = true → q.conn.inTransaction = true

/-- What rows are put at positions leave alone. -/
structure Puts (st : ℤ) (rows : List Row) (p q : Sweep) : Prop
    extends Lays st (rows.map .row) p q where
  nextPos : q.nextPos = p.nextPos + rows.length
  tracks : q.conn.view.tracks = p.conn.view.tracks
  counter : countMusicSinceLastJingle st q.conn.view = countMusicSinceLastJingle st p.conn.view
  recent : recentJingleTrackIds st q.conn.view = recentJingleTrackIds st p.conn.view

lemma foldl_put (st : ℤ) (rows : List Row) (p : Sweep) :
    Puts st rows p (rows.foldl Sweep.put p) := by
  induction rows generalizing p with
  | nil => exact ⟨⟨rfl, rfl, rfl, id⟩, by simp, rfl, rfl, rfl⟩
  | cons r rows ih =>
    have h := ih (p.put r)
    rw [List.foldl_cons]
    refine ⟨⟨h.placed, h.inserted, h.disk, fun _ => h.inTransaction rfl⟩, ?_, h.tracks,
      h.counter.trans countMusic_setPosition, h.recent.trans recentJingles_setPosition⟩
    rw [h.nextPos, List.length_cons]
    push_cast [Sweep.put]
    omega

/-- The loop lays out the slots, or stops at a jingle whose key is taken. -/
def Sweeps (st : ℤ) (slots : List Slot) (p : Sweep) : Except Connection Sweep → Prop
  | .ok q => Lays st slots p q
  | .error c => place st slots p.nextPos p.conn.view = none ∧ c.disk = p.conn.disk ∧
      c.inTransaction = true

lemma Sweeps.row {slots : List Slot} {x : Except Connection Sweep} {kind : String}
    (h : Sweeps st slots ((p.put r).count kind) x) : Sweeps st (.row r :: slots) p x := by
  cases x with
  | error c => exact h
  | ok q => exact ⟨h.placed, h.inserted, h.disk, fun _ => h.inTransaction rfl⟩

lemma Sweeps.jingle {slots : List Slot} {x : Except Connection Sweep} {trackId : ℤ}
    (h : Sweeps st slots (p.jingle st trackId) x)
    (hfree : ¬ dedupeTaken p.conn.view
      (.new st trackId p.nextPos (jingleKey trackId p.nextPos)) = true) :
    Sweeps st (.jingle trackId :: slots) p x := by
  have hplace : place st (.jingle trackId :: slots) p.nextPos p.conn.view =
      place st slots (p.jingle st trackId).nextPos (p.jingle st trackId).conn.view :=
    if_neg hfree
  cases x with
  | error c => exact ⟨hplace.trans h.1, h.2⟩
  | ok q =>
    refine ⟨hplace.trans h.placed, ?_, h.disk, fun _ => h.inTransaction rfl⟩
    have hcount := h.inserted
    dsimp only [Sweep.jingle] at hcount
    rw [hcount, List.countP_cons, Slot.isJingle, if_pos rfl]
    omega

lemma foldlM_sweepRow (st interval : ℤ) (s : Engine) (rows : List Row) (p : Sweep)
    (ht : p.conn.view.tracks = s.tracks)
    (hopen : p.conn.inTransaction = true) :
    Sweeps st (sweepPlan st s interval rows p.counter p.used) p
      (rows.foldlM (sweepRow st interval) p) := by
  induction rows generalizing p with
  | nil => exact ⟨rfl, rfl, rfl, id⟩
  | cons r rows ih =>
    rw [List.foldlM_cons, sweepRow, kindOf_congr ht, sweepPlan]
    dsimp only
    generalize kindOf s r.2.trackId = kind
    generalize (kind = "music" && decide (interval ≤ p.counter)) = due
    cases due with
    | false => exact (ih ((p.put r).count kind) ht rfl).row
    | true =>
      unfold insertJingle
      rw [pickJingle_congr ht]
      cases pickJingle st s p.used with
      | none => exact (ih ((p.put r).count kind) ht rfl).row
      | some jingle =>
        by_cases htaken : dedupeTaken p.conn.view
            (.new st jingle p.nextPos (jingleKey jingle p.nextPos)) = true
        · rw [if_pos rfl]
          dsimp only
          rw [if_pos htaken]
          exact ⟨if_pos htaken, rfl, hopen⟩
        · rw [if_pos rfl]
          dsimp only
          rw [if_neg htaken]
          exact (ih (((p.jingle st jingle).put r).count kind) ht rfl).row.jingle htaken

end Loop

/-! ### What the function does -/

section Outcome

variable {st : ℤ} {sweeper : Sweeper} {s laid : Engine} {c : Connection}

/-- The pending rows that are no jingles. -/
def pendingRows (st : ℤ) (s : Engine) : List Row :=
  (listActiveOrdered st (dropPendingJingles st s)).filter fun r => r.2.status = .pending

/-- The slots that the rows are laid out in. -/
def planned (st : ℤ) (sweeper : Sweeper) (s : Engine) : List Slot :=
  slotsOf st sweeper (dropPendingJingles st s)

lemma pendingRows_isEmpty (st : ℤ) (s : Engine) : (pendingRows st s).isEmpty =
    (listActiveOrdered st (dropPendingJingles st s)).all (·.2.status = .playing) := by
  unfold pendingRows
  rw [Bool.eq_iff_iff, List.isEmpty_iff, List.filter_eq_nil_iff, List.all_eq_true]
  refine forall₂_congr fun r hr => ?_
  have hactive := (mem_listActiveOrdered.mp hr).2.2
  cases hs : r.2.status <;> simp_all [isActive]

lemma Lays.conn {slots : List Slot} {p q : Sweep} (h : Lays st slots p q)
    (hopen : p.conn.inTransaction = true) : q.conn = ⟨p.conn.disk, q.conn.view, true⟩ := by
  rw [← h.disk, ← h.inTransaction hopen]

@[simp] lemma any_isJingle_rows (rows : List Row) :
    (rows.map Slot.row).any Slot.isJingle = false := by
  simp [Slot.isJingle]

/-- What is laid out and committed, where `plan` follows the rows that play. -/
lemma relay_eq (st : ℤ) (sweeper : Sweeper) (removed : Bool) (playing pending : List Row)
    (d t : Engine) (plan : List Slot)
    (hplan : plan = if sweeper.enabled && sweeper.unit = .tracks then
      sweepPlan st t sweeper.interval pending (countMusicSinceLastJingle st t)
        (recentJingleTrackIds st t) else pending.map .row) :
    match place st (playing.map .row ++ plan) 1 t with
    | none => ∃ c', relay st sweeper removed playing pending ⟨d, t, true⟩ =
        (c', .error .integrity) ∧ c'.disk = d ∧ c'.inTransaction = true
    | some laid => relay st sweeper removed playing pending ⟨d, t, true⟩ =
        if sweeper.enabled && pending.isEmpty then refill st (connect laid)
        else (if removed || plan.any Slot.isJingle || sweeper.enabled &&
            (sweeper.unit = .minutes || pending.isEmpty) then connect laid else ⟨d, laid, true⟩,
          .ok (listActiveOrdered st laid)) := by
  have hput := foldl_put st playing ⟨⟨d, t, true⟩, 1, 0, [], 0⟩
  unfold relay
  generalize playing.foldl Sweep.put ⟨⟨d, t, true⟩, 1, 0, [], 0⟩ = p at hput ⊢
  have hp := hput.toLays.conn rfl
  dsimp only at hp
  have hplace : place st (playing.map .row ++ plan) 1 t = place st plan p.nextPos p.conn.view := by
    have hplaced : place st (playing.map .row) 1 t = some p.conn.view := hput.placed
    rw [place_append, hplaced, Option.bind_some, List.length_map, hput.nextPos]
  have hdisk : p.conn.disk = d := hput.disk
  have hopen : p.conn.inTransaction = true := hput.inTransaction rfl
  have hrows := (foldl_put st pending p).toLays
  have hrowsConn := hrows.conn hopen
  rw [hplace]
  cases henabled : sweeper.enabled with
  | false =>
    simp only [henabled, Bool.false_and, Bool.false_eq_true, if_false] at hplan
    rw [hplan, any_isJingle_rows, hrows.placed]
    dsimp only
    rw [hrowsConn, hdisk]
    cases removed <;> rfl
  | true =>
    cases hunit : sweeper.unit with
    | minutes =>
      simp only [henabled, hunit, reduceCtorEq, decide_false, Bool.and_false,
        Bool.false_eq_true, if_false] at hplan
      rw [hplan, hrows.placed]
      dsimp only
      rw [hrowsConn]
      cases pending.isEmpty <;> simp [Connection.commit, connect]
    | tracks =>
      simp only [henabled, hunit, decide_true, Bool.and_true, if_true] at hplan
      cases hpending : pending.isEmpty with
      | true =>
        rw [List.isEmpty_iff.mp hpending] at hplan
        rw [hplan]
        simp [Connection.commit, sweepPlan, place, connect]
      | false =>
        have hloop := foldlM_sweepRow st sweeper.interval t pending
          { p with
            counter := countMusicSinceLastJingle st p.conn.view
            used := recentJingleTrackIds st p.conn.view } hput.tracks hopen
        dsimp only at hloop
        rw [hput.counter, hput.recent, ← hplan] at hloop
        have hinserted : p.inserted = 0 := by
          rw [hput.inserted, List.countP_eq_zero.mpr fun slot hslot => ?_]
          obtain ⟨r, -, rfl⟩ := List.mem_map.mp hslot
          simp [Slot.isJingle]
        simp only [Bool.not_true, Bool.false_eq_true, if_false, reduceCtorEq, decide_false,
          Bool.or_false, Bool.and_false, hput.counter, hput.recent]
        revert hloop
        generalize List.foldlM (sweepRow st sweeper.interval) _ pending = result
        intro hloop
        cases result with
        | error c =>
          obtain ⟨hnone, hd, hc⟩ := hloop
          rw [hnone]
          exact ⟨c, rfl, hd.trans hdisk, hc⟩
        | ok q =>
          have hconn := Lays.conn hloop hopen
          have hany : decide (0 < q.inserted) = plan.any Slot.isJingle := by
            rw [hloop.inserted, hinserted, Nat.zero_add, Bool.eq_iff_iff]
            simp [List.countP_pos_iff]
          dsimp only
          rw [hloop.placed, hany, hconn, hdisk]
          cases removed || plan.any Slot.isJingle <;> rfl

/-- **What is returned and what is left behind**, if no setting raises. -/
theorem reconcile_eq (h : sweeperSettings st c.view = .ok sweeper) :
    match place st (planned st sweeper c.view) 1 (dropPendingJingles st c.view) with
    | none => ∃ c', reconcile st c = (c', .error .integrity) ∧ c'.disk = c.disk ∧
        c'.inTransaction = true
    | some laid => reconcile st c =
        if sweeper.enabled && (pendingRows st c.view).isEmpty then refill st (connect laid)
        else (if commits st sweeper c.view then connect laid else ⟨c.disk, laid, true⟩,
          .ok (listActiveOrdered st laid)) := by
  have hcommits : commits st sweeper c.view = (!(pendingJingles st c.view).isEmpty ||
      (planned st sweeper c.view).any Slot.isJingle ||
        sweeper.enabled && (sweeper.unit = .minutes || (pendingRows st c.view).isEmpty)) := by
    rw [pendingRows_isEmpty]
    rfl
  have hrelay := relay_eq st sweeper (!(pendingJingles st c.view).isEmpty)
    ((listActiveOrdered st (dropPendingJingles st c.view)).filter fun r => r.2.status = .playing)
    (pendingRows st c.view) c.disk (dropPendingJingles st c.view) _ rfl
  rw [hcommits]
  unfold reconcile
  rw [h]
  unfold planned slotsOf
  dsimp only
  rw [List.any_append, any_isJingle_rows, Bool.false_or]
  exact hrelay

lemma place_rows_ne_none (hempty : (pendingRows st s).isEmpty = true) :
    place st (planned st sweeper s) 1 (dropPendingJingles st s) ≠ none := by
  have hpending : (listActiveOrdered st (dropPendingJingles st s)).filter
      (fun r => r.2.status = .pending) = [] := List.isEmpty_iff.mp hempty
  unfold planned slotsOf
  dsimp only
  rw [hpending, List.map_nil, sweepPlan, ite_self, List.append_nil, place_rows]
  exact Option.some_ne_none _

end Outcome

/-! ### When the connection is settled -/

section Settled

variable (st : ℤ) (sweeper : Sweeper) (s : Engine)

/-- No active row that is left has the key of a jingle that is laid out. -/
def KeysFree (slots : List Slot) (pos : ℤ) : Prop :=
  ∀ (i : ℕ) (jingle : ℤ), slots[i]? = some (.jingle jingle) → ∀ (id : ℤ) (r : QueueItem),
    s.queueItems[id]? = some r → r.stationId = st → isActive r.status = true →
      r.dedupeKey ≠ some (jingleKey jingle (pos + i))

/-- Before one of the rows enough songs have been counted, and it is a song. -/
def JingleDue (interval : ℤ) (rows : List Row) (counter : ℤ) : Prop :=
  ∃ before r after, rows = before ++ r :: after ∧ kindOf s r.2.trackId = "music" ∧
    interval ≤ before.foldl (fun n q => countAfter (kindOf s q.2.trackId) n) counter

/-- A pending jingle goes; or the sweeper is on, and counts minutes, has nothing left to lay jingles
among, or has a jingle and a song before which one is due. -/
def Commits : Prop :=
  pendingJingles st s ≠ [] ∨ sweeper.enabled = true ∧ (sweeper.unit = .minutes ∨
    pendingRows st s = [] ∨ playable st s "jingle" [] ≠ [] ∧
      JingleDue s sweeper.interval (pendingRows st s) (countMusicSinceLastJingle st s))

/-- What is returned is what a fresh connection reads, and no transaction is open. -/
def ReturnsCommitted : Prop :=
  (∀ rows, (reconcile st (connect s)).2 = .ok rows →
    rows = listActiveOrdered st (reconcile st (connect s)).1.disk) ∧
      (reconcile st (connect s)).1.inTransaction = false

end Settled

section Keys

variable {st pos interval counter : ℤ} {s : Engine} {slots : List Slot}

lemma toList_jingleKey (trackId pos : ℤ) : (jingleKey trackId pos).toList =
    "jingle:".toList ++ ((toString trackId).toList ++ ':' :: (toString pos).toList) := by
  change ("jingle:" ++ toString trackId ++ ":" ++ toString pos).toList = _
  simp only [String.toList_append, List.append_assoc]
  rfl

lemma jingleKey_pos {trackId pos trackId' pos' : ℤ}
    (h : jingleKey trackId pos = jingleKey trackId' pos') : pos = pos' := by
  have hcolon : ∀ n : ℤ, ':' ∉ (toString n).toList := fun n =>
    TextFields.notMem_toString (by decide) (by decide)
  have heq := congrArg String.toList h
  rw [toList_jingleKey, toList_jingleKey] at heq
  have hpos := (TextFields.split_first (hcolon trackId) (hcolon trackId')
    (List.append_cancel_left heq)).2
  exact TextFields.toString_injective (String.toList_injective hpos)

lemma taken_jingle {trackId : ℤ} :
    dedupeTaken s (.new st trackId pos (jingleKey trackId pos)) = true ↔
      ∃ (id : ℤ) (r : QueueItem), s.queueItems[id]? = some r ∧ r.stationId = st ∧
        isActive r.status = true ∧ r.dedupeKey = some (jingleKey trackId pos) := by
  have hblank : Sql.nonBlank (jingleKey trackId pos) = true := by
    rw [Sql.nonBlank, toList_jingleKey]
    simp
  rw [dedupeTaken_iff rfl]
  simp [QueueItem.new, isActive, hblank]

lemma keysFree_jingle {trackId : ℤ} : KeysFree st s (.jingle trackId :: slots) pos ↔
    dedupeTaken s (.new st trackId pos (jingleKey trackId pos)) = false ∧
      KeysFree st (insertQueue (.new st trackId pos (jingleKey trackId pos)) s) slots
        (pos + 1) := by
  rw [← Bool.not_eq_true, taken_jingle]
  constructor
  · intro h
    refine ⟨fun ⟨id, r, hr, hst, hactive, hkey⟩ => ?_, fun i jingle hi id r hr hst hactive => ?_⟩
    · exact h 0 trackId rfl id r hr hst hactive (by simpa using hkey)
    · rw [insertQueue, lookup_insert] at hr
      split_ifs at hr
      · obtain rfl := Option.some.inj hr
        intro hkey
        have hpos := jingleKey_pos (Option.some.inj hkey)
        omega
      · have hfree := h (i + 1) jingle hi id r hr hst hactive
        rwa [show pos + ((i + 1 : ℕ) : ℤ) = pos + 1 + i by push_cast; omega] at hfree
  · rintro ⟨hnot, h⟩ i jingle hi id r hr hst hactive hkey
    cases i with
    | zero =>
      obtain rfl : trackId = jingle := by simpa using hi
      exact hnot ⟨id, r, hr, hst, hactive, by simpa using hkey⟩
    | succ i =>
      refine h i jingle hi id r ?_ hst hactive ?_
      · rw [insertQueue, lookup_insert, if_neg (lt_nextId hr).ne, hr]
      · rwa [show pos + ((i + 1 : ℕ) : ℤ) = pos + 1 + i by push_cast; omega] at hkey

lemma keysFree_row {row : Row} : KeysFree st s (.row row :: slots) pos ↔
    KeysFree st (setPosition row.1 pos s) slots (pos + 1) := by
  constructor
  · intro h i jingle hi id r hr hst hactive hkey
    rw [setPosition, updateQueue, lookup_modify] at hr
    rw [show pos + 1 + (i : ℤ) = pos + ((i + 1 : ℕ) : ℤ) by push_cast; omega] at hkey
    split_ifs at hr
    · obtain ⟨q, hq, rfl⟩ := Option.map_eq_some_iff.mp hr
      exact h (i + 1) jingle hi id q hq hst hactive hkey
    · exact h (i + 1) jingle hi id r hr hst hactive hkey
  · intro h i jingle hi id r hr hst hactive hkey
    cases i with
    | zero => simp at hi
    | succ i =>
      rw [show pos + ((i + 1 : ℕ) : ℤ) = pos + 1 + i by push_cast; omega] at hkey
      by_cases hid : id = row.1
      · refine h i jingle hi id { r with position := pos } ?_ hst hactive hkey
        rw [setPosition, updateQueue, lookup_modify, if_pos hid, hr, Option.map_some]
      · refine h i jingle hi id r ?_ hst hactive hkey
        rw [setPosition, updateQueue, lookup_modify, if_neg hid, hr]

/-- The slots can be laid out if and only if the keys of the jingles are free. -/
lemma place_ne_none_iff : place st slots pos s ≠ none ↔ KeysFree st s slots pos := by
  induction slots generalizing pos s with
  | nil => exact iff_of_true (by simp [place]) fun i jingle h => by simp at h
  | cons slot slots ih =>
    cases slot with
    | jingle trackId =>
      have hplace : place st (.jingle trackId :: slots) pos s =
          if dedupeTaken s (.new st trackId pos (jingleKey trackId pos)) then none
          else place st slots (pos + 1)
            (insertQueue (.new st trackId pos (jingleKey trackId pos)) s) := rfl
      rw [hplace, keysFree_jingle]
      cases htaken : dedupeTaken s (.new st trackId pos (jingleKey trackId pos)) with
      | true => simp
      | false => simpa using ih
    | row r =>
      rw [place, ih, keysFree_row]
      rfl

lemma pickJingle_eq_none (used : List ℤ) :
    pickJingle st s used = none ↔ playable st s "jingle" [] = [] := by
  have hsub : playable st s "jingle" used ⊆ playable st s "jingle" [] := fun r hr => by
    simp only [playable, List.mem_filter, Bool.and_eq_true] at hr ⊢
    exact ⟨hr.1, hr.2.1, by simp⟩
  unfold pickJingle
  split
  · rename_i r hr
    exact iff_of_false (by simp) (List.ne_nil_of_mem (hsub (Sql.firstBy_mem hr)))
  · rw [Option.map_eq_none_iff, Sql.firstBy_eq_none]

lemma jingleDue_cons {r : Row} {rows : List Row} : JingleDue s interval (r :: rows) counter ↔
    (kindOf s r.2.trackId = "music" ∧ interval ≤ counter) ∨
      JingleDue s interval rows (countAfter (kindOf s r.2.trackId) counter) := by
  constructor
  · rintro ⟨before, q, after, heq, hkind, hcount⟩
    cases before with
    | nil =>
      obtain ⟨rfl, -⟩ := List.cons.inj heq
      exact .inl ⟨hkind, hcount⟩
    | cons b before =>
      obtain ⟨rfl, hrest⟩ := List.cons.inj heq
      rw [List.foldl_cons] at hcount
      exact .inr ⟨before, q, after, hrest, hkind, hcount⟩
  · rintro (⟨hkind, hcount⟩ | ⟨before, q, after, hrest, hkind, hcount⟩)
    · exact ⟨[], r, rows, rfl, hkind, hcount⟩
    · refine ⟨r :: before, q, after, by rw [hrest, List.cons_append], hkind, ?_⟩
      rwa [List.foldl_cons]

/-- A jingle is planned if and only if there is one and one is due. -/
lemma any_sweepPlan (rows : List Row) (used : List ℤ) :
    (sweepPlan st s interval rows counter used).any Slot.isJingle = true ↔
      playable st s "jingle" [] ≠ [] ∧ JingleDue s interval rows counter := by
  induction rows generalizing counter used with
  | nil =>
    refine iff_of_false (by simp [sweepPlan]) ?_
    rintro ⟨-, before, r, after, heq, -⟩
    simp at heq
  | cons r rows ih =>
    rw [sweepPlan, jingleDue_cons]
    generalize kindOf s r.2.trackId = kind
    have hdue : (kind = "music" ∧ interval ≤ counter) ↔
        (decide (kind = "music") && decide (interval ≤ counter)) = true := by simp
    rw [hdue]
    cases decide (kind = "music") && decide (interval ≤ counter) with
    | false => simpa [Slot.isJingle] using ih used
    | true =>
      rw [if_pos rfl]
      cases hpick : pickJingle st s used with
      | none =>
        have hnone := (pickJingle_eq_none used).mp hpick
        simpa [Slot.isJingle, hnone] using ih used
      | some jingle =>
        have hsome : playable st s "jingle" [] ≠ [] := fun he => by
          rw [(pickJingle_eq_none used).mpr he] at hpick
          cases hpick
        exact iff_of_true rfl ⟨hsome, .inl rfl⟩

end Keys

section Verdict

variable {st : ℤ} {sweeper : Sweeper} {s : Engine}

/-- The pending jingles were not played. -/
lemma played_drop (st : ℤ) (s : Engine) : played st (dropPendingJingles st s) = played st s := by
  unfold played queueRows dropPendingJingles rows
  dsimp only
  rw [Std.ExtTreeMap.toList_filter, List.filter_filter]
  refine congrArg List.reverse (List.filter_congr fun r _ => ?_)
  cases r.2.status <;> simp

lemma countMusic_drop (st : ℤ) (s : Engine) :
    countMusicSinceLastJingle st (dropPendingJingles st s) = countMusicSinceLastJingle st s := by
  unfold countMusicSinceLastJingle
  rw [played_drop]
  rfl

lemma commits_iff : commits st sweeper s = true ↔ Commits st sweeper s := by
  have hplan : (planned st sweeper s).any Slot.isJingle = true ↔
      sweeper.enabled = true ∧ sweeper.unit = .tracks ∧ playable st s "jingle" [] ≠ [] ∧
        JingleDue s sweeper.interval (pendingRows st s) (countMusicSinceLastJingle st s) := by
    unfold planned slotsOf
    dsimp only
    rw [List.any_append, any_isJingle_rows, Bool.false_or]
    split_ifs with htracks
    · rw [any_sweepPlan, countMusic_drop]
      simp only [Bool.and_eq_true, decide_eq_true_eq] at htracks
      exact ⟨fun h => ⟨htracks.1, htracks.2, h⟩, fun h => h.2.2⟩
    · rw [any_isJingle_rows]
      simp only [Bool.and_eq_true, decide_eq_true_eq] at htracks
      exact iff_of_false Bool.false_ne_true fun h => htracks ⟨h.1, h.2.1⟩
  have hunit : sweeper.unit = .tracks ↔ ¬ sweeper.unit = .minutes := by
    cases sweeper.unit <;> decide
  unfold commits Commits
  rw [← pendingRows_isEmpty, Bool.or_eq_true, Bool.or_eq_true,
    show (slotsOf st sweeper (dropPendingJingles st s)).any Slot.isJingle = true ↔ _ from hplan,
    hunit]
  simp only [Bool.not_eq_true', List.isEmpty_eq_false_iff, Bool.and_eq_true, Bool.or_eq_true,
    decide_eq_true_eq, List.isEmpty_iff]
  rw [or_assoc, ← and_or_left]
  refine or_congr_right (and_congr_right fun _ => ?_)
  by_cases hminutes : sweeper.unit = .minutes
  · simp [hminutes]
  · simp [hminutes, or_comm]

/-- **The function returns what it committed** and leaves no transaction open if and only if no
setting raises, or else it commits and the keys of the jingles are free. -/
theorem returnsCommitted_iff (st : ℤ) (s : Engine) : ReturnsCommitted st s ↔
    ∀ sweeper, sweeperSettings st s = .ok sweeper → Commits st sweeper s ∧
      KeysFree st (dropPendingJingles st s) (planned st sweeper s) 1 := by
  unfold ReturnsCommitted
  cases hsettings : sweeperSettings st s with
  | error e =>
    have hraises : reconcile st (connect s) = (connect s, .error .overflow) := by
      unfold reconcile
      rw [show sweeperSettings st (connect s).view = _ from hsettings]
    rw [hraises]
    exact iff_of_true ⟨fun _ h => (by cases h), rfl⟩ fun _ h => by cases h
  | ok sweeper =>
    have h := reconcile_eq (c := connect s) hsettings
    change match place st (planned st sweeper s) 1 (dropPendingJingles st s) with
      | none => _
      | some laid => reconcile st (connect s) = if sweeper.enabled && (pendingRows st s).isEmpty
        then _ else (if commits st sweeper s then _ else _, _) at h
    rw [show (∀ sweeper', Except.ok sweeper = Except.ok sweeper' → Commits st sweeper' s ∧
      KeysFree st (dropPendingJingles st s) (planned st sweeper' s) 1) ↔ _ from
        ⟨fun h => h sweeper rfl, fun h _ he => Except.ok.inj he ▸ h⟩, ← place_ne_none_iff]
    cases hplace : place st (planned st sweeper s) 1 (dropPendingJingles st s) with
    | none =>
      rw [hplace] at h
      obtain ⟨c', hc', -, hopen⟩ := h
      rw [hc', hopen]
      simp
    | some laid =>
      rw [hplace] at h
      dsimp only at h
      rw [h, ← commits_iff, and_iff_left (Option.some_ne_none laid)]
      split_ifs with hempty hcommits
      · refine iff_of_true ⟨fun rows hrows => (Except.ok.inj hrows).symm, rfl⟩ ?_
        obtain ⟨henabled, hempty⟩ := Bool.and_eq_true_iff.mp hempty
        rw [pendingRows_isEmpty] at hempty
        simp [commits, henabled, hempty]
      · exact iff_of_true ⟨fun rows hrows => (Except.ok.inj hrows).symm, rfl⟩ hcommits
      · exact iff_of_false (fun hreturns => by cases hreturns.2) hcommits

/-- A song waits at the position `5`, and the sweeper is off. -/
def lateSong : Engine :=
  { Engine.empty with
    queueItems := (∅ : Table QueueItem).insert 1 ⟨1, 10, 5, .pending, none, none⟩ }

/-- The song is moved to the position `1`, and that is returned and not committed. -/
theorem move_not_committed : ¬ ReturnsCommitted 1 lateSong := by
  have hlist : ((reconcile 1 (connect lateSong)).2.toOption.map fun rows => rows.map key) =
      some [(1, 1, .pending)] := by decide +kernel
  have hdisk : (listActiveOrdered 1 (reconcile 1 (connect lateSong)).1.disk).map key =
      [(1, 5, .pending)] := by decide +kernel
  rintro ⟨hreturns, -⟩
  cases hresult : (reconcile 1 (connect lateSong)).2 with
  | error e =>
    rw [hresult] at hlist
    cases hlist
  | ok rows =>
    rw [hresult] at hlist
    rw [← hreturns rows hresult] at hdisk
    rw [Except.toOption, Option.map_some, hdisk] at hlist
    cases hlist

end Verdict

end OnAir.Reconciliation
