import OnAir.QueueEdits
import OnAir.QueueOrder

/-!
Calls of `enqueue_or_get_existing` on connections of their own, statement by statement.

A connection that has written and not committed keeps every other one from writing, and what it
has written is seen by itself only. A call opens a transaction where it is to manage one and the
connection has none. Everything else a connection does to the tables is one write, which the index
of the active keys admits or not. Any statement may fail for a reason that is not the index.
-/

namespace OnAir.EnqueueCalls

open ActiveRows PlayoutTables QueueEdits QueueRepository Runs OnAir.Table

/-! ### Statements -/

structure Call where
  stationId : ℤ
  trackId : ℤ
  dedupeKey : Option String
  manageTransaction : Bool

inductive Raised
  | operational
  /-- a key that the index has already -/
  | integrity
  deriving DecidableEq

/-- The statement that comes next. -/
inductive Phase
  | begin
  | find
  | position
  | insert (position : ℤ)
  | bump (id : ℤ)
  | finish (id : ℤ) (created : Bool)

structure Running where
  call : Call
  ownsTransaction : Bool
  /-- what the lookup of the key saw -/
  seen : Engine
  phase : Phase

structure Answer where
  call : Call
  seen : Engine
  /-- what the connection saw when the call ended -/
  left : Engine
  outcome : Except Raised (ℤ × Bool)

structure State where
  disk : Engine
  /-- the connection that may write, and what it sees -/
  tx : Option (ℕ × Engine)
  running : ℕ → Option Running
  answers : List Answer

def State.start (disk : Engine) : State := ⟨disk, none, fun _ => none, []⟩

namespace State

variable (s : State) (c : ℕ)

def inTransaction : Bool := s.tx.any fun t => t.1 = c

def mayWrite : Bool := s.tx.all fun t => t.1 = c

def view : Engine :=
  match s.tx with
  | some (d, t) => if d = c then t else s.disk
  | none => s.disk

def write (t : Engine) : State := { s with tx := some (c, t) }

def commit : State :=
  match s.tx with
  | some (d, t) => if d = c then { s with disk := t, tx := none } else s
  | none => s

def rollBack : State := { s with tx := s.tx.filter fun t => t.1 ≠ c }

def goTo (r : Running) (phase : Phase) : State :=
  { s with running := Function.update s.running c (some { r with phase }) }

def answer (r : Running) (outcome : Except Raised (ℤ × Bool)) : State :=
  { s with
    running := Function.update s.running c none
    answers := ⟨r.call, r.seen, s.view c, outcome⟩ :: s.answers }

def raised (r : Running) (e : Raised) : State :=
  (if r.ownsTransaction then s.rollBack c else s).answer c r (.error e)

/-- The next statement of the call; one that has to write waits for the others. -/
def advance (r : Running) : Option State :=
  let st := r.call.stationId
  let key := r.call.dedupeKey
  let t := s.view c
  match r.phase with
  | .begin => if s.tx.isNone then some ((s.write c s.disk).goTo c r .find) else none
  | .find =>
    match findExisting st t key [.pending, .playing] with
    | some row => some (s.goTo c { r with seen := t } (.finish row.1 false))
    | none => some (s.goTo c { r with seen := t } .position)
  | .position => some (s.goTo c r (.insert (nextPosition st t)))
  | .insert position =>
    let row := newItem st r.call.trackId position key
    if !s.mayWrite c then none
    else if dedupeTaken t row then some (s.raised c r .integrity)
    else some ((s.write c (insertQueue row t)).goTo c r (.bump (nextId t.queueItems)))
  | .bump id =>
    if s.mayWrite c then
      some ((s.write c (bumpChangeSequence st t)).goTo c r (.finish id true))
    else none
  | .finish id created =>
    let done := s.answer c r (.ok (id, created))
    some (if r.ownsTransaction then done.commit c else done)

end State

/-- At most one active row of a station has the same key that is not blank. -/
def KeysUnique (s : Engine) : Prop := ∀ r ∈ rows s.queueItems, clashes s r.1 r.2 = false

instance (s : Engine) : Decidable (KeysUnique s) := by
  unfold KeysUnique
  infer_instance

inductive Event
  | call (c : ℕ) (k : Call)
  | next (c : ℕ)
  | fail (c : ℕ)
  /-- `BEGIN IMMEDIATE`, and any other write of the tables -/
  | write (c : ℕ) (f : Engine → Engine)
  | commit (c : ℕ)
  | rollBack (c : ℕ)

def step (s : State) : Event → Option State
  | .call c k =>
    if (s.running c).isSome then none
    else
      let owns := k.manageTransaction && !s.inTransaction c
      some (s.goTo c ⟨k, owns, s.view c, .find⟩ (if owns then .begin else .find))
  | .next c => (s.running c).bind (s.advance c)
  | .fail c => (s.running c).map fun r => s.raised c r .operational
  | .write c f =>
    if (s.running c).isNone && s.mayWrite c && decide (KeysUnique (f (s.view c))) then
      some (s.write c (f (s.view c)))
    else none
  | .commit c => if (s.running c).isNone then some (s.commit c) else none
  | .rollBack c => if (s.running c).isNone then some (s.rollBack c) else none

/-- A call that is not to manage a transaction is made within one. -/
def Managed (s : State) : Event → Prop
  | .call c k => k.manageTransaction = true ∨ s.inTransaction c = true
  | _ => True

/-! ### What a call gives back -/

/-- The row that is returned is active under the key. If there was one already when the call
looked, then it is that row and nothing was changed, and what is created comes last. -/
structure Returns (k : Call) (seen left : Engine) (id : ℤ) (created : Bool) : Prop where
  stands : ∃ r, left.queueItems[id]? = some r ∧ r.stationId = k.stationId ∧
    isActive r.status = true ∧ r.dedupeKey = k.dedupeKey
  existing : ∀ (j : ℤ) (r : QueueItem), seen.queueItems[j]? = some r →
    r.stationId = k.stationId → isActive r.status = true → r.dedupeKey = k.dedupeKey →
      k.dedupeKey.any Sql.nonBlank = true → id = j ∧ created = false
  kept : created = false → left = seen
  last : created = true → activeIds k.stationId left = activeIds k.stationId seen ++ [id]

def Answer.Right (a : Answer) : Prop :=
  match a.outcome with
  | .ok (id, created) => Returns a.call a.seen a.left id created
  | .error e => e ≠ .integrity

structure Idempotent (s : State) : Prop where
  unique : KeysUnique s.disk
  answers : ∀ a ∈ s.answers, a.Right

section Keys

variable {s : Engine} {st trackId id j : ℤ} {key : Option String} {row : QueueItem} {k : String}

lemma clashes_iff (hkey : row.dedupeKey = some k) : clashes s id row = true ↔
    isActive row.status = true ∧ Sql.nonBlank k = true ∧ ∃ (j : ℤ) (r : QueueItem),
      s.queueItems[j]? = some r ∧ r.stationId = row.stationId ∧ isActive r.status = true ∧
        j ≠ id ∧ r.dedupeKey = some k := by
  unfold clashes
  rw [hkey]
  simp only [Bool.and_eq_true, List.any_eq_true, decide_eq_true_eq, queueRows, List.mem_filter,
    Prod.exists, mem_rows, and_assoc]
  refine and_congr_right fun _ => and_congr_right fun _ => exists₂_congr fun j r => ?_
  simp [isActive]

/-- Active rows of a station with the same key that is not blank are the same row. -/
lemma KeysUnique.eq (h : KeysUnique s) {r : QueueItem} (hr : s.queueItems[id]? = some r)
    (hrow : s.queueItems[j]? = some row) (hst : r.stationId = row.stationId)
    (hactive : isActive r.status = true) (hactive' : isActive row.status = true)
    (hkey : r.dedupeKey = row.dedupeKey) (hblank : row.dedupeKey.any Sql.nonBlank = true) :
    id = j := by
  obtain ⟨k, hk, hnonblank⟩ := (Option.any_eq_true ..).mp hblank
  by_contra hne
  have hfree := h (j, row) (mem_rows.mpr hrow)
  rw [(clashes_iff hk).mpr ⟨hactive', hnonblank, id, r, hr, hst, hactive, hne, hkey.trans hk⟩]
    at hfree
  cases hfree

/-- A row with a key that no active row has keeps the keys apart. -/
lemma KeysUnique.insert (h : KeysUnique s) (hfree : dedupeTaken s row = false) :
    KeysUnique (insertQueue row s) := by
  rintro ⟨i, r⟩ hr
  rw [mem_rows, insertQueue, lookup_insert] at hr
  cases hkey : r.dedupeKey with
  | none => simp [clashes, hkey]
  | some k =>
    rw [Bool.eq_false_iff]
    intro hclash
    obtain ⟨hactive, hblank, j, q, hq, hst, hqactive, hne, hqkey⟩ := (clashes_iff hkey).mp hclash
    rw [insertQueue, lookup_insert] at hq
    have htaken : ∀ (a b : QueueItem) (n : ℤ), s.queueItems[n]? = some b →
        b.stationId = a.stationId → isActive b.status = true → isActive a.status = true →
          a.dedupeKey = some k → b.dedupeKey = some k → dedupeTaken s a = true :=
      fun a b n hb hbst hbactive haactive hakey hbkey =>
        (dedupeTaken_iff hakey).mpr ⟨haactive, hblank, n, b, hb, hbst, hbactive, hbkey⟩
    split_ifs at hr hq with hi hj hj
    · exact hne (hj.trans hi.symm)
    · obtain rfl := Option.some.inj hr
      rw [htaken row q j hq hst hqactive hactive hkey hqkey] at hfree
      cases hfree
    · obtain rfl := Option.some.inj hq
      rw [htaken row r i hr hst.symm hactive hqactive hqkey hkey] at hfree
      cases hfree
    · exact hne (h.eq hq hr hst hqactive hactive (hqkey.trans hkey.symm)
        (by simp [hkey, hblank]))

lemma findExisting_free (h : findExisting st s key [.pending, .playing] = none) (position : ℤ) :
    dedupeTaken s (newItem st trackId position key) = false := by
  cases key with
  | none => rfl
  | some k => exact dedupeTaken_of_findByDedupeKey (r := newItem st trackId position (some k)) rfl h

lemma findExisting_some {r : Row} (h : findExisting st s key [.pending, .playing] = some r) :
    s.queueItems[r.1]? = some r.2 ∧ r.2.stationId = st ∧ isActive r.2.status = true ∧
      r.2.dedupeKey = key := by
  obtain ⟨k, rfl, hfind⟩ := Option.bind_eq_some_iff.mp h
  unfold findByDedupeKey at hfind
  split_ifs at hfind
  obtain ⟨hmem, hst⟩ := List.mem_filter.mp (List.mem_of_find?_eq_some hfind)
  have hkey : r.2.dedupeKey = some k := by simpa using List.find?_some hfind
  simp only [Bool.and_eq_true, decide_eq_true_eq] at hst
  exact ⟨mem_rows.mp hmem, hst.1, by simpa [isActive] using hst.2, hkey⟩

lemma findExisting_none (h : findExisting st s key [.pending, .playing] = none)
    (hrow : s.queueItems[j]? = some row) (hst : row.stationId = st)
    (hactive : isActive row.status = true) (hkey : row.dedupeKey = key) :
    key.any Sql.nonBlank = false := by
  cases key with
  | none => rfl
  | some k =>
    have hfind : findByDedupeKey st s k [.pending, .playing] = none := h
    unfold findByDedupeKey at hfind
    split_ifs at hfind with hempty
    · subst hempty
      rfl
    · refine absurd hkey ?_
      have hmem : (j, row) ∈ queueRows st s [.pending, .playing] :=
        List.mem_filter.mpr ⟨mem_rows.mpr hrow, by simpa [hst, isActive] using hactive⟩
      simpa using List.find?_eq_none.mp hfind _ hmem

/-- A row beyond all positions is the last of the active rows. -/
lemma activeIds_append (hst : row.stationId = st) (hactive : isActive row.status = true)
    (hbeyond : QueueOrder.Beyond st s row.position) :
    activeIds st (insertQueue row s) = activeIds st s ++ [nextId s.queueItems] := by
  rw [activeIds, listActiveOrdered_insertQueue hst hactive hbeyond, List.map_append]
  rfl

lemma keysUnique_bump (st : ℤ) (h : KeysUnique s) : KeysUnique (bumpChangeSequence st s) := h

/-- **What the whole call gives back**, where nobody else writes. -/
theorem returns_enqueue (h : KeysUnique s) (k : Call) :
    Returns k s (enqueueOrGetExisting k.stationId k.trackId k.dedupeKey s).1
      (enqueueOrGetExisting k.stationId k.trackId k.dedupeKey s).2.1
      (enqueueOrGetExisting k.stationId k.trackId k.dedupeKey s).2.2 := by
  unfold enqueueOrGetExisting
  cases hfind : findExisting k.stationId s k.dedupeKey [.pending, .playing] with
  | some r =>
    obtain ⟨hr, hst, hactive, hkey⟩ := findExisting_some hfind
    refine ⟨⟨r.2, hr, hst, hactive, hkey⟩, fun j q hq hqst hqactive hqkey hblank => ?_,
      fun _ => rfl, fun hf => by cases hf⟩
    exact ⟨h.eq hr hq (hst.trans hqst.symm) hactive hqactive (hkey.trans hqkey.symm)
      (by rwa [hqkey]), rfl⟩
  | none =>
    refine ⟨⟨newItem k.stationId k.trackId (nextPosition k.stationId s) k.dedupeKey, ?_, rfl, rfl,
      rfl⟩, fun j q hq hqst hqactive hqkey hblank => ?_, fun hf => (by cases hf), fun _ => ?_⟩
    · change (insertQueue _ s).queueItems[_]? = _
      rw [insertQueue, lookup_insert, if_pos rfl]
    · rw [findExisting_none hfind hq hqst hqactive hqkey] at hblank
      cases hblank
    · exact activeIds_append rfl rfl (QueueOrder.beyond_nextPosition _ _)

end Keys

/-! ### Runs -/

section Runs

variable {s s' : State} {c d : ℕ} {r : Running} {t : Engine} {k : Call}

/-- What is known at each statement, of what the lookup saw and what the connection sees now. -/
def Phase.Knows (k : Call) (seen t : Engine) : Phase → Prop
  | .begin => False
  | .find => True
  | .position => t = seen ∧ findExisting k.stationId seen k.dedupeKey [.pending, .playing] = none
  | .insert pos => t = seen ∧
      findExisting k.stationId seen k.dedupeKey [.pending, .playing] = none ∧
      pos = nextPosition k.stationId seen
  | .bump id => findExisting k.stationId seen k.dedupeKey [.pending, .playing] = none ∧
      t = insertQueue (newItem k.stationId k.trackId (nextPosition k.stationId seen) k.dedupeKey)
        seen ∧ id = nextId seen.queueItems
  | .finish id created =>
    enqueueOrGetExisting k.stationId k.trackId k.dedupeKey seen = (t, id, created)

/-- A call waits for its transaction, or nobody else may write. -/
structure Stands (s : State) (c : ℕ) (r : Running) : Prop where
  seen : KeysUnique r.seen
  phase : r.phase = .begin ∨ ∃ t, s.tx = some (c, t) ∧ r.phase.Knows r.call r.seen t

structure Sound (s : State) : Prop extends Idempotent s where
  tx : ∀ c t, s.tx = some (c, t) → KeysUnique t
  calls : ∀ c r, s.running c = some r → Stands s c r

/-- A connection changes neither the calls nor the transaction of another one. -/
structure Turn (c : ℕ) (s s' : State) : Prop where
  running : ∀ d, d ≠ c → s'.running d = s.running d
  tx : ∀ d t, d ≠ c → s.tx = some (d, t) → s'.tx = some (d, t)

lemma Sound.turn (h : Sound s) (hturn : Turn c s s') (hidem : Idempotent s')
    (htx : ∀ d t, s'.tx = some (d, t) → KeysUnique t)
    (hmine : ∀ r, s'.running c = some r → Stands s' c r) : Sound s' where
  toIdempotent := hidem
  tx := htx
  calls d r hr := by
    by_cases hd : d = c
    · subst hd
      exact hmine r hr
    · rw [hturn.running d hd] at hr
      obtain ⟨hseen, hphase⟩ := h.calls d r hr
      exact ⟨hseen, hphase.imp_right fun ⟨t, ht, hknows⟩ => ⟨t, hturn.tx d t hd ht, hknows⟩⟩

lemma Sound.view (h : Sound s) (c : ℕ) : KeysUnique (s.view c) := by
  unfold State.view
  split
  · rename_i d t htx
    split
    · exact h.tx d t htx
    · exact h.unique
  · exact h.unique

lemma view_of_tx (h : s.tx = some (c, t)) : s.view c = t := by simp [State.view, h]

lemma exists_tx (h : s.inTransaction c = true) : ∃ t, s.tx = some (c, t) := by
  obtain ⟨⟨d, t⟩, htx, hd⟩ := (Option.any_eq_true ..).mp h
  obtain rfl : d = c := by simpa using hd
  exact ⟨t, htx⟩

/-- Who may write is alone. -/
lemma tx_of_mayWrite (h : s.mayWrite c = true) (htx : s.tx = some (d, t)) : d = c := by
  simpa [State.mayWrite, htx] using h

lemma turn_goTo (r : Running) (phase : Phase) : Turn c s (s.goTo c r phase) where
  running _ hd := Function.update_of_ne hd _ _
  tx _ _ _ h := h

lemma turn_write (h : s.mayWrite c = true) (t : Engine) : Turn c s (s.write c t) where
  running _ _ := rfl
  tx _ _ hd htx := absurd (tx_of_mayWrite h htx) hd

lemma turn_rollBack : Turn c s (s.rollBack c) where
  running _ _ := rfl
  tx _ _ hd htx := by simp [State.rollBack, htx, hd]

lemma turn_answer (r : Running) (outcome : Except Raised (ℤ × Bool)) :
    Turn c s (s.answer c r outcome) where
  running _ hd := Function.update_of_ne hd _ _
  tx _ _ _ h := h

lemma Turn.trans {s'' : State} (h : Turn c s s') (h' : Turn c s' s'') : Turn c s s'' where
  running d hd := (h'.running d hd).trans (h.running d hd)
  tx d t hd htx := h'.tx d t hd (h.tx d t hd htx)

/-- The call goes on to a statement of which enough is known. -/
lemma Sound.goTo (h : Sound s) {phase : Phase} (hmine : Stands s c { r with phase }) :
    Sound (s.goTo c r phase) := by
  refine h.turn (turn_goTo r phase) ⟨h.unique, h.answers⟩ h.tx fun r' hr' => ?_
  obtain rfl : { r with phase } = r' := by simpa [State.goTo] using hr'
  exact ⟨hmine.seen, hmine.phase⟩

/-- The connection writes and its call goes on. -/
lemma Sound.write_goTo (h : Sound s) (hmay : s.mayWrite c = true) (ht : KeysUnique t)
    {phase : Phase} (hseen : KeysUnique r.seen) (hknows : phase.Knows r.call r.seen t) :
    Sound ((s.write c t).goTo c r phase) := by
  refine h.turn ((turn_write hmay t).trans (turn_goTo r phase)) ⟨h.unique, h.answers⟩
    (fun d u hu => ?_) fun r' hr' => ?_
  · obtain ⟨-, rfl⟩ := Prod.mk.inj (Option.some.inj (show some (c, t) = some (d, u) from hu))
    exact ht
  · obtain rfl : { r with phase } = r' := by simpa [State.goTo] using hr'
    exact ⟨hseen, .inr ⟨t, rfl, hknows⟩⟩

lemma Sound.rollBack (h : Sound s) (hidle : s.running c = none) : Sound (s.rollBack c) := by
  refine h.turn turn_rollBack ⟨h.unique, h.answers⟩ (fun d t ht => ?_) fun r hr => ?_
  · exact h.tx d t (Option.filter_eq_some_iff.mp ht).1
  · rw [show (s.rollBack c).running c = none from hidle] at hr
    cases hr

lemma Sound.commit (h : Sound s) (hidle : s.running c = none) : Sound (s.commit c) := by
  unfold State.commit
  split
  · rename_i d t htx
    split
    · rename_i hd
      subst hd
      refine ⟨⟨h.tx _ _ htx, h.answers⟩, fun _ _ hu => (by cases hu), fun e r hr => ?_⟩
      obtain ⟨hseen, hbegin | ⟨u, hu, -⟩⟩ := h.calls e r hr
      · exact ⟨hseen, .inl hbegin⟩
      · rw [htx] at hu
        obtain ⟨rfl, -⟩ := Prod.mk.inj (Option.some.inj hu)
        rw [show s.running _ = none from hidle] at hr
        cases hr
    · exact h
  · exact h

/-- The call ends as it should. -/
lemma Sound.answer (h : Sound s) {outcome : Except Raised (ℤ × Bool)}
    (hright : Answer.Right ⟨r.call, r.seen, s.view c, outcome⟩) :
    Sound (s.answer c r outcome) := by
  refine h.turn (turn_answer r outcome) ⟨h.unique, fun a ha => ?_⟩ h.tx fun r' hr' => ?_
  · rcases List.mem_cons.mp ha with rfl | ha
    · exact hright
    · exact h.answers a ha
  · rw [show (s.answer c r outcome).running c = none from Function.update_self ..] at hr'
    cases hr'

/-- A call that fails leaves nothing behind but what the transaction of its caller has. -/
lemma Sound.raised (h : Sound s) {e : Raised} (he : e ≠ .integrity) : Sound (s.raised c r e) := by
  have hright : ∀ left, Answer.Right ⟨r.call, r.seen, left, .error e⟩ := fun _ => he
  have hback : Turn c s (if r.ownsTransaction then s.rollBack c else s) := by
    split
    · exact turn_rollBack
    · exact ⟨fun _ _ => rfl, fun _ _ _ h => h⟩
  unfold State.raised
  refine h.turn (hback.trans (turn_answer r _)) ⟨?_, ?_⟩ ?_ fun r' hr' => ?_
  · split <;> exact h.unique
  · intro a ha
    rcases List.mem_cons.mp ha with rfl | ha
    · exact hright _
    · split at ha <;> exact h.answers a ha
  · intro d t ht
    split at ht
    · exact h.tx d t (Option.filter_eq_some_iff.mp ht).1
    · exact h.tx d t ht
  · rw [show (State.answer ..).running c = none from Function.update_self ..] at hr'
    cases hr'

/-- The statements of a call. -/
lemma Sound.advance (h : Sound s) (hr : s.running c = some r) (hs : s.advance c r = some s') :
    Sound s' := by
  obtain ⟨call, owns, seen, phase⟩ := r
  obtain ⟨hseen, hphase⟩ := h.calls c _ hr
  dsimp only at hseen hphase
  unfold State.advance at hs
  cases phase with
  | begin =>
    dsimp only at hs
    split_ifs at hs with hfree
    obtain rfl := Option.some.inj hs
    have hmay : s.mayWrite c = true := by
      rw [State.mayWrite, Option.isNone_iff_eq_none.mp hfree]
      rfl
    exact h.write_goTo hmay h.unique hseen trivial
  | find =>
    obtain ⟨t, htx, -⟩ := hphase.resolve_left (by simp)
    dsimp only at hs
    rw [view_of_tx htx] at hs
    split at hs
    · rename_i row hfind
      obtain rfl := Option.some.inj hs
      refine h.goTo ⟨h.tx c t htx, .inr ⟨t, htx, ?_⟩⟩
      dsimp only [Phase.Knows, enqueueOrGetExisting]
      rw [hfind]
    · rename_i hfind
      obtain rfl := Option.some.inj hs
      exact h.goTo ⟨h.tx c t htx, .inr ⟨t, htx, rfl, hfind⟩⟩
  | position =>
    obtain ⟨t, htx, rfl, hfind⟩ := hphase.resolve_left (by simp)
    dsimp only at hs
    rw [view_of_tx htx] at hs
    obtain rfl := Option.some.inj hs
    exact h.goTo ⟨hseen, .inr ⟨t, htx, rfl, hfind, rfl⟩⟩
  | insert pos =>
    obtain ⟨t, htx, rfl, hfind, hpos⟩ := hphase.resolve_left (by simp)
    dsimp only at hs hpos
    subst hpos
    rw [view_of_tx htx, findExisting_free hfind, if_neg Bool.false_ne_true] at hs
    split_ifs at hs with hmay
    obtain rfl := Option.some.inj hs
    refine h.write_goTo (by simpa using hmay) ?_ hseen ⟨hfind, rfl, rfl⟩
    exact KeysUnique.insert hseen (findExisting_free hfind _)
  | bump id =>
    obtain ⟨t, htx, hfind, rfl, rfl⟩ := hphase.resolve_left (by simp)
    dsimp only at hs
    rw [view_of_tx htx] at hs
    split_ifs at hs with hmay
    obtain rfl := Option.some.inj hs
    refine h.write_goTo hmay (keysUnique_bump _ (h.tx c _ htx)) hseen ?_
    dsimp only [Phase.Knows, enqueueOrGetExisting]
    rw [hfind]
  | finish id created =>
    obtain ⟨t, htx, hcall⟩ := hphase.resolve_left (by simp)
    have hreturns := returns_enqueue hseen call
    rw [show enqueueOrGetExisting .. = _ from hcall] at hreturns
    have hdone :
        Sound (s.answer c ⟨call, owns, seen, .finish id created⟩ (.ok (id, created))) := by
      refine h.answer ?_
      rw [view_of_tx htx]
      exact hreturns
    dsimp only at hs
    obtain rfl := Option.some.inj hs
    split
    · exact hdone.commit (Function.update_self ..)
    · exact hdone

lemma Sound.step (h : Sound s) {e : Event} (hmanaged : Managed s e) (hs : step s e = some s') :
    Sound s' := by
  cases e with
  | call c k =>
    unfold EnqueueCalls.step at hs
    dsimp only at hs
    split_ifs at hs with hidle howns
    · obtain rfl := Option.some.inj hs
      exact h.goTo ⟨h.view c, .inl rfl⟩
    · obtain rfl := Option.some.inj hs
      have hin : s.inTransaction c = true := by
        rcases hmanaged with hmanages | hin
        · simpa [hmanages] using howns
        · exact hin
      obtain ⟨t, ht⟩ := exists_tx hin
      exact h.goTo ⟨h.view c, .inr ⟨t, ht, trivial⟩⟩
  | next c =>
    obtain ⟨r, hr, hs⟩ := Option.bind_eq_some_iff.mp hs
    exact h.advance hr hs
  | fail c =>
    obtain ⟨r, -, rfl⟩ := Option.map_eq_some_iff.mp hs
    exact h.raised (by decide)
  | write c f =>
    unfold EnqueueCalls.step at hs
    dsimp only at hs
    split_ifs at hs with hallowed
    obtain rfl := Option.some.inj hs
    simp only [Bool.and_eq_true, decide_eq_true_eq, Option.isNone_iff_eq_none] at hallowed
    obtain ⟨⟨hidle, hmay⟩, hunique⟩ := hallowed
    refine h.turn (turn_write hmay _) ⟨h.unique, h.answers⟩ (fun d u hu => ?_) fun r hr => ?_
    · obtain ⟨-, rfl⟩ := Prod.mk.inj (Option.some.inj (show some (c, _) = some (d, u) from hu))
      exact hunique
    · rw [show (s.write c _).running c = none from hidle] at hr
      cases hr
  | commit c =>
    unfold EnqueueCalls.step at hs
    dsimp only at hs
    split_ifs at hs with hidle
    obtain rfl := Option.some.inj hs
    exact h.commit (Option.isNone_iff_eq_none.mp hidle)
  | rollBack c =>
    unfold EnqueueCalls.step at hs
    dsimp only at hs
    split_ifs at hs with hidle
    obtain rfl := Option.some.inj hs
    exact h.rollBack (Option.isNone_iff_eq_none.mp hidle)

instance : DecidableRel Managed := fun s e => by
  cases e <;> unfold Managed <;> infer_instance

/-- **Enqueueing is idempotent per key**, however calls interleave with each other and with other
writes: a call that is not to manage a transaction is made within one. -/
theorem enqueue_idempotent {disk : Engine} {es : List Event} (h : KeysUnique disk)
    (hm : Meets step Managed (.start disk) es) (hs : exec step (.start disk) es = some s) :
    Idempotent s := by
  have hstart : Sound (.start disk) :=
    ⟨⟨h, fun _ ha => by cases ha⟩, fun _ _ ht => (by cases ht), fun _ _ hr => (by cases hr)⟩
  exact (inv_of_exec (P := Sound) (fun s e s' hs hmanaged hstep => hs.step hmanaged hstep) hstart
    hm hs).toIdempotent

/-- A track under the key `a`, asked for by a call of its own or within a transaction. -/
def pushed (manageTransaction : Bool) : Call := ⟨1, 10, some "a", manageTransaction⟩

/-- Three connections ask for the same track: the first call is under way when the second one comes,
and the third is made within the transaction of its caller. -/
def overlapping : List Event :=
  [.call 1 (pushed true), .next 1, .call 2 (pushed true), .next 1, .next 1, .next 1, .next 1,
    .next 1, .next 2, .next 2, .next 2, .write 3 id, .call 3 (pushed false), .next 3, .next 3,
    .commit 3]

/-- The row is created once, and all three calls return it. -/
theorem overlapping_idempotent : ∃ s, exec step (.start .empty) overlapping = some s ∧
    s.answers.map (fun a => a.outcome.toOption) =
      [some (1, false), some (1, false), some (1, true)] ∧ Idempotent s := by
  have hunique : KeysUnique .empty := by decide +kernel
  have hmanaged : Meets step Managed (.start .empty) overlapping := by decide +kernel
  have hrun : ((exec step (.start .empty) overlapping).map fun s =>
      s.answers.map fun a => a.outcome.toOption) =
        some [some (1, false), some (1, false), some (1, true)] := by decide +kernel
  obtain ⟨s, hs, hanswers⟩ := Option.map_eq_some_iff.mp hrun
  exact ⟨s, hs, hanswers, enqueue_idempotent hunique hmanaged hs⟩

end Runs

end OnAir.EnqueueCalls
