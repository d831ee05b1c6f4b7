import OnAir.Json
import OnAir.Runs
import OnAir.Table

/-!
The command outbox, and the connections that take commands from it.

A call is a statement or two and a commit, on a connection of its own. Until a connection commits
what it has written no other one writes, but all may read what was there before.
-/

namespace OnAir.OutboxRepository

open Runs OnAir.Table

inductive Status
  | pending
  | processing
  | done
  | failed
  deriving DecidableEq, Repr

/-- A row of `command_outbox`. -/
structure Command where
  stationId : ℤ
  commandType : String
  payloadJson : String
  status : Status
  attemptCount : ℤ
  deriving DecidableEq, Repr

inductive Call
  | enqueue (stationId : ℤ) (commandType : String) (payload : Json.Value)
  | claimNext (stationId : ℤ)
  | markDone (cmdId : ℤ)
  | markFailed (cmdId : ℤ)

/-- How far a call is, and the row that it has read. -/
inductive Phase
  | begun
  | read (row : ℤ × Command)
  | written (row : Option (ℤ × Command))
  | returned (row : Option (ℤ × Command))
  | raised
  deriving DecidableEq, Repr

structure Connection where
  call : Call
  phase : Phase

structure Store where
  /-- as committed -/
  commands : Table Command
  /-- the connection that has written, and the table as it sees it -/
  writer : Option (ℕ × Table Command)
  connections : List Connection
  /-- the rows that `claimNext` has returned, the last one first -/
  delivered : List ℤ

def start : Store := ⟨∅, none, [], []⟩

/-! ### Statements -/

def nextPending (stationId : ℤ) (t : Table Command) : Option (ℤ × Command) :=
  (rows t).find? fun r => r.2.stationId = stationId && r.2.status = .pending

def insert (stationId : ℤ) (commandType : String) (payload : Json.Value) (t : Table Command) :
    Table Command :=
  Std.ExtTreeMap.insert t (nextId t) ⟨stationId, commandType, Json.dumps payload, .pending, 0⟩

def setStatus (cmdId : ℤ) (status : Status) (t : Table Command) : Table Command :=
  t.modify cmdId fun r => { r with status := status }

/-- The status is not looked at again. -/
def take (cmdId : ℤ) (t : Table Command) : Table Command :=
  t.modify cmdId fun r =>
    { r with status := .processing, attemptCount := r.attemptCount + 1 }

def setPhase (i : ℕ) (p : Phase) (s : Store) : Store :=
  { s with connections := s.connections.modify i fun c => { c with phase := p } }

/-- A connection waits while another one has written. -/
def write (i : ℕ) (row : Option (ℤ × Command)) (f : Table Command → Table Command) (s : Store) :
    Option Store :=
  match s.writer with
  | some _ => none
  | none => some (setPhase i (.written row) { s with writer := some (i, f s.commands) })

def ids (row : Option (ℤ × Command)) : List ℤ := row.toList.map (·.1)

def commit (i : ℕ) (row : Option (ℤ × Command)) (s : Store) : Option Store :=
  s.writer.bind fun w =>
    if w.1 = i then
      some (setPhase i (.returned row)
        { s with commands := w.2, writer := none, delivered := ids row ++ s.delivered })
    else none

/-! ### Runs -/

inductive Event
  | connect (call : Call)
  /-- the next statement of a call -/
  | advance (i : ℕ)
  /-- a call that ends with an exception, and what it wrote is rolled back -/
  | fail (i : ℕ)

def advance (s : Store) (i : ℕ) : Option Store :=
  s.connections[i]?.bind fun c =>
    match c.phase, c.call with
    | .begun, .enqueue stationId commandType payload =>
      write i none (insert stationId commandType payload) s
    | .begun, .claimNext stationId =>
      match nextPending stationId s.commands with
      | none => some (setPhase i (.returned none) s)
      | some row => some (setPhase i (.read row) s)
    | .begun, .markDone cmdId => write i none (setStatus cmdId .done) s
    | .begun, .markFailed cmdId => write i none (setStatus cmdId .failed) s
    | .read row, _ => write i (some row) (take row.1) s
    | .written row, _ => commit i row s
    | .returned _, _ => none
    | .raised, _ => none

def step (s : Store) : Event → Option Store
  | .connect call => some { s with connections := s.connections ++ [⟨call, .begun⟩] }
  | .advance i => advance s i
  | .fail i => some (setPhase i .raised { s with writer := s.writer.filter (·.1 ≠ i) })

/-- Nobody has taken the row between a claim's two statements. -/
def untaken (s : Store) : Event → Bool
  | .advance i => (s.connections[i]?).all fun c =>
    match c.phase with
    | .read row => (s.commands[row.1]?).all (·.attemptCount = row.2.attemptCount)
    | _ => true
  | _ => true

/-! ### The invariant -/

/-- Rows that wait were never taken; rows that were returned were. -/
structure Good (delivered : List ℤ) (t : Table Command) : Prop where
  fresh : ∀ (k : ℤ) (r : Command), t[k]? = some r → r.status = .pending → r.attemptCount = 0
  taken : ∀ k ∈ delivered, ∃ r : Command, t[k]? = some r ∧ 0 < r.attemptCount

structure Kept (s : Store) : Prop where
  committed : Good s.delivered s.commands
  read : ∀ (i : ℕ) (call : Call) (row : ℤ × Command),
    s.connections[i]? = some ⟨call, .read row⟩ →
    row.2.attemptCount = 0 ∧ (s.commands[row.1]?).isSome = true
  written : ∀ (i : ℕ) (t : Table Command), s.writer = some (i, t) →
    (∀ k : ℤ, (s.commands[k]?).isSome = true → (t[k]?).isSome = true) ∧
    ∃ call row, s.connections[i]? = some ⟨call, .written row⟩ ∧ Good (ids row ++ s.delivered) t ∧
      (ids row ++ s.delivered).Nodup
  once : s.delivered.Nodup

variable {s s' : Store} {i : ℕ}

lemma kept_start : Kept start where
  committed := ⟨fun k r h => by simp [start] at h, fun k h => by cases h⟩
  read i call row h := by simp [start] at h
  written i t h := by cases h
  once := List.nodup_nil

lemma nextPending_some {stationId : ℤ} {t : Table Command} {row : ℤ × Command}
    (h : nextPending stationId t = some row) :
    t[row.1]? = some row.2 ∧ row.2.status = .pending := by
  refine ⟨mem_rows.mp (List.mem_of_find?_eq_some h), ?_⟩
  have hsat := List.find?_some h
  simp only [Bool.and_eq_true, decide_eq_true_eq] at hsat
  exact hsat.2

lemma lookup_setPhase {p : Phase} {j : ℕ} {c : Connection}
    (h : (setPhase i p s).connections[j]? = some c) :
    (j = i ∧ c.phase = p) ∨ (j ≠ i ∧ s.connections[j]? = some c) := by
  unfold setPhase at h
  rw [List.getElem?_modify] at h
  obtain ⟨x, hx, rfl⟩ := Option.map_eq_some_iff.mp h
  by_cases hj : i = j
  · exact .inl ⟨hj.symm, by simp [hj]⟩
  · exact .inr ⟨Ne.symm hj, by simpa [hj] using hx⟩

lemma setPhase_self {p : Phase} {c : Connection} (h : s.connections[i]? = some c) :
    (setPhase i p s).connections[i]? = some { c with phase := p } := by
  unfold setPhase
  rw [List.getElem?_modify, h]
  simp

/-- A call goes on that has written nothing. -/
lemma kept_setPhase (h : Kept s) (p : Phase) (hwriter : ∀ t, s.writer ≠ some (i, t))
    (hread : ∀ row, p = .read row →
      row.2.attemptCount = 0 ∧ (s.commands[row.1]?).isSome = true) :
    Kept (setPhase i p s) where
  committed := h.committed
  read j call row hj := by
    rcases lookup_setPhase hj with ⟨-, hp⟩ | ⟨-, hold⟩
    · exact hread row hp.symm
    · exact h.read j call row hold
  written j t hj := by
    obtain ⟨hgrows, call, row, hc, hgood, hnodup⟩ := h.written j t hj
    have hji : i ≠ j := fun he => hwriter t (he ▸ hj)
    refine ⟨hgrows, call, row, ?_, hgood, hnodup⟩
    unfold setPhase
    rw [List.getElem?_modify, hc]
    simp [hji]
  once := h.once

/-! ### Writing -/

/-- A call writes a table in which what it returns is taken for the first time. -/
lemma kept_write (h : Kept s) {c : Connection} (hc : s.connections[i]? = some c)
    {row : Option (ℤ × Command)} {f : Table Command → Table Command}
    (hs : write i row f s = some s')
    (hgrows : ∀ k : ℤ, (s.commands[k]?).isSome = true → ((f s.commands)[k]?).isSome = true)
    (hgood : Good (ids row ++ s.delivered) (f s.commands))
    (hnodup : (ids row ++ s.delivered).Nodup) : Kept s' := by
  unfold write at hs
  split at hs
  · cases hs
  · obtain rfl := Option.some.inj hs
    refine ⟨h.committed, fun j call r hj => ?_, fun j t hj => ?_, h.once⟩
    · rcases lookup_setPhase hj with ⟨-, hp⟩ | ⟨-, hold⟩
      · cases hp
      · exact h.read j call r hold
    · cases hj
      exact ⟨hgrows, c.call, row, setPhase_self hc, hgood, hnodup⟩

lemma kept_commit (h : Kept s) {c : Connection} (hc : s.connections[i]? = some c)
    {row : Option (ℤ × Command)} (hp : c.phase = .written row) (hs : commit i row s = some s') :
    Kept s' := by
  unfold commit at hs
  obtain ⟨w, hw, hs⟩ := Option.bind_eq_some_iff.mp hs
  split at hs
  · next hi =>
      obtain rfl := Option.some.inj hs
      obtain ⟨hgrows, call, row', hc', hgood, hnodup⟩ := h.written w.1 w.2 hw
      rw [hi, hc] at hc'
      obtain rfl : row = row' := by
        obtain rfl := Option.some.inj hc'
        exact (Phase.written.inj hp).symm
      refine ⟨hgood, fun j call' r hj => ?_, fun j t hj => (by cases hj), hnodup⟩
      rcases lookup_setPhase hj with ⟨-, hp'⟩ | ⟨-, hold⟩
      · cases hp'
      · exact ⟨(h.read j call' r hold).1, hgrows r.1 (h.read j call' r hold).2⟩
  · cases hs

variable {l : List ℤ} {t : Table Command}

lemma isSome_modify (f : Command → Command) (cmdId k : ℤ) :
    (Std.ExtTreeMap.modify t cmdId f)[k]?.isSome = t[k]?.isSome := by
  rw [lookup_modify]
  split <;> simp

/-- Rows do not wait any more, and are not taken less often than before. -/
lemma good_modify (h : Good l t) (cmdId : ℤ) {f : Command → Command}
    (hf : ∀ r, (f r).status ≠ .pending ∧ r.attemptCount ≤ (f r).attemptCount) :
    Good l (Std.ExtTreeMap.modify t cmdId f) where
  fresh k r hr hpending := by
    rw [lookup_modify] at hr
    split at hr
    · obtain ⟨x, -, rfl⟩ := Option.map_eq_some_iff.mp hr
      exact absurd hpending (hf x).1
    · exact h.fresh k r hr hpending
  taken k hk := by
    obtain ⟨r, hr, hpos⟩ := h.taken k hk
    rw [lookup_modify]
    split
    · exact ⟨f r, by rw [hr]; rfl, lt_of_lt_of_le hpos (hf r).2⟩
    · exact ⟨r, hr, hpos⟩

lemma good_setStatus (h : Good l t) (cmdId : ℤ) {status : Status} (hstatus : status ≠ .pending) :
    Good l (setStatus cmdId status t) :=
  good_modify h cmdId fun _ => ⟨hstatus, le_refl _⟩

lemma good_insert (h : Good l t) (stationId : ℤ) (commandType : String) (payload : Json.Value) :
    Good l (insert stationId commandType payload t) where
  fresh k r hr hpending := by
    unfold insert at hr
    rw [lookup_insert] at hr
    split at hr
    · obtain rfl := Option.some.inj hr
      rfl
    · exact h.fresh k r hr hpending
  taken k hk := by
    obtain ⟨r, hr, hpos⟩ := h.taken k hk
    refine ⟨r, ?_, hpos⟩
    unfold insert
    rw [lookup_insert, if_neg (lt_nextId hr).ne, hr]

lemma good_take (h : Good l t) {cmdId : ℤ} {r : Command} (hr : t[cmdId]? = some r)
    (hzero : r.attemptCount = 0) : Good (cmdId :: l) (take cmdId t) := by
  have hgood : Good l (take cmdId t) :=
    good_modify h cmdId fun _ => ⟨by simp, by simp⟩
  refine ⟨hgood.fresh, fun k hk => ?_⟩
  rcases List.mem_cons.mp hk with rfl | hk
  · refine ⟨{ r with status := .processing, attemptCount := r.attemptCount + 1 }, ?_, ?_⟩
    rotate_left
    · simp [hzero]
    unfold take
    rw [lookup_modify, if_pos rfl, hr]
    rfl
  · exact hgood.taken k hk

/-! ### Every step -/

lemma not_writer (h : Kept s) {c : Connection} (hc : s.connections[i]? = some c)
    (hp : ∀ row, c.phase ≠ .written row) (t : Table Command) : s.writer ≠ some (i, t) := by
  intro hw
  obtain ⟨-, call, row, hc', -⟩ := h.written i t hw
  rw [hc] at hc'
  obtain rfl := Option.some.inj hc'
  exact hp row rfl

lemma kept_advance (h : Kept s) (hok : untaken s (.advance i) = true) (hs : advance s i = some s') :
    Kept s' := by
  unfold advance at hs
  obtain ⟨⟨call, phase⟩, hc, hs⟩ := Option.bind_eq_some_iff.mp hs
  cases phase with
  | begun =>
    cases call with
    | enqueue stationId commandType payload =>
      refine kept_write h hc hs (fun k hk => ?_) (good_insert h.committed _ _ _) h.once
      unfold insert
      rw [lookup_insert]
      split
      · rfl
      · exact hk
    | claimNext stationId =>
      have hnot := not_writer h hc (by simp)
      dsimp only at hs
      split at hs
      · obtain rfl := Option.some.inj hs
        exact kept_setPhase h _ hnot nofun
      · next row hrow =>
          obtain rfl := Option.some.inj hs
          obtain ⟨hr, hpending⟩ := nextPending_some hrow
          refine kept_setPhase h _ hnot fun row' he => ?_
          obtain rfl := Phase.read.inj he
          exact ⟨h.committed.fresh _ _ hr hpending, by simp [hr]⟩
    | markDone cmdId =>
      exact kept_write h hc hs (fun k hk => (isSome_modify _ cmdId k).trans hk)
        (good_setStatus h.committed cmdId nofun) h.once
    | markFailed cmdId =>
      exact kept_write h hc hs (fun k hk => (isSome_modify _ cmdId k).trans hk)
        (good_setStatus h.committed cmdId nofun) h.once
  | read row =>
    obtain ⟨hzero, hsome⟩ := h.read i call row hc
    obtain ⟨r, hr⟩ := Option.isSome_iff_exists.mp hsome
    have hcount : r.attemptCount = 0 := by
      simp only [untaken, hc, hr, Option.all_some, decide_eq_true_eq] at hok
      exact hok.trans hzero
    refine kept_write h hc hs (fun k hk => (isSome_modify _ row.1 k).trans hk)
      (good_take h.committed hr hcount) (List.nodup_cons.mpr ⟨fun hmem => ?_, h.once⟩)
    -- what was returned has been taken
    obtain ⟨r', hr', hpos⟩ := h.committed.taken row.1 hmem
    obtain rfl := Option.some.inj (hr.symm.trans hr')
    omega
  | written row => exact kept_commit h hc rfl hs
  | returned row => cases hs
  | raised => cases hs

lemma kept_connect (h : Kept s) (call : Call) :
    Kept { s with connections := s.connections ++ [⟨call, .begun⟩] } where
  committed := h.committed
  read j call' row hj := by
    have hmem := List.getElem?_eq_some_iff.mp hj
    by_cases hlt : j < s.connections.length
    · dsimp only at hj
      rw [List.getElem?_append_left hlt] at hj
      exact h.read j call' row hj
    · dsimp only at hj
      rw [List.getElem?_append_right (not_lt.mp hlt)] at hj
      have hin := List.mem_of_getElem? hj
      simp at hin
  written j t hj := by
    obtain ⟨hgrows, call', row, hc, hrest⟩ := h.written j t hj
    refine ⟨hgrows, call', row, ?_, hrest⟩
    rw [List.getElem?_append_left (List.getElem?_eq_some_iff.mp hc).1]
    exact hc
  once := h.once

lemma kept_fail (h : Kept s) (i : ℕ) :
    Kept (setPhase i .raised { s with writer := s.writer.filter (·.1 ≠ i) }) := by
  have hkept : Kept { s with writer := s.writer.filter (·.1 ≠ i) } :=
    ⟨h.committed, h.read,
      fun j t hj => h.written j t (Option.filter_eq_some_iff.mp hj).1, h.once⟩
  refine kept_setPhase hkept .raised (fun t hw => ?_) fun row hrow => by cases hrow
  simpa using (Option.filter_eq_some_iff.mp hw).2

lemma kept_step {e : Event} (h : Kept s) (hok : untaken s e = true) (hs : step s e = some s') :
    Kept s' := by
  cases e with
  | connect call =>
    obtain rfl := Option.some.inj hs
    exact kept_connect h call
  | advance i => exact kept_advance h hok hs
  | fail i =>
    obtain rfl := Option.some.inj hs
    exact kept_fail h i

/-- **Commands are delivered once.** In a run in which nobody takes a row between the two
statements of a claim, each row is returned at most once. -/
theorem delivered_once {es : List Event} (h : exec step start es = some s)
    (hok : Meets step (fun s e => untaken s e = true) start es) (cmdId : ℤ) :
    s.delivered.count cmdId ≤ 1 :=
  List.nodup_iff_count_le_one.mp
    (inv_of_exec (fun _ _ _ hk hok hs => kept_step hk hok hs) kept_start hok h).once cmdId

/-- Two consumers, the second one starting when the first has committed. -/
def oneAfterAnother : List Event :=
  [.connect (.enqueue 1 "queue_push" (.obj [])), .advance 0, .advance 0,
    .connect (.claimNext 1), .advance 1, .advance 1, .advance 1,
    .connect (.claimNext 1), .advance 2, .connect (.markDone 1), .advance 3, .advance 3]

theorem delivered_once_oneAfterAnother :
    ∃ s, exec step start oneAfterAnother = some s ∧ (1 : ℤ) ∈ s.delivered ∧
      s.delivered.count 1 ≤ 1 := by
  have hrun : ((exec step start oneAfterAnother).any fun s =>
      decide ((1 : ℤ) ∈ s.delivered)) = true := by
    decide +kernel
  obtain ⟨s, hs, hmem⟩ := (Option.any_eq_true ..).mp hrun
  exact ⟨s, hs, of_decide_eq_true hmem, delivered_once hs (by decide +kernel) 1⟩

/-- **A command delivered twice.** Two consumers read the row before either of them writes. -/
theorem delivered_twice :
    ∃ s, exec step start
        [.connect (.enqueue 1 "queue_push" (.obj [])), .advance 0, .advance 0,
          .connect (.claimNext 1), .connect (.claimNext 1), .advance 1, .advance 2,
          .advance 1, .advance 1, .advance 2, .advance 2] = some s ∧
      s.delivered.count 1 = 2 := by
  have hrun : ((exec step start
      [.connect (.enqueue 1 "queue_push" (.obj [])), .advance 0, .advance 0,
        .connect (.claimNext 1), .connect (.claimNext 1), .advance 1, .advance 2,
        .advance 1, .advance 1, .advance 2, .advance 2]).any fun s =>
      decide (s.delivered.count 1 = 2)) = true := by
    decide +kernel
  obtain ⟨s, hs, hcount⟩ := (Option.any_eq_true ..).mp hrun
  exact ⟨s, hs, of_decide_eq_true hcount⟩

end OnAir.OutboxRepository
