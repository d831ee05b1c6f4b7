import Mathlib.Data.Int.ConditionallyCompleteOrder
import OnAir.Runs
import OnAir.PlayoutTables

/-!
The lease by which one worker at a time plays a station.

A call of `try_acquire` reads the clock in Python and then makes one upsert, so that the calls
of several workers can be executed in another order than they read the clock in. Times are in
microseconds; SQLite compares them by `julianday`, which is monotone but not exact.
-/

namespace OnAir.WorkerLease

open PlayoutTables Runs

/-- `timedelta(seconds=n)`. -/
def seconds (n : ℤ) : ℤ := n * 1000000

/-- A call of `try_acquire` that has read the clock. -/
structure Call where
  station : ℤ
  worker : String
  now : ℤ
  deriving DecidableEq, Repr

section Acquire

variable (julianday : ℤ → ℚ) (leaseSeconds : ℤ)

def expires (c : Call) : ℤ := c.now + seconds leaseSeconds

def latestReasonableExpiry (c : Call) : ℤ := c.now + seconds (max 1 leaseSeconds * 4)

/-- `ON CONFLICT(station_id) DO UPDATE … WHERE`: whether the upsert touches a row. -/
def acquires (leases : Table Lease) (c : Call) : Bool :=
  match leases[c.station]? with
  | none => true
  | some l => l.workerId = c.worker ||
      l.expiresAt.all fun t => decide (t ≤ julianday c.now) ||
        decide (julianday (latestReasonableExpiry leaseSeconds c) < t)

def tryAcquire (leases : Table Lease) (c : Call) : Table Lease × Bool :=
  if acquires julianday leaseSeconds leases c then
    (leases.insert c.station ⟨c.worker, some (julianday (expires leaseSeconds c))⟩, true)
  else (leases, false)

end Acquire

/-! ### Runs of calls -/

/-- A finished call: what it read, and the time of its upsert. -/
structure Attempt extends Call where
  time : ℤ
  granted : Bool
  deriving DecidableEq, Repr

structure Service where
  leases : Table Lease
  clock : ℤ
  /-- the calls between the reading of the clock and the upsert -/
  waiting : List Call
  /-- the finished calls, the last one first -/
  log : List Attempt

inductive Event
  | tick (now : ℤ)
  | enter (station : ℤ) (worker : String)
  | upsert (i : ℕ)
  deriving DecidableEq, Repr

def start (leases : Table Lease) (clock : ℤ) : Service := ⟨leases, clock, [], []⟩

section Steps

variable (julianday : ℤ → ℚ) (leaseSeconds : ℤ)

def upsert (s : Service) (c : Call) : Service :=
  let r := tryAcquire julianday leaseSeconds s.leases c
  { s with leases := r.1, log := ⟨c, s.clock, r.2⟩ :: s.log }

/-- A clock that does not run backwards, and calls that overlap in any way. -/
def step (s : Service) : Event → Option Service
  | .tick now => if s.clock ≤ now then some { s with clock := now } else none
  | .enter st w => some { s with waiting := ⟨st, w, s.clock⟩ :: s.waiting }
  | .upsert i => s.waiting[i]?.map fun c =>
    upsert julianday leaseSeconds { s with waiting := s.waiting.eraseIdx i } c

/-- A worker holds the lease until its lifetime after the last successful call of the worker,
unless another call took it over. -/
def Holds (log : List Attempt) (st : ℤ) (w : String) (t : ℤ) : Prop :=
  ∃ newer a older, log = newer ++ a :: older ∧
    (a.station = st ∧ a.worker = w ∧ a.granted = true) ∧
    (∀ b ∈ newer, ¬ (b.station = st ∧ b.granted = true)) ∧ t < expires leaseSeconds a.toCall

end Steps

/-- The last successful call on a station. -/
def lastGrant (st : ℤ) (log : List Attempt) : Option Attempt :=
  log.find? fun a => a.station = st && a.granted

variable {julianday : ℤ → ℚ} {L : ℤ} {s s' : Service}

lemma lastGrant_cons (st : ℤ) (a : Attempt) (log : List Attempt) :
    lastGrant st (a :: log) =
      if a.station = st ∧ a.granted = true then some a else lastGrant st log := by
  unfold lastGrant
  rw [List.find?_cons]
  split <;> simp_all

/-- Only the worker of the last successful call on a station can hold its lease. -/
lemma holds_iff {log : List Attempt} {st : ℤ} {w : String} {t : ℤ} :
    Holds L log st w t ↔
      ∃ a, lastGrant st log = some a ∧ a.worker = w ∧ t < expires L a.toCall := by
  unfold lastGrant
  simp only [List.find?_eq_some_iff_append]
  constructor
  · rintro ⟨newer, a, older, hlog, ⟨hst, hw, hg⟩, hnew, ht⟩
    exact ⟨a, ⟨by simp [hst, hg], newer, older, hlog,
      fun b hb => by simpa [imp_iff_not_or] using hnew b hb⟩, hw, ht⟩
  · rintro ⟨a, ⟨ha, newer, older, hlog, hnew⟩, hw, ht⟩
    have ha' : a.station = st ∧ a.granted = true := by simpa using ha
    exact ⟨newer, a, older, hlog, ⟨ha'.1, hw, ha'.2⟩,
      fun b hb => by simpa [imp_iff_not_or] using hnew b hb, ht⟩

/-! ### What an upsert decides -/

lemma acquires_holder {leases : Table Lease} {c : Call} {l : Lease}
    (hl : leases[c.station]? = some l) (hw : l.workerId = c.worker) :
    acquires julianday L leases c = true := by
  simp [acquires, hl, hw]

/-- A call takes a lease from another worker when the lease has run out, or lies further in the
future than the call thinks possible. -/
lemma acquires_other {leases : Table Lease} {c : Call} {l : Lease} {t : ℚ}
    (hl : leases[c.station]? = some l) (ht : l.expiresAt = some t) (hw : l.workerId ≠ c.worker) :
    acquires julianday L leases c = true ↔
      t ≤ julianday c.now ∨ julianday (latestReasonableExpiry L c) < t := by
  simp [acquires, hl, ht, hw]

/-! ### The invariant -/

/-- `b` took the lease over from `a`: the lease had run out by the time `b` read, or that time
was more than three lifetimes behind. -/
def Fair (julianday : ℤ → ℚ) (L : ℤ) (a b : Attempt) : Prop :=
  julianday (expires L a.toCall) ≤ julianday b.now ∨ b.now + seconds (3 * L) < a.now

structure Kept (julianday : ℤ → ℚ) (L : ℤ) (s : Service) : Prop where
  /-- the row of a station is that of the last successful call -/
  row : ∀ st a, lastGrant st s.log = some a →
    s.leases[st]? = some ⟨a.worker, some (julianday (expires L a.toCall))⟩
  fair : ∀ newer b older, s.log = newer ++ b :: older → b.granted = true →
    ∀ a, lastGrant b.station older = some a → a.worker ≠ b.worker → Fair julianday L a b
  read : ∀ a ∈ s.log, a.now ≤ a.time
  past : ∀ a ∈ s.log, a.time ≤ s.clock
  sorted : s.log.Pairwise fun b a => a.time ≤ b.time
  waiting : ∀ c ∈ s.waiting, c.now ≤ s.clock

lemma kept_start (leases : Table Lease) (clock : ℤ) : Kept julianday L (start leases clock) where
  row _ _ h := by simp [start, lastGrant] at h
  fair newer b older h := by simp [start] at h
  read _ h := by simp [start] at h
  past _ h := by simp [start] at h
  sorted := List.Pairwise.nil
  waiting _ h := by simp [start] at h

lemma row_upsert (h : Kept julianday L s) (c : Call) (st : ℤ) (a : Attempt)
    (ha : lastGrant st (upsert julianday L s c).log = some a) :
    (upsert julianday L s c).leases[st]? =
      some ⟨a.worker, some (julianday (expires L a.toCall))⟩ := by
  unfold upsert tryAcquire at ha ⊢
  dsimp only at ha ⊢
  rw [lastGrant_cons] at ha
  by_cases hg : acquires julianday L s.leases c = true
  · rw [if_pos hg] at ha ⊢
    rw [Table.lookup_insert]
    by_cases hst : c.station = st
    · rw [if_pos ⟨hst, rfl⟩] at ha
      obtain rfl := Option.some.inj ha
      rw [if_pos hst.symm]
    · rw [if_neg fun hc => hst hc.1] at ha
      rw [if_neg (Ne.symm hst)]
      exact h.row st a ha
  · rw [if_neg hg] at ha ⊢
    rw [if_neg fun hc => Bool.false_ne_true hc.2] at ha
    exact h.row st a ha

/-- Reading `julianday` back: what it tells apart is apart. -/
lemma fair_of_acquires (hjd : Monotone julianday) (hL : 1 ≤ L) (h : Kept julianday L s) {c : Call}
    (hg : acquires julianday L s.leases c = true) {a : Attempt}
    (ha : lastGrant c.station s.log = some a) (hw : a.worker ≠ c.worker) (time : ℤ) :
    Fair julianday L a ⟨c, time, true⟩ := by
  rcases (acquires_other (h.row _ a ha) rfl hw).mp hg with hrun | hfar
  · exact .inl hrun
  · right
    have hlt : latestReasonableExpiry L c < expires L a.toCall := by
      by_contra hle
      exact absurd (hjd (not_lt.mp hle)) (not_le.mpr hfar)
    unfold latestReasonableExpiry expires seconds at hlt
    rw [max_eq_right hL] at hlt
    show c.now + seconds (3 * L) < a.now
    unfold seconds
    omega

lemma fair_upsert (hjd : Monotone julianday) (hL : 1 ≤ L) (h : Kept julianday L s) (c : Call) :
    ∀ newer b older, (upsert julianday L s c).log = newer ++ b :: older → b.granted = true →
      ∀ a, lastGrant b.station older = some a → a.worker ≠ b.worker → Fair julianday L a b := by
  intro newer b older hlog hg a ha hw
  cases newer with
  | cons x newer => exact h.fair newer b older (List.cons.inj hlog).2 hg a ha hw
  | nil =>
    obtain ⟨rfl, rfl⟩ := List.cons.inj hlog
    have hacq : acquires julianday L s.leases c = true := by
      by_contra hne
      simp [tryAcquire, hne] at hg
    have hfair := fair_of_acquires hjd hL h hacq ha hw s.clock
    exact hfair

lemma kept_upsert (hjd : Monotone julianday) (hL : 1 ≤ L) (h : Kept julianday L s) {c : Call}
    (hc : c.now ≤ s.clock) : Kept julianday L (upsert julianday L s c) where
  row := row_upsert h c
  fair := fair_upsert hjd hL h c
  read a ha := by
    rcases List.mem_cons.mp ha with rfl | ha
    · exact hc
    · exact h.read a ha
  past a ha := by
    rcases List.mem_cons.mp ha with rfl | ha
    · exact le_refl _
    · exact h.past a ha
  sorted := List.pairwise_cons.mpr ⟨h.past, h.sorted⟩
  waiting := h.waiting

lemma kept_step (hjd : Monotone julianday) (hL : 1 ≤ L) {e : Event} (h : Kept julianday L s)
    (hs : step julianday L s e = some s') : Kept julianday L s' := by
  cases e with
  | tick now =>
    have hle : s.clock ≤ now ∧ { s with clock := now } = s' := by simpa [step] using hs
    obtain ⟨hle, rfl⟩ := hle
    exact { h with
      past := fun a ha => (h.past a ha).trans hle
      waiting := fun c hc => (h.waiting c hc).trans hle }
  | enter st w =>
    obtain rfl := Option.some.inj hs
    refine { h with waiting := fun c hc => ?_ }
    rcases List.mem_cons.mp hc with rfl | hc
    · exact le_refl _
    · exact h.waiting c hc
  | upsert i =>
    obtain ⟨c, hc, rfl⟩ := Option.map_eq_some_iff.mp hs
    have hrest : Kept julianday L { s with waiting := s.waiting.eraseIdx i } :=
      { h with waiting := fun c hc => h.waiting c (List.mem_of_mem_eraseIdx hc) }
    exact kept_upsert hjd hL hrest (h.waiting c (List.mem_of_getElem? hc))

/-- A call that takes over with the time it read is never behind the call it takes over. -/
lemma expired_of_fair (hL : 1 ≤ L) (h : Kept julianday L s) {newer older : List Attempt}
    {a b : Attempt} (hlog : s.log = newer ++ b :: older) (ha : a ∈ older)
    (hfresh : b.now = b.time) (hfair : Fair julianday L a b) :
    julianday (expires L a.toCall) ≤ julianday b.now := by
  refine hfair.resolve_right fun hlt => ?_
  have hsorted := h.sorted
  rw [hlog] at hsorted
  have htime : a.time ≤ b.time :=
    (List.pairwise_cons.mp (List.pairwise_append.mp hsorted).2.1).1 a ha
  have hread : a.now ≤ a.time := h.read a (by rw [hlog]; simp [ha])
  unfold seconds at hlt
  omega

/-- **One holder for each station.** For workers with a common lifetime, whatever leases they
start with and however their calls overlap: at no time do two workers hold the lease of a
station; the call of a holder succeeds, whatever time it read; and a call that takes the lease
over from another worker does so when it has run out, or has read a time more than three
lifetimes old, which a call that reads the time of its upsert has not. -/
theorem lease_is_exclusive (hjd : Monotone julianday) (hL : 1 ≤ L) {leases : Table Lease}
    {clock : ℤ} {es : List Event}
    (h : exec (step julianday L) (start leases clock) es = some s) :
    (∀ st w w' t, Holds L s.log st w t → Holds L s.log st w' t → w = w') ∧
    (∀ st w t, Holds L s.log st w t → ∀ now,
      (tryAcquire julianday L s.leases ⟨st, w, now⟩).2 = true) ∧
    ∀ newer b older, s.log = newer ++ b :: older → b.granted = true →
      ∀ a, lastGrant b.station older = some a → a.worker ≠ b.worker →
        (julianday (expires L a.toCall) ≤ julianday b.now ∨
          b.now + seconds (3 * L) < a.now) ∧
        (b.now = b.time → julianday (expires L a.toCall) ≤ julianday b.now) := by
  have hkept : Kept julianday L s :=
    inv_of_exec_all (fun s e s' hP hs => kept_step hjd hL hP hs) (kept_start leases clock) h
  refine ⟨?_, ?_, ?_⟩
  · intro st w w' t hw hw'
    obtain ⟨a, ha, rfl, -⟩ := holds_iff.mp hw
    obtain ⟨a', ha', rfl, -⟩ := holds_iff.mp hw'
    rw [Option.some.inj (ha.symm.trans ha')]
  · intro st w t hw now
    obtain ⟨a, ha, rfl, -⟩ := holds_iff.mp hw
    have hacq : acquires julianday L s.leases ⟨st, a.worker, now⟩ = true :=
      acquires_holder (hkept.row st a ha) rfl
    unfold tryAcquire
    rw [if_pos hacq]
  · intro newer b older hlog hg a ha hw
    have hfair := hkept.fair newer b older hlog hg a ha hw
    exact ⟨hfair, fun hfresh =>
      expired_of_fair hL hkept hlog (List.mem_of_find?_eq_some ha) hfresh hfair⟩

/-- `julianday` to the millisecond. -/
def milliseconds (t : ℤ) : ℚ := ((t + 500) / 1000 : ℤ)

lemma milliseconds_mono : Monotone milliseconds := fun t u htu => by
  unfold milliseconds
  exact_mod_cast Int.ediv_le_ediv (by decide) (by omega)

/-- Two workers with a lease of one second: the second one is refused, and takes over when the
lease of the first has run out. -/
def twoWorkers : List Event :=
  [.enter 1 "a", .upsert 0, .tick 500000, .enter 1 "b", .upsert 0, .tick 1200000, .enter 1 "b",
    .upsert 0]

theorem lease_is_exclusive_twoWorkers :
    ∃ s, exec (step milliseconds 1) (start ∅ 0) twoWorkers = some s ∧
      Holds 1 s.log 1 "b" 1500000 ∧ (∀ w, Holds 1 s.log 1 w 1500000 → w = "b") ∧
      ∀ now, (tryAcquire milliseconds 1 s.leases ⟨1, "b", now⟩).2 = true := by
  have hrun : ((exec (step milliseconds 1) (start ∅ 0) twoWorkers).any fun s =>
      (lastGrant 1 s.log).any fun a =>
        decide (a.worker = "b" ∧ 1500000 < expires 1 a.toCall)) = true := by
    decide +kernel
  obtain ⟨s, hs, hlast⟩ := (Option.any_eq_true ..).mp hrun
  obtain ⟨a, ha, hab⟩ := (Option.any_eq_true ..).mp hlast
  have hb : Holds 1 s.log 1 "b" 1500000 := holds_iff.mpr ⟨a, ha, of_decide_eq_true hab⟩
  obtain ⟨hone, hcall, -⟩ := lease_is_exclusive milliseconds_mono (le_refl 1) hs
  exact ⟨s, hs, hb, fun w hw => hone 1 w "b" 1500000 hw hb, hcall 1 "b" 1500000 hb⟩

end OnAir.WorkerLease
