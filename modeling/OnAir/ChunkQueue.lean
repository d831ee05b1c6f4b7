import Mathlib.Algebra.Order.Ring.Int
import Mathlib.Tactic.Common
import Mathlib.Tactic.Linarith

/-!
A queue of chunks beside a count of what they hold.

Chunks enter at the end. Where the count exceeds a limit, whole chunks are dropped at the front; a
reader takes what it asks for from the front and may leave a part of a chunk there. The log of a
queue says what entered, what was dropped, and what was taken.
-/

namespace OnAir.ChunkQueue

variable {α : Type*}

structure Queue (α : Type*) where
  chunks : List (List α)
  size : ℤ
  deriving DecidableEq, Repr

def empty : Queue α := ⟨[], 0⟩

/-- What the chunks hold, the oldest first. -/
def held (q : Queue α) : List α := q.chunks.flatten

/-- The count is right. -/
def Exact (q : Queue α) : Prop := q.size = (held q).length

def append (chunk : List α) (q : Queue α) : Queue α :=
  ⟨q.chunks ++ [chunk], q.size + chunk.length⟩

/-- Drop chunks while the count exceeds the limit: what is left, and what was dropped. -/
def dropChunks (limit : ℤ) : List (List α) → ℤ → Queue α × List α
  | [], size => (⟨[], size⟩, [])
  | c :: cs, size =>
    if limit < size then
      let r := dropChunks limit cs (size - c.length)
      (r.1, c ++ r.2)
    else (⟨c :: cs, size⟩, [])

def dropOver (limit : ℤ) (q : Queue α) : Queue α × List α :=
  dropChunks limit q.chunks q.size

/-- Take up to `need` from the front: what was taken, and what is left. -/
def takeChunks : ℕ → List (List α) → ℤ → List α × Queue α
  | _, [], size => ([], ⟨[], size⟩)
  | need, c :: cs, size =>
    if need = 0 then ([], ⟨c :: cs, size⟩)
    else if c.length ≤ need then
      let r := takeChunks (need - c.length) cs (size - c.length)
      (c ++ r.1, r.2)
    else (c.take need, ⟨c.drop need :: cs, size - need⟩)

def take (need : ℕ) (q : Queue α) : List α × Queue α := takeChunks need q.chunks q.size

/-! ### What enters and what leaves -/

@[simp] lemma held_empty : held (empty : Queue α) = [] := rfl

@[simp] lemma held_append (chunk : List α) (q : Queue α) :
    held (append chunk q) = held q ++ chunk := by
  simp [held, append]

lemma exact_empty : Exact (empty : Queue α) := rfl

variable {q : Queue α}

lemma Exact.append (h : Exact q) (chunk : List α) : Exact (append chunk q) := by
  unfold Exact at *
  rw [held_append, List.length_append, Nat.cast_add, ← h]
  rfl

/-- What is dropped was the oldest, and the last chunk of it was over the limit with all that is
left. -/
structure Drops (limit : ℤ) (before after : Queue α) (dropped : List α) : Prop where
  oldest : held before = dropped ++ held after
  exact : Exact after
  within : 0 ≤ limit → after.size ≤ limit
  needed : dropped = [] ∨ ∃ first last, dropped = first ++ last ∧
    limit < (last.length + (held after).length : ℤ)

lemma dropChunks_drops (limit : ℤ) (chunks : List (List α)) (size : ℤ) (h : Exact ⟨chunks, size⟩) :
    Drops limit ⟨chunks, size⟩ (dropChunks limit chunks size).1
      (dropChunks limit chunks size).2 := by
  induction chunks generalizing size with
  | nil =>
    have hsize : size = 0 := h
    exact ⟨rfl, h, fun hlimit => hsize ▸ hlimit, .inl rfl⟩
  | cons c cs ih =>
    unfold dropChunks
    split_ifs with hover
    · dsimp only
      have hlen : size = (c.length : ℤ) + (cs.flatten.length : ℤ) := by
        have := h
        simpa [Exact, held] using this
      have hrest : Exact ⟨cs, size - c.length⟩ := by
        change size - c.length = (cs.flatten.length : ℤ)
        omega
      obtain ⟨hold, hexact, hwithin, hneeded⟩ := ih _ hrest
      refine ⟨?_, hexact, hwithin, ?_⟩
      · rw [List.append_assoc, ← hold]
        rfl
      · rcases hneeded with hnone | ⟨first, last, hsplit, hlast⟩
        · -- only this chunk is dropped
          refine .inr ⟨[], c, ?_, ?_⟩
          · rw [hnone, List.append_nil, List.nil_append]
          · rw [hnone, List.nil_append] at hold
            rw [← hold]
            change limit < (c.length : ℤ) + (cs.flatten.length : ℤ)
            omega
        · exact .inr ⟨c ++ first, last, by rw [hsplit, List.append_assoc], hlast⟩
    · exact ⟨rfl, h, fun _ => not_lt.mp hover, .inl rfl⟩

lemma dropOver_drops (limit : ℤ) (h : Exact q) :
    Drops limit q (dropOver limit q).1 (dropOver limit q).2 :=
  dropChunks_drops limit q.chunks q.size h

/-- What is taken was the oldest, as much as was asked for or everything. -/
structure Takes (need : ℕ) (before after : Queue α) (taken : List α) : Prop where
  oldest : held before = taken ++ held after
  exact : Exact after
  most : taken.length ≤ need
  short : taken.length < need → held after = []

lemma takeChunks_takes (need : ℕ) (chunks : List (List α)) (size : ℤ)
    (h : Exact ⟨chunks, size⟩) :
    Takes need ⟨chunks, size⟩ (takeChunks need chunks size).2
      (takeChunks need chunks size).1 := by
  induction chunks generalizing need size with
  | nil => exact ⟨rfl, h, Nat.zero_le _, fun _ => rfl⟩
  | cons c cs ih =>
    have hlen : size = (c.length : ℤ) + (cs.flatten.length : ℤ) := by
      have := h
      simpa [Exact, held] using this
    unfold takeChunks
    split_ifs with hzero hfits
    · exact ⟨rfl, h, Nat.zero_le _, fun hlt => absurd hlt (by simp [hzero])⟩
    · dsimp only
      have hrest : Exact ⟨cs, size - c.length⟩ := by
        change size - c.length = (cs.flatten.length : ℤ)
        omega
      obtain ⟨hold, hexact, hmost, hshort⟩ := ih (need - c.length) _ hrest
      refine ⟨?_, hexact, ?_, fun hlt => hshort ?_⟩
      · rw [List.append_assoc, ← hold]
        rfl
      · rw [List.length_append]
        omega
      · rw [List.length_append] at hlt
        omega
    · have hpart : (c.take need).length = need := List.length_take_of_le (by omega)
      refine ⟨?_, ?_, hpart.le, fun hlt => absurd hlt (by rw [hpart]; exact lt_irrefl _)⟩
      · change c ++ cs.flatten = c.take need ++ (c.drop need ++ cs.flatten)
        rw [← List.append_assoc, List.take_append_drop]
      · change size - need = ((c.drop need ++ cs.flatten).length : ℤ)
        rw [List.length_append, List.length_drop]
        omega

lemma take_takes (need : ℕ) (h : Exact q) : Takes need q (take need q).2 (take need q).1 :=
  takeChunks_takes need q.chunks q.size h

/-! ### Logs -/

/-- A push or a read, and how much is held after it. -/
inductive Record (α : Type*)
  | pushed (chunk dropped : List α) (kept : ℕ)
  | returned (requested : ℕ) (taken output : List α) (kept : ℕ)
  deriving DecidableEq, Repr

namespace Record

def entered : Record α → List α
  | .pushed chunk _ _ => chunk
  | .returned _ _ _ _ => []

def dropped : Record α → List α
  | .pushed _ dropped _ => dropped
  | .returned _ _ _ _ => []

/-- What was taken, without padding. -/
def read : Record α → List α
  | .pushed _ _ _ => []
  | .returned _ taken _ _ => taken

/-- What left the queue: a push drops, and a read takes. -/
def left (r : Record α) : List α := r.dropped ++ r.read

/-- What a push dropped had to go: without the end of it the limit was exceeded. -/
def Needed (limit : ℤ) : Record α → Prop
  | .pushed _ dropped kept => dropped = [] ∨ ∃ first last, dropped = first ++ last ∧
      limit < (last.length + kept : ℤ)
  | .returned _ _ _ _ => True

/-- A read returns what was taken, and padding where nothing more is held. -/
def Padded (padding : α) : Record α → Prop
  | .pushed _ _ _ => True
  | .returned requested taken output kept => output.length = requested ∧
      (taken.length < requested → kept = 0) ∧ ∃ n, output = taken ++ List.replicate n padding

end Record

variable {log : List (Record α)}

/-- **First in, first out.** What was pushed is, in order, what was dropped or read, call by call,
and after it what is held. -/
def InOrder (log : List (Record α)) (q : Queue α) : Prop :=
  log.flatMap Record.entered = log.flatMap Record.left ++ held q

lemma inOrder_empty : InOrder ([] : List (Record α)) empty := rfl

lemma InOrder.pushed (h : InOrder log q) {after : Queue α} {chunk dropped : List α}
    (hd : held q ++ chunk = dropped ++ held after) :
    InOrder (log ++ [.pushed chunk dropped (held after).length]) after := by
  unfold InOrder at *
  simp only [List.flatMap_append, List.flatMap_singleton, Record.entered, Record.left,
    Record.dropped, Record.read, List.append_nil]
  rw [h, List.append_assoc, hd, List.append_assoc]

lemma InOrder.returned (h : InOrder log q) {after : Queue α} {taken : List α}
    (ht : held q = taken ++ held after) (requested : ℕ) (output : List α) :
    InOrder (log ++ [.returned requested taken output (held after).length]) after := by
  unfold InOrder at *
  simp only [List.flatMap_append, List.flatMap_singleton, Record.entered, Record.left,
    Record.dropped, Record.read, List.append_nil, List.nil_append]
  rw [h, ht, List.append_assoc]

variable {limit : ℤ} {padding : α}

/-- What a queue of chunks with a limit promises to those that push and read. -/
structure Fifo (limit : ℤ) (padding : α) (q : Queue α) (log : List (Record α)) : Prop where
  exact : Exact q
  within : q.size ≤ limit
  order : InOrder log q
  needed : ∀ r ∈ log, r.Needed limit
  padded : ∀ r ∈ log, r.Padded padding

lemma fifo_empty (hlimit : 0 ≤ limit) : Fifo limit padding empty [] :=
  ⟨exact_empty, hlimit, inOrder_empty, fun _ h => absurd h List.not_mem_nil,
    fun _ h => absurd h List.not_mem_nil⟩

/-- The records so far, and one more. -/
lemma forall_mem_concat {P : Record α → Prop} {r : Record α} (h : ∀ x ∈ log, P x) (hr : P r) :
    ∀ x ∈ log ++ [r], P x := by
  intro x hx
  rcases List.mem_append.mp hx with hx | hx
  · exact h x hx
  · rwa [List.mem_singleton.mp hx]

lemma Fifo.push (h : Fifo limit padding q log) (chunk : List α) (hlimit : 0 ≤ limit) :
    Fifo limit padding (dropOver limit (ChunkQueue.append chunk q)).1
      (log ++ [.pushed chunk (dropOver limit (ChunkQueue.append chunk q)).2
        (held (dropOver limit (ChunkQueue.append chunk q)).1).length]) := by
  obtain ⟨hold, hexact, hwithin, hneeded⟩ := dropOver_drops limit (h.exact.append chunk)
  rw [held_append] at hold
  exact ⟨hexact, hwithin hlimit, h.order.pushed hold, forall_mem_concat h.needed hneeded,
    forall_mem_concat h.padded trivial⟩

/-- A push that leaves the queue within its limit drops nothing. -/
lemma Fifo.push_within (h : Fifo limit padding q log) (chunk : List α)
    (hroom : q.size + chunk.length ≤ limit) :
    Fifo limit padding (ChunkQueue.append chunk q)
      (log ++ [.pushed chunk [] (held (ChunkQueue.append chunk q)).length]) := by
  exact ⟨h.exact.append chunk, hroom, h.order.pushed (held_append chunk q).symm,
    forall_mem_concat h.needed (.inl rfl), forall_mem_concat h.padded trivial⟩

/-- An empty push is not even put into the queue. -/
lemma Fifo.push_nil (h : Fifo limit padding q log) :
    Fifo limit padding q (log ++ [.pushed [] [] (held q).length]) :=
  ⟨h.exact, h.within, h.order.pushed (List.append_nil _),
    forall_mem_concat h.needed (.inl rfl), forall_mem_concat h.padded trivial⟩

lemma Fifo.read (h : Fifo limit padding q log) (requested : ℕ) :
    Fifo limit padding (take requested q).2
      (log ++ [.returned requested (take requested q).1 ((take requested q).1 ++
        List.replicate (requested - (take requested q).1.length) padding)
        (held (take requested q).2).length]) := by
  obtain ⟨hold, hexact, hmost, hshort⟩ := take_takes requested h.exact
  have hle : (take requested q).2.size ≤ q.size := by
    rw [hexact, h.exact, hold, List.length_append, Nat.cast_add]
    omega
  refine ⟨hexact, hle.trans h.within, h.order.returned hold _ _,
    forall_mem_concat h.needed trivial, forall_mem_concat h.padded ⟨?_, fun hlt => ?_, _, rfl⟩⟩
  · rw [List.length_append, List.length_replicate]
    omega
  · rw [hshort hlt, List.length_nil]

end OnAir.ChunkQueue
