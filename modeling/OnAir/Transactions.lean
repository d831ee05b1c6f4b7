import Mathlib.Tactic.Common

/-!
Statements on a connection whose first write opens a transaction.

The connection sees what it has written, and others see it once it is committed. A write that
raises ends the connection, and a crash may come after any statement; what was not committed is
lost in both.
-/

namespace OnAir.Transactions

variable {σ : Type*}

/-- `write` is `none` where it raises. -/
inductive Statement (σ : Type*)
  | write (f : σ → Option σ)
  | commit

/-- What is committed, and what the open transaction has made of it. -/
structure Connection (σ : Type*) where
  committed : σ
  current : σ

def Connection.opened (s : σ) : Connection σ := ⟨s, s⟩

/-- The connection after the statements; `false` where one of them raises. -/
def execute : List (Statement σ) → Connection σ → Connection σ × Bool
  | [], c => (c, true)
  | .write f :: rest, c =>
    match f c.current with
    | none => (.opened c.committed, false)
    | some s => execute rest ⟨c.committed, s⟩
  | .commit :: rest, c => execute rest (.opened c.current)

/-- What a crash after `n` statements leaves. -/
def crash (n : ℕ) (stmts : List (Statement σ)) (c : Connection σ) : σ :=
  (execute (stmts.take n) c).1.committed

variable {as bs : List (Statement σ)} {c c' : Connection σ} {f : σ → Option σ} {s : σ} {n : ℕ}

@[simp] lemma execute_nil : execute [] c = (c, true) := rfl

@[simp] lemma execute_commit : execute (.commit :: as) c = execute as (.opened c.current) := rfl

lemma execute_write (h : f c.current = some s) :
    execute (.write f :: as) c = execute as ⟨c.committed, s⟩ := by
  simp [execute, h]

lemma execute_raise (h : f c.current = none) :
    execute (.write f :: as) c = (.opened c.committed, false) := by
  simp [execute, h]

lemma execute_append (as bs : List (Statement σ)) (c : Connection σ) :
    execute (as ++ bs) c =
      if (execute as c).2 then execute bs (execute as c).1 else execute as c := by
  induction as generalizing c with
  | nil => rfl
  | cons a as ih =>
    cases a with
    | commit => exact ih _
    | write f =>
      rw [List.cons_append]
      cases h : f c.current with
      | none => simp [execute_raise h]
      | some s =>
        rw [execute_write h, execute_write h]
        exact ih _

/-- Writes, one after the other, in the open transaction. -/
lemma execute_writes (fs : List (σ → Option σ)) (c : Connection σ) :
    execute (fs.map .write) c =
      match fs.foldlM (fun s f => f s) c.current with
      | none => (.opened c.committed, false)
      | some s => (⟨c.committed, s⟩, true) := by
  induction fs generalizing c with
  | nil => rfl
  | cons f fs ih =>
    rw [List.map_cons, List.foldlM_cons]
    cases h : f c.current with
    | none => exact execute_raise h
    | some s => exact (execute_write h).trans (ih _)

/-- Writes that are committed together: all of them, or none where one raises. -/
lemma execute_transaction (fs : List (σ → Option σ)) (s : σ) :
    execute (fs.map .write ++ [.commit]) (.opened s) =
      match fs.foldlM (fun s f => f s) s with
      | none => (.opened s, false)
      | some t => (.opened t, true) := by
  have hwrites := execute_writes fs (.opened s)
  change _ = match fs.foldlM (fun s f => f s) s with | none => _ | some t => _ at hwrites
  rw [execute_append, hwrites]
  cases fs.foldlM (fun s f => f s) s <;> rfl

lemma crash_writes (n : ℕ) (fs : List (σ → Option σ)) (c : Connection σ) :
    crash n (fs.map .write) c = c.committed := by
  rw [crash, ← List.map_take, execute_writes]
  split <;> rfl

/-- A crash in the first statements, or in the others after these. -/
lemma crash_append (n : ℕ) (as bs : List (Statement σ)) (c : Connection σ) :
    crash n (as ++ bs) c = crash n as c ∨
      (execute as c).2 = true ∧ ∃ m, crash n (as ++ bs) c = crash m bs (execute as c).1 := by
  unfold crash
  rw [List.take_append]
  by_cases hn : n ≤ as.length
  · rw [Nat.sub_eq_zero_of_le hn, List.take_zero, List.append_nil]
    exact .inl rfl
  · rw [List.take_of_length_le (by omega), execute_append]
    split_ifs with h
    · exact .inr ⟨h, _, rfl⟩
    · exact .inl rfl

end OnAir.Transactions
