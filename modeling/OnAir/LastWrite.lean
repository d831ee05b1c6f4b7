import Mathlib.Data.List.Basic
import Mathlib.Tactic.Common

/-!
Writes to keyed cells, executed one after the other.

A write names a key and maps the old content of the cell to the new one. Where every write
replaces what an earlier one to the same key left behind, a cell ends as the last write to it
leaves it.
-/

namespace OnAir.LastWrite

variable {κ β : Type*}

/-- The writes to one key. -/
def writesTo [DecidableEq κ] (ws : List (κ × (β → β))) (k : κ) : List (β → β) :=
  (ws.filter fun w => w.1 = k).map Prod.snd

/-- The content of a cell after the writes to it. -/
def runAll (fs : List (β → β)) (x : β) : β := fs.foldl (fun x f => f x) x

/-- Each write makes what an earlier one did to the cell irrelevant. -/
def Replacing (fs : List (β → β)) : Prop := fs.Pairwise fun f g => ∀ x, g (f x) = g x

@[simp] lemma runAll_nil (x : β) : runAll [] x = x := rfl

@[simp] lemma runAll_cons (f : β → β) (fs : List (β → β)) (x : β) :
    runAll (f :: fs) x = runAll fs (f x) := rfl

lemma runAll_append (fs gs : List (β → β)) (x : β) :
    runAll (fs ++ gs) x = runAll gs (runAll fs x) := List.foldl_append

lemma writesTo_append [DecidableEq κ] (ws vs : List (κ × (β → β))) (k : κ) :
    writesTo (ws ++ vs) k = writesTo ws k ++ writesTo vs k := by
  simp [writesTo]

lemma writesTo_singleton [DecidableEq κ] (w : κ × (β → β)) (k : κ) :
    writesTo [w] k = if w.1 = k then [w.2] else [] := by
  by_cases h : w.1 = k <;> simp [writesTo, h]

/-- **The last write decides.** -/
theorem runAll_of_replacing {fs : List (β → β)} (h : Replacing fs) (x : β) :
    runAll fs x = match fs.getLast? with
      | none => x
      | some f => f x := by
  induction fs generalizing x with
  | nil => rfl
  | cons f fs ih =>
    obtain ⟨hf, hfs⟩ := List.pairwise_cons.mp h
    rw [runAll_cons, ih hfs]
    cases hl : fs.getLast? with
    | none =>
      rw [List.getLast?_eq_none_iff] at hl
      simp [hl]
    | some g =>
      have hg : g ∈ fs := List.mem_of_getLast? hl
      simp [List.getLast?_cons, hl, hf g hg x]

end OnAir.LastWrite
