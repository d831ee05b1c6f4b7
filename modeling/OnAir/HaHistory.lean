import OnAir.HaGroup

/-!
What a run of the group leaves behind.

No step reads the history. It records which votes were ever given, for which terms a node
was ever seen in the role of leader, and which node each voter supported last, by its own
candidacy, by a granted vote or by an accepted heartbeat.
-/

namespace OnAir.HaHistory

open HaNode HaGroup Runs

structure Hist where
  world : World
  /-- the reading of the last step -/
  clock : ℚ
  /-- voter, term and candidate of every vote -/
  votes : List (Voter × ℕ × Voter)
  /-- node and term of every leadership -/
  led : List (Voter × ℕ)
  backs : Voter → Option Voter

def Hist.init : Hist := ⟨HaGroup.init, 0, [], [], fun _ => none⟩

/-- The vote a step gives: a candidate's own when it is stored, a granted one when it is
committed. -/
def voteOf (w : World) (a : Act) : Option (Voter × ℕ × Voter) :=
  match a.op with
  | .persistSelf => some (a.node, (w.nodes a.node).term, a.node)
  | .advance h =>
    match h.stage, h.request.body with
    | .voteChecked, .vote t c => some (a.node, t, c)
    | _, _ => none
  | _ => none

/-- The node a step makes its node support. -/
def supportOf (w : World) (a : Act) : Option Voter :=
  match a.op with
  | .receive x =>
    match x.body with
    | .heartbeat term leader lease =>
      if (w.nodes a.node).acceptsHeartbeat a.now term lease then some leader else none
    | .vote _ _ => none
  | _ => (voteOf w a).map fun r => r.2.2

def leaders (w : World) : List (Voter × ℕ) :=
  (List.finRange 3).filterMap fun v =>
    if (w.nodes v).role = .leader then some (v, (w.nodes v).term) else none

lemma mem_leaders {w : World} {v : Voter} {t : ℕ} :
    (v, t) ∈ leaders w ↔ (w.nodes v).role = .leader ∧ (w.nodes v).term = t := by
  simp only [leaders, List.mem_filterMap, List.mem_finRange, true_and]
  constructor
  · rintro ⟨u, hu⟩
    split_ifs at hu with h
    obtain ⟨rfl, rfl⟩ := Prod.mk.inj (Option.some.inj hu)
    exact ⟨h, rfl⟩
  · rintro ⟨h, rfl⟩
    exact ⟨v, by simp [h]⟩

variable (cfg : Config)

/-- A step of the group, recorded. -/
def record (h : Hist) (a : Act) : Option Hist :=
  (step cfg h.world a).map fun w' =>
    { world := w'
      clock := a.now
      votes := (voteOf h.world a).toList ++ h.votes
      led := leaders w' ++ h.led
      backs := match supportOf h.world a with
        | some c => Function.update h.backs a.node (some c)
        | none => h.backs }

variable {cfg} {h h' : Hist} {a : Act}

lemma record_eq_some : record cfg h a = some h' ↔ ∃ w', step cfg h.world a = some w' ∧
    (⟨w', a.now, (voteOf h.world a).toList ++ h.votes, leaders w' ++ h.led,
      match supportOf h.world a with
        | some c => Function.update h.backs a.node (some c)
        | none => h.backs⟩ : Hist) = h' := by
  simp [record]

/-- Votes are never forgotten. -/
lemma votes_mono (hs : record cfg h a = some h') {r : Voter × ℕ × Voter} (hr : r ∈ h.votes) :
    r ∈ h'.votes := by
  obtain ⟨w', -, rfl⟩ := record_eq_some.mp hs
  exact List.mem_append_right _ hr

end OnAir.HaHistory
