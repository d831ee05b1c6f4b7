import OnAir.Acknowledgement
import OnAir.HaNode
import OnAir.Runs

/-!
Replication in the group of three: two broadcast nodes and a witness, each with a journal and
a database of its own.

A leader posts its pending entries to both peers and marks an entry as replicated once one of
them accepted it. The witness runs the same handler as the standby, so its answer counts as
much. A request that is never handled, or whose answer is never used, is a lost message; one
that is handled late is a delayed one.
-/

namespace OnAir.StandbyCopy

open Acknowledgement HaNode ReplicationJournal Runs

abbrev witness : Voter := 2

/-- The other broadcast node. -/
def standby (v : Voter) : Voter := if v = 0 then 1 else 0

/-- A posted entry. -/
structure Post where
  src : Voter
  dst : Voter
  payload : ReplicationPayload
  deriving DecidableEq, Repr

/-- The nodes, the posts on the wire, and the sequences that were accepted: of whom and
by whom. -/
structure Group (σ : Type*) where
  nodes : Voter → Replica σ
  flying : List Post
  acks : List (Voter × Voter × ℤ)

inductive Act (σ : Type*)
  /-- a node writes its tables and journals an entry -/
  | append (v : Voter) (e : Entry) (d : σ)
  /-- a node writes its tables without journaling -/
  | write (v : Voter) (d : σ)
  /-- a pending entry is posted -/
  | post (v u : Voter) (k : ℤ)
  | handle (x : Post)
  /-- `mark_replicated`, after an answer -/
  | mark (v : Voter) (k : ℤ)

variable {σ : Type*} (sha : String → String) (applyRow : Entry → σ → Option (σ × Bool))

namespace Group

def setNode (g : Group σ) (v : Voter) (s : Replica σ) : Group σ :=
  { g with nodes := Function.update g.nodes v s }

def init (d : Voter → σ) : Group σ := ⟨fun v => ⟨.empty, d v⟩, [], []⟩

end Group

/-- One step of the group; `none` where it is not possible. -/
def step (g : Group σ) : Act σ → Option (Group σ)
  | .append v e d =>
    if v = witness then none
    else some (g.setNode v ⟨((g.nodes v).journal.append sha e).1, d⟩)
  | .write v d => some (g.setNode v { g.nodes v with data := d })
  | .post v u k =>
    match (g.nodes v).journal.rows[k]? with
    | some r =>
      if u ≠ v ∧ r.replicatedAt = false then
        some { g with flying := ⟨v, u, ⟨k, r.entry, r.checksum⟩⟩ :: g.flying }
      else none
    | none => none
  | .handle x =>
    if x ∈ g.flying then
      let out := haReplicate sha applyRow (g.nodes x.dst) x.payload
      some { g.setNode x.dst out.1 with
        flying := g.flying.erase x
        acks := if out.2 then (x.src, x.dst, x.payload.sequence) :: g.acks else g.acks }
    else none
  | .mark v k =>
    if ∃ u, (v, u, k) ∈ g.acks then
      some (g.setNode v { g.nodes v with journal := (g.nodes v).journal.markReplicated k })
    else none

/-- The entry with this checksum is in effect at a node: applied, or its own. -/
def InEffect (j : Journal) (checksum : String) : Prop :=
  ∃ k ∈ j.find checksum, ∃ r ∈ j.rows[k]?, r.appliedAt = true ∨ r.received = false

/-- What a broadcast node has marked as replicated is in effect at the other one. -/
def OnStandby (g : Group σ) : Prop :=
  ∀ v, v ≠ witness → ∀ (k : ℤ) (r : JournalRow), (g.nodes v).journal.rows[k]? = some r →
    r.replicatedAt = true → InEffect (g.nodes (standby v)).journal r.checksum

/-- A step that marks an entry with the answer of the standby, or by which a broadcast node
takes an entry for which its journal has room and its backlog is short. -/
def ByStandby (g : Group σ) : Act σ → Prop
  | .handle x => x.dst ≠ witness → Keeps (g.nodes x.dst).journal x.payload
  | .mark v k => (v, standby v, k) ∈ g.acks
  | _ => True

instance (g : Group σ) (a : Act σ) : Decidable (ByStandby g a) := by
  unfold ByStandby
  split <;> infer_instance

/-! ### The invariant -/

/-- A node journaled the entry itself. -/
def Own (j : Journal) (checksum : String) : Prop :=
  ∃ (k : ℤ) (r : JournalRow), j.rows[k]? = some r ∧ r.checksum = checksum ∧ r.received = false

structure Traced (g : Group σ) : Prop where
  /-- received rows are never pending -/
  received : ∀ v (k : ℤ) (r : JournalRow), (g.nodes v).journal.rows[k]? = some r →
    r.received = true → r.replicatedAt = true
  /-- the witness journals nothing of its own -/
  voter : ∀ (k : ℤ) (r : JournalRow), (g.nodes witness).journal.rows[k]? = some r →
    r.received = true
  origin : ∀ v (k : ℤ) (r : JournalRow), (g.nodes v).journal.rows[k]? = some r →
    r.received = true → ∃ u, u ≠ v ∧ u ≠ witness ∧ Own (g.nodes u).journal r.checksum
  flying : ∀ x ∈ g.flying, x.dst ≠ x.src ∧ ∃ r : JournalRow,
    (g.nodes x.src).journal.rows[x.payload.sequence]? = some r ∧
      r.checksum = x.payload.checksum ∧ r.received = false
  acked : ∀ v u k, (v, u, k) ∈ g.acks → u ≠ witness → ∃ r : JournalRow,
    (g.nodes v).journal.rows[k]? = some r ∧ InEffect (g.nodes u).journal r.checksum
  marked : OnStandby g

section Monotone

variable {j j' : Journal} {c : String}

lemma inEffect_iff : InEffect j c ↔ ∃ (k : ℤ) (r : JournalRow), j.rows[k]? = some r ∧
    r.checksum = c ∧ (r.appliedAt = true ∨ r.received = false) := by
  constructor
  · rintro ⟨k, hk, r, hr, h⟩
    obtain ⟨r', hr', hc⟩ := Journal.find_eq_some.mp hk
    obtain rfl : r' = r := Option.some.inj (hr'.symm.trans hr)
    exact ⟨k, r', hr', hc, h⟩
  · rintro ⟨k, r, hr, hc, h⟩
    exact ⟨k, Journal.find_eq_some.mpr ⟨r, hr, hc⟩, r, hr, h⟩

lemma InEffect.mono (h : InEffect j c) (he : j.Extends j') : InEffect j' c := by
  obtain ⟨k, r, hr, rfl, ha⟩ := inEffect_iff.mp h
  obtain ⟨r', hr', -, hc, hrec, happ, -⟩ := he k r hr
  exact inEffect_iff.mpr ⟨k, r', hr', hc, ha.imp happ fun h => hrec.trans h⟩

lemma Own.mono (h : Own j c) (he : j.Extends j') : Own j' c := by
  obtain ⟨k, r, hr, rfl, hrec⟩ := h
  obtain ⟨r', hr', -, hc, hrec', -, -⟩ := he k r hr
  exact ⟨k, r', hr', hc, hrec'.trans hrec⟩

lemma Own.inEffect (h : Own j c) : InEffect j c := by
  obtain ⟨k, r, hr, hc, hrec⟩ := h
  exact inEffect_iff.mpr ⟨k, r, hr, hc, .inr hrec⟩

/-- Two nodes that are not the witness are each other's standby. -/
lemma eq_standby : ∀ u v : Voter, u ≠ v → u ≠ witness → v ≠ witness → u = standby v := by decide

end Monotone

variable {sha applyRow} {g g' : Group σ} {a : Act σ}

/-- A row that a step puts into the journal of `u` keeps the trace. -/
def TracedRow (g : Group σ) (u : Voter) (r : JournalRow) : Prop :=
  (r.received = true → r.replicatedAt = true ∧
    ∃ w, w ≠ u ∧ w ≠ witness ∧ Own (g.nodes w).journal r.checksum) ∧
  (u = witness → r.received = true) ∧
  (u ≠ witness → r.replicatedAt = true → InEffect (g.nodes (standby u)).journal r.checksum)

/-- A step of one node that loses nothing and adds traced rows only. -/
lemma Traced.setNode (ht : Traced g) {u : Voter} {s : Replica σ}
    (hext : (g.nodes u).journal.Extends s.journal)
    (hstem : (g.nodes u).journal.Stems s.journal (TracedRow g u)) : Traced (g.setNode u s) := by
  have hlater : ∀ v, (g.nodes v).journal.Extends ((g.setNode u s).nodes v).journal := by
    intro v
    by_cases hvu : v = u
    · subst hvu
      simpa [Group.setNode] using hext
    · simpa [Group.setNode, hvu] using Journal.Extends.refl _
  have hrows : ∀ v (k : ℤ) (r : JournalRow), ((g.setNode u s).nodes v).journal.rows[k]? = some r →
      TracedRow g v r ∨ ∃ r' : JournalRow, (g.nodes v).journal.rows[k]? = some r' ∧
        r'.checksum = r.checksum ∧ r'.received = r.received ∧
        r'.replicatedAt = r.replicatedAt := by
    intro v k r hr
    by_cases hvu : v = u
    · subst hvu
      exact hstem k r (by simpa [Group.setNode] using hr)
    · exact .inr ⟨r, by simpa [Group.setNode, hvu] using hr, rfl, rfl, rfl⟩
  refine ⟨?received, ?voter, ?origin, ?flying, ?acked, ?marked⟩
  case received =>
    intro v k r hr hrec
    rcases hrows v k r hr with h | ⟨r', hr', -, hrc, hrp⟩
    · exact (h.1 hrec).1
    · exact hrp ▸ ht.received v k r' hr' (hrc.trans hrec)
  case voter =>
    intro k r hr
    rcases hrows _ k r hr with h | ⟨r', hr', -, hrc, -⟩
    · exact h.2.1 rfl
    · exact hrc ▸ ht.voter k r' hr'
  case origin =>
    intro v k r hr hrec
    rcases hrows v k r hr with h | ⟨r', hr', hc, hrc, -⟩
    · obtain ⟨w, hwv, hw, hown⟩ := (h.1 hrec).2
      exact ⟨w, hwv, hw, hown.mono (hlater w)⟩
    · obtain ⟨w, hwv, hw, hown⟩ := ht.origin v k r' hr' (hrc.trans hrec)
      exact ⟨w, hwv, hw, (hc ▸ hown).mono (hlater w)⟩
  case flying =>
    intro x hx
    obtain ⟨hne, r, hr, hc, hrec⟩ := ht.flying x hx
    obtain ⟨r', hr', -, hc', hrec', -, -⟩ := hlater x.src _ r hr
    exact ⟨hne, r', hr', hc'.trans hc, hrec'.trans hrec⟩
  case acked =>
    intro v w k hack hw
    obtain ⟨r, hr, heff⟩ := ht.acked v w k hack hw
    obtain ⟨r', hr', -, hc', -, -, -⟩ := hlater v k r hr
    exact ⟨r', hr', hc' ▸ heff.mono (hlater w)⟩
  case marked =>
    intro v hv k r hr hrep
    rcases hrows v k r hr with h | ⟨r', hr', hc, -, hrp⟩
    · exact (h.2.2 hv hrep).mono (hlater _)
    · exact (hc ▸ ht.marked v hv k r' hr' (hrp.trans hrep)).mono (hlater _)

lemma Traced.append (ht : Traced g) {v : Voter} (hv : v ≠ witness) (e : Entry) (d : σ) :
    Traced (g.setNode v ⟨((g.nodes v).journal.append sha e).1, d⟩) := by
  refine ht.setNode (extends_insertOrIgnore _ _ _) fun k r hr => ?_
  rcases stems_insertOrIgnore _ _ _ k r hr with rfl | h
  · exact .inl ⟨by simp [Journal.ownRow], fun h => absurd h hv, by simp [Journal.ownRow]⟩
  · exact .inr h

lemma Traced.write (ht : Traced g) (v : Voter) (d : σ) :
    Traced (g.setNode v { g.nodes v with data := d }) :=
  ht.setNode (.refl _) fun _ r hr => .inr ⟨r, hr, rfl, rfl, rfl⟩

lemma Traced.handle (ht : Traced g) {x : Post} (hx : x ∈ g.flying) :
    Traced (g.setNode x.dst (haReplicate sha applyRow (g.nodes x.dst) x.payload).1) := by
  obtain ⟨hne, q, hq, hc, hrec⟩ := ht.flying x hx
  have hown : Own (g.nodes x.src).journal x.payload.checksum := ⟨_, q, hq, hc, hrec⟩
  -- the sender is the other broadcast node
  have hsrc : x.src ≠ witness := by
    intro h
    rw [ht.voter _ q (h ▸ hq)] at hrec
    cases hrec
  refine ht.setNode (extends_haReplicate sha _ _) fun k r hr => ?_
  rcases stems_haReplicate sha _ _ k r hr with ⟨h1, h2, h3⟩ | h
  · refine .inl ⟨fun _ => ⟨h2, x.src, hne.symm, hsrc, h3 ▸ hown⟩, fun _ => h1, fun hdst _ => ?_⟩
    rw [← eq_standby x.src x.dst hne.symm hsrc hdst, h3]
    exact hown.inEffect
  · exact .inr h

lemma Traced.mark (ht : Traced g) {v : Voter} {k : ℤ} (hack : (v, standby v, k) ∈ g.acks) :
    Traced (g.setNode v { g.nodes v with journal := (g.nodes v).journal.markReplicated k }) := by
  refine ht.setNode (extends_markReplicated _ _) fun l r' hr' => ?_
  rw [Journal.markReplicated, Journal.update, Table.lookup_modify] at hr'
  split_ifs at hr' with hl
  · obtain ⟨r, hr, rfl⟩ := Option.map_eq_some_iff.mp hr'
    subst hl
    refine .inl ⟨fun hrec => ⟨rfl, ht.origin v _ r hr hrec⟩, ?_, fun _ _ => ?_⟩
    · rintro rfl
      exact ht.voter _ r hr
    · have hs : standby v ≠ witness := by unfold standby; split_ifs <;> decide
      obtain ⟨q, hq, heff⟩ := ht.acked v _ _ hack hs
      obtain rfl : q = r := Option.some.inj (hq.symm.trans hr)
      exact heff
  · exact .inr ⟨r', hr', rfl, rfl, rfl⟩

theorem traced_step (ht : Traced g) (hk : ByStandby g a) (hs : step sha applyRow g a = some g') :
    Traced g' := by
  revert hk hs
  fun_cases step sha applyRow g a <;> intro hk hs <;> cases hs
  case case2 v e d hv => exact ht.append hv e d
  case case3 v d => exact ht.write v d
  case case4 v u k r hr h =>
    refine ⟨ht.received, ht.voter, ht.origin, fun x hx => ?_, ht.acked, ht.marked⟩
    rcases List.mem_cons.mp hx with rfl | hx
    · refine ⟨h.1, r, hr, rfl, ?_⟩
      -- a pending row was not received
      cases hrec : r.received with
      | false => rfl
      | true =>
        have := ht.received v k r hr hrec
        rw [h.2] at this
        cases this
    · exact ht.flying x hx
  case case7 x hx out =>
    have hnext : Traced (g.setNode x.dst out.1) := ht.handle hx
    refine ⟨hnext.received, hnext.voter, hnext.origin,
      fun y hy => hnext.flying y (List.mem_of_mem_erase hy), fun v u k hack hu => ?_, hnext.marked⟩
    by_cases hacc : out.2 = true
    · simp only [hacc, if_true] at hack
      rcases List.mem_cons.mp hack with he | hack
      · obtain ⟨rfl, rfl, rfl⟩ : v = x.src ∧ u = x.dst ∧ k = x.payload.sequence := by simpa using he
        obtain ⟨-, r, hr, hc, -⟩ := hnext.flying x hx
        refine ⟨r, hr, ?_⟩
        -- the journal had room for the entry, so it is there and applied
        obtain ⟨q, hq, hqc, hqa⟩ := holds_of_keeps (Prod.ext rfl hacc) (hk hu)
        refine inEffect_iff.mpr ⟨x.payload.sequence, q, ?_, hqc.trans hc.symm, .inl hqa⟩
        simpa [Group.setNode] using hq
      · exact hnext.acked v u k hack hu
    · simp only [hacc] at hack
      exact hnext.acked v u k hack hu
  case case9 v k h => exact ht.mark hk

lemma traced_init (d : Voter → σ) : Traced (Group.init d) where
  received := by simp [Group.init, Journal.empty]
  voter := by simp [Group.init, Journal.empty]
  origin := by simp [Group.init, Journal.empty]
  flying := by simp [Group.init]
  acked := by simp [Group.init]
  marked := by simp [OnStandby, Group.init, Journal.empty]

/-- **Replicated means on the standby**, in a run whose entries are marked with the answer of the
standby and taken by journals that have room for them. -/
theorem replicated_on_standby {σ : Type} (sha : String → String)
    (applyRow : Entry → σ → Option (σ × Bool)) (d : Voter → σ) (acts : List (Act σ))
    (g : Group σ) (hm : Meets (step sha applyRow) ByStandby (Group.init d) acts)
    (he : exec (step sha applyRow) (Group.init d) acts = some g) : OnStandby g :=
  (inv_of_exec (P := Traced) (fun _ _ _ ht hk hs => traced_step ht hk hs) (traced_init d) hm
    he).marked

/-! ### A missed standby -/

open OnAir.Database ScheduleRepository

/-- The run of a group that starts empty. -/
def after (acts : List (Act Data)) : Option (Group Data) :=
  exec (step id ReplicationApplier.applyRow) (Group.init fun _ => Data.empty) acts

/-- A leader plans an item. -/
def planned : Act Data :=
  .append 0 (enqueued ∅ 1 7 "2026-01-01 10:00" none "news").entry .empty

/-- The entry, posted to one peer, handled there and marked. -/
def through (u : Voter) : List (Act Data) :=
  let e := (enqueued ∅ 1 7 "2026-01-01 10:00" none "news").entry
  [planned, .post 0 u 1, .handle ⟨0, u, ⟨1, e, e.material⟩⟩, .mark 0 1]

/-- Whether the first entry of the leader is marked. -/
def Marked (g : Group Data) : Prop :=
  ∃ r ∈ (g.nodes 0).journal.rows[(1 : ℤ)]?, r.replicatedAt = true

instance (g : Group Data) : Decidable (Marked g) := by
  unfold Marked
  infer_instance

theorem replicated_on_standby_planned :
    ∃ g, after (through 1) = some g ∧ Marked g ∧ OnStandby g := by
  obtain ⟨g, he, hg⟩ : ∃ g ∈ after (through 1), Marked g := by
    decide +kernel
  exact ⟨g, he, hg, replicated_on_standby _ _ _ (through 1) g (by decide +kernel) he⟩

/-- The answer of the witness alone marks an entry that the standby never sees. -/
theorem replicated_on_witness_only : ¬ ∀ (sha : String → String) (d : Voter → Data)
    (acts : List (Act Data)) (g : Group Data),
      exec (step sha ReplicationApplier.applyRow) (Group.init d) acts = some g → OnStandby g := by
  intro hall
  obtain ⟨g, he, ⟨r, hr, hrep⟩, hnone⟩ :
      ∃ g ∈ after (through 2), Marked g ∧ (g.nodes 1).journal.rows.isEmpty = true := by
    decide +kernel
  have hon := hall id (fun _ => Data.empty) (through 2) g he 0 (by decide) 1 r hr hrep
  obtain ⟨k, q, hq, -⟩ := inEffect_iff.mp hon
  have hempty : (g.nodes 1).journal.rows = ∅ := by simpa using hnone
  simp [standby, hempty] at hq

end OnAir.StandbyCopy
