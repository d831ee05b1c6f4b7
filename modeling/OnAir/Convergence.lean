import OnAir.ScheduleRepository

/-!
A leader and a standby: journaled calls on the schedule of the one, and their entries on their
way to the other.

The journal keeps of every text the first entry only. A change that brings a row back to a
content it was journaled with before is therefore never sent, and neither is the second deletion
of an id that was given out again.
-/

namespace OnAir.Convergence

open OnAir.Database ReplicationApplier ReplicationJournal ScheduleRepository
open LastWrite

/-! ### The pair -/

inductive Call
  | enqueue (stationId trackId : ℤ) (playAt : String) (windowEnd : Option String)
      (eventName : String)
  | update (id stationId trackId : ℤ) (playAt : String) (windowEnd : Option String)
      (eventName : String)
  | delete (id : ℤ)
  deriving DecidableEq, Repr

/-- A call on the leader, or one turn of the loop of `replicate_ordered`. -/
inductive Act
  | call (c : Call)
  | replicate
  deriving DecidableEq, Repr

structure Pair where
  leader : Replica Data
  standby : Replica Data

variable (sha : String → String)

def call (s : Replica Data) : Call → Replica Data
  | .enqueue st tr at' we ev => enqueue sha s st tr at' we ev
  | .update id st tr at' we ev => (update sha s id st tr at' we ev).1
  | .delete id => (delete sha s id).1

/-- The first pending entry is posted, and marked once it is acknowledged. -/
def replicate (p : Pair) : Pair :=
  match p.leader.journal.pending 250 with
  | [] => p
  | (k, r) :: _ =>
    let (standby, accepted) := haReplicate sha applyRow p.standby ⟨k, r.entry, r.checksum⟩
    if accepted then
      ⟨{ p.leader with journal := p.leader.journal.markReplicated k }, standby⟩
    else ⟨p.leader, standby⟩

def step (p : Pair) : Act → Pair
  | .call c => { p with leader := call sha p.leader c }
  | .replicate => replicate sha p

def run (p : Pair) (as : List Act) : Pair := as.foldl (step sha) p

/-- Both nodes at the beginning: the same schedule, and nothing journaled. -/
def start (d d' : Data) : Pair := ⟨⟨.empty, d⟩, ⟨.empty, d'⟩⟩

/-! ### The history -/

/-- What a call changes. -/
def Call.change (t : Table ScheduleItem) : Call → Option Change
  | .enqueue st tr at' we ev => some (enqueued t st tr at' we ev)
  | .update id st tr at' we ev => updated t id st tr at' we ev
  | .delete id => deleted t id

/-- The changes that calls make, one after the other. -/
def changes (t : Table ScheduleItem) : List Act → List Change
  | [] => []
  | .replicate :: as => changes t as
  | .call c :: as =>
    match c.change t with
    | none => changes t as
    | some ch => ch :: changes (ch.put t) as

/-- The changes whose text no earlier change has: those the journal keeps. -/
def kept (cs : List Change) : List Change :=
  cs.foldl (fun ks c =>
    if ∃ k ∈ ks, sha k.entry.material = sha c.entry.material then ks else ks ++ [c]) []

/-- The kept changes that a standby does not skip. -/
def sent (cs : List Change) : List Change := (kept sha cs).filter fun c => 0 < c.id

def lastOf (cs : List Change) (id : ℤ) : Option Change := (cs.filter fun c => c.id = id).getLast?

/-- The last change of every id leaves it as the last change of it that was sent does, or as
it was at the beginning where none was. -/
def Settled (t : Table ScheduleItem) (cs : List Change) : Prop :=
  ∀ c ∈ cs, lastOf cs c.id = some c →
    (match lastOf (sent sha cs) c.id with
      | some c' => c'.value
      | none => t[c.id]?) = c.value

instance (t : Table ScheduleItem) (cs : List Change) : Decidable (Settled sha t cs) := by
  unfold Settled
  infer_instance

/-! ### The tables after a list of changes -/

def putAll (t : Table ScheduleItem) (cs : List Change) : Table ScheduleItem :=
  cs.foldl (fun t c => c.put t) t

lemma putAll_append (t : Table ScheduleItem) (cs ds : List Change) :
    putAll t (cs ++ ds) = putAll (putAll t cs) ds := List.foldl_append

/-- The changes as writes to the cells of the table. -/
def writes (cs : List Change) : List (ℤ × (Option ScheduleItem → Option ScheduleItem)) :=
  cs.map fun c => (c.id, fun _ => c.value)

lemma lookup_putAll_runAll (t : Table ScheduleItem) (cs : List Change) (id : ℤ) :
    (putAll t cs)[id]? = runAll (writesTo (writes cs) id) t[id]? := by
  induction cs generalizing t with
  | nil => rfl
  | cons c cs ih =>
    have hput := c.lookup_put t id
    rw [putAll, List.foldl_cons, ← putAll, ih, hput]
    by_cases h : id = c.id
    · simp [writesTo, writes, h]
    · simp [writesTo, writes, h, Ne.symm h]

/-- A row is as the last change of it leaves it. -/
lemma lookup_putAll (t : Table ScheduleItem) (cs : List Change) (id : ℤ) :
    (putAll t cs)[id]? = match lastOf cs id with
      | some c => c.value
      | none => t[id]? := by
  have hw : writesTo (writes cs) id =
      (cs.filter fun c => c.id = id).map fun c _ => c.value := by
    simp [writesTo, writes, List.filter_map, Function.comp_def]
  have hrep : Replacing (writesTo (writes cs) id) := by
    rw [hw]
    exact List.pairwise_map.mpr (List.pairwise_of_forall fun _ _ _ => rfl)
  rw [lookup_putAll_runAll, runAll_of_replacing hrep, hw, List.getLast?_map, lastOf]
  cases (cs.filter fun c => c.id = id).getLast? <;> rfl

lemma kept_append (cs : List Change) (c : Change) : kept sha (cs ++ [c]) =
    if ∃ k ∈ kept sha cs, sha k.entry.material = sha c.entry.material then kept sha cs
    else kept sha cs ++ [c] := by
  rw [kept, List.foldl_append]
  rfl

lemma kept_subset (cs : List Change) : kept sha cs ⊆ cs := by
  induction cs using List.reverseRecOn with
  | nil => simp [kept]
  | append_singleton cs c ih =>
    rw [kept_append]
    split_ifs
    · exact fun x hx => List.mem_append_left _ (ih hx)
    · intro x hx
      rcases List.mem_append.mp hx with hx | hx
      · exact List.mem_append_left _ (ih hx)
      · exact List.mem_append_right _ hx

/-- Skipping the changes of ids that are not positive. -/
def putSent (t : Table ScheduleItem) (c : Change) : Table ScheduleItem :=
  if c.id ≤ 0 then t else c.put t

lemma foldl_putSent (t : Table ScheduleItem) (cs : List Change) :
    cs.foldl putSent t = putAll t (cs.filter fun c => 0 < c.id) := by
  induction cs generalizing t with
  | nil => rfl
  | cons c cs ih =>
    rw [List.foldl_cons, ih, putSent]
    by_cases h : c.id ≤ 0
    · simp [h, not_lt.mpr h]
    · simp [h, not_le.mp h, putAll]

/-! ### The invariant -/

/-- A change in the journal of the leader, and in that of the standby. -/
def ledRow (replicatedAt : Bool) (r : ℤ × Change) : ℤ × JournalRow :=
  (r.1, ⟨r.2.entry, sha r.2.entry.material, replicatedAt, false, false⟩)

def storedRow (appliedAt : Bool) (r : ℤ × Change) : ℤ × JournalRow :=
  (r.1, ⟨r.2.entry, sha r.2.entry.material, true, appliedAt, true⟩)

/-- After the changes `cs` on the schedule `t`: the kept changes are the ones delivered and the
ones to deliver, with their sequences; the standby has applied what was delivered. -/
structure Following (t : Table ScheduleItem) (cs : List Change) (done todo : List (ℤ × Change))
    (p : Pair) : Prop where
  kept : (done ++ todo).map Prod.snd = kept sha cs
  led : Table.rows p.leader.journal.rows =
    done.map (ledRow sha true) ++ todo.map (ledRow sha false)
  stored : Table.rows p.standby.journal.rows = done.map (storedRow sha true)
  leads : p.leader.data.scheduleItems = putAll t cs
  follows : p.standby.data.scheduleItems = (done.map Prod.snd).foldl putSent t

variable {sha} {t : Table ScheduleItem} {cs : List Change} {done todo : List (ℤ × Change)}
  {p : Pair}

lemma following_start (d d' : Data) (h : d'.scheduleItems = d.scheduleItems) :
    Following sha d.scheduleItems [] [] [] (start d d') where
  kept := rfl
  led := by simp [start, Journal.empty, Table.rows]
  stored := by simp [start, Journal.empty, Table.rows]
  leads := rfl
  follows := h

lemma Following.checksums (hf : Following sha t cs done todo p) :
    (Table.rows p.leader.journal.rows).map (fun r => r.2.checksum) =
      (Convergence.kept sha cs).map fun c => sha c.entry.material := by
  rw [hf.led, ← hf.kept]
  simp [ledRow, Function.comp_def]

/-- The leader knows the checksums of the kept changes. -/
lemma Following.find_eq_none (hf : Following sha t cs done todo p) (c : Change) :
    p.leader.journal.find (sha c.entry.material) = none ↔
      ¬ ∃ k ∈ Convergence.kept sha cs, sha k.entry.material = sha c.entry.material := by
  rw [Journal.find_eq_none_iff_notMem, hf.checksums, List.mem_map]

lemma Following.commit (hf : Following sha t cs done todo p) (c : Change) :
    ∃ todo', Following sha t (cs ++ [c]) done todo'
      { p with leader := ScheduleRepository.commit sha p.leader c } := by
  have hleads : c.put p.leader.data.scheduleItems = putAll t (cs ++ [c]) := by
    rw [putAll_append, ← hf.leads]
    rfl
  by_cases hk : ∃ k ∈ Convergence.kept sha cs, sha k.entry.material = sha c.entry.material
  · -- the text was journaled before
    have hfind : p.leader.journal.find (sha c.entry.material) ≠ none :=
      fun h => (hf.find_eq_none c).mp h hk
    refine ⟨todo, ?_, ?_, hf.stored, hleads, hf.follows⟩
    · rw [hf.kept, kept_append, if_pos hk]
    · rw [ScheduleRepository.commit, Journal.append_of_known sha hfind, hf.led]
  · refine ⟨todo ++ [(p.leader.journal.autoSeq + 1, c)], ?_, ?_, hf.stored, hleads, hf.follows⟩
    · rw [kept_append, if_neg hk, ← hf.kept]
      simp
    · rw [ScheduleRepository.commit, Journal.append_of_new sha ((hf.find_eq_none c).mpr hk), hf.led]
      simp [ledRow, Journal.ownRow]

lemma call_change (s : Replica Data) (c : Call) : call sha s c =
    match c.change s.data.scheduleItems with
    | none => s
    | some ch => ScheduleRepository.commit sha s ch := by
  cases c with
  | enqueue st tr at' we ev => rfl
  | update id st tr at' we ev =>
    simp only [call, update, Call.change]
    split <;> simp_all
  | delete id =>
    simp only [call, delete, Call.change]
    split <;> simp_all

/-- The entry that is posted is the first one that was not delivered. -/
lemma Following.pending (hf : Following sha t cs done todo p) :
    p.leader.journal.pending 250 = (todo.map (ledRow sha false)).take 250 := by
  have h1 : (done.map (ledRow sha true)).filter (fun r => !r.2.replicatedAt) = [] := by
    simp [List.filter_map, Function.comp_def, ledRow]
  have h2 : (todo.map (ledRow sha false)).filter (fun r => !r.2.replicatedAt) =
      todo.map (ledRow sha false) := by
    simp [List.filter_map, Function.comp_def, ledRow]
  rw [Journal.pending, hf.led, List.filter_append, h1, h2]
  rfl

/-- The sequences are in order and the checksums differ. -/
lemma Following.head (hf : Following sha t cs done todo p) {k : ℤ} {c : Change}
    {rest : List (ℤ × Change)} (h : todo = (k, c) :: rest) :
    ∀ r ∈ done, r.1 < k ∧ sha r.2.entry.material ≠ sha c.entry.material := by
  intro r hr
  have hmem : ledRow sha true r ∈ Table.rows p.leader.journal.rows := by
    rw [hf.led]
    exact List.mem_append_left _ (List.mem_map_of_mem hr)
  have hmem' : ledRow sha false (k, c) ∈ Table.rows p.leader.journal.rows := by
    rw [hf.led, h]
    exact List.mem_append_right _ List.mem_cons_self
  have hlt : r.1 < k := by
    have hs := Table.rows_sorted p.leader.journal.rows
    rw [hf.led, h] at hs
    exact (List.pairwise_append.mp hs).2.2 _ (List.mem_map_of_mem hr) (ledRow sha false (k, c))
      List.mem_cons_self
  refine ⟨hlt, fun hc => ?_⟩
  have := p.leader.journal.unique _ _ _ _ (Table.mem_rows.mp hmem) (Table.mem_rows.mp hmem') hc
  exact absurd this hlt.ne

/-- What the standby makes of the next entry. -/
lemma Following.deliver (hf : Following sha t cs done todo p) {k : ℤ} {c : Change}
    {rest : List (ℤ × Change)} (h : todo = (k, c) :: rest) (hk : storable k) :
    ∃ s, haReplicate sha applyRow p.standby ⟨k, c.entry, sha c.entry.material⟩ = (s, true) ∧
      Table.rows s.journal.rows = (done ++ [(k, c)]).map (storedRow sha true) ∧
      s.data.scheduleItems = ((done ++ [(k, c)]).map Prod.snd).foldl putSent t := by
  have hhead := hf.head h
  have hlookup : ∀ (j : ℤ) (r : JournalRow), p.standby.journal.rows[j]? = some r →
      ∃ d ∈ done, d.1 = j ∧ sha d.2.entry.material = r.checksum := by
    intro j r hr
    rw [← Table.mem_rows, hf.stored] at hr
    obtain ⟨d, hd, he⟩ := List.mem_map.mp hr
    obtain ⟨rfl, rfl⟩ := Prod.mk.inj he
    exact ⟨d, hd, rfl, rfl⟩
  have hbelow : ∀ (j : ℤ) (r : JournalRow), p.standby.journal.rows[j]? = some r → j < k := by
    intro j r hr
    obtain ⟨d, hd, rfl, -⟩ := hlookup j r hr
    exact (hhead d hd).1
  have hfree : p.standby.journal.rows[k]? = none := by
    cases hr : p.standby.journal.rows[k]? with
    | none => rfl
    | some r => exact absurd (hbelow k r hr) (lt_irrefl _)
  have hnew : p.standby.journal.find (sha c.entry.material) = none := by
    rw [Journal.find_eq_none]
    intro j r hr hc
    obtain ⟨d, hd, -, he⟩ := hlookup j r hr
    exact (hhead d hd).2 (he.trans hc)
  -- the entry comes last in the journal of the standby, and is the only one to apply
  have hrows : Table.rows (p.standby.journal.receive ⟨k, c.entry, sha c.entry.material⟩).rows =
      done.map (storedRow sha true) ++ [storedRow sha false (k, c)] := by
    rw [Journal.receive, Journal.insertOrIgnore_of_free hfree hnew, Table.rows_insert_last hbelow,
      hf.stored]
    rfl
  have hun : (p.standby.journal.receive ⟨k, c.entry, sha c.entry.material⟩).unapplied =
      [storedRow sha false (k, c)] := by
    have hdone : (done.map (storedRow sha true)).filter (fun r => !r.2.appliedAt) = [] := by
      simp [List.filter_map, Function.comp_def, storedRow]
    rw [Journal.unapplied, hrows, List.filter_append, hdone]
    rfl
  refine ⟨⟨(p.standby.journal.receive ⟨k, c.entry, sha c.entry.material⟩).markApplied k,
    if c.id ≤ 0 then p.standby.data
    else { p.standby.data with scheduleItems := c.put p.standby.data.scheduleItems }⟩, ?_, ?_, ?_⟩
  · simp [haReplicate, hk, applyPending, hun, applyRows, storedRow, applyRow_entry]
  · rw [Journal.markApplied, Journal.update, Table.rows_modify, hrows, List.map_append,
      List.map_append]
    congr 1
    · rw [List.map_map]
      refine List.map_congr_left fun d hd => ?_
      have hne : d.1 ≠ k := (hhead d hd).1.ne
      simp [storedRow, hne]
    · simp [storedRow]
  · rw [List.map_append, List.foldl_append, ← hf.follows]
    by_cases hid : c.id ≤ 0 <;> simp [putSent, hid]

lemma Following.replicate (hf : Following sha t cs done todo p) :
    ∃ done' todo', Following sha t cs done' todo' (Convergence.replicate sha p) := by
  have hpend := hf.pending
  cases htodo : todo with
  | nil =>
    refine ⟨done, todo, ?_⟩
    rw [htodo] at hpend
    rw [Convergence.replicate, hpend]
    exact hf
  | cons kc rest =>
    obtain ⟨k, c⟩ := kc
    rw [htodo, List.map_cons, List.take_succ_cons] at hpend
    by_cases hk : storable k
    · obtain ⟨s, hs, hrows, hdata⟩ := hf.deliver htodo hk
      refine ⟨done ++ [(k, c)], rest, ?_⟩
      rw [Convergence.replicate, hpend]
      simp only [ledRow, hs, if_true]
      refine ⟨?_, ?_, hrows, hf.leads, hdata⟩
      · rw [← hf.kept, htodo]
        simp
      · have hs := Table.rows_sorted p.leader.journal.rows
        rw [hf.led, htodo, List.map_cons] at hs
        have hrest := (List.pairwise_cons.mp (List.pairwise_append.mp hs).2.1).1
        simp only [Journal.markReplicated, Journal.update, Table.rows_modify]
        rw [hf.led, htodo, List.map_append, List.map_append, List.map_cons, List.map_cons,
          List.append_assoc]
        congr 1
        · rw [List.map_map]
          refine List.map_congr_left fun d hd => ?_
          have hne : d.1 ≠ k := (hf.head htodo d hd).1.ne
          simp [ledRow, hne]
        · rw [List.map_map, List.map_cons, List.map_nil, List.singleton_append]
          refine congrArg₂ _ (by simp [ledRow]) (List.map_congr_left fun d hd => ?_)
          have hne : d.1 ≠ k := (hrest _ (List.mem_map_of_mem hd)).ne'
          simp [ledRow, hne]
    · -- a sequence beyond the row ids of the standby is never delivered
      refine ⟨done, todo, ?_⟩
      rw [Convergence.replicate, hpend]
      simpa [ledRow, haReplicate, hk] using hf

lemma Following.step (hf : Following sha t cs done todo p) (a : Act) :
    ∃ done' todo', Following sha t (cs ++ changes p.leader.data.scheduleItems [a]) done' todo'
      (step sha p a) := by
  cases a with
  | replicate =>
    simpa [changes, Convergence.step] using hf.replicate
  | call c =>
    simp only [Convergence.step, call_change, changes]
    cases c.change p.leader.data.scheduleItems with
    | none => exact ⟨done, todo, by simpa using hf⟩
    | some ch =>
      obtain ⟨todo', h⟩ := hf.commit ch
      exact ⟨done, todo', h⟩

lemma changes_cons (u : Table ScheduleItem) (a : Act) (as : List Act) :
    changes u (a :: as) = changes u [a] ++ changes (putAll u (changes u [a])) as := by
  cases a with
  | replicate => rfl
  | call c =>
    simp only [changes]
    cases c.change u <;> rfl

lemma Following.run (hf : Following sha t cs done todo p) (as : List Act) :
    ∃ done' todo', Following sha t (cs ++ changes p.leader.data.scheduleItems as) done' todo'
      (run sha p as) := by
  induction as generalizing p cs done todo with
  | nil => exact ⟨done, todo, by simpa [changes, Convergence.run] using hf⟩
  | cons a as ih =>
    obtain ⟨done', todo', h⟩ := hf.step a
    obtain ⟨done'', todo'', h'⟩ := ih h
    have hleads : (Convergence.step sha p a).leader.data.scheduleItems =
        putAll p.leader.data.scheduleItems (changes p.leader.data.scheduleItems [a]) := by
      rw [h.leads, putAll_append, ← hf.leads]
    refine ⟨done'', todo'', ?_⟩
    rw [changes_cons, ← hleads, ← List.append_assoc]
    exact h'

/-! ### Convergence -/

lemma lastOf_id {cs : List Change} {id : ℤ} {c : Change} (h : lastOf cs id = some c) :
    c ∈ cs ∧ c.id = id := by
  have hm := List.mem_of_getLast? h
  simpa using List.mem_filter.mp hm

lemma lastOf_eq_none {cs : List Change} {id : ℤ} : lastOf cs id = none ↔ ∀ c ∈ cs, c.id ≠ id := by
  simp [lastOf]

/-- The tables agree after all changes and after those that were sent. -/
lemma settled_iff (t : Table ScheduleItem) (cs : List Change) :
    putAll t (sent sha cs) = putAll t cs ↔ Settled sha t cs := by
  have hsub : ∀ c ∈ sent sha cs, c ∈ cs := fun c hc => kept_subset sha cs (List.mem_filter.mp hc).1
  constructor
  · intro h c _ hlast
    have hc := congrArg (fun u : Table ScheduleItem => u[c.id]?) h
    simp only [lookup_putAll, hlast] at hc
    exact hc
  · intro h
    refine Std.ExtTreeMap.ext_getElem? fun id => ?_
    rw [lookup_putAll, lookup_putAll]
    cases hlast : lastOf cs id with
    | none =>
      have hnone : lastOf (sent sha cs) id = none :=
        lastOf_eq_none.mpr fun c hc => lastOf_eq_none.mp hlast c (hsub c hc)
      rw [hnone]
    | some c =>
      obtain ⟨hc, rfl⟩ := lastOf_id hlast
      exact h c hc hlast

/-- **Convergence.** Once every entry is replicated, the schedule of the standby is that of the
leader exactly when the last change of each id leaves it as the last one that was sent. -/
theorem standby_converges (sha : String → String) (d d' : Data)
    (h : d'.scheduleItems = d.scheduleItems) (acts : List Act)
    (hall : (run sha (start d d') acts).leader.journal.pending 250 = []) :
    (run sha (start d d') acts).standby.data.scheduleItems =
        (run sha (start d d') acts).leader.data.scheduleItems ↔
      Settled sha d.scheduleItems (changes d.scheduleItems acts) := by
  have hstart : Following sha d.scheduleItems [] [] [] (start d d') := following_start d d' h
  obtain ⟨done, todo, hf⟩ := hstart.run acts
  have hnil : todo = [] := by
    rw [hf.pending] at hall
    cases todo with
    | nil => rfl
    | cons kc rest => simp at hall
  have hkept : done.map Prod.snd = kept sha (changes d.scheduleItems acts) := by
    have := hf.kept
    rw [hnil, List.append_nil] at this
    exact this
  rw [hf.follows, hf.leads, hkept, foldl_putSent]
  exact settled_iff _ _

/-- An item is planned and then moved. -/
def moved : List Act :=
  [.call (.enqueue 1 7 "2026-01-01 10:00" none "news"), .replicate,
    .call (.update 1 1 7 "2026-01-01 11:00" none "news"), .replicate]

theorem standby_converges_moved : (run id (start .empty .empty) moved).standby.data.scheduleItems =
    (run id (start .empty .empty) moved).leader.data.scheduleItems :=
  (standby_converges id .empty .empty rfl moved (by decide +kernel)).mpr (by decide +kernel)

/-- An item is moved, and moved back. -/
def movedBack : List Act :=
  moved ++ [.call (.update 1 1 7 "2026-01-01 10:00" none "news"), .replicate]

/-- The second move is never sent. -/
theorem standby_stays_behind : ¬ ∀ (sha : String → String) (d d' : Data),
    d'.scheduleItems = d.scheduleItems → ∀ acts : List Act,
      (run sha (start d d') acts).leader.journal.pending 250 = [] →
        (run sha (start d d') acts).standby.data.scheduleItems =
          (run sha (start d d') acts).leader.data.scheduleItems := by
  intro hall
  have heq := hall id .empty .empty rfl movedBack (by decide +kernel)
  have hrow := congrArg (fun t : Table ScheduleItem => t[(1 : ℤ)]?.map (·.playAt)) heq
  exact absurd hrow (by decide +kernel)

end OnAir.Convergence
