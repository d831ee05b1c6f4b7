import OnAir.ProgramWorkspace

/-!
Whose claim a call on the program workspace may take away.

A call decides by what it has read. As long as nobody else writes, this is what stands when the
call writes: it replaces a claim of its own show or user, or of a workspace that stands idle. Show
and user of a claim are written in one transaction, so they stay together however calls overlap.
-/

namespace OnAir.WorkspaceClaims

open ProgramWorkspace Resumption Runs ThreadPool

variable {α β : Type} {i j : ℕ} {c : Call} {s t u : State} {rows : Option ℤ × Option ℤ}

/-! ### What may be written -/

/-- A claim call may take the workspace `w`: it is not claimed, or for the same show, or by the
same user, or it stands idle. -/
def MayTake (c : Call) (w : Workspace) : Prop :=
  ∀ claim, w.claim = some claim → claim.showId = c.showId ∨ claim.userId = some c.user.id ∨
    w.items = [] ∧ w.getSource = .automation

/-- A release call may clear the workspace `w`: if it is claimed, then by the same user, or for
a show in whose workspace the user may work, and for the show that is asked for, if any is. -/
def MayRelease (c : Call) (w : Workspace) : Prop :=
  ∀ claim, w.claim = some claim → (c.showId ≤ 0 ∨ claim.showId = c.showId) ∧
    (claim.userId = some c.user.id ∨ hasWorkspacePermission c.user.toUser claim.showId)

def Allows (c : Call) (w : Workspace) : Prop :=
  match c.kind with
  | .claim => MayTake c w
  | .release => MayRelease c w

/-- Unless somebody else has written since the call read the claim, the call was allowed to
write, and writes over the claim that it read; what it clears is the queue that stood there. -/
def Fair (c : Call) (e : Entry) : Prop :=
  ∀ w, e.found = some w → Allows c w ∧ w.claimRows = e.before.claimRows ∧
    (e.write = .cleared → w = e.before)

/-- The claim of the workspace is the one that was there at the start, or none, or was made by a
call for its show and its user. -/
def Made (rows : Option ℤ × Option ℤ) (s : State) (w : Workspace) : Prop :=
  w.claimRows = rows ∨ w.claimRows = (none, none) ∨
    ∃ r ∈ s.calls, r.2.kind = .claim ∧ w.claimRows = (some r.2.showId, some r.2.user.id)

structure Paired (rows : Option ℤ × Option ℤ) (s : State) : Prop where
  session : s.session = none
  made : Made rows s s.stored

/-! ### What the others do -/

structure Others (i : ℕ) (s t : State) : Prop where
  calls : s.calls ⊆ t.calls
  tx : ∀ w, t.tx = some (i, w) ↔ s.tx = some (i, w)
  stored : ∀ w, s.tx = some (i, w) → t.stored = s.stored
  found : ∀ w, t.found i = some w → s.found i = some w ∧ t.stored = s.stored
  log : ∀ e ∈ t.log, e.call = i → e ∈ s.log

lemma Others.refl (i : ℕ) (s : State) : Others i s s :=
  ⟨fun _ h => h, fun _ => .rfl, fun _ _ => rfl, fun _ h => ⟨h, rfl⟩, fun _ h _ => h⟩

lemma Others.trans (h : Others i s t) (h' : Others i t u) : Others i s u where
  calls := List.Subset.trans h.calls h'.calls
  tx w := (h'.tx w).trans (h.tx w)
  stored w hw := (h'.stored w ((h.tx w).mpr hw)).trans (h.stored w hw)
  found w hw := by
    obtain ⟨ht, hstored⟩ := h'.found w hw
    obtain ⟨hs, hstored'⟩ := h.found w ht
    exact ⟨hs, hstored.trans hstored'⟩
  log e he hi := h.log e (h'.log e he hi) hi

/-- A connection that may write sees what it has written itself, or what is stored. -/
lemma view_eq (h : ∀ w, s.tx ≠ some (i, w)) : s.view i = s.stored := by
  unfold State.view
  split
  · rename_i j w htx
    split
    · rename_i hj
      exact absurd (hj ▸ htx) (h w)
    · rfl
  · rfl

lemma view_of_tx {w : Workspace} (h : s.tx = some (i, w)) : s.view i = w := by
  simp [State.view, h]

lemma others_rollBack (h : i ≠ j) : Others i s (s.rollBack j) where
  calls _ hr := hr
  tx w := by
    simp only [State.rollBack, Option.filter_eq_some_iff, decide_eq_true_eq]
    exact ⟨fun hw => hw.1, fun hw => ⟨hw, h⟩⟩
  stored _ _ := rfl
  found _ hw := ⟨hw, rfl⟩
  log _ he _ := he

lemma others_write {f : Workspace → Workspace} (h : i ≠ j) {r : Unit}
    (hw : s.write j f = some (r, u)) : Others i s u := by
  obtain ⟨hmay, heq⟩ := Option.ite_none_right_eq_some.mp hw
  cases heq
  refine ⟨fun _ hr => hr, fun w => ?_, fun _ _ => rfl, fun _ hw => ⟨hw, rfl⟩, fun _ he _ => he⟩
  cases htx : s.tx with
  | none => simp [h.symm]
  | some r =>
    obtain ⟨k, v⟩ := r
    obtain rfl : k = j := by simpa [State.mayWrite, htx] using hmay
    simp [h.symm]

lemma others_logged (h : i ≠ j) (write : Write) : Others i s (s.logged j write) where
  calls _ hr := hr
  tx _ := .rfl
  stored _ _ := rfl
  found _ hw := ⟨hw, rfl⟩
  log e he hi := by
    obtain rfl | he := List.mem_cons.mp he
    · exact absurd hi.symm h
    · exact he

lemma others_commit (h : i ≠ j) : Others i s (s.commit j) := by
  unfold State.commit
  split
  · rename_i k v htx
    split
    · rename_i hk
      subst hk
      refine ⟨fun _ hr => hr, fun w => ?_, fun w hw => ?_, fun w hw => ?_, fun _ he _ => he⟩
      · simp [htx, h.symm]
      · rw [htx] at hw
        cases hw
        exact absurd rfl h
      · simp [h] at hw
    · exact .refl i s
  · exact .refl i s

lemma others_attempt (h : i ≠ j) {w : World} {answer : Option (β × State)} {a : Answer β}
    (hanswer : ∀ b v, answer = some (b, v) → Others i s v)
    (hu : attempt j s w answer = some (a, u)) : Others i s u := by
  cases w with
  | runs =>
    obtain ⟨⟨b, v⟩, hb, heq⟩ := Option.map_eq_some_iff.mp hu
    cases heq
    exact hanswer b v hb
  | fails =>
    cases hu
    exact others_rollBack h

/-- **A statement of one connection.** For the others it is no more than they expect. -/
theorem others_run (h : i ≠ j) {o : Op β} {w : World} {b : β}
    (hu : run j o w s = some (b, u)) : Others i s u := by
  cases o with
  | activeSession | getShow | listItems | getSource =>
    refine others_attempt h (fun b v hv => ?_) hu
    cases hv
    exact .refl i s
  | claimRows =>
    refine others_attempt h (fun b v hv => ?_) hu
    cases hv
    refine ⟨fun _ hr => hr, fun _ => .rfl, fun _ _ => rfl, fun w hw => ?_, fun _ he _ => he⟩
    have hsame : Function.update s.found j (some (s.view j)) i = s.found i :=
      Function.update_of_ne h _ _
    exact ⟨hsame.symm.trans hw, rfl⟩
  | deleteItems | upsertShow | deleteClaim =>
    refine others_attempt h (fun b v hv => ?_) hu
    exact (others_logged h _).trans (others_write h hv)
  | upsertSource | upsertUser =>
    refine others_attempt h (fun b v hv => ?_) hu
    exact others_write h hv
  | commit =>
    refine others_attempt h (fun b v hv => ?_) hu
    cases hv
    exact others_commit h

lemma others_edit {e : Edit} (h : edit e s = some t) : Others i s t := by
  unfold edit at h
  split at h
  case isTrue htx =>
    cases h
    refine ⟨fun _ hr => hr, fun w => .rfl, fun w hw => ?_, fun w hw => ?_, fun _ he _ => he⟩
    · rw [htx] at hw
      cases hw
    · cases hw
  case isFalse => cases h

lemma claimRows_edit (w : Workspace) (e : Edit) : (w.edit e).claimRows = w.claimRows := by
  cases e <;> rfl

/-! ### What a call keeps -/

/-- What the call has written was fair, and it holds no transaction. -/
structure Begun (i : ℕ) (c : Call) (s : State) : Prop where
  call : (i, c) ∈ s.calls
  fair : ∀ e ∈ s.log, e.call = i → Fair c e
  tx : ∀ w, s.tx ≠ some (i, w)

/-- The call stands by what it has found, if nobody has written since. -/
structure Reads (i : ℕ) (c : Call) (R : Workspace → Prop) (s : State) : Prop
    extends Begun i c s where
  found : ∀ w, s.found i = some w → w = s.stored ∧ R w

/-- The call has decided to write. -/
structure Decided (i : ℕ) (c : Call) (s : State) : Prop extends Begun i c s where
  found : ∀ w, s.found i = some w → Allows c w ∧ w.claimRows = s.stored.claimRows

/-- The call has written `v` and not committed. -/
structure Writing (i : ℕ) (c : Call) (v : Workspace → Workspace) (s : State) : Prop where
  call : (i, c) ∈ s.calls
  fair : ∀ e ∈ s.log, e.call = i → Fair c e
  tx : s.tx = some (i, v s.stored)
  found : ∀ w, s.found i = some w → Allows c w ∧ w.claimRows = s.stored.claimRows

lemma Begun.others (h : Begun i c s) (ht : Others i s t) : Begun i c t where
  call := ht.calls h.call
  fair e he hi := h.fair e (ht.log e he hi) hi
  tx w hw := h.tx w ((ht.tx w).mp hw)

lemma stable_begun : Stable (Others i) (Begun i c) := fun _ _ ht h => h.others ht

lemma stable_reads {R : Workspace → Prop} : Stable (Others i) (Reads i c R) := fun s t ht h =>
  { h.toBegun.others ht with
    found := fun w hw => by
      obtain ⟨hs, hstored⟩ := ht.found w hw
      rw [hstored]
      exact h.found w hs }

lemma stable_decided : Stable (Others i) (Decided i c) := fun s t ht h =>
  { h.toBegun.others ht with
    found := fun w hw => by
      obtain ⟨hs, hstored⟩ := ht.found w hw
      rw [hstored]
      exact h.found w hs }

lemma stable_writing {v : Workspace → Workspace} : Stable (Others i) (Writing i c v) :=
  fun s t ht h => by
    have hstored := ht.stored _ h.tx
    refine ⟨ht.calls h.call, fun e he hi => h.fair e (ht.log e he hi) hi, ?_, fun w hw => ?_⟩
    · rw [hstored]
      exact (ht.tx _).mpr h.tx
    · rw [hstored]
      exact h.found w (ht.found w hw).1

variable (rows) in
/-- What a call does from `P` on; nothing is promised of what it raises. -/
abbrev Does (i : ℕ) (P : State → Prop) (p : Program α) (Q : α → State → Prop) : Prop :=
  Triple (fun o => run i o) (Paired rows) (Others i) P p Q fun _ _ => True

variable {P P' : State → Prop} {Q : α → State → Prop} {R : β → State → Prop}

lemma then_does {p : Program α} {f : α → Program β} (h : Does rows i P p Q)
    (hf : ∀ a, Does rows i (Q a) (f a) R) : Does rows i P (p >>= f) R :=
  h.bind (Others.refl i) hf

lemma raise_does {e : Raised} : Does rows i P (.raise e : Program α) Q := fun _ _ _ _ => trivial

lemma weaken_does {p : Program α} (h : Does rows i P p Q) (hP : ∀ s, P' s → P s) :
    Does rows i P' p Q := h.conseq hP (fun _ _ hs => hs) fun _ _ hs => hs

/-- A statement that runs, or is rolled back. -/
lemma execute_does {o : Op (Answer α)} (hP : Stable (Others i) P)
    (hQ : ∀ a, Stable (Others i) (Q a))
    (hfails : ∀ s, run i o .fails s = some (.error .database, s.rollBack i))
    (hop : ∀ s a u, Paired rows s → P s → run i o .runs s = some (a, u) →
      ∃ x, a = .ok x ∧ Paired rows u ∧ Q x u) : Does rows i P (execute o) Q := by
  intro s hs t ht hinv w a u hrun
  cases w with
  | runs =>
    obtain ⟨x, rfl, hu, hq⟩ := hop t a u hinv (hP s t ht hs) hrun
    exact ⟨hu, fun v hv => hQ x u v hv hq⟩
  | fails =>
    obtain ⟨rfl, rfl⟩ := Prod.mk.inj (Option.some.inj ((hfails t).symm.trans hrun))
    exact ⟨⟨hinv.session, hinv.made⟩, fun _ _ => trivial⟩

/-- A statement that reads. -/
lemma read_does {o : Op (Answer α)} {f : State → α} (hP : Stable (Others i) P)
    (hQ : ∀ a, Stable (Others i) (Q a)) (ho : ∀ w s, run i o w s = attempt i s w (some (f s, s)))
    (hf : ∀ s, Paired rows s → P s → Q (f s) s) : Does rows i P (execute o) Q := by
  refine execute_does hP hQ (fun s => ho .fails s) fun s a u hinv hs hrun => ?_
  obtain ⟨rfl, rfl⟩ := Prod.mk.inj (Option.some.inj ((ho .runs s).symm.trans hrun))
  exact ⟨f s, rfl, hinv, hf s hinv hs⟩

lemma snapshot_does (hP : Stable (Others i) P) :
    Does rows i P programQueueSnapshot fun _ => P := by
  refine then_does (read_does hP (fun _ => hP) (fun _ _ => rfl) fun _ _ hs => hs) fun items => ?_
  refine then_does (read_does hP (fun _ => hP) (fun _ _ => rfl) fun _ _ hs => hs) fun source => ?_
  exact Triple.pure hP fun _ hs => hs

/-! ### Writing -/

variable {f g : Workspace → Workspace}

/-- The statement opens the transaction. -/
lemma open_does {o : Op (Answer Unit)} (ho : ∀ w s, run i o w s = attempt i s w (s.write i f)) :
    Does rows i (Decided i c) (execute o) fun _ => Writing i c f := by
  refine execute_does stable_decided (fun _ => stable_writing) (fun s => ho .fails s)
    fun s a u hinv hs hrun => ?_
  obtain ⟨⟨r, v⟩, hv, heq⟩ := Option.map_eq_some_iff.mp ((ho .runs s).symm.trans hrun)
  obtain ⟨-, hr⟩ := Option.ite_none_right_eq_some.mp hv
  rw [view_eq hs.tx] at hr
  cases hr
  cases heq
  exact ⟨(), rfl, ⟨hinv.session, hinv.made⟩, hs.call, hs.fair, rfl, hs.found⟩

/-- A statement whose writing is recorded opens the transaction. -/
lemma openLogged_does {o : Op (Answer Unit)} {write : Write} (hP : Stable (Others i) P)
    (ho : ∀ w s, run i o w s = attempt i s w ((s.logged i write).write i f))
    (hP' : ∀ s, P s → Decided i c s ∧ Fair c ⟨i, write, s.stored, s.found i⟩) :
    Does rows i P (execute o) fun _ => Writing i c f := by
  refine execute_does hP (fun _ => stable_writing) (fun s => ho .fails s)
    fun s a u hinv hs hrun => ?_
  obtain ⟨hdecided, hfair⟩ := hP' s hs
  obtain ⟨⟨r, v⟩, hv, heq⟩ := Option.map_eq_some_iff.mp ((ho .runs s).symm.trans hrun)
  obtain ⟨-, hr⟩ := Option.ite_none_right_eq_some.mp hv
  rw [view_eq (s := s.logged i write) hdecided.tx] at hr
  cases hr
  cases heq
  refine ⟨(), rfl, ⟨hinv.session, hinv.made⟩, hdecided.call, fun e he hi => ?_, rfl,
    hdecided.found⟩
  obtain rfl | he := List.mem_cons.mp he
  · rwa [view_eq hdecided.tx]
  · exact hdecided.fair e he hi

/-- The statement goes on with the transaction. -/
lemma goOn_does {o : Op (Answer Unit)} (ho : ∀ w s, run i o w s = attempt i s w (s.write i g)) :
    Does rows i (Writing i c f) (execute o) fun _ => Writing i c fun v => g (f v) := by
  refine execute_does stable_writing (fun _ => stable_writing) (fun s => ho .fails s)
    fun s a u hinv hs hrun => ?_
  obtain ⟨⟨r, v⟩, hv, heq⟩ := Option.map_eq_some_iff.mp ((ho .runs s).symm.trans hrun)
  obtain ⟨-, hr⟩ := Option.ite_none_right_eq_some.mp hv
  rw [view_of_tx hs.tx] at hr
  cases hr
  cases heq
  exact ⟨(), rfl, ⟨hinv.session, hinv.made⟩, hs.call, hs.fair, rfl, hs.found⟩

lemma commit_eq (h : Writing i c f s) : s.commit i = { s with
    stored := f s.stored
    tx := none
    found := fun k => if k = i then s.found k else none } := by
  simp [State.commit, h.tx]

/-- The transaction is committed. -/
lemma commit_does (hmade : ∀ s : State, (i, c) ∈ s.calls → Made rows s s.stored →
    Made rows s (f s.stored)) :
    Does rows i (Writing i c f) (execute .commit) fun _ => Begun i c := by
  refine execute_does stable_writing (fun _ => stable_begun) (fun _ => rfl)
    fun s a u hinv hs hrun => ?_
  obtain ⟨rfl, rfl⟩ := Prod.mk.inj (Option.some.inj hrun)
  rw [commit_eq hs]
  exact ⟨(), rfl, ⟨hinv.session, hmade s hs.call hinv.made⟩, hs.call, hs.fair, fun _ h => by
    cases h⟩

/-- A transaction that leaves the claim alone. -/
lemma commitBeside_does (hf : ∀ w, (f w).claimRows = w.claimRows) :
    Does rows i (Writing i c f) (execute .commit) fun _ => Decided i c := by
  refine execute_does stable_writing (fun _ => stable_decided) (fun _ => rfl)
    fun s a u hinv hs hrun => ?_
  obtain ⟨rfl, rfl⟩ := Prod.mk.inj (Option.some.inj hrun)
  rw [commit_eq hs]
  refine ⟨(), rfl, ⟨hinv.session, ?_⟩, ⟨hs.call, hs.fair, fun _ h => by cases h⟩, fun w hw => ?_⟩
  · have hmade := hinv.made
    simp only [Made, hf] at hmade ⊢
    exact hmade
  · simp only [if_true] at hw
    obtain ⟨hallows, hrows⟩ := hs.found w hw
    exact ⟨hallows, hrows.trans (hf _).symm⟩

/-! ### The calls -/

lemma clear_does : Does rows i (Reads i c (Allows c)) clear fun _ => Decided i c := by
  refine then_does (openLogged_does (c := c) stable_reads (fun _ _ => rfl) fun s hs => ?_) fun _ =>
    commitBeside_does fun _ => rfl
  refine ⟨⟨hs.toBegun, fun w hw => ?_⟩, fun w hw => ?_⟩
  · obtain ⟨rfl, hallows⟩ := hs.found w hw
    exact ⟨hallows, rfl⟩
  · obtain ⟨rfl, hallows⟩ := hs.found w hw
    exact ⟨hallows, rfl, fun _ => rfl⟩

lemma setSource_does {source : Source} :
    Does rows i (Decided i c) (setSource source) fun _ => Decided i c :=
  then_does (open_does fun _ _ => rfl) fun _ => commitBeside_does fun _ => rfl

lemma fair_of_decided {write : Write} (h : Decided i c s) (hwrite : write ≠ .cleared) :
    Fair c ⟨i, write, s.stored, s.found i⟩ := fun w hw =>
  ⟨(h.found w hw).1, (h.found w hw).2, fun heq => absurd heq hwrite⟩

lemma setClaim_does (hkind : c.kind = .claim) :
    Does rows i (Decided i c) (setProgramWorkspaceClaim c.showId c.user.id) fun _ =>
      Begun i c := by
  refine then_does (openLogged_does (c := c) stable_decided (fun _ _ => rfl) fun s hs =>
    ⟨hs, fair_of_decided hs (by simp)⟩) fun _ => ?_
  refine then_does (goOn_does fun _ _ => rfl) fun _ => ?_
  exact commit_does fun s hcall _ => .inr (.inr ⟨(i, c), hcall, hkind, rfl⟩)

lemma clearClaim_does : Does rows i (Decided i c) clearProgramWorkspaceClaim fun _ =>
    Begun i c := by
  refine then_does (openLogged_does (c := c) stable_decided (fun _ _ => rfl) fun s hs =>
    ⟨hs, fair_of_decided hs (by simp)⟩) fun _ => ?_
  exact commit_does fun s _ _ => .inr (.inl rfl)

lemma decided_of_reads (h : Reads i c (Allows c) s) : Decided i c s :=
  { h.toBegun with
    found := fun w hw => by
      obtain ⟨rfl, hallows⟩ := h.found w hw
      exact ⟨hallows, rfl⟩ }

/-- No session is active. -/
lemma session_does {f : Option ℤ → Program α} (hP : Stable (Others i) P)
    (hf : Does rows i P (f none) Q) : Does rows i P (execute .activeSession >>= f) Q := by
  refine then_does (Q := fun a s => a = none ∧ P s) (read_does hP (fun a s t ht h => ⟨h.1,
    hP s t ht h.2⟩) (fun _ _ => rfl) fun s hinv hs => ⟨hinv.session, hs⟩) fun a => ?_
  intro s hs
  obtain ⟨rfl, hs⟩ := hs
  exact hf s hs

/-- The show that is resolved is the one that is asked for. -/
lemma resolve_does {stationId : ℤ} {f : ℤ → Program α} (hP : Stable (Others i) P)
    (hf : Does rows i P (f c.showId) Q) :
    Does rows i P (resolveProgramActionShowId stationId c.showId >>= f) Q := by
  refine then_does (Q := fun a s => a = c.showId ∧ P s) (session_does hP ?_) fun a => ?_
  · split_ifs
    · exact raise_does
    · refine then_does (read_does hP (fun _ => hP) (fun _ _ => rfl) fun _ _ hs => hs) fun a => ?_
      cases a with
      | none => exact raise_does
      | some station =>
        dsimp only
        split_ifs
        · exact raise_does
        · exact Triple.pure hP fun _ hs => ⟨rfl, hs⟩
  · intro s hs
    obtain ⟨rfl, hs⟩ := hs
    exact hf s hs

/-- The claim is read. -/
lemma claimRows_does {f : Option ℤ × Option ℤ → Program α}
    (hf : ∀ r, Does rows i (Reads i c fun w => w.claimRows = r) (f r) Q) :
    Does rows i (Begun i c) (execute .claimRows >>= f) Q := by
  refine then_does (execute_does stable_begun (fun _ => stable_reads) (fun _ => rfl)
    fun s a u hinv hs hrun => ?_) hf
  obtain ⟨rfl, rfl⟩ := Prod.mk.inj (Option.some.inj hrun)
  rw [view_eq hs.tx]
  refine ⟨_, rfl, ⟨hinv.session, hinv.made⟩, ⟨hs.call, hs.fair, hs.tx⟩, fun w hw => ?_⟩
  obtain rfl : s.stored = w := by simpa using hw
  exact ⟨rfl, rfl⟩

lemma Reads.and {S S' : Workspace → Prop} (h : Reads i c S s) (hS : S' s.stored) :
    Reads i c (fun w => S w ∧ S' w) s :=
  { h.toBegun with
    found := fun w hw => by
      obtain ⟨rfl, hw⟩ := h.found w hw
      exact ⟨rfl, hw, hS⟩ }

/-- The queue and its source are read. -/
lemma reading_does {S : Workspace → Prop} {f : Snapshot → Program α}
    (hf : ∀ r : Snapshot, Does rows i
      (Reads i c fun w => (S w ∧ w.items = r.1) ∧ w.getSource = r.2) (f r) Q) :
    Does rows i (Reads i c S) (programQueueSnapshot >>= f) Q := by
  refine then_does (Q := fun r : Snapshot => Reads i c fun w =>
    (S w ∧ w.items = r.1) ∧ w.getSource = r.2) ?_ hf
  refine then_does (Q := fun items => Reads i c fun w => S w ∧ w.items = items)
    (read_does stable_reads (fun _ => stable_reads) (fun _ _ => rfl) fun s _ hs => ?_)
    fun items => ?_
  · exact hs.and (by rw [view_eq hs.tx])
  refine then_does (Q := fun source => Reads i c fun w =>
    (S w ∧ w.items = items) ∧ w.getSource = source)
    (read_does stable_reads (fun _ => stable_reads) (fun _ _ => rfl) fun s _ hs => ?_)
    fun source => ?_
  · exact hs.and (by rw [view_eq hs.tx])
  · exact Triple.pure stable_reads fun _ hs => hs

lemma Reads.mono {S S' : Workspace → Prop} (hS : ∀ w, S w → S' w) (h : Reads i c S s) :
    Reads i c S' s :=
  { h.toBegun with found := fun w hw => ⟨(h.found w hw).1, hS w (h.found w hw).2⟩ }

/-- The user of a claim is the one whose number it has. -/
lemma user_of_claim {claim : Claim} {u : Account} (hu : claim.userId.getD 0 = u.id) :
    claim.userId = some u.id := by
  have hpos := u.positive
  cases hid : claim.userId with
  | none =>
    rw [hid, Option.getD_none] at hu
    omega
  | some id =>
    rw [hid, Option.getD_some] at hu
    rw [hu]

lemma take_does (hkind : c.kind = .claim) {claim : Option Claim} :
    Does rows i (Reads i c (Allows c)) (takeProgramWorkspace c.user c.showId claim) fun _ =>
      Begun i c := by
  unfold takeProgramWorkspace
  split_ifs
  · refine then_does clear_does fun _ => then_does setSource_does fun _ => ?_
    exact then_does (setClaim_does hkind) fun _ => snapshot_does stable_begun
  · refine then_does (weaken_does (setClaim_does hkind) fun s hs => decided_of_reads hs) fun _ => ?_
    exact snapshot_does stable_begun

/-- What the code decides from what it has read. -/
lemma mayTake_of_canReplaceClaim {claim : Option Claim} {items : List Item} {source : Source}
    (h : canReplaceClaim c.user c.showId false claim (workspaceIdle items source))
    {w : Workspace} (hclaim : w.claim = claim) (hitems : w.items = items)
    (hsource : w.getSource = source) : MayTake c w := by
  intro cl hcl
  subst hclaim hitems hsource
  rw [hcl] at h
  simp only [canReplaceClaim, workspaceIdle, c.nonAdmin, Bool.or_false, Bool.or_eq_true,
    Bool.and_eq_true, decide_eq_true_eq] at h
  rcases h with (hshow | huser) | hidle
  · exact .inl hshow
  · exact .inr (.inl (user_of_claim huser))
  · exact .inr (.inr hidle)

lemma claimResolved_does (hkind : c.kind = .claim) :
    Does rows i (Begun i c) (claimResolved c.user c.showId false) fun _ => Begun i c := by
  unfold claimResolved
  refine session_does stable_begun (claimRows_does fun r => reading_does fun snapshot => ?_)
  obtain ⟨items, source⟩ := snapshot
  dsimp only
  split
  case isFalse => exact raise_does
  case isTrue hcan =>
    refine weaken_does (take_does hkind) fun s hs => hs.mono fun w hw => ?_
    obtain ⟨⟨hrows, hitems⟩, hsource⟩ := hw
    have hmay := mayTake_of_canReplaceClaim hcan (congrArg claimOfRows hrows) hitems hsource
    simpa only [Allows, hkind] using hmay

lemma claim_does (hkind : c.kind = .claim) {stationId : ℤ} :
    Does rows i (Begun i c) (claimProgramWorkspace c.user stationId c.showId false) fun _ =>
      Begun i c := by
  unfold claimProgramWorkspace
  refine resolve_does stable_begun ?_
  split
  case isFalse => exact raise_does
  case isTrue => exact claimResolved_does hkind

/-- A workspace that is not claimed may be cleared. -/
lemma allows_unclaimed (hkind : c.kind = .release) {w : Workspace} (h : w.claim = none) :
    Allows c w := by
  simp only [Allows, hkind, MayRelease, h]
  exact fun _ hcl => by cases hcl

lemma allows_claimed (hkind : c.kind = .release) {w : Workspace} {claim : Claim}
    (h : w.claim = some claim) (hshow : ¬(0 < c.showId ∧ c.showId ≠ claim.showId))
    (huser : claim.userId.getD 0 = c.user.id ∨
      hasWorkspacePermission c.user.toUser claim.showId = true) : Allows c w := by
  simp only [Allows, hkind, MayRelease, h]
  intro cl hcl
  cases hcl
  exact ⟨by omega, huser.imp_left user_of_claim⟩

lemma clearSource_does {R : Workspace → Prop} (hR : ∀ w, R w → Allows c w)
    {f : Unit → Program α} (hf : Does rows i (Decided i c) (f ()) Q) :
    Does rows i (Reads i c R) (do clear; f (← setSource .automation)) Q := by
  have hclear : Does rows i (Reads i c R) clear fun _ => Decided i c :=
    weaken_does clear_does fun s hs => hs.mono hR
  exact then_does hclear fun _ => then_does setSource_does fun _ => hf

lemma snapshot_begun : Does rows i (Begun i c) programQueueSnapshot fun _ => Begun i c :=
  snapshot_does stable_begun

lemma releaseClaimed_does (hkind : c.kind = .release) {claim : Claim} :
    Does rows i (Reads i c fun w => w.claim = some claim)
      (releaseClaimed c.user c.showId claim) fun _ => Begun i c := by
  unfold releaseClaimed
  split
  case isTrue => exact raise_does
  case isFalse hshow =>
    split
    case isTrue => exact raise_does
    case isFalse huser =>
      have hmay : claim.userId.getD 0 = c.user.id ∨
          hasWorkspacePermission c.user.toUser claim.showId = true := by
        refine or_iff_not_imp_left.mpr ?_
        simpa [c.nonAdmin] using huser
      have hclear : Does rows i (Decided i c) clearProgramWorkspaceClaim fun _ => Begun i c :=
        clearClaim_does
      have hrest := then_does hclear fun _ => snapshot_begun
      exact clearSource_does (fun w hw => allows_claimed hkind hw hshow hmay) hrest

lemma release_does (hkind : c.kind = .release) :
    Does rows i (Begun i c) (releaseProgramWorkspace c.user c.showId) fun _ => Begun i c := by
  unfold releaseProgramWorkspace
  refine session_does stable_begun (claimRows_does fun r => ?_)
  cases hclaim : claimOfRows r with
  | none =>
    refine clearSource_does (f := fun _ => programQueueSnapshot)
      (fun w hw => allows_unclaimed hkind ?_) ?_
    · exact (congrArg claimOfRows hw).trans hclaim
    · exact weaken_does snapshot_begun fun s hs => hs.toBegun
  | some claim =>
    exact weaken_does (releaseClaimed_does hkind) fun s hs => hs.mono fun w hw =>
      (congrArg claimOfRows hw).trans hclaim

/-- **The calls are fair.** -/
theorem program_does (stationId : ℤ) :
    Does rows i (Begun i c) (c.program stationId) fun _ => Begun i c := by
  unfold Call.program
  split
  case h_1 hkind => exact claim_does hkind
  case h_2 hkind => exact release_does hkind

/-! ### Every run -/

/-- Connection `i` has not been used. -/
def Fresh (i : ℕ) (s : State) : Prop :=
  (∀ w, s.tx ≠ some (i, w)) ∧ ∀ e ∈ s.log, e.call ≠ i

lemma paired_calls (h : Paired rows s) (r : ℕ × Call) :
    Paired rows { s with calls := r :: s.calls } := by
  refine ⟨h.session, h.made.imp_right fun hmade => hmade.imp_right fun ⟨r', hr', hmade⟩ => ?_⟩
  exact ⟨r', List.mem_cons_of_mem _ hr', hmade⟩

lemma paired_edit {e : Edit} (h : Paired rows s) (ht : edit e s = some t) : Paired rows t := by
  obtain ⟨-, heq⟩ := Option.ite_none_right_eq_some.mp ht
  cases heq
  have hmade := h.made
  refine ⟨h.session, ?_⟩
  simp only [Made, claimRows_edit] at hmade ⊢
  exact hmade

lemma kept (stationId : ℤ) : Kept (system stationId) (Paired rows) Fresh Others
    (fun i c _ => Begun i c) fun _ _ _ _ => True where
  refl := Others.refl
  trans _ _ _ _ := Others.trans
  unused i s t ht h := by
    refine ⟨fun w hw => h.1 w ((ht.tx w).mp hw), fun e he hi => ?_⟩
    exact h.2 e (ht.log e he hi) hi
  operation h _ _ hu := others_run h hu
  surroundings hinv hu := ⟨paired_edit hinv hu, fun _ => others_edit hu⟩
  begins hinv hfresh hu := by
    cases hu
    refine ⟨paired_calls hinv _, fun j _ => ?_, ?_⟩
    · exact ⟨fun _ hr => List.mem_cons_of_mem _ hr, fun _ => .rfl, fun _ _ => rfl,
        fun _ hw => ⟨hw, rfl⟩, fun _ he _ => he⟩
    · refine program_does stationId _ ⟨List.mem_cons_self, fun e he hi => ?_, hfresh.1⟩
      exact absurd hi (hfresh.2 e he)

/-- The claim that stands for rows that hold the numbers of a show and of a user. -/
lemma claim_of_rows {w : Workspace} {showId : ℤ} {u : Account} {claim : Claim}
    (h : w.claimRows = (some showId, some u.id)) (hclaim : w.claim = some claim) :
    claim = ⟨showId, some u.id⟩ := by
  have hpos := u.positive
  simp only [Workspace.claim, h, claimOfRows, Option.getD_some] at hclaim
  split_ifs at hclaim
  exact (Option.some.inj hclaim).symm

/-- **Who takes a claim away.** Calls that claim and release the workspace overlap with one
another and with edits of the queue. The claim that is stored is the one of the start or pairs a
show with the user of a call that claimed that show; and a call that returns wrote what it was
allowed to write, wherever nobody else had written since it read the claim. -/
theorem workspace_kept {stationId : ℤ} {shows : Table ℤ} {w : Workspace}
    {es : List (Event Call World Edit)} {p : Pool Op Raised Snapshot Call State}
    (he : exec (step (system stationId)) (.empty (.start shows w)) es = some p) :
    (∀ claim, p.shared.stored.claim = some claim → w.claim = some claim ∨
      ∃ r ∈ p.shared.calls, r.2.kind = .claim ∧ claim = ⟨r.2.showId, some r.2.user.id⟩) ∧
    ∀ i c snapshot, p.threads[i]? = some ⟨c, .pure snapshot⟩ →
      ∀ e ∈ p.shared.log, e.call = i → Fair c e := by
  have hstart : Paired w.claimRows (.start shows w) := ⟨rfl, .inl rfl⟩
  have hfresh : ∀ i, Fresh i (.start shows w) := fun i => by simp [Fresh, State.start]
  have hp := holds_of_exec (kept stationId) hstart hfresh he
  refine ⟨fun claim hclaim => ?_, fun i c snapshot ht => ?_⟩
  · rcases hp.shared.made with hrows | hrows | ⟨r, hr, hkind, hrows⟩
    · exact .inl ((congrArg claimOfRows hrows).symm.trans hclaim)
    · simp [Workspace.claim, hrows, claimOfRows] at hclaim
    · exact .inr ⟨r, hr, hkind, claim_of_rows hrows hclaim⟩
  · exact (hp.returned (kept stationId) ht).fair

/-! ### Two hosts -/

/-- The user `id`, who may broadcast the show `showId`. -/
def host (id : ℤ) (positive : 0 < id) (showId : ℤ) : Account where
  role := "viewer"
  effectivePermissions := []
  showPermissions := (∅ : Table (List String)).insert showId ["show.broadcast"]
  id := id
  positive := positive

def first : Call := ⟨.claim, host 10 (by decide) 1, 1, by decide +kernel⟩

def second : Call := ⟨.claim, host 20 (by decide) 2, 2, by decide +kernel⟩

/-- Two shows of station 1. -/
def bothShows : Table ℤ := ((∅ : Table ℤ).insert 1 1).insert 2 1

def unclaimed : Workspace := ⟨none, none, [], none⟩

def turns (i n : ℕ) : List (Event Call World Edit) := List.replicate n (.turn i .runs)

/-- The second host claims a workspace that the first one has claimed and not used. -/
def idleRun : List (Event Call World Edit) :=
  .start first :: turns 0 15 ++ .start second :: turns 1 15

/-- The first host fills the queue once the second one has seen it empty. -/
def overtakenRun : List (Event Call World Edit) :=
  .start first :: turns 0 15 ++ .start second :: turns 1 6 ++ .change (.enqueue 7) :: turns 1 9

/-- Whether the write takes away the claim of a different show made by a different user, or a
queue that was filled under it. -/
def takes (c : Call) (e : Entry) : Bool :=
  e.before.claim.any fun claim =>
    claim.showId ≠ c.showId && claim.userId ≠ some c.user.id && match e.write with
      | .claimed _ => true
      | .cleared => e.before.items.any (·.under = some claim)
      | .released => false

/-- Whether no call that has returned took anything away. -/
def exclusive (p : Pool Op Raised Snapshot Call State) : Bool :=
  p.threads.zipIdx.all fun r =>
    match r.1.rest with
    | .pure _ => p.shared.log.all fun e => e.call ≠ r.2 || !takes r.1.call e
    | _ => true

/-- **The claim of an idle workspace is replaced.** And a queue that is filled after a call has
found it empty is cleared. -/
theorem claim_replaced :
    (∃ p, exec (step (system 1)) (.empty (.start bothShows unclaimed)) idleRun = some p ∧
      exclusive p = false) ∧
    ∃ p, exec (step (system 1)) (.empty (.start bothShows unclaimed)) overtakenRun = some p ∧
      ∃ e ∈ p.shared.log, e.write = .cleared ∧ e.before.items = [⟨7, some ⟨1, some 10⟩⟩] := by
  constructor
  · have hrun : ((exec (step (system 1)) (.empty (.start bothShows unclaimed)) idleRun).any
        fun p => !exclusive p) = true := by decide +kernel
    obtain ⟨p, hp, h⟩ := (Option.any_eq_true ..).mp hrun
    exact ⟨p, hp, by simpa using h⟩
  · have hrun : ((exec (step (system 1)) (.empty (.start bothShows unclaimed)) overtakenRun).any
        fun p => p.shared.log.any fun e => decide (e.write = .cleared ∧
          e.before.items = [⟨7, some ⟨1, some 10⟩⟩])) = true := by decide +kernel
    obtain ⟨p, hp, h⟩ := (Option.any_eq_true ..).mp hrun
    obtain ⟨e, he, h⟩ := List.any_eq_true.mp h
    exact ⟨p, hp, e, he, of_decide_eq_true h⟩

/-- In the run of the idle workspace both calls return. -/
theorem workspace_kept_idle :
    ∃ p, exec (step (system 1)) (.empty (.start bothShows unclaimed)) idleRun = some p ∧
      ∀ i c snapshot, p.threads[i]? = some ⟨c, .pure snapshot⟩ →
        ∀ e ∈ p.shared.log, e.call = i → Fair c e := by
  have hrun : (exec (step (system 1)) (.empty (.start bothShows unclaimed)) idleRun).isSome =
      true := by decide +kernel
  obtain ⟨p, hp⟩ := Option.isSome_iff_exists.mp hrun
  exact ⟨p, hp, (workspace_kept hp).2⟩

end OnAir.WorkspaceClaims
