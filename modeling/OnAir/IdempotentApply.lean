import OnAir.ApplyCalls
import OnAir.StreamTurns

/-!
One key, one operation.

The table has one row for a key, and only the call that inserted it goes on to write the output.
Whatever happens to that call, the row stays, and it is what the others return.
-/

namespace OnAir.IdempotentApply

open ApplyCalls OnAir.Database Runs StreamRestore OnAir.Table
open StreamConfigService hiding Outcome

section Steps

variable {sha256 : String → String} {call : Call} {t t' : Service} {s s' : State}
  {outcome : Outcome} {id o : ℤ} {key : String} {op : Operation}

/-! ### Rows -/

/-- What never changes of an operation. -/
def body (op : Operation) : Operation := { op with status := .preparing }

def bodyOf (t : Service) (o : ℤ) : Option Operation := t.operations[o]?.map body

def HasKey (t : Service) (o : ℤ) (key : String) : Prop :=
  ∃ op ∈ bodyOf t o, op.idempotencyKey = key

/-- `idempotency_key … UNIQUE`. -/
def KeysUnique (t : Service) : Prop :=
  ∀ (o o' : ℤ) (key : String), HasKey t o key → HasKey t o' key → o = o'

lemma bodyOf_setStatus (status : OperationStatus) (t : Service) (k o : ℤ) :
    bodyOf (setStatus k status t) o = bodyOf t o := by
  unfold bodyOf setStatus
  dsimp only
  rw [lookup_modify]
  split_ifs
  · cases t.operations[o]? <;> rfl
  · rfl

lemma bodyOf_of_eq (h : t'.operations = t.operations) (o : ℤ) : bodyOf t' o = bodyOf t o := by
  rw [bodyOf, h, bodyOf]

lemma hasKey_of_findKey {r : ℤ × Operation} (h : findKey t key = some r) : HasKey t r.1 key := by
  have hmem : r ∈ rows t.operations := List.mem_of_find?_eq_some h
  have hkey : r.2.idempotencyKey = key := by simpa using List.find?_some h
  exact ⟨body r.2, by simp [bodyOf, mem_rows.mp hmem], hkey⟩

lemma not_hasKey_of_findKey (h : findKey t key = none) : ¬ HasKey t o key := by
  rintro ⟨b, hb, hkey⟩
  obtain ⟨op, hop, rfl⟩ := Option.mem_map.mp hb
  have hne := List.find?_eq_none.mp h (o, op) (mem_rows.mpr hop)
  exact hne (decide_eq_true hkey)

/-! ### What a statement does -/

/-- The operation of a call that has inserted its row. -/
def own : Stage → Option ℤ
  | .appendJournal o _ | .writeOutput o _ | .writeSettings o _ | .readBack o _ | .markApplied o
  | .reportApplied o | .findPrevious o | .restoreOutput o _ | .clearSettings o _
  | .restoreSettings o _ | .rollBack o => some o
  | _ => none

/-- The operation of a call that has found a row with its key. -/
def found : Stage → Option ℤ
  | .report o => some o
  | _ => none

/-- What a statement comes to. -/
inductive Advance (call : Call) (t : Service) : Service → Outcome → Prop
  | goes (t' : Service) (stage : Stage) (ht : ∀ o, bodyOf t' o = bodyOf t o)
      (hown : own stage = own call.stage)
      (hfound : ∀ o, found stage = some o → HasKey t o call.key)
      (hnew : ∀ o c, stage ≠ .appendJournal o c) : Advance call t t' (.goes stage)
  | records (c : StreamConfig) (op : Operation) (hop : op.idempotencyKey = call.key)
      (hnone : findKey t call.key = none) (hwrites : call.stage.writes = false) :
      Advance call t { t with operations := t.operations.insert (nextId t.operations) op }
        (.goes (.appendJournal (nextId t.operations) c))
  | returns (o : ℤ) (op : Operation) (hop : bodyOf t o = some (body op))
      (hstage : own call.stage = some o ∨ found call.stage = some o)
      (hwrites : call.stage.writes = false) :
      Advance call t t (.returns o op)
  | raises (t' : Service) (ht : ∀ o, bodyOf t' o = bodyOf t o) : Advance call t t' .raises

lemma operations_upsertOutput (st : ℤ) (r : StationOutput) (t : Service) :
    (upsertOutput st r t).operations = t.operations := by
  unfold upsertOutput putOutput
  dsimp only
  split_ifs <;> rfl

lemma operations_restoreOutput (op : Operation) (t : Service) :
    (restoreOutput op t).operations = t.operations := by
  unfold restoreOutput
  split
  · exact operations_upsertOutput ..
  · rfl

lemma advance_reported (hstage : own call.stage = some o ∨ found call.stage = some o)
    (hwrites : call.stage.writes = false) : Advance call t t (reported o t) := by
  unfold reported
  split
  · exact .raises t fun _ => rfl
  · rename_i op hop
    exact .returns o op (by rw [bodyOf, hop]; rfl) hstage hwrites

lemma bodyOf_markApplied (o draftId k : ℤ) (t : Service) :
    bodyOf (markApplied o draftId t) k = bodyOf t k :=
  (bodyOf_of_eq (t := setStatus o .applied t) rfl k).trans (bodyOf_setStatus ..)

theorem advance_spec (sha256 : String → String) (call : Call) (t : Service) :
    Advance call t (advance sha256 call t).1 (advance sha256 call t).2 := by
  fun_cases advance sha256 call t
  case case1 hstage r hr =>
    refine .goes t _ (fun _ => rfl) (by simp [own, hstage]) (fun o ho => ?_) (by simp)
    obtain rfl : r.1 = o := by simpa [found] using ho
    exact hasKey_of_findKey hr
  case case3 | case4 | case5 | case9 | case16 | case19 => exact .raises t fun _ => rfl
  case case10 c previous hstage hcond operationId operation =>
    have hnone : findKey t call.key = none := by
      simp only [Bool.or_eq_true, not_or] at hcond
      simpa using hcond.1
    exact .records c operation rfl hnone (by simp [hstage, Stage.writes])
  case case11 o hstage =>
    exact advance_reported (.inr (by simp [found, hstage])) (by simp [hstage, Stage.writes])
  case case18 o hstage =>
    exact advance_reported (.inl (by simp [own, hstage])) (by simp [hstage, Stage.writes])
  case case13 hstage password =>
    exact .goes _ _ (bodyOf_of_eq (operations_upsertOutput ..)) (by simp [own, hstage])
      (by simp [found]) (by simp)
  case case17 hstage =>
    exact .goes _ _ (fun k => bodyOf_markApplied ..) (by simp [own, hstage]) (by simp [found])
      (by simp)
  case case21 hstage =>
    exact .goes _ _ (bodyOf_of_eq (operations_restoreOutput ..)) (by simp [own, hstage])
      (by simp [found]) (by simp)
  case case24 => exact .raises _ fun k => bodyOf_setStatus ..
  case case14 hstage | case23 hstage =>
    exact .goes _ _ (bodyOf_of_eq (StreamTurns.operations_upsertSettings ..))
      (by simp [own, hstage]) (by simp [found]) (by simp)
  all_goals
    refine .goes _ _ (fun _ => rfl) ?_ (by simp [found]) (by simp)
    simp [own, *]

/-! ### Calls and their operations -/

/-- What the log and the calls say of the table. -/
structure Inv (s : State) : Prop where
  unique : KeysUnique s.service
  holds : ∀ (id : ℤ) (call : Call) (o : ℤ), s.calls[id]? = some call → own call.stage = some o →
    Note.recorded id call.key o ∈ s.log
  knows : ∀ (id : ℤ) (call : Call) (o : ℤ), s.calls[id]? = some call →
    found call.stage = some o → HasKey s.service o call.key
  recorded : ∀ (id : ℤ) (key : String) (o : ℤ), Note.recorded id key o ∈ s.log →
    HasKey s.service o key
  owner : ∀ (id id' : ℤ) (key key' : String) (o : ℤ), Note.recorded id key o ∈ s.log →
    Note.recorded id' key' o ∈ s.log → id = id'
  wrote : ∀ (id : ℤ) (key : String), Note.wrote id key ∈ s.log →
    ∃ o, Note.recorded id key o ∈ s.log
  returned : ∀ (id : ℤ) (key : String) (o : ℤ) (op : Operation),
    Note.returned id key o op ∈ s.log → HasKey s.service o key ∧ bodyOf s.service o = some (body op)

lemma hasKey_congr (h : ∀ o, bodyOf t' o = bodyOf t o) : HasKey t' o key ↔ HasKey t o key := by
  unfold HasKey
  rw [h]

/-- A step in which no row is inserted. -/
lemma Inv.move (h : Inv s) (notes : List Note) (ht : ∀ o, bodyOf t' o = bodyOf s.service o)
    {calls : Table Call} {nextCall : ℤ}
    (hown : ∀ (id : ℤ) (call : Call) (o : ℤ), calls[id]? = some call →
      own call.stage = some o → Note.recorded id call.key o ∈ s.log)
    (hfound : ∀ (id : ℤ) (call : Call) (o : ℤ), calls[id]? = some call →
      found call.stage = some o → HasKey s.service o call.key)
    (hrec : ∀ id key o, Note.recorded id key o ∉ notes)
    (hwrote : ∀ id key, Note.wrote id key ∈ notes → ∃ o, Note.recorded id key o ∈ s.log)
    (hret : ∀ id key o op, Note.returned id key o op ∈ notes →
      HasKey s.service o key ∧ bodyOf s.service o = some (body op)) :
    Inv ⟨t', calls, nextCall, notes ++ s.log⟩ := by
  have hold : ∀ {id key o}, Note.recorded id key o ∈ notes ++ s.log →
      Note.recorded id key o ∈ s.log := fun hmem =>
    (List.mem_append.mp hmem).resolve_left (hrec _ _ _)
  constructor
  case unique =>
    intro o o' key ho ho'
    exact h.unique o o' key ((hasKey_congr ht).mp ho) ((hasKey_congr ht).mp ho')
  case holds => exact fun id call o hid ho => List.mem_append_right _ (hown id call o hid ho)
  case knows => exact fun id call o hid ho => (hasKey_congr ht).mpr (hfound id call o hid ho)
  case recorded => exact fun id key o hm => (hasKey_congr ht).mpr (h.recorded id key o (hold hm))
  case owner => exact fun id id' key key' o hm hm' => h.owner id id' key key' o (hold hm) (hold hm')
  case wrote =>
    intro id key hmem
    have hold' : ∃ o, Note.recorded id key o ∈ s.log := by
      rcases List.mem_append.mp hmem with hmem | hmem
      · exact hwrote id key hmem
      · exact h.wrote id key hmem
    exact hold'.imp fun o ho => List.mem_append_right _ ho
  case returned =>
    intro id key o op hmem
    rw [hasKey_congr ht, ht]
    rcases List.mem_append.mp hmem with hmem | hmem
    · exact hret id key o op hmem
    · exact h.returned id key o op hmem

/-- The calls that are left after a statement. -/
lemma lookup_settle {calls : Table Call} {j : ℤ} {c : Call}
    (h : (settle id call calls outcome)[j]? = some c) :
    calls[j]? = some c ∨ (j = id ∧ ∃ stage, c = { call with stage } ∧
      (outcome = .goes stage ∨ call.stage.handler = some stage)) := by
  have herase : ∀ {c}, (calls.erase id)[j]? = some c → calls[j]? = some c := by
    intro c hc
    rw [lookup_erase] at hc
    split_ifs at hc
    exact hc
  have hinsert : ∀ {stage c}, (calls.insert id { call with stage })[j]? = some c →
      calls[j]? = some c ∨ (j = id ∧ c = { call with stage }) := by
    intro stage c hc
    rw [lookup_insert] at hc
    split_ifs at hc with hj
    · exact .inr ⟨hj, (Option.some.inj hc).symm⟩
    · exact .inl hc
  unfold settle at h
  split at h
  · exact (hinsert h).imp_right fun ⟨hj, hc⟩ => ⟨hj, _, hc, .inl rfl⟩
  · exact .inl (herase h)
  · split at h
    · rename_i stage hstage
      exact (hinsert h).imp_right fun ⟨hj, hc⟩ => ⟨hj, _, hc, .inr hstage⟩
    · exact .inl (herase h)

lemma handler_spec {stage stage' : Stage} (h : stage.handler = some stage') :
    own stage' = own stage ∧ found stage' = none := by
  unfold Stage.handler at h
  split at h <;> cases h <;> exact ⟨rfl, rfl⟩

lemma own_of_writes {stage : Stage} (h : stage.writes = true) : ∃ o, own stage = some o := by
  unfold Stage.writes at h
  split at h
  case h_6 => cases h
  all_goals exact ⟨_, rfl⟩

/-- A statement after which the call goes on, or is over, without a new row. -/
lemma Inv.settled (h : Inv s) (notes : List Note) (hid : s.calls[id]? = some call)
    (ht : ∀ o, bodyOf t' o = bodyOf s.service o)
    (hstage : ∀ stage, outcome = .goes stage → own stage = own call.stage ∧
      ∀ o, found stage = some o → HasKey s.service o call.key)
    (hnotes : ∀ note ∈ notes, note = .wrote id call.key ∧ call.stage.writes ∨
      ∃ o op, note = .returned id call.key o op ∧ HasKey s.service o call.key ∧
        bodyOf s.service o = some (body op)) :
    Inv ⟨t', settle id call s.calls outcome, s.nextCall, notes ++ s.log⟩ := by
  have hkept : ∀ stage, outcome = .goes stage ∨ call.stage.handler = some stage →
      own stage = own call.stage ∧ ∀ o, found stage = some o → HasKey s.service o call.key := by
    rintro stage (hgoes | hraised)
    · exact hstage stage hgoes
    · obtain ⟨ho, hf⟩ := handler_spec hraised
      exact ⟨ho, fun o hfo => by rw [hf] at hfo; cases hfo⟩
  refine h.move notes ht (fun j c o hc ho => ?_) (fun j c o hc ho => ?_) (fun j key o hmem => ?_)
    (fun j key hmem => ?_) fun j key o op hmem => ?_
  · rcases lookup_settle hc with hc | ⟨rfl, stage, rfl, hgo⟩
    · exact h.holds j c o hc ho
    · exact h.holds j call o hid ((hkept stage hgo).1 ▸ ho)
  · rcases lookup_settle hc with hc | ⟨rfl, stage, rfl, hgo⟩
    · exact h.knows j c o hc ho
    · exact (hkept stage hgo).2 o ho
  · rcases hnotes _ hmem with ⟨hn, -⟩ | ⟨_, _, hn, -⟩ <;> cases hn
  · rcases hnotes _ hmem with ⟨hn, hw⟩ | ⟨_, _, hn, -⟩ <;> cases hn
    obtain ⟨o, ho⟩ := own_of_writes hw
    exact ⟨o, h.holds id call o hid ho⟩
  · rcases hnotes _ hmem with ⟨hn, hw⟩ | ⟨_, _, hn, hk, hb⟩ <;> cases hn
    exact ⟨hk, hb⟩

/-- The statement that inserts a row. -/
lemma Inv.record (h : Inv s) {c : StreamConfig}
    (hop : op.idempotencyKey = call.key) (hnone : findKey s.service call.key = none)
    {new : ℤ} (hnew : new = nextId s.service.operations)
    (ht' : t' = { s.service with operations := s.service.operations.insert new op }) :
    Inv ⟨t', s.calls.insert id { call with stage := .appendJournal new c }, s.nextCall,
      [.recorded id call.key new] ++ s.log⟩ := by
  have hfree : bodyOf s.service new = none := by
    rw [bodyOf, hnew, lookup_nextId]
    rfl
  have hsame : ∀ o, o ≠ new → bodyOf t' o = bodyOf s.service o := by
    intro o ho
    rw [ht']
    unfold bodyOf
    dsimp only
    rw [lookup_insert, if_neg ho]
  have hrow : bodyOf t' new = some (body op) := by
    rw [ht']
    unfold bodyOf
    dsimp only
    rw [lookup_insert, if_pos rfl]
    rfl
  have hkeys : ∀ {o key}, HasKey t' o key ↔
      (o = new ∧ key = call.key) ∨ HasKey s.service o key := by
    intro o key
    unfold HasKey
    by_cases ho : o = new
    · subst ho
      rw [hrow, hfree, ← hop]
      simp [body, eq_comm]
    · rw [hsame o ho]
      simp [ho]
  have hmem : ∀ {id' key o}, Note.recorded id' key o ∈ [.recorded id call.key new] ++ s.log →
      (id' = id ∧ key = call.key ∧ o = new) ∨ Note.recorded id' key o ∈ s.log := by
    intro id' key o hm
    simpa using hm
  have hold : ∀ {id' key o}, Note.recorded id' key o ∈ s.log → o ≠ new := by
    rintro id' key o hm rfl
    obtain ⟨b, hb, -⟩ := h.recorded id' key _ hm
    rw [hfree] at hb
    cases hb
  constructor
  case unique =>
    intro o o' key ho ho'
    rcases hkeys.mp ho with ⟨hn, hk⟩ | hr <;> rcases hkeys.mp ho' with ⟨hn', hk'⟩ | hr'
    · rw [hn, hn']
    · exact absurd (hk ▸ hr') (not_hasKey_of_findKey hnone)
    · exact absurd (hk' ▸ hr) (not_hasKey_of_findKey hnone)
    · exact h.unique o o' key hr hr'
  case holds =>
    intro j c o hc ho
    dsimp only at hc
    rw [lookup_insert] at hc
    split_ifs at hc with hj
    · obtain rfl := Option.some.inj hc
      obtain rfl : new = o := by simpa [own] using ho
      rw [hj]
      exact List.mem_cons_self
    · exact List.mem_append_right _ (h.holds j c o hc ho)
  case knows =>
    intro j c o hc ho
    dsimp only at hc
    rw [lookup_insert] at hc
    split_ifs at hc with hj
    · obtain rfl := Option.some.inj hc
      simp [found] at ho
    · exact hkeys.mpr (.inr (h.knows j c o hc ho))
  case recorded =>
    intro id' key o hm
    rcases hmem hm with ⟨-, rfl, rfl⟩ | hm
    · exact hkeys.mpr (.inl ⟨rfl, rfl⟩)
    · exact hkeys.mpr (.inr (h.recorded id' key o hm))
  case owner =>
    intro id₁ id₂ key₁ key₂ o hm₁ hm₂
    rcases hmem hm₁ with ⟨hid₁, -, ho₁⟩ | hr₁ <;> rcases hmem hm₂ with ⟨hid₂, -, ho₂⟩ | hr₂
    · rw [hid₁, hid₂]
    · exact absurd ho₁ (hold hr₂)
    · exact absurd ho₂ (hold hr₁)
    · exact h.owner id₁ id₂ key₁ key₂ o hr₁ hr₂
  case wrote =>
    intro id' key hm
    obtain ⟨o, ho⟩ := h.wrote id' key (by simpa using hm)
    exact ⟨o, List.mem_append_right _ ho⟩
  case returned =>
    intro id' key o op' hm
    obtain ⟨hk, hb⟩ := h.returned id' key o op' (by simpa using hm)
    have ho : o ≠ new := by
      rintro rfl
      rw [hfree] at hb
      cases hb
    exact ⟨hkeys.mpr (.inr hk), (hsame o ho).trans hb⟩

lemma Inv.turn (h : Inv s) (hid : s.calls[id]? = some call)
    (hadv : Advance call s.service t' outcome) :
    Inv ⟨t', settle id call s.calls outcome, s.nextCall, noted id call outcome ++ s.log⟩ := by
  have hwrote : call.stage.writes = true → ∀ note ∈ noted id call outcome,
      note = .wrote id call.key ∧ call.stage.writes ∨ ∃ o op, note = .returned id call.key o op ∧
        HasKey s.service o call.key ∧ bodyOf s.service o = some (body op) := by
    intro hw note hnote
    unfold noted at hnote
    rw [if_pos hw, List.mem_singleton] at hnote
    exact .inl ⟨hnote, hw⟩
  cases hadv with
  | goes t' stage ht hown hfound hnew =>
    refine h.settled _ hid ht ?_ fun note hnote => ?_
    · rintro _ ⟨⟩
      exact ⟨hown, hfound⟩
    · by_cases hw : call.stage.writes = true
      · exact hwrote hw note hnote
      · unfold noted at hnote
        rw [if_neg hw] at hnote
        split at hnote
        · rename_i hgo
          cases hgo
          exact absurd rfl (hnew _ _)
        · rename_i hgo
          cases hgo
        · cases hnote
  | records c op hop hnone hwrites =>
    have hnoted : noted id call (.goes (.appendJournal (nextId s.service.operations) c)) =
        [.recorded id call.key (nextId s.service.operations)] := by simp [noted, hwrites]
    rw [hnoted]
    exact h.record hop hnone rfl rfl
  | returns o op hop hstage hwrites =>
    have hkey : HasKey s.service o call.key := by
      rcases hstage with hstage | hstage
      · exact h.recorded id call.key o (h.holds id call o hid hstage)
      · exact h.knows id call o hid hstage
    refine h.settled _ hid (fun _ => rfl) (by simp) fun note hnote => ?_
    unfold noted at hnote
    rw [if_neg (by simp [hwrites]), List.mem_singleton] at hnote
    exact .inr ⟨o, op, hnote, hkey, hop⟩
  | raises t' ht =>
    refine h.settled _ hid ht (by simp) fun note hnote => ?_
    by_cases hw : call.stage.writes = true
    · exact hwrote hw note hnote
    · simp [noted, hw] at hnote

theorem inv_step {e : Event} (h : Inv s) (hs : step sha256 s e = some s') : Inv s' := by
  cases e with
  | call draftId idempotencyKey overrideReason =>
    simp only [step] at hs
    split_ifs at hs
    · obtain rfl := Option.some.inj hs
      exact h
    · obtain rfl := Option.some.inj hs
      have hother : ∀ (j : ℤ) (c : Call),
          (s.calls.insert s.nextCall (Call.made draftId idempotencyKey overrideReason))[j]? =
            some c → s.calls[j]? = some c ∨ c.stage = .checkKey := by
        intro j c hc
        rw [lookup_insert] at hc
        split_ifs at hc
        · obtain rfl := Option.some.inj hc
          exact .inr rfl
        · exact .inl hc
      refine h.move [] (fun _ => rfl) (fun j c o hc ho => ?_) (fun j c o hc ho => ?_) (by simp)
        (by simp) (by simp)
      · rcases hother j c hc with hc | hc
        · exact h.holds j c o hc ho
        · simp [own, hc] at ho
      · rcases hother j c hc with hc | hc
        · exact h.knows j c o hc ho
        · simp [found, hc] at ho
  | turn id =>
    obtain ⟨call, hid, hs⟩ := Option.bind_eq_some_iff.mp hs
    obtain rfl := Option.some.inj hs
    exact h.turn hid (advance_spec sha256 call s.service)
  | raises id =>
    obtain ⟨call, hid, hs⟩ := Option.bind_eq_some_iff.mp hs
    obtain rfl := Option.some.inj hs
    exact h.settled [] hid (fun _ => rfl) (by simp) (by simp)
  | others service =>
    obtain rfl := Option.some.inj hs
    have ht : ∀ o, bodyOf { service with operations := s.service.operations } o =
        bodyOf s.service o := fun _ => rfl
    exact h.move [] ht h.holds h.knows (by simp) (by simp) (by simp)
  | mark operationId status =>
    obtain rfl := Option.some.inj hs
    exact h.move [] (bodyOf_setStatus status s.service operationId) h.holds h.knows (by simp)
      (by simp) (by simp)

lemma inv_start (hu : KeysUnique t) : Inv (State.start t) where
  unique := hu
  holds id call o hid := by simp [State.start] at hid
  knows id call o hid := by simp [State.start] at hid
  recorded id key o hm := by simp [State.start] at hm
  owner id id' key key' o hm := by simp [State.start] at hm
  wrote id key hm := by simp [State.start] at hm
  returned id key o op hm := by simp [State.start] at hm

/-- **Idempotent apply.** Whatever calls run at the same time or again, and wherever something
raises, there is at most one operation for a key, at most one of the calls with that key writes
the output, and what a call returns is the operation with its key. -/
theorem apply_idempotent (sha256 : String → String) (t : Service) (es : List Event) (s : State)
    (hu : KeysUnique t) (he : exec (step sha256) (State.start t) es = some s) :
    KeysUnique s.service ∧
      (∀ (id id' : ℤ) (key : String), Note.wrote id key ∈ s.log → Note.wrote id' key ∈ s.log →
        id = id') ∧
      ∀ (id : ℤ) (key : String) (o : ℤ) (op : Operation), Note.returned id key o op ∈ s.log →
        HasKey s.service o key ∧ bodyOf s.service o = some (body op) := by
  have h : Inv s := inv_of_exec_all (fun _ _ _ h hs => inv_step h hs) (inv_start hu) he
  refine ⟨h.unique, fun id id' key hw hw' => ?_, h.returned⟩
  obtain ⟨o, ho⟩ := h.wrote id key hw
  obtain ⟨o', ho'⟩ := h.wrote id' key hw'
  obtain rfl := h.unique o o' key (h.recorded id key o ho) (h.recorded id' key o' ho')
  exact h.owner id id' key key o ho ho'

end Steps

/-! ### Two calls at the same time -/

/-- What a call has returned: the operation, and its status then. -/
def returnedBy (id : ℤ) (s : State) : Option (ℤ × OperationStatus) :=
  s.log.findSome? fun
    | .returned id' _ o op => if id' = id then some (o, op.status) else none
    | _ => none

/-- Two calls with one key look for it at the same time; a third one comes when the first has
returned. -/
def threeCalls : List Event :=
  let turns (n : ℕ) (id : ℤ) : List Event := List.replicate n (.turn id)
  [.call 1 "key" "", .call 1 " key " ""] ++ turns 4 1 ++ turns 4 2 ++ turns 1 1 ++ turns 1 2 ++
    turns 6 1 ++ [.call 1 "key" ""] ++ turns 2 3

theorem apply_idempotent_threeCalls :
    ∃ s, exec (step id) (State.start onOldDestination) threeCalls = some s ∧
      Note.wrote 1 "key" ∈ s.log ∧ returnedBy 3 s = some (1, .applied) ∧ s.calls[(2 : ℤ)]? = none ∧
        KeysUnique s.service := by
  have hu : KeysUnique onOldDestination := by
    rintro o o' key ⟨b, hb, -⟩
    simp [bodyOf, onOldDestination, Service.empty] at hb
  obtain ⟨s, he, hw, hr, hc⟩ : ∃ s ∈ exec (step id) (State.start onOldDestination) threeCalls,
      Note.wrote 1 "key" ∈ s.log ∧ returnedBy 3 s = some (1, .applied) ∧
        s.calls[(2 : ℤ)]? = none := by
    decide +kernel
  exact ⟨s, he, hw, hr, hc, (apply_idempotent id onOldDestination threeCalls s hu he).1⟩

end OnAir.IdempotentApply
