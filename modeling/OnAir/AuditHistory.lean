import OnAir.AuditChain

/-!
What `verify` says of the rows that `append` has written.

A row keeps its category and action as they were given, and its payload with the keys as texts,
while the hash was taken of what stands for them.
-/

namespace OnAir.AuditHistory

open AuditChain Json Runs OnAir.Table

/-- What is stored of a call is what was hashed: category and action are given, and the keys of
every dictionary of the payload are in the order of their texts. -/
def Faithful (c : Call) : Prop :=
  c.category ≠ "" ∧ c.action ≠ "" ∧ ∀ v ∈ c.value, inOrder v

instance (c : Call) : Decidable (Faithful c) := by
  unfold Faithful
  infer_instance

/-! ### One row -/

section Row

variable {c : Call} {v : Value} {previous : String}

lemma value_eq_obj (h : c.value = some v) : ∃ fs, v = .obj fs := by
  rw [Call.value, toJson] at h
  obtain ⟨items, -, h⟩ := Option.bind_eq_some_iff.mp h
  obtain ⟨sorted, -, h⟩ := Option.bind_eq_some_iff.mp h
  exact ⟨_, (Option.some.inj h).symm⟩

/-- An object is written as its normal form. -/
lemma canonical_dedup (fs : List (String × Value)) :
    canonical (dedup (.obj fs)) = String.ofList (write false (normal (.obj fs))) := by
  rw [canonical, canonicalJson, normal, dedup]
  cases dedupFields fs <;> rfl

lemma parsePayload_write (v : Value) :
    parsePayload (String.ofList (write false v)) = some (dedup v) := by
  have hne : String.ofList (write false v) ≠ "" := by
    have hempty : loads "" = none := by decide
    intro h
    have hloads := loads_write false v
    rw [h, hempty] at hloads
    cases hloads
  rw [parsePayload, if_neg hne, loads_write]
  rfl

/-- The text that `verify` hashes for the row of a call. -/
def rehashed (c : Call) (previous : String) (payload : Value) : String :=
  material previous (idText c.stationId) c.category c.action (idText c.actorId)
    (String.ofList (write false (normal payload))) c.createdAt

lemma rehashed_eq_iff (h : c.value = some v) :
    rehashed c previous v = c.hashed previous v ↔ Faithful c := by
  have hfaithful : Faithful c ↔ c.category ≠ "" ∧ c.action ≠ "" ∧ inOrder v := by
    simp [Faithful, h]
  rw [hfaithful]
  constructor
  · intro heq
    have hlist := congrArg String.toList heq
    rw [rehashed, Call.hashed, toList_material, toList_material, List.append_cancel_left_eq,
      List.cons.injEq, List.append_cancel_left_eq, List.cons.injEq] at hlist
    have hlist := hlist.2.2
    -- what stands for nothing does not begin with a separator
    have hc : c.category ≠ "" := by
      intro hc
      rw [if_pos hc, hc] at hlist
      simp at hlist
    rw [if_neg hc, List.append_cancel_left_eq, List.cons.injEq] at hlist
    have hlist := hlist.2
    have ha : c.action ≠ "" := by
      intro ha
      rw [if_pos ha, ha] at hlist
      simp at hlist
    rw [if_neg ha, List.append_cancel_left_eq, List.cons.injEq, List.append_cancel_left_eq,
      List.cons.injEq, List.append_cancel_right_eq, String.toList_ofList,
      String.toList_ofList] at hlist
    exact ⟨hc, ha, normal_eq_iff.mp (write_injective false hlist.2.2)⟩
  · rintro ⟨hc, ha, hv⟩
    rw [rehashed, Call.hashed, if_neg hc, if_neg ha, normal_of_inOrder v hv]

/-- The row of a call, as `verify` sees it. -/
lemma hashed_row (h : c.value = some v) (previousHash entryHash : String) :
    (AuditRow.mk c.stationId c.category c.action c.actorId (String.ofList (write false v))
      previousHash entryHash c.createdAt).hashed previous = some (rehashed c previous v) := by
  obtain ⟨fs, rfl⟩ := value_eq_obj h
  rw [AuditRow.hashed, parsePayload_write, Option.map_some, canonical_dedup]
  rfl

end Row

/-! ### The chain -/

section Chain

variable {sha256 : String → String} {c : Call} {calls : List Call} {t t' : Table AuditRow}
  {last last' previous : String}

lemma verifyFrom_append (l : List (ℤ × AuditRow)) (r : ℤ × AuditRow) :
    verifyFrom sha256 previous (l ++ [r]) = (verifyFrom sha256 previous l).bind fun
      | .ok hash => verifyFrom sha256 hash [r]
      | .error id => some (.error id) := by
  induction l generalizing previous with
  | nil => rfl
  | cons q l ih =>
    obtain ⟨id, q⟩ := q
    rw [List.cons_append, verifyFrom, verifyFrom]
    cases q.hashed previous with
    | none => rfl
    | some text =>
      dsimp only [Option.bind_eq_bind, Option.bind_some]
      split_ifs
      · rfl
      · exact ih

/-- The hash tells what was hashed from what is hashed again. -/
def Tells (sha256 : String → String) (c : Call) : Prop :=
  ∀ previous, ∀ v ∈ c.value, sha256 (rehashed c previous v) = sha256 (c.hashed previous v) →
    rehashed c previous v = c.hashed previous v

/-- What `verify` says of a table and the hash that was returned last. -/
def Accepted (sha256 : String → String) (t : Table AuditRow) (last : String) : Prop :=
  verifyFrom sha256 "" (rows t) = some (.ok last)

/-- A call adds one row, which links to the last one. -/
lemma step_eq (h : step sha256 (t, last) c = some (t', last')) :
    ∃ (v : Value) (previous : String) (id : ℤ), c.value = some v ∧
      previous = ((rows t).getLast?.map (·.2.entryHash)).getD "" ∧
      last' = sha256 (c.hashed previous v) ∧
      rows t' = rows t ++ [(id, ⟨c.stationId, c.category, c.action, c.actorId,
        String.ofList (write false v), previous, last', c.createdAt⟩)] := by
  obtain ⟨⟨t₁, a⟩, ha, heq⟩ := Option.map_eq_some_iff.mp h
  obtain ⟨rfl, rfl⟩ := Prod.mk.inj heq
  obtain ⟨v, hv, ha⟩ := Option.bind_eq_some_iff.mp ha
  dsimp only at ha
  split_ifs at ha
  obtain ⟨rfl, rfl⟩ := Prod.mk.inj (Option.some.inj ha)
  exact ⟨v, _, nextId t, hv, rfl, rfl, rows_insert_last fun j b hj => lt_nextId hj⟩

/-- What a run of calls has made of an empty table. -/
structure Chained (sha256 : String → String) (calls : List Call) (t : Table AuditRow)
    (last : String) : Prop where
  head : ((rows t).getLast?.map (·.2.entryHash)).getD "" = last
  count : (rows t).length = calls.length
  kept : (∀ c ∈ calls, Faithful c) → verifyFrom sha256 "" (rows t) = some (.ok last)
  lost : (∀ c ∈ calls, Tells sha256 c) → (∃ c ∈ calls, ¬ Faithful c) →
    ∃ id, verifyFrom sha256 "" (rows t) = some (.error id)

lemma chained_empty : Chained sha256 [] ∅ "" where
  head := rfl
  count := rfl
  kept _ := rfl
  lost _ h := by simp at h

/-- The row of a call is accepted after the one it links to, if it is what was hashed. -/
lemma verifyFrom_row {v : Value} {id : ℤ} (hv : c.value = some v) :
    verifyFrom sha256 previous [(id, ⟨c.stationId, c.category, c.action, c.actorId,
      String.ofList (write false v), previous, sha256 (c.hashed previous v), c.createdAt⟩)] =
        if sha256 (rehashed c previous v) = sha256 (c.hashed previous v) then
          some (.ok (sha256 (c.hashed previous v)))
        else some (.error id) := by
  rw [verifyFrom, hashed_row hv]
  dsimp only [Option.bind_eq_bind, Option.bind_some]
  by_cases heq : sha256 (rehashed c previous v) = sha256 (c.hashed previous v)
  · rw [if_pos heq, if_neg (by simp [heq]), heq]
    rfl
  · rw [if_neg heq, if_pos (by simpa using Ne.symm heq)]
    rfl

/-- **One call** adds a row that is accepted if and only if the call is faithful. -/
lemma Chained.step (h : Chained sha256 calls t last)
    (hs : step sha256 (t, last) c = some (t', last')) :
    Chained sha256 (calls ++ [c]) t' last' := by
  obtain ⟨v, previous, id, hv, hprevious, hlast, hrows⟩ := step_eq hs
  obtain rfl : previous = last := hprevious.trans h.head
  subst hlast
  have hverify : verifyFrom sha256 "" (rows t') = (verifyFrom sha256 "" (rows t)).bind fun
      | .ok hash => verifyFrom sha256 hash [(id, ⟨c.stationId, c.category, c.action, c.actorId,
          String.ofList (write false v), previous, sha256 (c.hashed previous v), c.createdAt⟩)]
      | .error id => some (.error id) := by
    rw [hrows]
    exact verifyFrom_append ..
  refine ⟨?_, ?_, fun hall => ?_, fun htells hsome => ?_⟩
  · rw [hrows, List.getLast?_concat]
    rfl
  · rw [hrows, List.length_append, List.length_append, h.count]
    rfl
  · have hc : Faithful c := hall c (by simp)
    rw [hverify, h.kept fun c' hc' => hall c' (by simp [hc'])]
    dsimp only [Option.bind_some]
    rw [verifyFrom_row hv, if_pos (congrArg sha256 ((rehashed_eq_iff hv).mpr hc))]
  · by_cases hbefore : ∃ c' ∈ calls, ¬ Faithful c'
    · obtain ⟨id', herr⟩ := h.lost (fun c' hc' => htells c' (by simp [hc'])) hbefore
      exact ⟨id', by rw [hverify, herr]; rfl⟩
    · push Not at hbefore
      have hc : ¬ Faithful c := by
        obtain ⟨c', hc', hne⟩ := hsome
        rcases List.mem_append.mp hc' with hc' | hc'
        · exact absurd (hbefore c' hc') hne
        · rwa [List.mem_singleton.mp hc'] at hne
      refine ⟨id, ?_⟩
      rw [hverify, h.kept hbefore]
      dsimp only [Option.bind_some]
      rw [verifyFrom_row hv, if_neg]
      exact fun heq => hc ((rehashed_eq_iff hv).mp (htells c (by simp) previous v hv heq))

/-- **Every run of calls** leaves a chain. -/
lemma chained_run (h : exec (AuditChain.step sha256) (∅, "") calls = some (t, last)) :
    Chained sha256 calls t last := by
  induction calls using List.reverseRecOn generalizing t last with
  | nil =>
    obtain ⟨rfl, rfl⟩ := Prod.mk.inj (Option.some.inj h)
    exact chained_empty
  | append_singleton calls c ih =>
    rw [exec_append] at h
    obtain ⟨⟨t₁, last₁⟩, hrun, h⟩ := Option.bind_eq_some_iff.mp h
    obtain ⟨⟨t₂, last₂⟩, hstep, h⟩ := exec_cons_eq_some.mp h
    obtain ⟨rfl, rfl⟩ := Prod.mk.inj (Option.some.inj h)
    exact (ih hrun).step hstep

end Chain

/-! ### Two histories -/

/-- A call without a category. -/
def uncategorised : Call := ⟨"", "draft", none, none, none, "2026-01-01T00:00:00+00:00"⟩

/-- A payload whose keys are numbers. -/
def numbered : Call where
  category := "stream"
  action := "draft"
  payload := some [(.num 2 0, .bool true), (.num 10 0, .bool false)]
  stationId := some 1
  actorId := none
  createdAt := "2026-01-01T00:00:00+00:00"

/-- The table after calls that nothing refuses, and the hash returned last. -/
lemma history_of (calls : List Call) (p : Table AuditRow → String → Bool)
    (h : (exec (step id) (∅, "") calls).any (fun s => p s.1 s.2) = true) :
    ∃ t last, exec (step id) (∅, "") calls = some (t, last) ∧ p t last := by
  obtain ⟨⟨t, last⟩, hs, hp⟩ := (Option.any_eq_true ..).mp h
  exact ⟨t, last, hs, hp⟩

end OnAir.AuditHistory
