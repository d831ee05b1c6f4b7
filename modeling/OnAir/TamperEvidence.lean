import OnAir.AuditChain
import OnAir.TextFields

/-!
What the head of an accepted chain commits to.

Tables of one length that are accepted with one head have the same texts under their hashes, row
by row. The text joins seven fields with a separator that may occur in a category, in an action,
in a payload and in a time, so it does not say by itself where one field ends.
-/

namespace OnAir.TamperEvidence

open AuditChain Json OnAir.Table TextFields

/-! ### Rows that say the same, rows that are cut the same -/

/-- Every field is the same; payloads are compared as dictionaries, without the order of their
keys. -/
structure SameRecord (r r' : AuditRow) : Prop where
  stationId : r.stationId = r'.stationId
  category : r.category = r'.category
  action : r.action = r'.action
  actorId : r.actorId = r'.actorId
  payload : (parsePayload r.payloadJson).map sortKeys = (parsePayload r'.payloadJson).map sortKeys
  createdAt : r.createdAt = r'.createdAt

/-- Categories, actions and payloads are of the same lengths, and payloads that count as empty
are the same one. -/
structure SameBounds (r r' : AuditRow) : Prop where
  category : r.category.length = r'.category.length
  action : r.action.length = r'.action.length
  payload : (parsePayload r.payloadJson).map (fun x => (canonical x).length) =
    (parsePayload r'.payloadJson).map fun x => (canonical x).length
  empty : ∀ x ∈ parsePayload r.payloadJson, ∀ y ∈ parsePayload r'.payloadJson,
    x.truthy = false → y.truthy = false → x = y

/-! ### One text -/

section Text

variable {x y : Value} {r r' : AuditRow} {previous m : String}

lemma notMem_idText (id : Option ℤ) : '|' ∉ (idText id).toList := by
  have hdigits : ∀ n : ℕ, '|' ∉ writeNat n 0 := by
    intro n h
    rw [writeNat, if_pos rfl] at h
    exact absurd (Nat.isDigit_of_mem_toDigits (by decide) (by decide) h) (by decide)
  cases id with
  | none => simp [idText]
  | some n =>
    rw [idText, String.toList_ofList, writeNum]
    split_ifs
    · exact fun h => (List.mem_cons.mp h).elim (by decide) (hdigits _)
    · exact hdigits _

lemma idText_injective : Function.Injective idText := by
  have hne : ∀ n : ℤ, idText (some n) ≠ "" := fun n h => by
    have hlen := length_writeNum_pos n 0
    have hlist := congrArg String.toList h
    rw [idText, String.toList_ofList] at hlist
    simp [hlist] at hlen
  intro a b h
  cases a with
  | none =>
    cases b with
    | none => rfl
    | some n => exact absurd h.symm (hne n)
  | some n =>
    cases b with
    | none => exact absurd h (hne n)
    | some k =>
      have hlist : write false (.num n 0) = write false (.num k 0) := by
        simpa [idText, write] using congrArg String.toList h
      have hvalue := write_injective false hlist
      simp only [Value.num.injEq, and_true] at hvalue
      rw [hvalue]

lemma sortKeys_of_falsy (h : x.truthy = false) : sortKeys x = x := by
  cases x with
  | arr xs =>
    cases xs with
    | nil => rfl
    | cons a xs => simp [Value.truthy] at h
  | obj fs =>
    cases fs with
    | nil => rfl
    | cons f fs => simp [Value.truthy] at h
  | _ => rfl

lemma sortFields_ne_nil (f : String × Value) (fs : List (String × Value)) :
    sortFields (f :: fs) ≠ [] := by
  obtain ⟨k, a⟩ := f
  intro h
  have hmem : (k, sortKeys a) ∈ sortFields ((k, a) :: fs) := mem_insertField.mpr (.inl rfl)
  rw [h] at hmem
  cases hmem

lemma truthy_sortKeys (x : Value) : (sortKeys x).truthy = x.truthy := by
  cases x with
  | arr xs => cases xs <;> rfl
  | obj fs =>
    cases fs with
    | nil => rfl
    | cons f fs =>
      have hne := sortFields_ne_nil f fs
      simp [sortKeys, Value.truthy, hne]
  | _ => rfl

/-- The text of a payload says what it is, unless it counts as empty. -/
lemma canonical_eq_iff : canonical x = canonical y ↔
    sortKeys x = sortKeys y ∨ (x.truthy = false ∧ y.truthy = false) := by
  have htext : ∀ a b : Value, canonicalJson a = canonicalJson b ↔ sortKeys a = sortKeys b := by
    intro a b
    refine ⟨fun h => write_injective false ?_, fun h => by rw [canonicalJson, h, canonicalJson]⟩
    simpa [canonicalJson] using congrArg String.toList h
  have hempty : sortKeys (.obj []) = .obj [] := rfl
  unfold canonical
  rw [htext]
  cases hx : x.truthy with
  | true =>
    rw [if_pos rfl]
    cases hy : y.truthy with
    | true => simp
    | false =>
      rw [if_neg (by simp), hempty]
      refine iff_of_false (fun h => ?_) (fun h => ?_)
      · have ht := truthy_sortKeys x
        rw [h, hx] at ht
        cases ht
      · rcases h with h | h
        · have ht := truthy_sortKeys x
          rw [h, truthy_sortKeys, hx, hy] at ht
          cases ht
        · cases h.1
  | false =>
    rw [if_neg (by simp), hempty]
    cases hy : y.truthy with
    | true =>
      rw [if_pos rfl]
      refine iff_of_false (fun h => ?_) (fun h => ?_)
      · have ht := truthy_sortKeys y
        rw [← h, hy] at ht
        cases ht
      · rcases h with h | h
        · have ht := truthy_sortKeys y
          rw [← h, truthy_sortKeys, hx, hy] at ht
          cases ht
        · cases h.2
    | false => simp [hempty]

/-- **One text, cut in one way**: rows of one text say the same if and only if their fields end
at the same places. -/
lemma sameRecord_iff (h : r.hashed previous = some m) (h' : r'.hashed previous = some m) :
    SameRecord r r' ↔ SameBounds r r' := by
  obtain ⟨x, hx, rfl⟩ := Option.map_eq_some_iff.mp h
  obtain ⟨y, hy, heq⟩ := Option.map_eq_some_iff.mp h'
  have hlist := congrArg String.toList heq.symm
  rw [toList_material, toList_material, List.append_cancel_left_eq, List.cons.injEq] at hlist
  obtain ⟨hstation, hrest⟩ := split_first (notMem_idText _) (notMem_idText _) hlist.2
  constructor
  · rintro ⟨-, hc, ha, -, hp, -⟩
    rw [hx, hy, Option.map_some, Option.map_some, Option.some.injEq] at hp
    refine ⟨by rw [hc], by rw [ha], ?_, fun a hxa b hyb hfx hfy => ?_⟩
    · rw [hx, hy, Option.map_some, Option.map_some, canonical_eq_iff.mpr (.inl hp)]
    · rw [hx] at hxa
      rw [hy] at hyb
      obtain rfl := Option.some.inj hxa
      obtain rfl := Option.some.inj hyb
      rwa [sortKeys_of_falsy hfx, sortKeys_of_falsy hfy] at hp
  · rintro ⟨hc, ha, hp, he⟩
    obtain ⟨hcategory, hrest⟩ := List.append_inj hrest hc
    obtain ⟨haction, hrest⟩ := List.append_inj (List.cons.inj hrest).2 ha
    obtain ⟨hactor, hrest⟩ := split_first (notMem_idText _) (notMem_idText _)
      (List.cons.inj hrest).2
    rw [hx, hy, Option.map_some, Option.map_some, Option.some.injEq] at hp
    obtain ⟨hpayload, hrest⟩ := List.append_inj hrest hp
    have hkeys : sortKeys x = sortKeys y := by
      rcases canonical_eq_iff.mp (String.toList_inj.mp hpayload) with hk | ⟨hfx, hfy⟩
      · exact hk
      · rw [he x hx y hy hfx hfy]
    exact ⟨idText_injective (String.toList_inj.mp hstation), String.toList_inj.mp hcategory,
      String.toList_inj.mp haction, idText_injective (String.toList_inj.mp hactor),
      by rw [hx, hy, Option.map_some, Option.map_some, hkeys],
      String.toList_inj.mp (List.cons.inj hrest).2⟩

end Text

/-! ### One head -/

section Head

variable {sha256 : String → String} {t t' : Table AuditRow} {n : ℕ}
  {head previous previous' : String}
  {id : ℤ} {r r' : AuditRow} {l l' rest : List (ℤ × AuditRow)}

/-- The texts that are hashed where a table is accepted. -/
def hashedTexts (l : List (ℤ × AuditRow)) : Set String :=
  {m | ∃ r ∈ l, r.2.hashed r.2.previousHash = some m}

lemma verify_eq_valid (h : verify sha256 t = some (.valid n head)) :
    (rows t).length = n ∧ verifyFrom sha256 "" (rows t) = some (.ok head) := by
  obtain ⟨result, hr, heq⟩ := Option.map_eq_some_iff.mp h
  cases result with
  | error id => cases heq
  | ok hash =>
    obtain ⟨hn, rfl⟩ := Verification.valid.inj heq
    exact ⟨hn, hr⟩

/-- A row that is accepted links to the one before it. -/
lemma verifyFrom_cons (h : verifyFrom sha256 previous ((id, r) :: rest) = some (.ok head)) :
    ∃ m, r.hashed previous = some m ∧ r.previousHash = previous ∧
      verifyFrom sha256 (sha256 m) rest = some (.ok head) := by
  obtain ⟨m, hm, h⟩ := Option.bind_eq_some_iff.mp h
  dsimp only at h
  split_ifs at h with hne
  · cases h
  · have hlink : r.previousHash = previous := by
      by_contra hp
      exact hne (by simp [hp])
    exact ⟨m, hm, hlink, h⟩

/-- Rows with one text, after one hash. -/
def SameText (r r' : ℤ × AuditRow) : Prop :=
  ∃ previous m, r.2.hashed previous = some m ∧ r'.2.hashed previous = some m

/-- Hashes of one length that begin one text are equal. -/
lemma same_previous {m : String} (h : r.hashed previous = some m)
    (h' : r'.hashed previous' = some m) (hlen : previous.length = previous'.length) :
    previous = previous' := by
  obtain ⟨x, -, rfl⟩ := Option.map_eq_some_iff.mp h
  obtain ⟨y, -, heq⟩ := Option.map_eq_some_iff.mp h'
  have hlist := congrArg String.toList heq.symm
  rw [toList_material, toList_material] at hlist
  exact String.toList_inj.mp (List.append_inj hlist hlen).1

/-- **The head commits to the texts**: lists of one length that are accepted with one head have
the same texts, row by row. -/
lemma sameText_of_head (hsha : ∀ m, (sha256 m).length = 64)
    (hinj : Set.InjOn sha256 (hashedTexts l ∪ hashedTexts l'))
    (h : verifyFrom sha256 previous l = some (.ok head))
    (h' : verifyFrom sha256 previous' l' = some (.ok head)) (hlen : l.length = l'.length)
    (hprevious : previous.length = previous'.length) :
    previous = previous' ∧ List.Forall₂ SameText l l' := by
  induction l generalizing l' previous previous' with
  | nil =>
    obtain rfl := List.length_eq_zero_iff.mp hlen.symm
    have hp : previous = head := by simpa [verifyFrom] using h
    have hp' : previous' = head := by simpa [verifyFrom] using h'
    exact ⟨hp.trans hp'.symm, .nil⟩
  | cons a l ih =>
    obtain ⟨id, r⟩ := a
    cases l' with
    | nil => cases hlen
    | cons b l' =>
      obtain ⟨id', r'⟩ := b
      obtain ⟨m, hm, hlink, hrest⟩ := verifyFrom_cons h
      obtain ⟨m', hm', hlink', hrest'⟩ := verifyFrom_cons h'
      have hsub : hashedTexts l ∪ hashedTexts l' ⊆
          hashedTexts ((id, r) :: l) ∪ hashedTexts ((id', r') :: l') := by
        refine Set.union_subset_union ?_ ?_
        · rintro k ⟨q, hq, hk⟩
          exact ⟨q, by simp [hq], hk⟩
        · rintro k ⟨q, hq, hk⟩
          exact ⟨q, by simp [hq], hk⟩
      obtain ⟨hhash, htexts⟩ := ih (hinj.mono hsub) hrest hrest' (Nat.succ.inj hlen)
        ((hsha m).trans (hsha m').symm)
      have heq : m = m' := hinj (.inl ⟨(id, r), by simp, by rw [hlink]; exact hm⟩)
        (.inr ⟨(id', r'), by simp, by rw [hlink']; exact hm'⟩) hhash
      have hsame : previous = previous' := same_previous hm (heq ▸ hm') hprevious
      subst hsame heq
      exact ⟨rfl, .cons ⟨previous, m, hm, hm'⟩ htexts⟩

lemma forall₂_iff {α : Type} {R P Q : α → α → Prop} {l l' : List α} (h : List.Forall₂ R l l')
    (hPQ : ∀ a b, R a b → (P a b ↔ Q a b)) : List.Forall₂ P l l' ↔ List.Forall₂ Q l l' := by
  induction h with
  | nil => simp
  | cons hab _ ih => rw [List.forall₂_cons, List.forall₂_cons, hPQ _ _ hab, ih]

/-- A chain that is accepted is accepted up to each of its rows, with the hash of that row. -/
lemma verifyFrom_take {k : ℕ} {row : ℤ × AuditRow}
    (h : verifyFrom sha256 previous l = some (.ok head)) (hrow : l[k]? = some row) :
    verifyFrom sha256 previous (l.take (k + 1)) = some (.ok row.2.entryHash) := by
  induction l generalizing previous k with
  | nil => simp at hrow
  | cons a l ih =>
    obtain ⟨id, r⟩ := a
    obtain ⟨m, hm, h⟩ := Option.bind_eq_some_iff.mp h
    dsimp only at h
    split_ifs at h with hne
    · cases h
    rw [List.take_succ_cons, verifyFrom, hm]
    change (if _ then _ else _) = _
    rw [if_neg hne]
    cases k with
    | zero =>
      obtain rfl : (id, r) = row := by simpa using hrow
      simp only [Bool.or_eq_true, decide_eq_true_eq, not_or, not_not] at hne
      rw [List.take_zero, verifyFrom, hne.2]
    | succ k => exact ih h hrow

/-- **A noted head pins the history**: when the head of an accepted chain is found at its place in a
chain that is accepted later, the rows up to there have the same texts. -/
theorem head_pins_history {n' : ℕ} {head' : String} {row : ℤ × AuditRow}
    (hsha : ∀ m, (sha256 m).length = 64)
    (hinj : Set.InjOn sha256 (hashedTexts (rows t) ∪ hashedTexts (rows t')))
    (h : verify sha256 t = some (.valid (n + 1) head))
    (h' : verify sha256 t' = some (.valid n' head')) (hrow : (rows t')[n]? = some row)
    (hhead : row.2.entryHash = head) :
    List.Forall₂ SameText (rows t) ((rows t').take (n + 1)) := by
  obtain ⟨hn, hv⟩ := verify_eq_valid h
  have hv' := verifyFrom_take (verify_eq_valid h').2 hrow
  rw [hhead] at hv'
  have hle : n < (rows t').length := (List.getElem?_eq_some_iff.mp hrow).1
  refine (sameText_of_head hsha (hinj.mono (Set.union_subset_union_right _ ?_)) hv hv' ?_ rfl).2
  · rintro m ⟨r, hr, hm⟩
    exact ⟨r, List.mem_of_mem_take hr, hm⟩
  · rw [hn, List.length_take, min_eq_left hle]

/-- **Tamper evidence**: tables that are accepted with one count and one head say the same, row by
row, if and only if their fields end at the same places. -/
theorem tamper_evident (hsha : ∀ m, (sha256 m).length = 64)
    (hinj : Set.InjOn sha256 (hashedTexts (rows t) ∪ hashedTexts (rows t')))
    (h : verify sha256 t = some (.valid n head)) (h' : verify sha256 t' = some (.valid n head)) :
    List.Forall₂ (fun r r' => SameRecord r.2 r'.2) (rows t) (rows t') ↔
      List.Forall₂ (fun r r' => SameBounds r.2 r'.2) (rows t) (rows t') := by
  obtain ⟨hn, hv⟩ := verify_eq_valid h
  obtain ⟨hn', hv'⟩ := verify_eq_valid h'
  obtain ⟨-, htexts⟩ := sameText_of_head hsha hinj hv hv' (hn.trans hn'.symm) rfl
  refine forall₂_iff htexts fun r r' hrr => ?_
  obtain ⟨previous, m, hm, hm'⟩ := hrr
  exact sameRecord_iff hm hm'

end Head

/-! ### A separator in a category -/

/-- A table of one row, with its hash. -/
def single (category action payloadJson digest : String) : Table AuditRow :=
  (∅ : Table AuditRow).insert 1 ⟨some 1, category, action, some 2, payloadJson, "", digest,
    "2026-01-01T00:00:00+00:00"⟩

/-- The digest of `|1|stream|draft|apply|2|{}|2026-01-01T00:00:00+00:00`. -/
def applyDigest : String := "3985255eb9a4ca49b33351021fb16516f9e2b412d01ca430f9c0131ad6b71e7f"

/-- The digest of `|1|stream|draft|2|{"a":1,"b":2}|2026-01-01T00:00:00+00:00`. -/
def draftDigest : String := "8c522ef30e92daf6ad5f3f37109e275dfe2422d149c9cc899aa00fb3a08a62e5"

lemma rows_single (category action payloadJson digest : String) :
    rows (single category action payloadJson digest) = [(1, ⟨some 1, category, action, some 2,
      payloadJson, "", digest, "2026-01-01T00:00:00+00:00"⟩)] := by
  rw [single, rows_insert_last fun j b hj => by simp at hj]
  rfl

/-- On tables whose only text is `m`, every digest tells the texts apart. -/
lemma injOn_single {digest m : String} {t t' : Table AuditRow}
    (h : ∀ r ∈ rows t, r.2.hashed r.2.previousHash = some m)
    (h' : ∀ r ∈ rows t', r.2.hashed r.2.previousHash = some m) :
    Set.InjOn (fun _ => digest) (hashedTexts (rows t) ∪ hashedTexts (rows t')) := by
  have hall : ∀ k ∈ hashedTexts (rows t) ∪ hashedTexts (rows t'), k = m := by
    rintro k (⟨r, hr, hk⟩ | ⟨r, hr, hk⟩)
    · exact Option.some.inj (hk.symm.trans (h r hr))
    · exact Option.some.inj (hk.symm.trans (h' r hr))
  intro a ha b hb _
  rw [hall a ha, hall b hb]

/-- A draft that was applied, and the application of a draft. -/
theorem separator_hides_change :
    ∃ (sha256 : String → String) (t t' : Table AuditRow) (n : ℕ) (head : String),
      (∀ m, (sha256 m).length = 64) ∧
      Set.InjOn sha256 (hashedTexts (rows t) ∪ hashedTexts (rows t')) ∧
      verify sha256 t = some (.valid n head) ∧ verify sha256 t' = some (.valid n head) ∧
      ¬ List.Forall₂ (fun r r' => SameRecord r.2 r'.2) (rows t) (rows t') := by
  have hlen : applyDigest.length = 64 := by decide +kernel
  refine ⟨fun _ => applyDigest, single "stream" "draft|apply" "\x7b\x7d" applyDigest,
    single "stream|draft" "apply" "\x7b\x7d" applyDigest, 1, applyDigest, fun _ => hlen,
    injOn_single (m := "|1|stream|draft|apply|2|\x7b\x7d|2026-01-01T00:00:00+00:00")
      (by decide +kernel) (by decide +kernel), by decide +kernel, by decide +kernel, fun h => ?_⟩
  rw [rows_single, rows_single, List.forall₂_cons] at h
  exact absurd h.1.category (by decide)

/-- A payload with its keys in another order. -/
theorem tamper_evident_keys :
    List.Forall₂ (fun r r' => SameRecord r.2 r'.2)
      (rows (single "stream" "draft" "\x7b\"a\":1,\"b\":2\x7d" draftDigest))
      (rows (single "stream" "draft" "\x7b\"b\": 2, \"a\": 1\x7d" draftDigest)) := by
  have hlen : draftDigest.length = 64 := by decide +kernel
  have hv : verify (fun _ => draftDigest)
      (single "stream" "draft" "\x7b\"a\":1,\"b\":2\x7d" draftDigest) =
        some (.valid 1 draftDigest) := by decide +kernel
  have hv' : verify (fun _ => draftDigest)
      (single "stream" "draft" "\x7b\"b\": 2, \"a\": 1\x7d" draftDigest) =
        some (.valid 1 draftDigest) := by decide +kernel
  refine (tamper_evident (fun _ => hlen) (injOn_single
    (m := "|1|stream|draft|2|\x7b\"a\":1,\"b\":2\x7d|2026-01-01T00:00:00+00:00")
    (by decide +kernel) (by decide +kernel)) hv hv').mpr ?_
  have hfull : (parsePayload "\x7b\"a\":1,\"b\":2\x7d").all Value.truthy = true := by
    decide +kernel
  rw [rows_single, rows_single]
  refine .cons ⟨rfl, rfl, by decide +kernel, fun x hx y _ hfx _ => ?_⟩ .nil
  have htruthy := (Option.all_eq_true ..).mp hfull x hx
  rw [hfx] at htruthy
  cases htruthy

theorem head_pins_history_separator : List.Forall₂ SameText
    (rows (single "stream" "draft|apply" "\x7b\x7d" applyDigest))
    ((rows (single "stream|draft" "apply" "\x7b\x7d" applyDigest)).take 1) := by
  have hlen : applyDigest.length = 64 := by decide +kernel
  have hv : verify (fun _ => applyDigest) (single "stream" "draft|apply" "\x7b\x7d" applyDigest) =
      some (.valid 1 applyDigest) := by decide +kernel
  have hv' : verify (fun _ => applyDigest) (single "stream|draft" "apply" "\x7b\x7d" applyDigest) =
      some (.valid 1 applyDigest) := by decide +kernel
  exact head_pins_history (fun _ => hlen) (injOn_single
    (m := "|1|stream|draft|apply|2|\x7b\x7d|2026-01-01T00:00:00+00:00")
    (by decide +kernel) (by decide +kernel)) hv hv' (by rw [rows_single]; rfl) rfl

end OnAir.TamperEvidence
