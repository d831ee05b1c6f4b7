import OnAir.ProductCatalog
import OnAir.PythonText

/-!
Generations of a product catalogue.

Only a commit changes what is committed, and it comes after the transaction has replaced all items
by the files of one scan, and the fingerprint by that of the scan. So each version is the next one
of the version before it.
-/

namespace OnAir.CatalogGenerations

open Resumption Runs ProductCatalog

variable {casefold : String → String} {supported : String → Bool} {hexdigest : String → String}
  {quietSeconds : ℚ} {stablePolls maxRetries : ℕ} {α β : Type}

/-! ### Sorted files -/

section Sorted

variable {files files' : List MediaFile}

lemma sortRecords_perm (files : List MediaFile) : (sortRecords casefold files).Perm files :=
  List.perm_insertionSort _ _

lemma sortRecords_pairwise (files : List MediaFile) :
    (sortRecords casefold files).Pairwise fun a b => keyOf casefold a ≤ keyOf casefold b := by
  have htotal : Std.Total fun a b : MediaFile => keyOf casefold a ≤ keyOf casefold b :=
    ⟨fun a b => le_total _ _⟩
  have htrans : IsTrans MediaFile fun a b => keyOf casefold a ≤ keyOf casefold b :=
    ⟨fun _ _ _ => le_trans⟩
  exact List.pairwise_insertionSort _ _

/-- Files with different keys are sorted in one way. -/
lemma sortRecords_eq (hperm : files'.Perm files) (hnodup : (files.map (keyOf casefold)).Nodup) :
    sortRecords casefold files' = sortRecords casefold files := by
  have hall : (sortRecords casefold files').Perm files := (sortRecords_perm files').trans hperm
  refine List.Perm.eq_of_pairwise (fun a b ha hb hab hba => ?_) (sortRecords_pairwise _)
    (sortRecords_pairwise _) (hall.trans (sortRecords_perm _).symm)
  exact List.inj_on_of_nodup_map hnodup (hall.subset ha) ((sortRecords_perm _).subset hb)
    (le_antisymm hab hba)

end Sorted

/-! ### The scan -/

/-- The records of a scan go with its fingerprint. -/
structure Exact (casefold hexdigest : String → String) (s : Scanned) : Prop where
  nodup : (s.records.map (keyOf casefold)).Nodup
  fingerprint : fingerprintOf casefold hexdigest s.records = s.fingerprint

lemma scanFiles_nodup {now : ℚ} {found : List Found} {records records' : List MediaFile}
    {quiet quiet' : Bool} (hnodup : (records.map (keyOf casefold)).Nodup)
    (h : scanFiles casefold supported quietSeconds now found records quiet =
      .ok (records', quiet')) : (records'.map (keyOf casefold)).Nodup := by
  induction found generalizing records quiet with
  | nil =>
    obtain ⟨rfl, -⟩ := Prod.mk.inj (Except.ok.inj h)
    exact hnodup
  | cons f found ih =>
    cases f with
    | error e => cases h
    | directory reparse =>
      unfold scanFiles at h
      split_ifs at h
      exact ih hnodup h
    | file path reparse regular size modifiedNs =>
      unfold scanFiles at h
      split_ifs at h with _ _ _ _ hnew
      · exact ih hnodup h
      · exact ih hnodup h
      · refine ih ?_ h
        rw [List.map_append]
        exact List.nodup_append_comm.mp (List.nodup_cons.mpr ⟨hnew, hnodup⟩)

lemma exact_of_scanned {now : ℚ} {found : List Found} {s : Scanned}
    (h : scanned casefold supported hexdigest quietSeconds now found = .ok s) :
    Exact casefold hexdigest s := by
  unfold scanned at h
  cases hfiles : scanFiles casefold supported quietSeconds now found [] true with
  | error e =>
    rw [hfiles] at h
    cases h
  | ok r =>
    obtain ⟨records, quiet⟩ := r
    rw [hfiles] at h
    cases h
    have hempty : (([] : List MediaFile).map (keyOf casefold)).Nodup := List.nodup_nil
    have hnodup := scanFiles_nodup hempty hfiles
    have hsorted : ((sortRecords casefold records).map (keyOf casefold)).Nodup :=
      ((sortRecords_perm records).map _).nodup_iff.mpr hnodup
    refine ⟨hsorted, ?_⟩
    unfold fingerprintOf
    rw [sortRecords_eq (sortRecords_perm records) hnodup]

/-! ### Versions -/

def generationOf (d : Database) : ℕ := d.catalogMeta.elim 0 (·.generation)

/-- A version of the database is written after another one. -/
structure Written (casefold hexdigest : String → String) (before d : Database) (m : Meta) :
    Prop where
  catalogMeta : d.catalogMeta = some m
  generation : m.generation = generationOf before + 1
  stamped : ∀ item ∈ d.catalogItems, item.generation = m.generation
  fingerprint : ∀ files, files.Perm (d.catalogItems.map (·.file)) →
    fingerprintOf casefold hexdigest files = m.fingerprint

/-- Every version is written after the one before it, the first one after an empty database. -/
def Successive (casefold hexdigest : String → String) : List Database → Prop
  | [] => True
  | d :: older => (∃ m, Written casefold hexdigest (newest older) d m) ∧
    Successive casefold hexdigest older

/-- The items of a generation are the files of a scan. -/
lemma written_of_exact {before : Database} {s : Scanned} (h : Exact casefold hexdigest s) :
    Written casefold hexdigest before
      ⟨some ⟨generationOf before + 1, s.fingerprint⟩,
        s.records.map (⟨·, generationOf before + 1⟩)⟩
      ⟨generationOf before + 1, s.fingerprint⟩ := by
  refine ⟨rfl, rfl, fun item hitem => ?_, fun files hperm => ?_⟩
  · obtain ⟨file, -, rfl⟩ := List.mem_map.mp hitem
    rfl
  · rw [List.map_map] at hperm
    change files.Perm (s.records.map id) at hperm
    rw [List.map_id] at hperm
    rw [← h.fingerprint]
    unfold fingerprintOf
    rw [sortRecords_eq hperm h.nodup]

/-! ### Writing a generation -/

section Writing

def Kept (casefold hexdigest : String → String) (s : Shared) : Prop :=
  Successive casefold hexdigest s.store.versions

/-- A request changes nothing in the database. -/
def SameStore (s t : Shared) : Prop := t.store = s.store

variable (casefold hexdigest stablePolls maxRetries) in
abbrev Does (P : Shared → Prop) (p : Program α) (Q : α → Shared → Prop)
    (E : Raised → Shared → Prop) : Prop :=
  Triple (run stablePolls maxRetries) (Kept casefold hexdigest) SameStore P p Q E

/-- The database is as it is given. -/
def At (versions : List Database) (transaction : Option Database) (s : Shared) : Prop :=
  s.store = ⟨versions, transaction⟩

/-- What is committed is as it is given. -/
def AtVersions (versions : List Database) (s : Shared) : Prop := s.store.versions = versions

variable {versions : List Database} {transaction : Option Database} {d d' : Database}
  {P : Shared → Prop} {Q : α → Shared → Prop} {E : Raised → Shared → Prop}

lemma stable_at : Stable SameStore (At versions transaction) := fun _ _ h hs => h.trans hs

lemma stable_atVersions : Stable SameStore (AtVersions versions) :=
  fun _ _ h hs => (congrArg Store.versions h).trans hs

lemma atVersions_of_at {s : Shared} (h : At versions transaction s) : AtVersions versions s :=
  congrArg Store.versions h

lemma bind_does {f : α → Program β} {p : Program α} {R : β → Shared → Prop}
    (h : Does casefold hexdigest stablePolls maxRetries P p Q E)
    (hf : ∀ a, Does casefold hexdigest stablePolls maxRetries (Q a) (f a) R E) :
    Does casefold hexdigest stablePolls maxRetries P (p >>= f) R E :=
  Triple.bind (fun _ => rfl) h hf

/-- An operation that answers with what is to be raised. -/
lemma throwing_does {o : Op (Except Raised α)} (hP : Stable SameStore P)
    (hQ : ∀ a, Stable SameStore (Q a)) (hE : ∀ e, Stable SameStore (E e))
    (hop : ∀ s w r t, Kept casefold hexdigest s → P s →
      run stablePolls maxRetries o w s = some (r, t) → Kept casefold hexdigest t ∧ match r with
        | .ok a => Q a t
        | .error e => E e t) :
    Does casefold hexdigest stablePolls maxRetries P (throwing o) Q E := by
  refine bind_does (Q := fun r s => match r with
    | .ok a => Q a s
    | .error e => E e s) (Triple.perform hP (fun r => ?_) fun s w r t hkept hs hrun => ?_)
      fun r => ?_
  · cases r with
    | ok a => exact hQ a
    | error e => exact hE e
  · have hended := hop s w r t hkept hs hrun
    cases r <;> exact hended
  · cases r with
    | ok a => exact Triple.pure (hQ a) fun _ h => h
    | error e => exact Triple.raise (hE e) fun _ h => h

/-- A statement of an open transaction. -/
lemma statement_does {o : Op (Except Raised Unit)} {f : Database → Except Raised Database}
    (ho : ∀ w s, run stablePolls maxRetries o w s = executed f w s)
    (hf : ∀ d'', f d = .ok d'' → d'' = d') :
    Does casefold hexdigest stablePolls maxRetries (At versions (some d)) (throwing o)
      (fun _ => At versions (some d')) fun _ => AtVersions versions := by
  refine throwing_does stable_at (fun _ => stable_at) (fun _ => stable_atVersions)
    fun s w r t hkept hs hrun => ?_
  rw [ho] at hrun
  cases w with
  | walked found now => cases hrun
  | raises e =>
    obtain ⟨rfl, rfl⟩ := Prod.mk.inj (Option.some.inj hrun)
    exact ⟨hkept, atVersions_of_at hs⟩
  | ok =>
    have hstore : s.store = ⟨versions, some d⟩ := hs
    simp only [executed, execute, hstore] at hrun
    cases hd : f d with
    | error e =>
      rw [hd] at hrun
      obtain ⟨rfl, rfl⟩ := Prod.mk.inj (Option.some.inj hrun)
      exact ⟨hkept, atVersions_of_at hs⟩
    | ok d'' =>
      obtain rfl := hf d'' hd
      rw [hd] at hrun
      obtain ⟨rfl, rfl⟩ := Prod.mk.inj (Option.some.inj hrun)
      refine ⟨?_, rfl⟩
      have hversions : s.store.versions = versions := atVersions_of_at hs
      rw [Kept, hversions] at hkept
      exact hkept

/-- What may raise, and leaves the service alone. -/
lemma answers_does {o : Op (Except Raised α)} {R : α → Prop} (hP : Stable SameStore P)
    (ho : ∀ w s r t, P s → run stablePolls maxRetries o w s = some (r, t) →
      t = s ∧ ∀ a, r = .ok a → R a) :
    Does casefold hexdigest stablePolls maxRetries P (throwing o) (fun a s => R a ∧ P s)
      fun _ => P := by
  refine throwing_does hP (fun a s t h hs => ⟨hs.1, hP s t h hs.2⟩) (fun _ => hP)
    fun s w r t hkept hs hrun => ?_
  obtain ⟨hsame, hr⟩ := ho w s r t hs hrun
  subst hsame
  refine ⟨hkept, ?_⟩
  cases r with
  | ok a => exact ⟨hr a rfl, hs⟩
  | error e => exact hs

lemma attempt_does (hP : Stable SameStore P) :
    Does casefold hexdigest stablePolls maxRetries P attempt (fun _ => P) fun _ => P := by
  refine (answers_does (R := fun _ => True) hP fun w s r t _ hrun => ?_).conseq (fun _ h => h)
    (fun _ _ h => h.2) fun _ _ h => h
  cases w with
  | walked found now => cases hrun
  | ok => exact ⟨(Prod.mk.inj (Option.some.inj hrun)).2.symm, fun _ _ => trivial⟩
  | raises e => exact ⟨(Prod.mk.inj (Option.some.inj hrun)).2.symm, fun _ _ => trivial⟩

lemma scan_does {at? : Option ℚ} (hP : Stable SameStore P) :
    Does casefold hexdigest stablePolls maxRetries P
      (scan casefold supported hexdigest quietSeconds at?)
      (fun s t => Exact casefold hexdigest s ∧ P t) fun _ => P := by
  refine bind_does (Q := fun _ => P) (Triple.perform hP (fun _ => hP)
    fun s w r t hkept hs hrun => ?_) fun r => ?_
  · cases w with
    | ok => cases hrun
    | raises e => cases hrun
    | walked found now =>
      obtain ⟨rfl, rfl⟩ := Prod.mk.inj (Option.some.inj hrun)
      exact ⟨hkept, hs⟩
  · obtain ⟨found, now⟩ := r
    dsimp only
    split
    · next s hs =>
        have hexact := exact_of_scanned hs
        exact Triple.pure hP fun t ht => ⟨hexact, ht⟩
    · exact Triple.raise hP fun _ h => h

lemma insertItems_does {m : Option Meta} {generation : ℕ} (files : List MediaFile)
    (items : List Item) :
    Does casefold hexdigest stablePolls maxRetries (At versions (some ⟨m, items⟩))
      (insertItems generation files)
      (fun _ => At versions (some ⟨m, items ++ files.map (⟨·, generation⟩)⟩))
      fun _ => AtVersions versions := by
  induction files generalizing items with
  | nil =>
    refine Triple.pure stable_at fun s h => ?_
    rwa [List.map_nil, List.append_nil]
  | cons file files ih =>
    have hinsert : ∀ d'', insertItem file generation ⟨m, items⟩ = .ok d'' →
        d'' = ⟨m, items ++ [⟨file, generation⟩]⟩ := by
      intro d'' hd
      unfold insertItem at hd
      split_ifs at hd
      exact (Except.ok.inj hd).symm
    refine bind_does (statement_does (fun _ _ => rfl) hinsert) fun _ => ?_
    have hitems : items ++ (file :: files).map (⟨·, generation⟩) =
        items ++ [⟨file, generation⟩] ++ files.map (⟨·, generation⟩) := by
      rw [List.map_cons, List.append_assoc, List.singleton_append]
    rw [hitems]
    exact ih _

/-- A version that is written after the one that was committed. -/
def Next (casefold hexdigest : String → String) (versions : List Database) (generation : ℕ)
    (s : Shared) : Prop :=
  ∃ d m, Written casefold hexdigest (newest versions) d m ∧ m.generation = generation ∧
    At (d :: versions) none s

lemma stable_next {generation : ℕ} :
    Stable SameStore (Next casefold hexdigest versions generation) :=
  fun s t h ⟨d, m, hd, hm, hs⟩ => ⟨d, m, hd, hm, stable_at s t h hs⟩

lemma commit_does {m : Meta} (hd : Written casefold hexdigest (newest versions) d m) :
    Does casefold hexdigest stablePolls maxRetries (At versions (some d)) (throwing .commit)
      (fun _ => Next casefold hexdigest versions m.generation) fun _ => AtVersions versions := by
  refine throwing_does stable_at (fun _ => stable_next) (fun _ => stable_atVersions)
    fun s w r t hkept hs hrun => ?_
  cases w with
  | walked found now => cases hrun
  | raises e =>
    obtain ⟨rfl, rfl⟩ := Prod.mk.inj (Option.some.inj hrun)
    exact ⟨hkept, atVersions_of_at hs⟩
  | ok =>
    have hstore : s.store = ⟨versions, some d⟩ := hs
    simp only [run, hstore] at hrun
    obtain ⟨rfl, rfl⟩ := Prod.mk.inj (Option.some.inj hrun)
    rw [Kept, hstore] at hkept
    exact ⟨⟨⟨m, hd⟩, hkept⟩, d, m, hd, rfl, rfl⟩

lemma writeTransaction_does {current : Scanned} (hcurrent : Exact casefold hexdigest current) :
    Does casefold hexdigest stablePolls maxRetries (At versions none)
      (writeTransaction casefold supported hexdigest quietSeconds current)
      (fun generation => Next casefold hexdigest versions generation)
      fun _ => AtVersions versions := by
  set before := newest versions with hbefore
  have hattempt : ∀ {transaction}, Does casefold hexdigest stablePolls maxRetries
      (At versions transaction) attempt (fun _ => At versions transaction)
        fun _ => AtVersions versions := fun {transaction} =>
    (attempt_does stable_at).conseq (fun _ h => h) (fun _ _ h => h) fun _ _ h => atVersions_of_at h
  refine bind_does hattempt fun _ => ?_
  refine bind_does hattempt fun _ => ?_
  refine bind_does (Q := fun _ => At versions (some before)) ?_ fun _ => ?_
  · refine throwing_does stable_at (fun _ => stable_at) (fun _ => stable_atVersions)
      fun s w r t hkept hs hrun => ?_
    have hstore : s.store = ⟨versions, none⟩ := hs
    cases w with
    | walked found now => cases hrun
    | raises e =>
      obtain ⟨rfl, rfl⟩ := Prod.mk.inj (Option.some.inj hrun)
      exact ⟨hkept, atVersions_of_at hs⟩
    | ok =>
      simp only [run, hstore, Option.isSome_none, Bool.false_eq_true, if_false] at hrun
      obtain ⟨rfl, rfl⟩ := Prod.mk.inj (Option.some.inj hrun)
      rw [Kept, hstore] at hkept
      exact ⟨hkept, rfl⟩
  have hselect : Does casefold hexdigest stablePolls maxRetries (At versions (some before))
      (throwing .selectGeneration) (fun a s => a = before.catalogMeta.map (·.generation) ∧
        At versions (some before) s) fun _ => AtVersions versions := by
    refine (answers_does stable_at fun w s r t hs hrun => ?_).conseq (fun _ h => h)
      (fun _ _ h => h) fun _ _ h => atVersions_of_at h
    have hstore : s.store = ⟨versions, some before⟩ := hs
    cases w with
    | walked found now => cases hrun
    | raises e =>
      obtain ⟨rfl, rfl⟩ := Prod.mk.inj (Option.some.inj hrun)
      exact ⟨rfl, fun _ h => nomatch h⟩
    | ok =>
      simp only [run, hstore, Option.getD_some] at hrun
      obtain ⟨rfl, rfl⟩ := Prod.mk.inj (Option.some.inj hrun)
      exact ⟨rfl, fun a ha => (Except.ok.inj ha).symm⟩
  refine bind_does hselect fun a => Triple.of_fact fun ha => ?_
  have hgeneration : a.elim 1 (· + 1) = generationOf before + 1 := by
    rw [ha, generationOf]
    cases before.catalogMeta <;> rfl
  rw [hgeneration]
  -- the items are replaced one by one, and then the fingerprint
  have hdelete : Does casefold hexdigest stablePolls maxRetries (At versions (some before))
      (throwing .deleteItems) (fun _ => At versions (some ⟨before.catalogMeta, []⟩))
      fun _ => AtVersions versions :=
    statement_does (fun _ _ => rfl) fun _ h => (Except.ok.inj h).symm
  refine bind_does hdelete fun _ => ?_
  refine bind_does (insertItems_does current.records []) fun _ => ?_
  refine bind_does (statement_does (fun _ _ => rfl) fun _ h => (Except.ok.inj h).symm) fun _ => ?_
  refine bind_does hattempt fun _ => ?_
  refine bind_does ((scan_does stable_at).conseq (fun _ h => h) (fun _ _ h => h.2)
    fun _ _ h => atVersions_of_at h) fun final => ?_
  split_ifs
  · exact Triple.raise stable_at fun _ h => atVersions_of_at h
  · refine bind_does hattempt fun _ => ?_
    refine bind_does (commit_does (written_of_exact hcurrent)) fun _ => ?_
    exact Triple.pure stable_next fun _ h => h

lemma close_does : Does casefold hexdigest stablePolls maxRetries (AtVersions versions)
    (perform .close) (fun _ => At versions none) E := by
  refine Triple.perform stable_atVersions (fun _ => stable_at) fun s w r t hkept hs hrun => ?_
  obtain ⟨rfl, rfl⟩ := Prod.mk.inj (Option.some.inj hrun)
  refine ⟨hkept, ?_⟩
  have hversions : s.store.versions = versions := hs
  rw [At, ← hversions]

lemma rollback_does : Does casefold hexdigest stablePolls maxRetries (AtVersions versions)
    (perform .rollback) (fun _ => AtVersions versions) E := by
  refine Triple.perform stable_atVersions (fun _ => stable_atVersions)
    fun s w r t hkept hs hrun => ?_
  cases w with
  | walked found now => cases hrun
  | ok =>
    obtain ⟨rfl, rfl⟩ := Prod.mk.inj (Option.some.inj hrun)
    exact ⟨hkept, hs⟩
  | raises e =>
    obtain ⟨rfl, rfl⟩ := Prod.mk.inj (Option.some.inj hrun)
    exact ⟨hkept, hs⟩

lemma abandon_does {Q : ℕ → Shared → Prop} (e : Raised) :
    Does casefold hexdigest stablePolls maxRetries (AtVersions versions) (abandon e) Q
      fun _ => At versions none := by
  have hraise : ∀ e', Does casefold hexdigest stablePolls maxRetries (At versions none)
      (.raise e') Q fun _ => At versions none := fun _ => Triple.raise stable_at fun _ h => h
  unfold abandon
  split
  · exact bind_does rollback_does fun _ => bind_does close_does fun _ => hraise _
  · exact bind_does rollback_does fun _ => bind_does close_does fun _ => hraise _
  · exact bind_does rollback_does fun _ => bind_does close_does fun _ => hraise _
  · exact bind_does close_does fun _ => hraise _

lemma closed_does {generation : ℕ} : Does casefold hexdigest stablePolls maxRetries
    (Next casefold hexdigest versions generation) (perform .close)
    (fun _ => Next casefold hexdigest versions generation) E := by
  refine Triple.perform stable_next (fun _ => stable_next) fun s w r t hkept hs hrun => ?_
  obtain ⟨rfl, rfl⟩ := Prod.mk.inj (Option.some.inj hrun)
  obtain ⟨d, m, hd, hm, hat⟩ := hs
  refine ⟨hkept, d, m, hd, hm, ?_⟩
  rw [At] at hat ⊢
  simp only [hat]

lemma writeGeneration_does (fingerprint : String) :
    Does casefold hexdigest stablePolls maxRetries (At versions none)
      (writeGeneration casefold supported hexdigest quietSeconds fingerprint)
      (fun generation => Next casefold hexdigest versions generation)
      fun _ => At versions none := by
  refine bind_does (attempt_does stable_at) fun _ => ?_
  refine Triple.tryCatch (fun _ => rfl) ?_ fun e => Triple.raise stable_at fun _ h => h
  refine bind_does (scan_does stable_at) fun current => Triple.of_fact fun hcurrent => ?_
  split_ifs
  · exact Triple.raise stable_at fun _ h => h
  · refine bind_does (attempt_does stable_at) fun _ => ?_
    refine bind_does (Triple.tryCatch (fun _ => rfl) (writeTransaction_does hcurrent) abandon_does)
      fun generation => ?_
    exact bind_does closed_does fun _ => Triple.pure stable_next fun _ h => h

end Writing

/-! ### Polls -/

section Polls

/-- No transaction is open. -/
def Closed (s : Shared) : Prop := s.store.transaction = none

lemma stable_closed : Stable SameStore Closed :=
  fun _ _ h hs => (congrArg Store.transaction h).trans hs

variable {P : Shared → Prop} {Q : α → Shared → Prop} {E : Raised → Shared → Prop}

/-- A section under the lock of the states. -/
lemma section_does {o : Op α} (ho : ∀ w s a t, run stablePolls maxRetries o w s = some (a, t) →
      t.store = s.store) :
    Does casefold hexdigest stablePolls maxRetries Closed (perform o) (fun _ => Closed) E := by
  refine Triple.perform stable_closed (fun _ => stable_closed) fun s w a t hkept hs hrun => ?_
  have hsame := ho w s a t hrun
  refine ⟨?_, (congrArg Store.transaction hsame).trans hs⟩
  rw [Kept, hsame]
  exact hkept

lemma markFailure_does {code : String} {now : ℚ} :
    Does casefold hexdigest stablePolls maxRetries Closed (perform (.markFailure code now))
      (fun _ => Closed) E :=
  section_does fun w s a t hrun => by
    obtain ⟨rfl, rfl⟩ := Prod.mk.inj (Option.some.inj hrun)
    rfl

lemma write_does (fingerprint : String) :
    Does casefold hexdigest stablePolls maxRetries Closed
      (writeGeneration casefold supported hexdigest quietSeconds fingerprint) (fun _ => Closed)
      fun _ => Closed := by
  intro s hs
  have hat : At s.store.versions none s := by
    rw [At, ← (show s.store.transaction = none from hs)]
  refine ((writeGeneration_does fingerprint).conseq (fun _ h => h) (fun _ t h => ?_)
    fun _ t h => congrArg Store.transaction h) s hat
  obtain ⟨d, m, -, -, ht⟩ := h
  exact congrArg Store.transaction ht

lemma noteFailure_does {otherCode : String} {now : ℚ} (e : Raised) :
    Does casefold hexdigest stablePolls maxRetries Closed (noteFailure otherCode now e)
      (fun _ => Closed) E := by
  cases e <;> exact markFailure_does

lemma pollOnce_does (now : ℚ) :
    Does casefold hexdigest stablePolls maxRetries Closed
      (pollOnce casefold supported hexdigest quietSeconds now) (fun _ => Closed)
      fun _ => Closed := by
  refine Triple.tryCatch (fun _ => rfl) ?_ noteFailure_does
  refine bind_does (section_does fun w s a t hrun => ?_) fun delayed => ?_
  · simp only [run] at hrun
    split_ifs at hrun <;>
      · obtain ⟨rfl, rfl⟩ := Prod.mk.inj (Option.some.inj hrun)
        rfl
  · split_ifs
    · exact Triple.pure stable_closed fun _ h => h
    · refine bind_does ((scan_does stable_closed).conseq (fun _ h => h) (fun _ _ h => h.2)
        fun _ _ h => h) fun s => ?_
      refine bind_does (section_does fun w s a t hrun => ?_) fun due => ?_
      · obtain ⟨rfl, rfl⟩ := Prod.mk.inj (Option.some.inj hrun)
        rfl
      · split_ifs
        · refine bind_does (Q := fun _ => Closed) (Triple.tryCatch (fun _ => rfl)
            (bind_does (write_does _) fun g => Triple.pure stable_closed fun _ h => h)
              fun e => ?_) fun written => ?_
          · cases e with
            | catalog code =>
              dsimp only
              split_ifs
              · refine bind_does (section_does fun w s a t hrun => ?_)
                  fun _ => Triple.pure stable_closed fun _ h => h
                obtain ⟨rfl, rfl⟩ := Prod.mk.inj (Option.some.inj hrun)
                rfl
              · exact bind_does markFailure_does fun _ => Triple.pure stable_closed fun _ h => h
            | operational locked => exact Triple.raise stable_closed fun _ h => h
            | databaseOrOs => exact Triple.raise stable_closed fun _ h => h
            | other => exact Triple.raise stable_closed fun _ h => h
          · cases written with
            | none => exact Triple.pure stable_closed fun _ h => h
            | some generation =>
              refine section_does fun w s a t hrun => ?_
              obtain ⟨rfl, rfl⟩ := Prod.mk.inj (Option.some.inj hrun)
              rfl
        · exact Triple.pure stable_closed fun _ h => h

lemma loadExisting_does (there : Bool) (now : ℚ) :
    Does casefold hexdigest stablePolls maxRetries Closed (loadExisting there now)
      (fun _ => Closed) fun _ => Closed := by
  refine Triple.tryCatch (fun _ => rfl) ?_ noteFailure_does
  refine bind_does (Q := fun _ => Closed) ?_ fun m => ?_
  · refine bind_does (attempt_does stable_closed) fun _ => ?_
    split_ifs
    · refine Triple.tryCatch (F := fun _ => Closed) (fun _ => rfl)
        (bind_does (attempt_does stable_closed) fun _ => ?_) fun e => ?_
      · refine (answers_does (R := fun _ => True) stable_closed fun w s r t _ hrun => ?_).conseq
          (fun _ h => h) (fun _ _ h => h.2) fun _ _ h => h
        cases w with
        | walked found now => cases hrun
        | ok => exact ⟨(Prod.mk.inj (Option.some.inj hrun)).2.symm, fun _ _ => trivial⟩
        | raises e => exact ⟨(Prod.mk.inj (Option.some.inj hrun)).2.symm, fun _ _ => trivial⟩
      · cases e <;> exact Triple.raise stable_closed fun _ h => h
    · exact Triple.pure stable_closed fun _ h => h
  · cases m with
    | none => exact Triple.pure stable_closed fun _ h => h
    | some m =>
      dsimp only
      split_ifs
      · exact Triple.pure stable_closed fun _ h => h
      · refine section_does fun w s a t hrun => ?_
        obtain ⟨rfl, rfl⟩ := Prod.mk.inj (Option.some.inj hrun)
        rfl

end Polls

/-! ### Runs -/

section Runs

variable (casefold supported hexdigest quietSeconds stablePolls maxRetries) in
/-- A machine keeps its versions, and a program that runs will close its transaction. -/
structure MachineOk (m : Machine) : Prop where
  kept : Kept casefold hexdigest m.shared
  idle : m.program = none → Closed m.shared
  running : ∀ program, m.program = some program →
    Safe (run stablePolls maxRetries) (Kept casefold hexdigest) SameStore (fun _ => Closed)
      (fun _ => Closed) program m.shared

variable {m m' : Machine}

lemma stepProduct_ok {e : Event} (h : MachineOk casefold hexdigest stablePolls maxRetries m)
    (he : stepProduct casefold supported hexdigest quietSeconds stablePolls maxRetries m e =
      some m') : MachineOk casefold hexdigest stablePolls maxRetries m' := by
  cases e with
  | poll now =>
    unfold stepProduct at he
    dsimp only at he
    split_ifs at he with hrunning
    cases he
    have hclosed := h.idle (by simpa using hrunning)
    refine ⟨h.kept, nofun, fun program hprogram => ?_⟩
    obtain rfl := Option.some.inj hprogram
    exact pollOnce_does now m.shared hclosed
  | loadExisting there now =>
    unfold stepProduct at he
    dsimp only at he
    split_ifs at he with hrunning
    cases he
    have hclosed := h.idle (by simpa using hrunning)
    refine ⟨h.kept, nofun, fun program hprogram => ?_⟩
    obtain rfl := Option.some.inj hprogram
    exact loadExisting_does there now m.shared hclosed
  | requestRescan =>
    cases he
    exact ⟨h.kept, h.idle, fun program hprogram =>
      (h.running program hprogram).interfere (fun hst htu => htu.trans hst) rfl⟩
  | advance w =>
    obtain ⟨program, hprogram, hafter⟩ := Option.bind_eq_some_iff.mp he
    obtain ⟨⟨p', s'⟩, hturn, rfl⟩ := Option.map_eq_some_iff.mp hafter
    have hsafe := h.running program hprogram
    cases program with
    | pure a => cases hturn
    | raise e => cases hturn
    | op o k =>
      obtain ⟨⟨b, u⟩, hrun, heq⟩ := Option.map_eq_some_iff.mp hturn
      obtain ⟨rfl, rfl⟩ := Prod.mk.inj heq
      obtain ⟨hkept, hsafe⟩ := hsafe m.shared rfl h.kept w b u hrun
      refine ⟨hkept, fun hnone => ?_, fun program hprogram' => ?_⟩
      · dsimp only at hnone
        cases hk : k b with
        | pure a =>
          rw [hk] at hsafe
          exact hsafe u rfl
        | raise e =>
          rw [hk] at hsafe
          exact hsafe u rfl
        | op o' k' =>
          rw [hk] at hnone
          cases hnone
      · dsimp only at hprogram'
        split_ifs at hprogram'
        obtain rfl := Option.some.inj hprogram'
        exact hsafe
  | restart =>
    cases he
    exact ⟨h.kept, fun _ => rfl, nofun⟩

lemma machineOk_of_exec {events : List (Product × Event)} {s : State}
    (h : exec (step casefold supported hexdigest quietSeconds stablePolls maxRetries) initial
      events = some s) (product : Product) :
    MachineOk casefold hexdigest stablePolls maxRetries (s product) := by
  have hstart : ∀ product, MachineOk casefold hexdigest stablePolls maxRetries
      (initial product) := fun _ => ⟨trivial, fun _ => rfl, nofun⟩
  refine inv_of_exec_all (P := fun s => ∀ product, MachineOk casefold hexdigest stablePolls
    maxRetries (s product)) (fun s e t hs he product => ?_) hstart h product
  obtain ⟨m, hm, rfl⟩ := Option.map_eq_some_iff.mp he
  by_cases hproduct : product = e.1
  · subst hproduct
    rw [Function.update_self]
    exact stepProduct_ok (hs _) hm
  · rw [Function.update_of_ne hproduct]
    exact hs product

/-- A write, between the requests that come in the meantime. -/
inductive Turn
  | advance (w : Outcome)
  | requestRescan

variable (stablePolls maxRetries) in
def stepWrite (c : Program ℕ × Shared) : Turn → Option (Program ℕ × Shared)
  | .advance w => c.1.turn (run stablePolls maxRetries) w c.2
  | .requestRescan => some (c.1, requestRescan c.2)

lemma safe_of_writes {turns : List Turn} {p q : Program ℕ} {s t : Shared} {Q : ℕ → Shared → Prop}
    {E : Raised → Shared → Prop} (hkept : Kept casefold hexdigest s)
    (hsafe : Safe (run stablePolls maxRetries) (Kept casefold hexdigest) SameStore Q E p s)
    (he : exec (stepWrite stablePolls maxRetries) (p, s) turns = some (q, t)) :
    Safe (run stablePolls maxRetries) (Kept casefold hexdigest) SameStore Q E q t := by
  induction turns generalizing p s with
  | nil =>
    cases he
    exact hsafe
  | cons turn turns ih =>
    obtain ⟨⟨p', s'⟩, hturn, he⟩ := exec_cons_eq_some.mp he
    cases turn with
    | requestRescan =>
      cases hturn
      have hrequest : SameStore s (requestRescan s) := rfl
      exact ih (s := requestRescan s) hkept
        (hsafe.interfere (fun hst htu => htu.trans hst) hrequest) he
    | advance w =>
      cases p with
      | pure a => cases hturn
      | raise e => cases hturn
      | op o k =>
        obtain ⟨⟨b, u⟩, hrun, heq⟩ := Option.map_eq_some_iff.mp hturn
        obtain ⟨rfl, rfl⟩ := Prod.mk.inj heq
        obtain ⟨hu, hsafe⟩ := hsafe s rfl hkept w b u hrun
        exact ih hu hsafe he

variable (casefold supported hexdigest quietSeconds stablePolls maxRetries) in
/-- **Generations.** In every run of polls, boot checks, requests and restarts, each version of
each database that was ever committed was written after the one before it: its generation is the
next one, all its items have it, and its fingerprint is that of its items in any order. A write
that raises, wherever it does, leaves the database as it was; one that returns has committed just
the next version. -/
theorem catalog_generations :
    (∀ (events : List (Product × Event)) (s : State),
      exec (step casefold supported hexdigest quietSeconds stablePolls maxRetries) initial events =
        some s → ∀ product, Successive casefold hexdigest (s product).shared.store.versions) ∧
    ∀ (fingerprint : String) (s : Shared) (turns : List Turn) (q : Program ℕ) (t : Shared),
      Closed s → Successive casefold hexdigest s.store.versions →
      exec (stepWrite stablePolls maxRetries)
        (writeGeneration casefold supported hexdigest quietSeconds fingerprint, s) turns =
          some (q, t) →
      (∀ e, q = .raise e → t.store = s.store) ∧
      ∀ generation, q = .pure generation →
        ∃ d m, Written casefold hexdigest (newest s.store.versions) d m ∧
          m.generation = generation ∧ t.store = ⟨d :: s.store.versions, none⟩ := by
  refine ⟨fun events s he product => (machineOk_of_exec he product).kept, ?_⟩
  intro fingerprint s turns q t hclosed hkept he
  have hat : At s.store.versions none s := by
    rw [At, ← (show s.store.transaction = none from hclosed)]
  have hsafe : Safe (run stablePolls maxRetries) (Kept casefold hexdigest) SameStore
      (fun generation => Next casefold hexdigest s.store.versions generation)
      (fun _ => At s.store.versions none) q t :=
    safe_of_writes hkept (writeGeneration_does fingerprint s hat) he
  constructor
  · rintro e rfl
    exact (hsafe t rfl).trans hat.symm
  · rintro generation rfl
    exact hsafe t rfl

end Runs

/-! ### A first generation -/

/-- A file that was there long before both walks of the write, which a request overtakes. -/
def firstWrite : List Turn :=
  [.advance .ok, .advance (.walked [.file "spot.mp3" false true 3 0] 100), .requestRescan] ++
    List.replicate 9 (.advance .ok) ++
    [.advance (.walked [.file "spot.mp3" false true 3 0] 101)] ++ List.replicate 3 (.advance .ok)

theorem first_generation : ∃ t,
    exec (stepWrite 2 4)
      (writeGeneration id (fun _ => true) (fun _ => "digest") 8 "digest", Machine.new.shared)
        firstWrite = some (.pure 1, t) ∧
    ∃ d m, Written id (fun _ => "digest") ⟨none, []⟩ d m ∧ m.generation = 1 ∧
      t.store = ⟨[d], none⟩ := by
  have hreturned : ((exec (stepWrite 2 4)
      (writeGeneration id (fun _ => true) (fun _ => "digest") 8 "digest", Machine.new.shared)
        firstWrite).bind fun c => match c.1 with
          | .pure generation => some generation
          | _ => none) = some 1 := by decide +kernel
  obtain ⟨⟨q, t⟩, ht, hq⟩ := Option.bind_eq_some_iff.mp hreturned
  cases q with
  | raise e => cases hq
  | op o k => cases hq
  | pure generation =>
    cases hq
    exact ⟨t, ht, ((catalog_generations id (fun _ => true) (fun _ => "digest") 8 2 4).2 "digest"
      Machine.new.shared firstWrite _ t rfl trivial ht).2 1 rfl⟩

end OnAir.CatalogGenerations
