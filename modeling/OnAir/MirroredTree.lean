import Mathlib.Data.List.Dedup
import OnAir.MediaMirror

/-!
What a synchronisation of the media mirror leaves at the destination.

The destination is only ever exchanged as a whole, for a tree that has been verified. Between the
two renames it is not there; when nothing fails while it is not there, every synchronisation that
comes to its end leaves the tree that it found or a verified copy of its source.
-/

namespace OnAir.MirroredTree

open MediaMirror Resumption Runs WeakestPre

variable (sha256 : Bytes → String)

/-! ### Copies -/

/-- What `compare` looks at in an entry. -/
def keyOf (i : Item) : String × String := (i.path, i.sha256)

variable {sha256} {items items' : List Item}

lemma lookup_key (path : String) : (lookup items path).map keyOf =
    ((items.map keyOf).reverse.find? fun k => k.1 = path) := by
  rw [lookup, ← List.map_reverse, List.find?_map]
  rfl

lemma lookup_congr (h : items.map keyOf = items'.map keyOf) (path : String) :
    (lookup items path).map keyOf = (lookup items' path).map keyOf := by
  rw [lookup_key, lookup_key, h]

lemma lookup_isSome {path : String} (h : path ∈ items.map (·.path)) :
    (lookup items path).isSome := by
  obtain ⟨i, hi, rfl⟩ := List.mem_map.mp h
  rw [lookup, List.find?_isSome]
  exact ⟨i, List.mem_reverse.mpr hi, by simp⟩

lemma filter_paths_eq_nil {p : String → Bool} (h : ∀ path ∈ items.map (·.path), p path = false) :
    ((items.map (·.path)).dedup.insertionSort (· ≤ ·)).filter p = [] := by
  rw [List.filter_eq_nil_iff]
  intro path hpath
  simp [h path (List.mem_dedup.mp ((List.perm_insertionSort ..).mem_iff.mp hpath))]

/-- A copy with the digests of the manifest verifies. -/
lemma verifies_of_keys {m : Manifest} {t : Files}
    (h : (t.map (itemOf sha256)).map keyOf = m.items.map keyOf) :
    verifies sha256 m t = true := by
  have hpaths : (t.map (itemOf sha256)).map (·.path) = m.items.map (·.path) := by
    have hfst := congrArg (List.map Prod.fst) h
    simpa only [List.map_map, Function.comp_def, keyOf] using hfst
  have hmissing : (((m.items.map (·.path)).dedup.insertionSort (· ≤ ·)).filter fun p =>
      (lookup (t.map (itemOf sha256)) p).isNone) = [] := by
    refine filter_paths_eq_nil fun path hpath => ?_
    rw [← hpaths] at hpath
    simp [Option.isNone_eq_false_iff, lookup_isSome hpath]
  have hextra : ((((t.map (itemOf sha256)).map (·.path)).dedup.insertionSort (· ≤ ·)).filter
      fun p => (lookup m.items p).isNone) = [] := by
    refine filter_paths_eq_nil fun path hpath => ?_
    rw [hpaths] at hpath
    simp [Option.isNone_eq_false_iff, lookup_isSome hpath]
  have hchanged : (((m.items.map (·.path)).dedup.insertionSort (· ≤ ·)).filter fun p =>
      (lookup (t.map (itemOf sha256)) p).any fun i =>
        (lookup m.items p).map (·.sha256) ≠ some i.sha256) = [] := by
    refine filter_paths_eq_nil fun path _ => ?_
    have hsame := congrArg (Option.map Prod.snd) (lookup_congr h path)
    cases hi : lookup (t.map (itemOf sha256)) path with
    | none => rfl
    | some i =>
      rw [hi, Option.map_map, Option.map_map] at hsame
      simpa [keyOf] using hsame.symm
  simp only [verifies, compareTo, manifest, hmissing, hextra, hchanged, List.isEmpty_nil,
    Bool.and_self]

/-! ### What may go wrong, and when -/

/-- The operation goes well, and a file that is copied is still the one that was listed. -/
def goesWell (sha256 : Bytes → String) : {β : Type} → Op β → Answer → Bool
  | _, .copy item, w =>
    w.good && (w.source.find? (·.1 = item.path)).any fun f => sha256 f.2 = item.sha256
  | _, .isThere _, _ => true
  | _, .discardStaging, _ => true
  | _, _, w => w.good

def present (s : Store) : Bool := (s.disk .destination).isSome

/-- An operation goes wrong only while the destination is there. -/
def undisturbed (sha256 : Bytes → String) (s : State) : Event → Bool
  | .advance w => present s.store ||
    match s.call with
    | some ⟨_, .op o _⟩ => goesWell sha256 o w
    | _ => true
  | _ => true

def runOk (sha256 : Bytes → String) {β : Type} (o : Op β) (w : Answer) (s : Store) :
    Option (β × Store) :=
  if present s || goesWell sha256 o w then run sha256 o w s else none

/-- The destination is as it was at first or a verified copy, if it is there. -/
def Whole (sha256 : Bytes → String) (first : Files) (s : Store) : Prop :=
  ∀ t ∈ s.disk .destination, t = first ∨ ∃ m ∈ s.taken, verifies sha256 m t = true

/-- What a synchronisation may leave: the destination that it found, or a copy of its source. -/
def Left (sha256 : Bytes → String) (found : Option Files) (s : Store) : Prop :=
  ∃ t ∈ s.disk .destination, found = some t ∨ ∃ m ∈ s.taken.head?, verifies sha256 m t = true

/-- A verified copy of the source is at the destination. -/
def Mirrored (sha256 : Bytes → String) (m : Manifest) (s : Store) : Prop :=
  s.taken.head? = some m ∧ ∃ t ∈ s.disk .destination, verifies sha256 m t = true

section Programs

variable {first : Files} {found : Option Files} {m : Manifest} {α β : Type}
  {P : Store → Prop} {Q : α → Store → Prop} {R : β → Store → Prop} {E : Raised → Store → Prop}

variable (sha256 first) in
abbrev Does (P : Store → Prop) (p : Program α) (Q : α → Store → Prop)
    (E : Raised → Store → Prop) : Prop :=
  Triple (runOk sha256) (Whole sha256 first) Eq P p Q E

/-- An operation, as it goes while the destination is there and while it is not. -/
lemma perform_does {o : Op α} (hop : ∀ s w a u, Whole sha256 first s → P s →
    (present s = true ∨ goesWell sha256 o w = true) → run sha256 o w s = some (a, u) →
      Whole sha256 first u ∧ Q a u) : Does sha256 first P (perform o) Q E := by
  refine Triple.performAlone fun s w a u hwhole hs hrun => ?_
  obtain ⟨hw, hrun⟩ := Option.ite_none_right_eq_some.mp hrun
  exact hop s w a u hwhole hs (by simpa using hw) hrun

lemma throwing_does {o : Op (Except Raised α)} (hop : ∀ s w r u, Whole sha256 first s → P s →
    (present s = true ∨ goesWell sha256 o w = true) → run sha256 o w s = some (r, u) →
      Whole sha256 first u ∧ match r with
        | .ok a => Q a u
        | .error e => E e u) : Does sha256 first P (throwing o) Q E := by
  refine Triple.throwing (fun _ => rfl) (fun _ => rfl) fun s w r u hwhole hs hrun => ?_
  obtain ⟨hw, hrun⟩ := Option.ite_none_right_eq_some.mp hrun
  have hended := hop s w r u hwhole hs (by simpa using hw) hrun
  cases r <;> exact hended

lemma isThere_does (p : Place) :
    Does sha256 first P (perform (.isThere p)) (fun b s => P s ∧ b = (s.disk p).isSome) E := by
  refine perform_does fun s w b u hwhole hs _ hrun => ?_
  obtain ⟨rfl, rfl⟩ := Prod.mk.inj (Option.some.inj hrun)
  exact ⟨hwhole, hs, rfl⟩

/-! ### The disk -/

@[simp] lemma disk_setDisk_self (p : Place) (t : Option Files) (s : Store) :
    (setDisk p t s).disk p = t := Function.update_self ..

lemma disk_setDisk {p q : Place} (h : q ≠ p) (t : Option Files) (s : Store) :
    (setDisk p t s).disk q = s.disk q := Function.update_of_ne h ..

lemma Whole.aside {p : Place} {t : Option Files} {s : Store} (h : Whole sha256 first s)
    (hp : Place.destination ≠ p) : Whole sha256 first (setDisk p t s) := by
  intro d hd
  rw [disk_setDisk hp] at hd
  exact h d hd

lemma left_of_present {s : Store} (hs : s.disk .destination = found) (h : present s = true) :
    Left sha256 found s := by
  obtain ⟨t, ht⟩ := Option.isSome_iff_exists.mp h
  exact ⟨t, ht, .inl (hs ▸ ht)⟩

lemma Mirrored.left {s : Store} (h : Mirrored sha256 m s) : Left sha256 found s :=
  let ⟨hm, t, ht, hv⟩ := h
  ⟨t, ht, .inr ⟨m, hm, hv⟩⟩

lemma Left.aside {p : Place} {t : Option Files} {s : Store} (h : Left sha256 found s)
    (hp : Place.destination ≠ p) : Left sha256 found (setDisk p t s) := by
  obtain ⟨d, hd, hor⟩ := h
  exact ⟨d, by rwa [disk_setDisk hp], hor⟩

lemma Mirrored.aside {p : Place} {t : Option Files} {s : Store} (h : Mirrored sha256 m s)
    (hp : Place.destination ≠ p) : Mirrored sha256 m (setDisk p t s) := by
  obtain ⟨hm, d, hd, hv⟩ := h
  exact ⟨hm, d, by rwa [disk_setDisk hp], hv⟩

/-! ### The operations -/

section Run

variable {s u : Store} {w : Answer}

lemma run_copy {item : Item} {r : Except Raised Unit}
    (h : run sha256 (.copy item) w s = some (r, u)) :
    (∃ f, w.source.find? (·.1 = item.path) = some f ∧
      (goesWell sha256 (.copy item) w = true → sha256 f.2 = item.sha256) ∧ r = .ok () ∧
      u = setDisk .staging ((s.disk .staging).map (· ++ [f])) s) ∨
    (goesWell sha256 (.copy item) w = false ∧ r = .error .os ∧ u = setDisk .staging w.left s) := by
  simp only [run] at h
  split at h
  · next f hg hf =>
    obtain ⟨rfl, rfl⟩ := Prod.mk.inj (Option.some.inj h)
    exact .inl ⟨f, hf, fun hgoes => by simpa [goesWell, hg, hf] using hgoes, rfl, rfl⟩
  · next hno =>
    obtain ⟨rfl, rfl⟩ := Prod.mk.inj (Option.some.inj h)
    refine .inr ⟨?_, rfl, rfl⟩
    cases hg : w.good with
    | false => simp [goesWell, hg]
    | true =>
      cases hf : w.source.find? (·.1 = item.path) with
      | none => simp [goesWell, hf]
      | some f => exact absurd hf (hno f hg)

lemma run_removeTree {p : Place} {r : Except Raised Unit}
    (h : run sha256 (.removeTree p) w s = some (r, u)) :
    (r = .ok () ∧ u = setDisk p none s) ∨
      (w.good = false ∧ r = .error .os ∧ u = setDisk p w.left s) := by
  simp only [run] at h
  cases hg : w.good <;> simp only [hg, if_true, if_false, Bool.false_eq_true] at h <;>
    obtain ⟨rfl, rfl⟩ := Prod.mk.inj (Option.some.inj h)
  · exact .inr ⟨rfl, rfl, rfl⟩
  · exact .inl ⟨rfl, rfl⟩

lemma run_replace {source target : Place} {r : Except Raised Unit}
    (h : run sha256 (.replace source target) w s = some (r, u)) :
    (w.good = true ∧ r = .ok () ∧
      u = setDisk source none (setDisk target (s.disk source) s)) ∨
    (¬(w.good = true ∧ (s.disk source).isSome ∧ (s.disk target).isNone) ∧ r = .error .os ∧
      u = s) := by
  simp only [run] at h
  split at h
  · next hgood =>
    obtain ⟨rfl, rfl⟩ := Prod.mk.inj (Option.some.inj h)
    exact .inl ⟨hgood.1, rfl, rfl⟩
  · next hbad =>
    obtain ⟨rfl, rfl⟩ := Prod.mk.inj (Option.some.inj h)
    exact .inr ⟨hbad, rfl, rfl⟩

lemma run_compareAt {p : Place} {expected : Manifest} {r : Except Raised Comparison}
    (h : run sha256 (.compareAt p expected) w s = some (r, u)) :
    u = s ∧ (r = .ok (compareTo sha256 expected p.root ((s.disk p).getD [])) ∨
      w.good = false ∧ r = .error .os) := by
  simp only [run] at h
  cases hg : w.good <;> simp only [hg, if_true, if_false, Bool.false_eq_true] at h <;>
    obtain ⟨rfl, rfl⟩ := Prod.mk.inj (Option.some.inj h)
  · exact ⟨rfl, .inr ⟨rfl, rfl⟩⟩
  · exact ⟨rfl, .inl rfl⟩

end Run

/-! ### The steps of a synchronisation -/

/-- Staging goes on: the destination is as it was found, and when it was not there the staged
files are those of the items. -/
structure Staging (sha256 : Bytes → String) (found : Option Files) (m : Manifest)
    (done : List Item) (s : Store) : Prop where
  destination : s.disk .destination = found
  taken : s.taken.head? = some m
  staged : ∃ t, s.disk .staging = some t ∧
    (found = none → (t.map (itemOf sha256)).map keyOf = done.map keyOf)

/-- The staged tree is verified, and the destination still as it was found. -/
structure Staged (sha256 : Bytes → String) (found : Option Files) (m : Manifest) (s : Store) :
    Prop where
  destination : s.disk .destination = found
  taken : s.taken.head? = some m
  staged : ∃ t, s.disk .staging = some t ∧ verifies sha256 m t = true

lemma Staged.aside {s : Store} {p : Place} {t : Option Files} (h : Staged sha256 found m s)
    (hd : Place.destination ≠ p) (hs : Place.staging ≠ p) :
    Staged sha256 found m (setDisk p t s) :=
  ⟨by rw [disk_setDisk hd, h.destination], h.taken, by rw [disk_setDisk hs]; exact h.staged⟩

lemma copyItems_does (hsafe : ∀ i ∈ m.items, isUnsafe i.path = false) :
    ∀ (done rest : List Item), m.items = done ++ rest →
      Does sha256 first (Staging sha256 found m done) (copyItems rest)
        (fun _ => Staging sha256 found m m.items) fun _ => Left sha256 found := by
  intro done rest
  induction rest generalizing done with
  | nil =>
    intro hitems
    rw [List.append_nil] at hitems
    exact Triple.pureAlone fun s hs => hitems ▸ hs
  | cons item rest ih =>
    intro hitems
    have hitem : isUnsafe item.path = false := hsafe item (by simp [hitems])
    unfold copyItems
    rw [if_neg (by simp [hitem])]
    refine Triple.bindAlone (Q := fun _ => Staging sha256 found m (done ++ [item]))
      (throwing_does fun s w r u hwhole hs hgoes hrun => ?_) fun _ =>
        ih (done ++ [item]) (by simpa using hitems)
    rcases run_copy hrun with ⟨f, hf, hdigest, rfl, rfl⟩ | ⟨hbad, rfl, rfl⟩
    · obtain ⟨t, ht, hkeys⟩ := hs.staged
      refine ⟨hwhole.aside (by decide), ?_, hs.taken, t ++ [f], by simp [ht], fun hnone => ?_⟩
      · rw [disk_setDisk (by decide), hs.destination]
      · have habsent : ¬present s = true := by simp [present, hs.destination, hnone]
        have hpath : f.1 = item.path := by simpa using List.find?_some hf
        simp [hkeys hnone, itemOf, keyOf, hpath, hdigest (hgoes.resolve_left habsent)]
    · refine ⟨hwhole.aside (by decide), ?_⟩
      have hpresent := hgoes.resolve_right (by simp [hbad])
      exact (left_of_present hs.destination hpresent).aside (by decide)

lemma removeIfThere_does {F : Store → Prop} (hP : ∀ s t, P s → P (setDisk .previous t s))
    (hF : ∀ s, P s → present s = true → F s) (hFP : ∀ s t, F s → F (setDisk .previous t s)) :
    Does sha256 first P (removeIfThere .previous)
      (fun _ s => P s ∧ s.disk .previous = none) fun _ => F := by
  refine Triple.bindAlone (isThere_does .previous) fun b => ?_
  cases b with
  | false => exact Triple.pureAlone fun s hs => ⟨hs.1, by simpa using hs.2⟩
  | true =>
    refine throwing_does fun s w r u hwhole hs hgoes hrun => ?_
    rcases run_removeTree hrun with ⟨rfl, rfl⟩ | ⟨hbad, rfl, rfl⟩
    · exact ⟨hwhole.aside (by decide), hP s none hs.1, by simp⟩
    · exact ⟨hwhole.aside (by decide),
        hFP s _ (hF s hs.1 (hgoes.resolve_right (by simp [goesWell, hbad])))⟩

lemma setAside_does : Does sha256 first
    (fun s => Staged sha256 found m s ∧ s.disk .previous = none)
    setAside (fun _ s => Staged sha256 none m s) fun _ => Left sha256 found := by
  refine Triple.bindAlone (isThere_does .destination) fun b => ?_
  cases b with
  | false =>
    refine Triple.pureAlone fun s hs => ?_
    obtain ⟨⟨hstaged, -⟩, hb⟩ := hs
    exact ⟨by simpa using hb, hstaged.taken, hstaged.staged⟩
  | true =>
    refine throwing_does fun s w r u hwhole hs _ hrun => ?_
    obtain ⟨⟨hstaged, hprevious⟩, hb⟩ := hs
    rcases run_replace hrun with ⟨-, rfl, rfl⟩ | ⟨-, rfl, rfl⟩
    · refine ⟨fun t ht => by simp at ht, by simp, hstaged.taken, ?_⟩
      rw [disk_setDisk (by decide), disk_setDisk (by decide)]
      exact hstaged.staged
    · exact ⟨hwhole, left_of_present hstaged.destination hb.symm⟩

/-- The staged tree comes to the destination; nothing fails while that is empty. -/
lemma putInPlace_does : Does sha256 first (Staged sha256 none m)
    (throwing (.replace .staging .destination)) (fun _ => Mirrored sha256 m)
    fun _ => Left sha256 found := by
  refine throwing_does fun s w r u hwhole hs hgoes hrun => ?_
  obtain ⟨t, ht, hv⟩ := hs.staged
  have hgood : w.good = true := hgoes.resolve_left (by simp [present, hs.destination])
  rcases run_replace hrun with ⟨-, rfl, rfl⟩ | ⟨hbad, rfl, rfl⟩
  · have hplace : (setDisk .staging none (setDisk .destination (s.disk .staging) s)).disk
        .destination = some t := by
      rw [disk_setDisk (by decide), disk_setDisk_self, ht]
    refine ⟨fun t' ht' => .inr ⟨m, ?_, ?_⟩, hs.taken, t, hplace, hv⟩
    · exact List.mem_of_mem_head? hs.taken
    · obtain rfl : t = t' := Option.some.inj (hplace.symm.trans ht')
      exact hv
  · exact absurd ⟨hgood, by simp [ht], by simp [hs.destination]⟩ hbad

lemma promote_does : Does sha256 first (Staged sha256 found m) promote (fun _ => Mirrored sha256 m)
    fun _ => Left sha256 found := by
  have hfirst : Does sha256 first (Staged sha256 found m) (removeIfThere .previous)
      (fun _ s => Staged sha256 found m s ∧ s.disk .previous = none) fun _ => Left sha256 found :=
    removeIfThere_does (fun s t h => h.aside (by decide) (by decide))
      (fun s h => left_of_present h.destination) fun s t h => h.aside (by decide)
  have hlast : Does sha256 first (Mirrored sha256 m) (removeIfThere .previous)
      (fun _ s => Mirrored sha256 m s ∧ s.disk .previous = none) fun _ => Left sha256 found :=
    removeIfThere_does (fun s t h => h.aside (by decide)) (fun s h _ => h.left)
      fun s t h => h.aside (by decide)
  unfold promote
  refine Triple.bindAlone hfirst fun _ => ?_
  refine Triple.bindAlone setAside_does fun _ => Triple.bindAlone putInPlace_does fun _ => ?_
  exact hlast.conseq (fun _ h => h) (fun _ _ h => h.1) fun _ _ h => h

/-- The comparison changes nothing, and tells whether the staged tree verifies. -/
lemma verify_does : Does sha256 first (Staging sha256 found m m.items)
    (throwing (.compareAt .staging m))
    (fun c s => if !c.ready || !c.extra.isEmpty then Left sha256 found s
      else Staged sha256 found m s) fun _ => Left sha256 found := by
  refine throwing_does fun s w r u hwhole hs hgoes hrun => ?_
  obtain ⟨t, ht, hkeys⟩ := hs.staged
  obtain ⟨rfl, rfl | ⟨hbad, rfl⟩⟩ := run_compareAt hrun
  · refine ⟨hwhole, ?_⟩
    have hsame : compareTo sha256 m Place.staging.root t =
        { compareTo sha256 m "" t with actual := manifest sha256 Place.staging.root t } := rfl
    have hiff : (!(compareTo sha256 m "" t).ready || !(compareTo sha256 m "" t).extra.isEmpty) =
        !verifies sha256 m t := by
      rw [verifies, Bool.not_and]
    dsimp only
    rw [ht, Option.getD_some, hsame]
    dsimp only
    rw [hiff]
    cases hv : verifies sha256 m t with
    | true => exact ⟨hs.destination, hs.taken, t, ht, hv⟩
    | false =>
      refine left_of_present hs.destination ?_
      rw [present, hs.destination]
      cases hfound : found with
      | some d => rfl
      | none => simp [verifies_of_keys (hkeys hfound)] at hv
  · exact ⟨hwhole, left_of_present hs.destination (hgoes.resolve_right (by simp [goesWell, hbad]))⟩

lemma stageAndPromote_does (hsafe : ∀ i ∈ m.items, isUnsafe i.path = false) :
    Does sha256 first (Staging sha256 found m []) (stageAndPromote m)
      (fun _ => Mirrored sha256 m) fun _ => Left sha256 found := by
  refine Triple.bindAlone (copyItems_does hsafe [] m.items rfl) fun _ =>
    Triple.bindAlone verify_does fun c => ?_
  split
  · exact Triple.raiseAlone fun _ h => h
  · refine Triple.bindAlone promote_does fun _ => throwing_does fun s w r u hwhole hs _ hrun => ?_
    obtain ⟨rfl, rfl | ⟨-, rfl⟩⟩ := run_compareAt hrun
    · exact ⟨hwhole, hs⟩
    · exact ⟨hwhole, hs.left⟩

lemma discard_does (hP : ∀ s t, P s → P (setDisk .staging t s)) :
    Does sha256 first P discard (fun _ => P) E := by
  refine Triple.bindAlone (isThere_does .staging) fun b => ?_
  cases b with
  | false => exact Triple.pureAlone fun s hs => hs.1
  | true =>
    refine perform_does fun s w a u hwhole hs _ hrun => ?_
    obtain ⟨rfl, rfl⟩ := Prod.mk.inj (Option.some.inj hrun)
    exact ⟨hwhole.aside (by decide), hP s _ hs.1⟩

lemma finallyDo_does {p : Program α} (h : Does sha256 first P p Q E)
    (hQ : ∀ a s t, Q a s → Q a (setDisk .staging t s))
    (hE : ∀ e s t, E e s → E e (setDisk .staging t s)) :
    Does sha256 first P (finallyDo p discard) Q E := by
  refine Triple.bindAlone (Q := Q) (h.tryCatch (fun _ => rfl) fun e => ?_) fun a => ?_
  · exact Triple.bindAlone (discard_does (hE e)) fun _ => Triple.raiseAlone fun _ h => h
  · exact Triple.bindAlone (discard_does (hQ a)) fun _ => Triple.pureAlone fun _ h => h

/-- **A synchronisation** that finds a destination, or none, leaves what it found or a copy. -/
theorem synchronize_does : Does sha256 first (fun s => s.disk .destination = found) synchronize
    (fun _ s => ∃ m, Mirrored sha256 m s) fun _ => Left sha256 found := by
  refine Triple.bindAlone
    (Q := fun b s => s.disk .destination = found ∧ (b = false → present s = true))
    (perform_does fun s w b u hwhole hs hgoes hrun => ?_) fun b => ?_
  · obtain ⟨rfl, rfl⟩ := Prod.mk.inj (Option.some.inj hrun)
    exact ⟨hwhole, hs, fun hb => hgoes.resolve_right (by simp [goesWell, hb])⟩
  cases b with
  | false => exact Triple.raiseAlone fun s hs => left_of_present hs.1 (hs.2 rfl)
  | true =>
    refine Triple.bindAlone (Q := fun m s =>
        (s.disk .destination = found ∧ s.taken.head? = some m) ∧
          ∀ i ∈ m.items, isUnsafe i.path = false)
      (throwing_does fun s w r u hwhole hs hgoes hrun => ?_) fun m => ?_
    · simp only [run] at hrun
      split at hrun
      · cases hrun
      · next hwalk =>
        cases hg : w.good <;>
          simp only [hg, if_true, if_false, Bool.false_eq_true] at hrun <;>
          obtain ⟨rfl, rfl⟩ := Prod.mk.inj (Option.some.inj hrun)
        · exact ⟨hwhole, left_of_present hs.1 (hgoes.resolve_right (by simp [goesWell, hg]))⟩
        · refine ⟨fun t ht => (hwhole t ht).imp_right fun ⟨m, hm, hv⟩ =>
            ⟨m, List.mem_cons_of_mem _ hm, hv⟩, ⟨hs.1, rfl⟩, fun i hi => ?_⟩
          obtain ⟨f, hf, rfl⟩ := List.mem_map.mp hi
          have hall : (w.source.all fun f => !isUnsafe f.1) = true := by
            simp only [isWalk, Bool.not_eq_true, Bool.not_eq_false', Bool.and_eq_true] at hwalk
            exact hwalk.2
          simpa [itemOf] using List.all_eq_true.mp hall f hf
    · intro s hs
      refine (Triple.bindAlone (Q := fun _ => Staging sha256 found m [])
        (P := fun s => s.disk .destination = found ∧ s.taken.head? = some m)
        (throwing_does fun s w r u hwhole hs hgoes hrun => ?_) fun _ => ?_) s hs.1
      · simp only [run] at hrun
        cases hg : w.good <;>
          simp only [hg, if_true, if_false, Bool.false_eq_true] at hrun <;>
          obtain ⟨rfl, rfl⟩ := Prod.mk.inj (Option.some.inj hrun)
        · exact ⟨hwhole, left_of_present hs.1 (hgoes.resolve_right (by simp [goesWell, hg]))⟩
        · refine ⟨hwhole.aside (by decide), ?_, hs.2, [], by simp, fun _ => rfl⟩
          rw [disk_setDisk (by decide)]
          exact hs.1
      · refine (finallyDo_does (stageAndPromote_does hs.2) (fun _ _ _ h => h.aside (by decide))
          fun _ _ _ h => h.aside (by decide)).conseq (fun _ h => h)
          (fun _ _ h => ⟨m, h⟩) fun _ _ h => h

end Programs

/-! ### Runs -/

section Runs

variable {first : Files} {s t : State}

/-- What a synchronisation that has ended leaves, and what one in progress goes on to do. -/
structure Sound (sha256 : Bytes → String) (first : Files) (s : State) : Prop where
  whole : Whole sha256 first s.store
  ended : ∀ e, s.ended = some e → Left sha256 e.found s.store
  call : ∀ c, s.call = some c → Safe (runOk sha256) (Whole sha256 first) Eq
    (fun _ s => ∃ m, Mirrored sha256 m s) (fun _ => Left sha256 c.found) c.program s.store

lemma sound_start (previous : Option Files) : Sound sha256 first (start first previous) where
  whole t ht := .inl (Option.some.inj ht).symm
  ended e he := by cases he
  call c hc := by cases hc

lemma sound_advance {w : Answer} (h : Sound sha256 first s)
    (hok : undisturbed sha256 s (.advance w) = true) (hs : advance sha256 s w = some t) :
    Sound sha256 first t := by
  unfold advance at hs
  obtain ⟨c, hc, hs⟩ := Option.bind_eq_some_iff.mp hs
  obtain ⟨⟨p, u⟩, hturn, heq⟩ := Option.map_eq_some_iff.mp hs
  have hsafe := h.call c hc
  obtain ⟨found, program⟩ := c
  cases program with
  | pure a => cases hturn
  | raise e => cases hturn
  | op o k =>
    obtain ⟨⟨b, u'⟩, hrun, hpair⟩ := Option.map_eq_some_iff.mp hturn
    obtain ⟨rfl, rfl⟩ := Prod.mk.inj hpair
    have hgoes : (present s.store || goesWell sha256 o w) = true := by
      simpa [undisturbed, hc] using hok
    obtain ⟨hwhole, hnext⟩ := hsafe s.store rfl h.whole w b u' ((if_pos hgoes).trans hrun)
    dsimp only at heq
    cases hk : k b with
    | pure a =>
      rw [hk] at heq hnext
      obtain rfl := heq
      obtain ⟨m, hm⟩ := hnext u' rfl
      refine ⟨hwhole, fun e he => ?_, nofun⟩
      obtain rfl := Option.some.inj he
      exact hm.left
    | raise e =>
      rw [hk] at heq hnext
      obtain rfl := heq
      refine ⟨hwhole, fun e he => ?_, nofun⟩
      obtain rfl := Option.some.inj he
      exact hnext u' rfl
    | op o' k' =>
      rw [hk] at heq hnext
      obtain rfl := heq
      refine ⟨hwhole, nofun, fun c hc' => ?_⟩
      obtain rfl := Option.some.inj hc'
      exact hnext

lemma sound_step {e : Event} (h : Sound sha256 first s) (hok : undisturbed sha256 s e = true)
    (hs : step sha256 s e = some t) : Sound sha256 first t := by
  cases e with
  | synchronize =>
    obtain ⟨-, heq⟩ := Option.ite_none_left_eq_some.mp hs
    obtain rfl := Option.some.inj heq
    refine ⟨h.whole.aside (by decide), nofun, fun c hc => ?_⟩
    obtain rfl := Option.some.inj hc
    exact synchronize_does _ (disk_setDisk (by decide) ..)
  | advance w => exact sound_advance h hok hs
  | kill =>
    obtain ⟨-, heq⟩ := Option.ite_none_right_eq_some.mp hs
    obtain rfl := Option.some.inj heq
    exact ⟨h.whole, h.ended, nofun⟩

/-- **The media tree is kept.** In every run in which operations go wrong only while the
destination is there, wherever the service is killed: a synchronisation that has come to its end,
well or not, leaves at the destination the tree that it found or a verified copy of its source,
and this is the tree of the beginning or a verified copy, never a part of one. -/
theorem tree_kept {destination : Files} {previous : Option Files} {es : List Event} {e : Ended}
    (hok : Meets (step sha256) (fun s e => undisturbed sha256 s e = true)
      (start destination previous) es)
    (h : exec (step sha256) (start destination previous) es = some s) (hended : s.ended = some e) :
    ∃ tree, s.store.disk .destination = some tree ∧
      (e.found = some tree ∨ ∃ m ∈ s.store.taken.head?, verifies sha256 m tree = true) ∧
      (tree = destination ∨ ∃ m ∈ s.store.taken, verifies sha256 m tree = true) := by
  have hsound : Sound sha256 destination s :=
    inv_of_exec (fun _ _ _ hs hok ht => sound_step hs hok ht) (sound_start previous) hok h
  obtain ⟨tree, htree, hor⟩ := hsound.ended e hended
  exact ⟨tree, htree, hor, hsound.whole tree htree⟩

/-! ### One file for another -/

/-- A digest that tells all contents apart. -/
def spelled (content : Bytes) : String := String.ofList (content.map fun b => Char.ofNat b.toNat)

def newSource : Files := [("new.mp3", [2])]

def well : Event := .advance ⟨true, newSource, none⟩

def wrong : Event := .advance ⟨false, newSource, none⟩

/-- A copy fails, the service is killed between the two renames, and all goes well then. -/
def interrupted : List Event :=
  [.synchronize, well, well, well, wrong, well] ++
    [.synchronize] ++ List.replicate 8 well ++ [.kill] ++ [.synchronize] ++ List.replicate 12 well

theorem tree_kept_interrupted :
    ∃ s e, exec (step spelled) (start [("old.mp3", [1])] none) interrupted = some s ∧
      s.ended = some e ∧ ∃ tree, s.store.disk .destination = some tree ∧
        (e.found = some tree ∨ ∃ m ∈ s.store.taken.head?, verifies spelled m tree = true) := by
  have hrun : ((exec (step spelled) (start [("old.mp3", [1])] none) interrupted).any
      fun s => s.ended.isSome) = true := by
    decide +kernel
  obtain ⟨s, hs, hended⟩ := (Option.any_eq_true ..).mp hrun
  obtain ⟨e, he⟩ := Option.isSome_iff_exists.mp hended
  obtain ⟨tree, htree, hor, -⟩ := tree_kept (by decide +kernel) hs he
  exact ⟨s, e, hs, he, tree, htree, hor⟩

/-- The second rename fails, and fails again when the synchronisation is run again. -/
def failedTwice : List Event :=
  [.synchronize] ++ List.replicate 8 well ++ [wrong, well, well] ++
    [.synchronize] ++ List.replicate 8 well ++ [wrong, well, well]

/-- **The tree is lost.** After the first failure it is beside the destination only; the second
synchronisation begins by removing it there, and fails before it has put another in place. -/
theorem tree_lost :
    ∃ s, exec (step spelled) (start [("old.mp3", [1])] none) failedTwice = some s ∧
      s.call.isNone ∧ s.ended.isSome ∧ s.store.disk .destination = none ∧
      s.store.disk .previous = none := by
  have hrun : ((exec (step spelled) (start [("old.mp3", [1])] none) failedTwice).any fun s =>
      decide (s.call.isNone ∧ s.ended.isSome ∧ s.store.disk .destination = none ∧
        s.store.disk .previous = none)) = true := by
    decide +kernel
  obtain ⟨s, hs, hlost⟩ := (Option.any_eq_true ..).mp hrun
  exact ⟨s, hs, of_decide_eq_true hlost⟩

end Runs

end OnAir.MirroredTree
