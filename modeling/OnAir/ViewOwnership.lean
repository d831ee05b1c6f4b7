import OnAir.PythonText
import OnAir.UnifiedMediaFolder

/-!
What operators keep in the views of the unified media folder.

A refresh takes a file of a view for its own when the manifest lists it as generated, and for a
file of an operator otherwise. When the manifest is right about the views that are mapped, and
the disk does not fail while a view is being exchanged, operators lose nothing and a view is what
its sources and its operators have put there.
-/

namespace OnAir.ViewOwnership

open Resumption Runs UnifiedMediaFolder

variable {casefold : String → String} {s t : Store} {v : View} {α β : Type}

/-- A directory holds what operators have placed in the view, and else only what was linked. -/
structure Holds (s : Store) (v : View) (d : List File) : Prop where
  placed : ∀ f, (v, f) ∈ s.placed → f ∈ d
  unlinked : ∀ f ∈ d, f.linked = false → (v, f) ∈ s.placed

structure Kept (s : Store) : Prop where
  views : ∀ v d, s.disk .view v = some d → Holds s v d
  unlinked : ∀ p ∈ s.placed, p.2.linked = false

/-- A view in which operators have placed files is there. -/
def present (s : Store) : Bool := s.placed.all fun p => (s.disk .view p.1).isSome

/-- The manifest lists just the files that a refresh has linked. -/
def isKnown (casefold : String → String) (s : Store) (v : View) : Bool :=
  ((s.disk .view v).getD []).all fun f =>
    f.linked == decide (casefold (destinationOf f.path) ∈ previousGenerated casefold s.manifest v)

/-- The manifest is right about the views that are mapped, and the disk fails, and the service is
killed, only while the views of operators are there. -/
def undisturbed (casefold : String → String) (s : State) : Event → Bool
  | .refresh (.ok map) => map.views.all fun p => isKnown casefold s.store p.1
  | .advance w => w = .ok || present s.store
  | .crash => present s.store
  | _ => true

def runOk {β : Type} (o : Op β) (w : Outcome) (s : Store) : Option (β × Store) :=
  if w = .ok ∨ present s = true then run o w s else none

abbrev Does (P : Store → Prop) (p : Program α) (Q : α → Store → Prop)
    (E : Raised → Store → Prop) : Prop :=
  Triple runOk Kept Eq P p Q E

variable {P : Store → Prop} {Q : α → Store → Prop} {R : β → Store → Prop}
  {E : Raised → Store → Prop}

lemma catch_does {F : Raised → Store → Prop} {p : Program α} {handler : Raised → Program α}
    (h : Does P p Q F) (hf : ∀ e, Does (F e) (handler e) Q E) : Does P (p.tryCatch handler) Q E :=
  h.tryCatch (fun _ => rfl) hf

lemma weaken_does {p : Program α} {P' : Store → Prop} {Q' : α → Store → Prop}
    {E' : Raised → Store → Prop} (h : Does P p Q E) (hP : ∀ s, P' s → P s)
    (hQ : ∀ a s, Q a s → Q' a s) (hE : ∀ e s, E e s → E' e s) : Does P' p Q' E' :=
  h.conseq hP hQ hE

/-- An operation, as it goes when nothing disturbs it. -/
lemma perform_does {o : Op α} (hop : ∀ s w a u, Kept s → P s → (w = .ok ∨ present s = true) →
    run o w s = some (a, u) → Kept u ∧ Q a u) : Does P (perform o) Q E := by
  refine Triple.performAlone fun s w a u hkept hs hrun => ?_
  obtain ⟨hw, hrun⟩ := Option.ite_none_right_eq_some.mp hrun
  exact hop s w a u hkept hs hw hrun

/-- An operation that may fail. -/
lemma throwing_does {o : Op (Except Raised α)}
    (hop : ∀ s w r u, Kept s → P s → (w = .ok ∨ present s = true) → run o w s = some (r, u) →
      Kept u ∧ match r with
        | .ok a => Q a u
        | .error e => E e u) : Does P (throwing o) Q E := by
  refine Triple.throwing (fun _ => rfl) (fun _ => rfl) fun s w r u hkept hs hrun => ?_
  obtain ⟨hw, hrun⟩ := Option.ite_none_right_eq_some.mp hrun
  have hended := hop s w r u hkept hs hw hrun
  cases r <;> exact hended

lemma attempt_does {e : Raised} : Does P (attempt e) (fun _ => P) fun _ => P := by
  refine throwing_does fun s w r u hkept hs _ hrun => ?_
  obtain ⟨rfl, rfl⟩ := Prod.mk.inj (Option.some.inj hrun)
  refine ⟨hkept, ?_⟩
  split <;> exact hs

lemma assertSameVolume_does : Does P assertSameVolume (fun _ => P) fun _ => P :=
  Triple.bindAlone attempt_does fun _ => attempt_does

/-! ### Directories -/

@[simp] lemma disk_setDisk (p p' : Place) (v v' : View) (d : Option (List File)) :
    (setDisk s p v d).disk p' v' = if p' = p ∧ v' = v then d else s.disk p' v' := rfl

lemma holds_congr {d : List File} (h : Holds s v d) (hp : t.placed = s.placed) : Holds t v d :=
  ⟨fun f hf => h.placed f (hp ▸ hf), fun f hf hl => hp ▸ h.unlinked f hf hl⟩

/-- Another place than that of the views is changed. -/
lemma kept_aside {p : Place} {d : Option (List File)} (h : Kept s) (hp : p ≠ .view) :
    Kept (setDisk s p v d) := by
  refine ⟨fun v' d' hd' => ?_, h.unlinked⟩
  have hne : ¬ (Place.view = p ∧ v' = v) := fun he => hp he.1.symm
  rw [disk_setDisk, if_neg hne] at hd'
  exact holds_congr (h.views v' d' hd') rfl

/-- What holds whatever is staged for some views. -/
def Steady (vs : List View) (P : Store → Prop) : Prop :=
  ∀ s v d, v ∈ vs → P s → P (setDisk s .staged v d)

/-- What is staged for a view. -/
def Staged (v : View) (fs : List File) (s : Store) : Prop :=
  ∃ d, s.disk .staged v = some d ∧ ∀ f, f ∈ d ↔ f ∈ fs

variable {vs : List View} {fs : List File}

lemma link_does {f : File} {e e' : Raised} (hP : Steady vs P) (hv : v ∈ vs) :
    Does (fun s => P s ∧ Staged v fs s) (throwing (.link v f e e'))
      (fun _ s => P s ∧ Staged v (fs ++ [f]) s) fun _ => P := by
  refine throwing_does fun s w r u hkept hs _ hrun => ?_
  obtain ⟨hs, d, hd, hmem⟩ := hs
  cases w with
  | ok =>
    obtain ⟨rfl, rfl⟩ := Prod.mk.inj (Option.some.inj hrun)
    refine ⟨kept_aside hkept (by simp), hP s v _ hv hs, d ++ [f], ?_, fun g => ?_⟩
    · simp [hd]
    · simp [hmem]
  | failed =>
    obtain ⟨rfl, rfl⟩ := Prod.mk.inj (Option.some.inj hrun)
    exact ⟨hkept, hs⟩
  | late =>
    obtain ⟨rfl, rfl⟩ := Prod.mk.inj (Option.some.inj hrun)
    exact ⟨kept_aside hkept (by simp), hP s v _ hv hs⟩

lemma stageSource_does {destination : Path} (hP : Steady vs P) (hv : v ∈ vs) (files : List File)
    (entries : List Entry) (fs : List File) :
    Does (fun s => P s ∧ Staged v fs s) (stageSource casefold v destination files entries)
      (fun _ s => P s ∧ Staged v (fs ++ files.map (linkedTo destination)) s) fun _ => P := by
  induction files generalizing entries fs with
  | nil => exact Triple.pureAlone fun s h => by simpa using h
  | cons f files ih =>
    unfold stageSource
    split
    · exact Triple.raiseAlone fun _ h => h.1
    · dsimp only
      split
      · exact Triple.raiseAlone fun _ h => h.1
      · refine Triple.bindAlone (weaken_does attempt_does (fun _ h => h) (fun _ _ h => h)
          fun _ _ h => h.1) fun _ => ?_
        refine Triple.bindAlone (weaken_does assertSameVolume_does (fun _ h => h) (fun _ _ h => h)
          fun _ _ h => h.1) fun _ => ?_
        refine Triple.bindAlone (link_does hP hv) fun _ => ?_
        refine weaken_does (ih _ _) (fun _ h => h) (fun _ s h => ?_) fun _ _ h => h
        simpa using h

/-- The files of the sources of a view, where a refresh links them. -/
def generatedFiles (specs : List SourceSpec) : List File :=
  specs.flatMap fun spec => spec.files.map (linkedTo spec.destination)

lemma buildStagedView_does (hP : Steady vs P) (hv : v ∈ vs) (specs : List SourceSpec)
    (entries : List Entry) (fs : List File) :
    Does (fun s => P s ∧ Staged v fs s) (buildStagedView casefold v specs entries)
      (fun _ s => P s ∧ Staged v (fs ++ generatedFiles specs) s) fun _ => P := by
  induction specs generalizing entries fs with
  | nil => exact Triple.pureAlone fun s h => by simpa [generatedFiles] using h
  | cons spec specs ih =>
    refine Triple.bindAlone (weaken_does assertSameVolume_does (fun _ h => h) (fun _ _ h => h)
      fun _ _ h => h.1) fun _ => ?_
    refine Triple.bindAlone (stageSource_does hP hv _ _ _) fun entries' => ?_
    refine weaken_does (ih _ _) (fun _ h => h) (fun _ s h => ?_) fun _ _ h => h
    simpa [generatedFiles] using h

lemma carryFiles_does {generated prior : List String} (hP : Steady vs P) (hv : v ∈ vs)
    (files : List File) (carried : List Entry) (fs : List File) :
    Does (fun s => P s ∧ Staged v fs s)
      (carryFiles casefold v generated prior files carried)
      (fun _ s => P s ∧ Staged v (fs ++ files.filter fun f =>
        casefold (destinationOf f.path) ∉ prior) s) fun _ => P := by
  induction files generalizing carried fs with
  | nil => exact Triple.pureAlone fun s h => by simpa using h
  | cons f files ih =>
    unfold carryFiles
    split
    · exact Triple.raiseAlone fun _ h => h.1
    · split
      · next hprior =>
          refine weaken_does (ih _ _) (fun _ h => h) (fun _ s h => ?_) fun _ _ h => h
          simpa [hprior] using h
      · next hprior =>
          split
          · exact Triple.raiseAlone fun _ h => h.1
          · refine Triple.bindAlone (weaken_does attempt_does (fun _ h => h) (fun _ _ h => h)
              fun _ _ h => h.1) fun _ => ?_
            refine Triple.bindAlone (weaken_does assertSameVolume_does (fun _ h => h)
              (fun _ _ h => h) fun _ _ h => h.1) fun _ => ?_
            refine Triple.bindAlone (link_does hP hv) fun _ => ?_
            refine weaken_does (ih _ _) (fun _ h => h) (fun _ s h => ?_) fun _ _ h => h
            simpa [hprior] using h

/-! ### Staging -/

/-- A directory has what the sources and the operators have put into the view. -/
def Exact (specs : List SourceSpec) (v : View) (d : List File) (s : Store) : Prop :=
  ∀ f, f ∈ d ↔ f ∈ generatedFiles specs ∨ (v, f) ∈ s.placed

/-- Before a refresh publishes. -/
structure Ready (casefold : String → String) (manifest : List Entry) (map : SourceMap)
    (s : Store) : Prop where
  present : present s = true
  backups : ∀ v, s.disk .backup v = none
  manifest : s.manifest = manifest
  known : ∀ p ∈ map.views, isKnown casefold s p.1 = true

variable {manifest : List Entry} {map : SourceMap}

lemma present_aside {p : Place} {d : Option (List File)} (hp : p ≠ .view) :
    present (setDisk s p v d) = present s := by
  unfold present
  refine List.all_congr rfl fun q => ?_
  rw [disk_setDisk, if_neg fun he => hp he.1.symm]

lemma isKnown_aside {p : Place} {d : Option (List File)} {v' : View} (hp : p ≠ .view) :
    isKnown casefold (setDisk s p v d) v' = isKnown casefold s v' := by
  unfold isKnown
  rw [disk_setDisk, if_neg fun he => hp he.1.symm]
  rfl

lemma steady_ready : Steady vs (Ready casefold manifest map) := fun s v d _ h =>
  ⟨(present_aside (by simp)).trans h.present, fun v' => by simp [h.backups], h.manifest,
     fun p hp => (isKnown_aside (by simp)).trans (h.known p hp)⟩

lemma steady_and {P' : Store → Prop} (h : Steady vs P) (h' : Steady vs P') :
    Steady vs fun s => P s ∧ P' s := fun s v d hv hs => ⟨h s v d hv hs.1, h' s v d hv hs.2⟩

/-- What is carried from a listing is what operators have placed. -/
def Listed (casefold : String → String) (manifest : List Entry) (v : View)
    (listing : Option (List File)) (s : Store) : Prop :=
  ∀ f, (v, f) ∈ s.placed ↔ ∃ d, listing = some d ∧ f ∈ d ∧
    casefold (destinationOf f.path) ∉ previousGenerated casefold manifest v

lemma listed_of_ready (hkept : Kept s) (h : Ready casefold manifest map s)
    (hv : v ∈ map.views.map (·.1)) : Listed casefold manifest v (s.disk .view v) s := by
  obtain ⟨p, hp, rfl⟩ := List.mem_map.mp hv
  have hknown := h.known p hp
  unfold isKnown at hknown
  rw [h.manifest] at hknown
  intro f
  constructor
  · intro hf
    have hthere := List.all_eq_true.mp h.present _ hf
    obtain ⟨d, hd⟩ := Option.isSome_iff_exists.mp hthere
    have hin := (hkept.views p.1 d hd).placed f hf
    rw [hd] at hknown
    have hlinked := List.all_eq_true.mp hknown f hin
    rw [hkept.unlinked _ hf] at hlinked
    exact ⟨d, hd, hin, by simpa using hlinked⟩
  · rintro ⟨d, hd, hin, hkey⟩
    rw [hd] at hknown
    have hlinked := List.all_eq_true.mp hknown f hin
    exact (hkept.views p.1 d hd).unlinked f hin (by simpa [hkey] using hlinked)

lemma carryOperatorFiles_does {generated : List String} (hP : Steady vs P) (hv : v ∈ vs)
    (hready : ∀ s, P s → Ready casefold manifest map s) (hmap : v ∈ map.views.map (·.1)) :
    Does (fun s => P s ∧ Staged v fs s)
      (carryOperatorFiles casefold v generated (previousGenerated casefold manifest v))
      (fun _ s => P s ∧ ∃ d, s.disk .staged v = some d ∧
        ∀ f, f ∈ d ↔ f ∈ fs ∨ (v, f) ∈ s.placed) fun _ => P := by
  refine Triple.bindAlone (Q := fun r s => (P s ∧ Listed casefold manifest v r s) ∧ Staged v fs s)
    (perform_does fun s w r u hkept hs _ hrun => ?_) fun listing => ?_
  · obtain ⟨rfl, rfl⟩ := Prod.mk.inj (Option.some.inj hrun)
    exact ⟨hkept, ⟨hs.1, listed_of_ready hkept (hready s hs.1) hmap⟩, hs.2⟩
  · cases listing with
    | none =>
      refine Triple.pureAlone fun s ⟨⟨hs, hlisted⟩, d, hd, hmem⟩ => ⟨hs, d, hd, fun f => ?_⟩
      have hnone : (v, f) ∉ s.placed := fun hf => by
        obtain ⟨d', hd', -⟩ := (hlisted f).mp hf
        cases hd'
      simp [hmem, hnone]
    | some files =>
      have hlisted : Steady vs fun s => P s ∧ Listed casefold manifest v (some files) s :=
        steady_and hP fun s v' d' _ h => h
      refine Triple.bindAlone (weaken_does assertSameVolume_does (fun _ h => h) (fun _ _ h => h)
        fun _ _ h => h.1.1) fun _ => ?_
      refine weaken_does (carryFiles_does hlisted hv _ _ _) (fun _ h => h) (fun _ s h => ?_)
        fun _ _ h => h.1
      obtain ⟨⟨hs, hl⟩, d, hd, hmem⟩ := h
      refine ⟨hs, d, hd, fun f => ?_⟩
      rw [hmem, hl f]
      simp

/-- Every view of a list is staged as it is to be. -/
def AllStaged (views : List (View × List SourceSpec)) (s : Store) : Prop :=
  ∀ p ∈ views, ∃ d, s.disk .staged p.1 = some d ∧ Exact p.2 p.1 d s

lemma stageViews_does (views : List (View × List SourceSpec))
    (hnodup : (views.map (·.1)).Nodup) (hP : Steady (views.map (·.1)) P)
    (hready : ∀ s, P s → Ready casefold manifest map s)
    (hmap : ∀ v ∈ views.map (·.1), v ∈ map.views.map (·.1)) :
    Does P (stageViews casefold (previousGenerated casefold manifest) views)
      (fun _ s => P s ∧ AllStaged views s) fun _ => P := by
  induction views generalizing P with
  | nil => exact Triple.pureAlone fun s h => ⟨h, fun p hp => by cases hp⟩
  | cons p views ih =>
    obtain ⟨v, specs⟩ := p
    obtain ⟨hnot, hnodup⟩ := List.nodup_cons.mp hnodup
    have hv : v ∈ ((v, specs) :: views).map (·.1) := List.mem_cons_self
    have hmake : Does P (throwing (.makeDirectory .staged v false))
        (fun _ s => P s ∧ Staged v [] s) fun _ => P := by
      refine throwing_does fun s w r u hkept hs _ hrun => ?_
      simp only [run, Bool.false_eq_true, and_false, if_false] at hrun
      split at hrun
      · obtain ⟨rfl, rfl⟩ := Prod.mk.inj (Option.some.inj hrun)
        exact ⟨kept_aside hkept (by simp), hP s v _ hv hs, [], by simp, fun f => Iff.rfl⟩
      · obtain ⟨rfl, rfl⟩ := Prod.mk.inj (Option.some.inj hrun)
        exact ⟨hkept, hs⟩
    refine Triple.bindAlone hmake fun _ => ?_
    refine Triple.bindAlone (buildStagedView_does hP hv _ _ _) fun generated => ?_
    refine Triple.bindAlone (carryOperatorFiles_does hP hv hready (hmap v hv)) fun operator => ?_
    -- what is staged for the other views does not touch this one
    have hthis : Steady (views.map (·.1)) fun s => P s ∧ ∃ d, s.disk .staged v = some d ∧
        ∀ f, f ∈ d ↔ f ∈ [] ++ generatedFiles specs ∨ (v, f) ∈ s.placed := by
      intro s v' d' hv' h
      refine ⟨hP s v' d' (List.mem_cons_of_mem _ hv') h.1, ?_⟩
      obtain ⟨d, hd, hmem⟩ := h.2
      refine ⟨d, ?_, hmem⟩
      have hne : ¬ (Place.staged = .staged ∧ v = v') := fun he => hnot (he.2 ▸ hv')
      rw [disk_setDisk, if_neg hne, hd]
    refine Triple.bindAlone (weaken_does (ih hnodup hthis (fun s h => hready s h.1) fun v' hv' =>
      hmap v' (List.mem_cons_of_mem _ hv')) (fun _ h => h) (fun _ _ h => h) fun _ _ h => h.1)
      fun rest => Triple.pureAlone fun s h => ⟨h.1.1, fun p hp => ?_⟩
    rcases List.mem_cons.mp hp with rfl | hp
    · exact h.1.2
    · exact h.2 p hp

/-! ### Publishing -/

lemma kept_view {d : Option (List File)} (h : Kept s) (hd : ∀ d', d = some d' → Holds s v d') :
    Kept (setDisk s .view v d) := by
  refine ⟨fun v' d' hd' => ?_, h.unlinked⟩
  rw [disk_setDisk] at hd'
  split at hd'
  · next he =>
      obtain ⟨-, rfl⟩ := he
      exact holds_congr (hd d' hd') rfl
  · exact holds_congr (h.views v' d' hd') rfl

lemma run_rename {p q : Place} {w : Outcome} {r : Except Raised Unit}
    (h : run (.rename p q v) w s = some (r, t)) :
    (∃ d, r = .ok () ∧ s.disk p v = some d ∧ s.disk q v = none ∧
      t = setDisk (setDisk s q v (some d)) p v none) ∨
    (r = .error .os ∧ t = s ∧ (w = .ok → s.disk p v = none ∨ (s.disk q v).isSome = true)) := by
  simp only [run] at h
  split at h
  · next hw =>
      obtain ⟨-, hp, hq⟩ := hw
      obtain ⟨d, hd⟩ := Option.isSome_iff_exists.mp hp
      obtain ⟨rfl, rfl⟩ := Prod.mk.inj (Option.some.inj h)
      exact .inl ⟨d, rfl, hd, Option.isNone_iff_eq_none.mp hq, by rw [hd]⟩
  · next hw =>
      obtain ⟨rfl, rfl⟩ := Prod.mk.inj (Option.some.inj h)
      refine .inr ⟨rfl, rfl, fun hok => ?_⟩
      by_contra hboth
      push Not at hboth
      obtain ⟨hp, hq⟩ := hboth
      exact hw ⟨hok, Option.isSome_iff_ne_none.mpr hp, by simpa using hq⟩

/-- The views of operators are there, except for one view. -/
def Away (v : View) (s : Store) : Prop :=
  ∀ p ∈ s.placed, p.1 ≠ v → (s.disk .view p.1).isSome = true

lemma away_of_present (h : present s = true) : Away v s := fun p hp _ =>
  List.all_eq_true.mp h p hp

lemma present_of_away (h : Away v s) (hv : (∀ f, (v, f) ∉ s.placed) ∨ (s.disk .view v).isSome) :
    present s = true := by
  refine List.all_eq_true.mpr fun p hp => ?_
  by_cases he : p.1 = v
  · obtain ⟨v', f⟩ := p
    obtain rfl : v' = v := he
    exact hv.resolve_left fun hnone => hnone f hp
  · exact h p hp he

lemma not_placed_of_missing (h : present s = true) (hv : s.disk .view v = none) (f : File) :
    (v, f) ∉ s.placed := fun hf => by
  have hthere := List.all_eq_true.mp h _ hf
  rw [hv] at hthere
  cases hthere

lemma pathExists_does {p : Place} (v : View) :
    Does P (pathExists p v) (fun b s => P s ∧ b = (s.disk p v).isSome) E :=
  perform_does fun s w b u hkept hs _ hrun => by
    obtain ⟨rfl, rfl⟩ := Prod.mk.inj (Option.some.inj hrun)
    exact ⟨hkept, hs, rfl⟩

/-- What the backup of a view that was published can give back. -/
def Backup (v : View) (s : Store) : Prop :=
  match s.disk .backup v with
  | some d => Holds s v d
  | none => ∀ f, (v, f) ∉ s.placed

structure Undo (vs : List View) (s : Store) : Prop where
  present : present s = true
  backups : ∀ v ∈ vs, Backup v s

/-- The backup of another view is not touched. -/
lemma backup_setDisk {p : Place} {v' : View} {d : Option (List File)} (h : Backup v s)
    (hne : p ≠ .backup ∨ v ≠ v') : Backup v (setDisk s p v' d) := by
  unfold Backup at h ⊢
  rw [disk_setDisk, if_neg fun he => hne.elim (fun hp => hp he.1.symm) fun hv => hv he.2]
  split
  · next d' hd' =>
      rw [hd'] at h
      exact holds_congr h rfl
  · next hnone =>
      rw [hnone] at h
      exact h

lemma away_setDisk {p : Place} {d : Option (List File)} (h : Away v s) :
    Away v (setDisk s p v d) := by
  intro q hq hne
  have hother : ¬ (Place.view = p ∧ q.1 = v) := fun he => hne he.2
  rw [disk_setDisk, if_neg hother]
  exact h q hq hne

variable {P' : Store → Prop}

/-- A view is moved away, if it is there. -/
lemma leave_does {q : Place} (hq : q ≠ .view) (hP : ∀ s, P s → present s = true)
    (hgone : ∀ s, P s → s.disk .view v = none → P' s)
    (hmoved : ∀ s d, Kept s → P s → s.disk .view v = some d →
      P' (setDisk (setDisk s q v (some d)) .view v none)) :
    Does P (replaceIfThere .view q v) (fun _ s => P' s ∧ Away v s ∧ s.disk .view v = none)
      fun _ => P := by
  refine Triple.bindAlone (pathExists_does v) fun there => ?_
  split
  · refine throwing_does fun s w r u hkept hs _ hrun => ?_
    rcases run_rename hrun with ⟨d, rfl, hd, -, rfl⟩ | ⟨rfl, rfl, -⟩
    · have haway := away_of_present (v := v) (hP s hs.1)
      exact ⟨kept_view (kept_aside hkept hq) nofun, hmoved s d hkept hs.1 hd,
        away_setDisk (away_setDisk haway), by simp⟩
    · exact ⟨hkept, hs.1⟩
  · next hthere =>
      refine Triple.pureAlone fun s hs => ?_
      rw [hs.2, Bool.not_eq_true, Option.isSome_eq_false_iff] at hthere
      have hnone := Option.isNone_iff_eq_none.mp hthere
      exact ⟨hgone s hs.1 hnone, away_of_present (hP s hs.1), hnone⟩

/-- A directory comes to the place of a view. -/
lemma enter_does {p : Place} (hp : p ≠ .view)
    (hP : ∀ s, P s → Away v s ∧ s.disk .view v = none ∧ ∃ d, s.disk p v = some d ∧ Holds s v d)
    (hmoved : ∀ s d, P s → s.disk p v = some d →
      P' (setDisk (setDisk s .view v (some d)) p v none)) :
    Does P (throwing (.rename p .view v)) (fun _ s => P' s ∧ present s = true)
      fun _ s => P s ∧ present s = true := by
  refine throwing_does fun s w r u hkept hs hw hrun => ?_
  obtain ⟨haway, hnone, d, hd, hholds⟩ := hP s hs
  rcases run_rename hrun with ⟨d', rfl, hd', -, rfl⟩ | ⟨rfl, rfl, hfails⟩
  · obtain rfl := Option.some.inj (hd.symm.trans hd')
    have hentered : Kept (setDisk s .view v (some d)) :=
      kept_view hkept fun d' he => Option.some.inj he ▸ hholds
    refine ⟨kept_aside hentered hp, hmoved s d hs hd, ?_⟩
    refine present_of_away (away_setDisk (away_setDisk haway)) (.inr ?_)
    have hother : Place.view ≠ p := fun he => hp he.symm
    simp [hother]
  · refine ⟨hkept, hs, hw.resolve_left fun hok => ?_⟩
    rcases hfails hok with hmissing | hthere
    · rw [hd] at hmissing
      cases hmissing
    · rw [hnone] at hthere
      cases hthere

lemma rollback_does (hnodup : vs.Nodup) :
    Does (Undo vs) (rollback vs) (fun _ s => present s = true) fun _ s => present s = true := by
  induction vs with
  | nil => exact Triple.pureAlone fun s h => h.present
  | cons v vs ih =>
    obtain ⟨hnot, hnodup⟩ := List.nodup_cons.mp hnodup
    have hrest : ∀ s, Undo (v :: vs) s → Undo vs s := fun s h =>
      ⟨h.present, fun v' hv' => h.backups v' (List.mem_cons_of_mem _ hv')⟩
    refine Triple.bindAlone (Q := fun _ => Undo vs) (catch_does (F := fun _ => Undo vs) ?_
      fun _ => Triple.pureAlone fun _ h => h) fun _ => ih hnodup
    have hleave : Does (Undo (v :: vs)) (replaceIfThere .view .failed v)
        (fun _ s => (∀ v' ∈ v :: vs, Backup v' s) ∧ Away v s ∧ s.disk .view v = none)
        fun _ => Undo (v :: vs) :=
      leave_does (by simp) (fun s h => h.present) (fun s h _ => h.backups)
        fun s d _ h _ v' hv' => backup_setDisk (backup_setDisk (h.backups v' hv')
          (.inl (by simp))) (.inl (by simp))
    refine Triple.bindAlone (weaken_does hleave (fun _ h => h) (fun _ _ h => h) fun _ => hrest)
      fun _ => ?_
    refine Triple.bindAlone (pathExists_does v) fun there => ?_
    split
    · next hthere =>
        have hback : ∀ s, (∀ v' ∈ vs, Backup v' s) → present s = true → Undo vs s :=
          fun s h hp => ⟨hp, h⟩
        refine weaken_does (enter_does (by simp) (fun s h => ?_) fun s d h hd => ?_)
          (fun _ h => h) (fun _ s h => hback s h.1 h.2)
          fun _ s h => hback s (fun v' hv' => h.1.1.1 v' (List.mem_cons_of_mem _ hv')) h.2
        · have hbackup := h.1.1 v List.mem_cons_self
          obtain ⟨d, hd⟩ := Option.isSome_iff_exists.mp (h.2.symm.trans hthere)
          unfold Backup at hbackup
          rw [hd] at hbackup
          exact ⟨h.1.2.1, h.1.2.2, d, hd, hbackup⟩
        · intro v' hv'
          have hother : v' ≠ v := fun he => hnot (he ▸ hv')
          exact backup_setDisk (backup_setDisk (h.1.1 v' (List.mem_cons_of_mem _ hv'))
            (.inl (by simp))) (.inr hother)
    · next hthere =>
        refine Triple.pureAlone fun s h => ?_
        rw [h.2, Bool.not_eq_true, Option.isSome_eq_false_iff] at hthere
        have hbackup := h.1.1 v List.mem_cons_self
        unfold Backup at hbackup
        rw [Option.isNone_iff_eq_none.mp hthere] at hbackup
        exact ⟨present_of_away h.1.2.1 (.inl hbackup), fun v' hv' =>
          h.1.1 v' (List.mem_cons_of_mem _ hv')⟩

/-- The view is what its sources and its operators have put there. -/
def InPlace (p : View × List SourceSpec) (s : Store) : Prop :=
  ∃ d, s.disk .view p.1 = some d ∧ Exact p.2 p.1 d s

/-- Some views have been published, and the rest is staged. -/
structure Publishing (done rest : List (View × List SourceSpec)) (s : Store) : Prop where
  backups : ∀ v ∈ done.map (·.1), Backup v s
  published : ∀ p ∈ done, InPlace p s
  fresh : ∀ p ∈ rest, s.disk .backup p.1 = none
  staged : AllStaged rest s

lemma disk_of_ne {p p' : Place} {v' : View} {d : Option (List File)} (h : p' ≠ p ∨ v' ≠ v) :
    (setDisk s p v d).disk p' v' = s.disk p' v' := by
  rw [disk_setDisk, if_neg fun he => h.elim (fun hp => hp he.1) fun hv => hv he.2]

variable {done rest : List (View × List SourceSpec)} {specs : List SourceSpec}

/-- Nothing of the other views is touched. -/
lemma Publishing.setDisk {p : Place} {d : Option (List File)} (h : Publishing done rest s)
    (hdone : v ∉ done.map (·.1)) (hrest : v ∉ rest.map (·.1)) :
    Publishing done rest (setDisk s p v d) := by
  have hne : ∀ {views : List (View × List SourceSpec)}, v ∉ views.map (·.1) →
      ∀ q ∈ views, q.1 ≠ v := fun hv q hq he => hv (he ▸ List.mem_map_of_mem hq)
  refine ⟨fun v' hv' => backup_setDisk (h.backups v' hv') (.inr fun he =>
    hdone (he ▸ hv')), fun q hq => ?_, fun q hq => ?_, fun q hq => ?_⟩
  · obtain ⟨d', hd', hexact⟩ := h.published q hq
    exact ⟨d', (disk_of_ne (.inr (hne hdone q hq))).trans hd', hexact⟩
  · exact (disk_of_ne (.inr (hne hrest q hq))).trans (h.fresh q hq)
  · obtain ⟨d', hd', hexact⟩ := h.staged q hq
    exact ⟨d', (disk_of_ne (.inr (hne hrest q hq))).trans hd', hexact⟩

lemma holds_of_exact {d : List File} (h : Exact specs v d s) : Holds s v d := by
  refine ⟨fun f hf => (h f).mpr (.inr hf), fun f hf hl => ((h f).mp hf).resolve_left fun hg => ?_⟩
  obtain ⟨spec, -, hmem⟩ := List.mem_flatMap.mp hg
  obtain ⟨g, -, rfl⟩ := List.mem_map.mp hmem
  cases hl

lemma publishView_does (hdone : v ∉ done.map (·.1)) (hrest : v ∉ rest.map (·.1)) :
    Does (fun s => Publishing done ((v, specs) :: rest) s ∧ present s = true) (publishView v)
      (fun _ s => Publishing ((v, specs) :: done) rest s ∧ present s = true)
      fun _ => Undo (done.map (·.1)) := by
  have hleave : Does (fun s => Publishing done ((v, specs) :: rest) s ∧ present s = true)
      (replaceIfThere .view .backup v)
      (fun _ s => (Publishing done rest s ∧ Backup v s ∧
        ∃ d, s.disk .staged v = some d ∧ Exact specs v d s) ∧ Away v s ∧ s.disk .view v = none)
      fun _ s => Publishing done ((v, specs) :: rest) s ∧ present s = true := by
    have hless : ∀ s, Publishing done ((v, specs) :: rest) s → Publishing done rest s :=
      fun s h => ⟨h.backups, h.published,
        fun p hp => h.fresh p (List.mem_cons_of_mem _ hp),
        fun p hp => h.staged p (List.mem_cons_of_mem _ hp)⟩
    refine leave_does (by simp) (fun s h => h.2) (fun s h hnone => ?_) fun s d hkept h hd => ?_
    · refine ⟨hless s h.1, ?_, h.1.staged _ List.mem_cons_self⟩
      unfold Backup
      rw [h.1.fresh _ List.mem_cons_self]
      exact not_placed_of_missing h.2 hnone
    · refine ⟨((hless s h.1).setDisk hdone hrest).setDisk hdone hrest, ?_, ?_⟩
      · unfold Backup
        simp only [disk_setDisk, reduceCtorEq, false_and, if_false, and_self, if_true]
        exact holds_congr (hkept.views v d hd) rfl
      · obtain ⟨d', hd', hexact⟩ := h.1.staged _ List.mem_cons_self
        exact ⟨d', by simpa using hd', hexact⟩
  refine Triple.bindAlone (weaken_does hleave (fun _ h => h) (fun _ _ h => h) fun _ s h =>
    ⟨h.2, h.1.backups⟩) fun _ => ?_
  refine weaken_does (enter_does (by simp) (fun s h => ?_) fun s d h hd => ?_) (fun _ h => h)
    (fun _ _ h => h) fun _ s h => ⟨h.2, h.1.1.1.backups⟩
  · obtain ⟨d, hd, hexact⟩ := h.1.2.2
    exact ⟨h.2.1, h.2.2, d, hd, holds_of_exact hexact⟩
  · obtain ⟨⟨hpub, hbackup, d', hd', hexact⟩, -⟩ := h
    obtain rfl := Option.some.inj (hd.symm.trans hd')
    have hnext := (hpub.setDisk (p := .view) (d := some d) hdone hrest).setDisk (p := .staged)
      (d := none) hdone hrest
    refine ⟨fun v' hv' => ?_, fun p hp => ?_, hnext.fresh, hnext.staged⟩
    · rcases List.mem_cons.mp hv' with rfl | hv'
      · exact backup_setDisk (backup_setDisk hbackup (.inl (by simp))) (.inl (by simp))
      · exact hnext.backups v' hv'
    · rcases List.mem_cons.mp hp with rfl | hp
      · exact ⟨d, by simp, hexact⟩
      · exact hnext.published p hp

lemma publishViews_does (hnodup : ((rest ++ done).map (·.1)).Nodup) :
    Does (fun s => Publishing done rest s ∧ present s = true)
      (publishViews (done.map (·.1)) (rest.map (·.1)))
      (fun _ s => present s = true ∧ ∀ p ∈ rest ++ done, InPlace p s)
      fun _ s => present s = true := by
  induction rest generalizing done with
  | nil =>
    refine Triple.pureAlone fun s h => ⟨h.2, ?_⟩
    simpa using h.1.published
  | cons p rest ih =>
    obtain ⟨v, specs⟩ := p
    simp only [List.cons_append, List.map_cons, List.nodup_cons, List.map_append,
      List.mem_append, not_or] at hnodup
    obtain ⟨⟨hrest, hdone⟩, hnodup⟩ := hnodup
    have hundo : Does (Undo (done.map (·.1))) (do
        rollback (done.map (·.1))
        .raise (.media "atomic_publish_failed") : Program Unit)
        (fun _ s => Publishing ((v, specs) :: done) rest s ∧ present s = true)
        fun _ s => present s = true :=
      Triple.bindAlone (rollback_does hnodup.of_append_right) fun _ =>
        Triple.raiseAlone fun _ h => h
    refine Triple.bindAlone (catch_does (publishView_does hdone hrest) fun _ => hundo) fun _ => ?_
    have hnext : ((rest ++ (v, specs) :: done).map (·.1)).Nodup := by
      rw [List.map_append, List.map_cons, List.nodup_middle, List.nodup_cons, List.mem_append]
      exact ⟨fun h => h.elim hrest hdone, hnodup⟩
    refine weaken_does (ih hnext) (fun _ h => h) (fun _ s h => ⟨h.1, fun q hq => h.2 q ?_⟩)
      fun _ _ h => h
    simp only [List.cons_append, List.mem_cons, List.mem_append] at hq ⊢
    tauto

/-! ### A refresh -/

lemma ready_makeView (hkept : Kept s) (h : Ready casefold manifest map s)
    (hmissing : s.disk .view v = none) :
    Kept (setDisk s .view v (some [])) ∧
      Ready casefold manifest map (setDisk s .view v (some [])) := by
  have hnone := not_placed_of_missing h.present hmissing
  refine ⟨kept_view hkept fun d hd => ?_, ?_, fun v' => ?_, h.manifest, fun p hp => ?_⟩
  · obtain rfl := Option.some.inj hd
    exact ⟨fun f hf => absurd hf (hnone f), fun f hf => by cases hf⟩
  · refine present_of_away (away_setDisk (away_of_present h.present)) (.inl hnone)
  · exact (disk_of_ne (.inl (by simp))).trans (h.backups v')
  · have hknown := h.known p hp
    unfold isKnown at hknown ⊢
    by_cases he : p.1 = v
    · simp [he]
    · rw [disk_of_ne (.inr he)]
      exact hknown

lemma makeViews_does (views : List View) :
    Does (Ready casefold manifest map) (makeViews views) (fun _ => Ready casefold manifest map)
      fun _ => Ready casefold manifest map := by
  induction views with
  | nil => exact Triple.pureAlone fun _ h => h
  | cons v views ih =>
    refine Triple.bindAlone (Q := fun _ => Ready casefold manifest map)
      (throwing_does fun s w r u hkept hs _ hrun => ?_) fun _ => ih
    simp only [run, and_true] at hrun
    split at hrun
    · next hw =>
        obtain ⟨rfl, rfl⟩ := Prod.mk.inj (Option.some.inj hrun)
        exact ready_makeView hkept hs (Option.isNone_iff_eq_none.mp hw.2)
    · split at hrun <;> obtain ⟨rfl, rfl⟩ := Prod.mk.inj (Option.some.inj hrun) <;>
        exact ⟨hkept, hs⟩

lemma ensureLayout_does :
    Does (Ready casefold manifest map) ensureLayout (fun _ => Ready casefold manifest map)
      fun _ => Ready casefold manifest map := by
  refine Triple.bindAlone attempt_does fun _ => ?_
  refine Triple.bindAlone assertSameVolume_does fun _ => ?_
  exact Triple.bindAlone (makeViews_does _) fun _ => attempt_does

/-- The source map of a refresh, empty if there is none. -/
def mapOf (load : Except Raised SourceMap) : SourceMap :=
  match load with
  | .ok map => map
  | .error _ => ⟨[], List.nodup_nil⟩

/-- What a refresh that returns has published. -/
def Published (map : SourceMap) (s : Store) : Prop :=
  present s = true ∧ ∀ p ∈ map.views, InPlace p s

lemma publish_staged (h : Ready casefold manifest map s ∧ AllStaged map.views s) :
    Publishing [] map.views s ∧ present s = true :=
  ⟨⟨fun _ hv => (List.not_mem_nil hv).elim, fun _ hp => (List.not_mem_nil hp).elim,
    fun p _ => h.1.backups p.1, h.2⟩, h.1.present⟩

lemma stageAndPublish_does (load : Except Raised SourceMap) :
    Does (Ready casefold manifest (mapOf load)) (stageAndPublish casefold load)
      (fun _ => Published (mapOf load)) fun _ s => present s = true := by
  have hpresent : ∀ {α : Type} {p : Program α} {Q : α → Store → Prop},
      Does (Ready casefold manifest (mapOf load)) p Q
        (fun _ => Ready casefold manifest (mapOf load)) →
      Does (Ready casefold manifest (mapOf load)) p Q fun _ s => present s = true :=
    fun h => weaken_does h (fun _ h => h) (fun _ _ h => h) fun _ _ h => h.present
  refine Triple.bindAlone (hpresent ensureLayout_does) fun _ => ?_
  cases load with
  | error e => exact Triple.raiseAlone fun _ h => h.present
  | ok map =>
    refine Triple.bindAlone (Q := fun m s => m = map ∧ Ready casefold manifest map s)
      (Triple.pureAlone fun _ h => ⟨rfl, h⟩) fun m => ?_
    rintro s ⟨rfl, hs⟩
    refine (?_ : Does (Ready casefold manifest m) _ _ _) s hs
    refine Triple.bindAlone (hpresent attempt_does) fun _ => ?_
    refine Triple.bindAlone (hpresent attempt_does) fun _ => ?_
    have hread : Does (Ready casefold manifest m) (perform .readManifest)
        (fun r s => r = manifest ∧ Ready casefold manifest m s) fun _ s => present s = true :=
      perform_does fun s w r u hkept hs _ hrun => by
        obtain ⟨rfl, rfl⟩ := Prod.mk.inj (Option.some.inj hrun)
        exact ⟨hkept, hs.manifest, hs⟩
    refine Triple.bindAlone hread fun r => ?_
    rintro s ⟨rfl, hs⟩
    refine (?_ : Does (Ready casefold r m) _ _ _) s hs
    refine Triple.bindAlone (hpresent (stageViews_does m.views m.nodup steady_ready (fun _ h => h)
      fun _ hv => hv)) fun entries => ?_
    have hnodup : (List.map Prod.fst (m.views ++ [])).Nodup := by
      rw [List.append_nil]
      exact m.nodup
    refine Triple.bindAlone (weaken_does (publishViews_does hnodup) (fun _ => publish_staged)
      (fun _ _ h => h) fun _ _ h => h) fun _ =>
        Triple.pureAlone fun s h => ⟨h.1, fun p hp => h.2 p ?_⟩
    rw [List.append_nil]
    exact hp

lemma refresh_does (load : Except Raised SourceMap) :
    Does (Ready casefold manifest (mapOf load)) (refresh casefold load)
      (fun _ => Published (mapOf load)) fun _ s => present s = true := by
  have hcleanup : ∀ {Q : Store → Prop} {E : Raised → Store → Prop},
      (∀ s, Q s → Q { s with disk := fun p v => if p = .staged then none else s.disk p v }) →
      Does Q (perform .cleanupStaging) (fun _ => Q) E := by
    intro Q E hQ
    refine perform_does fun s w r u hkept hs _ hrun => ?_
    obtain ⟨-, rfl⟩ := Prod.mk.inj (Option.some.inj hrun)
    exact ⟨⟨fun v d hd => holds_congr (hkept.views v d hd) rfl, hkept.unlinked⟩, hQ s hs⟩
  have hhandler : ∀ e, Does (fun s => present s = true) (failRefresh e)
      (fun _ => Published (mapOf load)) fun _ s => present s = true := by
    intro e
    refine Triple.bindAlone (hcleanup fun s h => h) fun _ => ?_
    cases e with
    | media code => exact Triple.raiseAlone fun _ h => h
    | os => exact Triple.raiseAlone fun _ h => h
  refine Triple.bindAlone (catch_does (stageAndPublish_does load) hhandler) fun entries => ?_
  have hwrite : Does (Published (mapOf load)) (throwing (.writeManifest entries))
      (fun _ => Published (mapOf load)) fun _ s => present s = true := by
    refine throwing_does fun s w r u hkept hs _ hrun => ?_
    cases w <;> obtain ⟨rfl, rfl⟩ := Prod.mk.inj (Option.some.inj hrun)
    · exact ⟨⟨fun v d hd => holds_congr (hkept.views v d hd) rfl, hkept.unlinked⟩, hs⟩
    · exact ⟨hkept, hs.1⟩
    · exact ⟨⟨fun v d hd => holds_congr (hkept.views v d hd) rfl, hkept.unlinked⟩, hs.1⟩
  refine Triple.bindAlone hwrite fun _ => ?_
  exact Triple.bindAlone (hcleanup fun s h => h) fun _ => Triple.pureAlone fun _ h => h

/-! ### Runs -/

/-- What operators change keeps what the views are. -/
structure Edits (s t : Store) : Prop where
  kept : Kept t
  present : present s = true → present t = true
  inPlace : ∀ p, InPlace p s → InPlace p t

lemma linked_of_generated {f : File} (h : f ∈ generatedFiles specs) : f.linked = true := by
  obtain ⟨spec, -, hmem⟩ := List.mem_flatMap.mp h
  obtain ⟨g, -, rfl⟩ := List.mem_map.mp hmem
  rfl

/-- Operators change the unlinked files of one view, and nothing else. -/
lemma edits_view {d d' : List File} {placed : List (View × File)} (hkept : Kept s)
    (hd : s.disk .view v = some d)
    (hother : ∀ v' g, v' ≠ v → ((v', g) ∈ placed ↔ (v', g) ∈ s.placed))
    (hunlinked : ∀ p ∈ placed, p.2.linked = false)
    (hlinked : ∀ g, g.linked = true → (g ∈ d' ↔ g ∈ d))
    (hplaced : ∀ g, g.linked = false → ((v, g) ∈ placed ↔ g ∈ d')) :
    Edits s { setDisk s .view v (some d') with placed := placed } := by
  refine ⟨⟨fun v' e he => ?_, hunlinked⟩, fun hpresent => ?_, ?_⟩
  · change (setDisk s .view v (some d')).disk .view v' = some e at he
    by_cases hv : v' = v
    · subst hv
      rw [disk_setDisk, if_pos ⟨rfl, rfl⟩] at he
      obtain rfl := Option.some.inj he
      exact ⟨fun g hg => (hplaced g (hunlinked _ hg)).mp hg, fun g hg hl => (hplaced g hl).mpr hg⟩
    · rw [disk_of_ne (.inr hv)] at he
      have hold := hkept.views v' e he
      exact ⟨fun g hg => hold.placed g ((hother v' g hv).mp hg),
        fun g hg hl => (hother v' g hv).mpr (hold.unlinked g hg hl)⟩
  · refine List.all_eq_true.mpr fun p hp => ?_
    by_cases hv : p.1 = v
    · simp [hv]
    · have hthere := List.all_eq_true.mp hpresent p ((hother p.1 p.2 hv).mp hp)
      simpa [hv] using hthere
  · rintro ⟨v', specs⟩ ⟨e, he, hexact⟩
    by_cases hv : v' = v
    · subst hv
      obtain rfl := Option.some.inj (hd.symm.trans he)
      refine ⟨d', by simp, fun g => ?_⟩
      cases hl : g.linked with
      | true =>
        have hnot : (v', g) ∉ placed := fun hg => by
          rw [hunlinked _ hg] at hl
          cases hl
        have hnot' : (v', g) ∉ s.placed := fun hg => by
          rw [hkept.unlinked _ hg] at hl
          cases hl
        rw [hlinked g hl, hexact g]
        simp [hnot, hnot']
      | false =>
        have hnot : g ∉ generatedFiles specs := fun hg => by
          rw [linked_of_generated hg] at hl
          cases hl
        rw [← hplaced g hl]
        simp [hnot]
    · refine ⟨e, (disk_of_ne (.inr hv)).trans he, fun g => ?_⟩
      rw [hexact g, ← hother v' g hv]

lemma placed_iff {d : List File} {g : File} (hkept : Kept s) (hd : s.disk .view v = some d)
    (hg : g.linked = false) : (v, g) ∈ s.placed ↔ g ∈ d :=
  ⟨(hkept.views v d hd).placed g, fun hin => (hkept.views v d hd).unlinked g hin hg⟩

lemma edits_place {f : File} (hkept : Kept s) (hf : f.linked = false)
    (h : place s v f = some t) : Edits s t := by
  unfold place at h
  obtain ⟨d, hd, h⟩ := Option.bind_eq_some_iff.mp h
  split at h
  · cases h
  · obtain rfl := Option.some.inj h
    refine edits_view hkept hd (fun v' g hv => by simp [hv]) (fun p hp => ?_) (fun g hg => ?_)
      fun g hg => ?_
    · rcases List.mem_append.mp hp with hp | hp
      · exact hkept.unlinked p hp
      · rw [List.mem_singleton.mp hp]
        exact hf
    · have hne : g ≠ f := fun he => by
        rw [he, hf] at hg
        cases hg
      simp [hne]
    · simp [placed_iff hkept hd hg]

lemma edits_remove {path : Path} (hkept : Kept s) (h : remove s v path = some t) : Edits s t := by
  unfold remove at h
  obtain ⟨d, hd, rfl⟩ := Option.map_eq_some_iff.mp h
  refine edits_view hkept hd (fun v' g hv => by simp [hv])
    (fun p hp => hkept.unlinked p (List.mem_of_mem_filter hp)) (fun g hg => by simp [hg])
    fun g hg => ?_
  simp [placed_iff hkept hd hg, hg]

/-- What holds of the views in every state of a run. -/
structure Sound (s : State) : Prop where
  kept : Kept s.store
  rest : s.call = none → present s.store = true
  returned : ∀ map, s.returned = some map →
    s.call = none ∧ ∀ p ∈ map.views, InPlace p s.store
  call : ∀ c, s.call = some c → Safe runOk Kept Eq (fun _ => Published (mapOf c.load))
    (fun _ s => present s = true) c.program s.store

lemma sound_initial : Sound initial where
  kept := ⟨nofun, nofun⟩
  rest _ := rfl
  returned map h := by cases h
  call c h := by cases h

lemma sound_edit {s t : State} (h : Sound s) (hcall : s.call = none) (ht : t.call = none)
    (hreturned : t.returned = s.returned) (hedits : Edits s.store t.store) : Sound t := by
  refine ⟨hedits.kept, fun _ => hedits.present (h.rest hcall), fun map hmap => ⟨ht, fun p hp => ?_⟩,
    fun c hc => ?_⟩
  · exact hedits.inPlace p ((h.returned map (hreturned ▸ hmap)).2 p hp)
  · rw [ht] at hc
    cases hc

lemma sound_advance {s t : State} {w : Outcome} (h : Sound s)
    (hok : undisturbed casefold s (.advance w) = true) (hs : advance s w = some t) : Sound t := by
  unfold advance at hs
  obtain ⟨c, hc, hs⟩ := Option.bind_eq_some_iff.mp hs
  obtain ⟨⟨p, u⟩, hturn, heq⟩ := Option.map_eq_some_iff.mp hs
  have hsafe := h.call c hc
  cases hp : c.program with
  | pure a =>
    rw [hp] at hturn
    cases hturn
  | raise e =>
    rw [hp] at hturn
    cases hturn
  | op o k =>
    rw [hp] at hturn hsafe
    obtain ⟨⟨b, u'⟩, hrun, hpair⟩ := Option.map_eq_some_iff.mp hturn
    obtain ⟨rfl, rfl⟩ := Prod.mk.inj hpair
    have hgoes : w = .ok ∨ present s.store = true := by simpa [undisturbed] using hok
    have hrun' : runOk o w s.store = some (b, u') := (if_pos hgoes).trans hrun
    obtain ⟨hkept, hnext⟩ := hsafe s.store rfl h.kept w b u' hrun'
    dsimp only at heq
    cases hk : k b with
    | pure a =>
      rw [hk] at heq hnext
      obtain rfl := heq
      obtain ⟨hpresent, hplace⟩ := hnext u' rfl
      refine ⟨hkept, fun _ => hpresent, fun map hmap => ⟨rfl, ?_⟩, nofun⟩
      cases hload : c.load with
      | ok m =>
        rw [hload] at hmap hplace
        obtain rfl := Option.some.inj hmap
        exact hplace
      | error e =>
        rw [hload] at hmap
        cases hmap
    | raise e =>
      rw [hk] at heq hnext
      obtain rfl := heq
      exact ⟨hkept, fun _ => hnext u' rfl, nofun, nofun⟩
    | op o' k' =>
      rw [hk] at heq hnext
      obtain rfl := heq
      refine ⟨hkept, nofun, nofun, fun c' hc' => ?_⟩
      obtain rfl := Option.some.inj hc'
      exact hnext

lemma sound_step {s t : State} {e : Event} (h : Sound s) (hok : undisturbed casefold s e = true)
    (hs : step casefold s e = some t) : Sound t := by
  cases e with
  | refresh load =>
    simp only [step] at hs
    split at hs
    · cases hs
    · next hidle =>
        obtain rfl := Option.some.inj hs
        have hpresent := h.rest (by simpa using hidle)
        have hkept : Kept (newRun s.store) :=
          ⟨fun v d hd => holds_congr (h.kept.views v d hd) rfl, h.kept.unlinked⟩
        refine ⟨hkept, nofun, nofun, fun c hc => ?_⟩
        obtain rfl := Option.some.inj hc
        have hdoes : Does (Ready casefold s.store.manifest (mapOf load)) (refresh casefold load)
            (fun _ => Published (mapOf load)) fun _ s => present s = true := refresh_does load
        refine hdoes _ ⟨hpresent, fun v => rfl, rfl, fun p hp => ?_⟩
        cases load with
        | ok map => exact List.all_eq_true.mp hok p hp
        | error e => cases hp
  | advance w => exact sound_advance h hok hs
  | crash =>
    simp only [step] at hs
    split at hs
    · obtain rfl := Option.some.inj hs
      exact ⟨h.kept, fun _ => hok, fun map hmap => ⟨rfl, (h.returned map hmap).2⟩, nofun⟩
    · cases hs
  | place v path inode symlink =>
    simp only [step] at hs
    split at hs
    · cases hs
    · next hidle =>
        obtain ⟨u, hu, rfl⟩ := Option.map_eq_some_iff.mp hs
        have hnone : s.call = none := by simpa using hidle
        exact sound_edit h hnone hnone rfl (edits_place h.kept rfl hu)
  | remove v path =>
    simp only [step] at hs
    split at hs
    · cases hs
    · next hidle =>
        obtain ⟨u, hu, rfl⟩ := Option.map_eq_some_iff.mp hs
        have hnone : s.call = none := by simpa using hidle
        exact sound_edit h hnone hnone rfl (edits_remove h.kept hu)

/-- One file for one view. -/
def only (v : View) (name : String) (inode : ℕ) : SourceMap where
  views := [(v, [⟨[⟨[name], inode, false, false⟩], []⟩])]
  nodup := List.nodup_singleton v

/-- A refresh whose first operations go well. -/
def refreshes (map : SourceMap) (n : ℕ) : List Event :=
  .refresh (.ok map) :: List.replicate n (.advance .ok)

/-- A song is linked, an operator adds a jingle, and the song gives way to another one. -/
def twoRefreshes : List Event :=
  refreshes (only .broadcast "song.mp3" 1) 28 ++ [.place .broadcast ["jingle.mp3"] 9 false] ++
    refreshes (only .broadcast "new.mp3" 3) 32

/-- A view is mapped, then another one instead of it, and then the first one again. -/
def mappedAgain : List Event :=
  refreshes (only .broadcast "song.mp3" 1) 28 ++ refreshes (only .voting "vote.mp3" 2) 28 ++
    refreshes (only .broadcast "new.mp3" 3) 32

/-- The service is killed when the view has been published and the manifest not been written. -/
def killed : List Event :=
  refreshes (only .broadcast "song.mp3" 1) 26 ++ .crash ::
    refreshes (only .broadcast "new.mp3" 3) 32

/-- The staged view cannot be renamed when the view has been moved away. -/
def halfPublished : List Event :=
  refreshes (only .broadcast "song.mp3" 1) 28 ++ [.place .broadcast ["jingle.mp3"] 9 false] ++
    refreshes (only .broadcast "new.mp3" 3) 29 ++ [.advance .failed, .advance .ok]

end OnAir.ViewOwnership
