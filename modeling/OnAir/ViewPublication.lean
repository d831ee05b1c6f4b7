import OnAir.UnifiedMediaFolder

/-!
A refresh that fails while it publishes.

A view is exchanged by two renames, and is put back when a later one fails. A view whose second
rename fails is not yet among those that are put back.
-/

namespace OnAir.ViewPublication

open Resumption Runs UnifiedMediaFolder

/-- The store, and how many renames there have been. -/
abbrev Counted := Store × ℕ

/-- The disk when just the rename with the number `n` fails; of other operations any may. -/
def runAt (n : ℕ) : {β : Type} → Op β → Outcome → Counted → Option (β × Counted)
  | _, .rename source target v, w, s =>
    if w = (if s.2 = n then .failed else .ok) then
      (run (.rename source target v) w s.1).map fun r => (r.1, r.2, s.2 + 1)
    else none
  | _, o, w, s => (run o w s.1).map fun r => (r.1, r.2, s.2)

/-- What the caller is told. -/
def publishFailed : Raised := .media "atomic_publish_failed"

/-- Every view that was there has its content, and no other one has anything. -/
def AllOrNothing (before after : Store) : Prop :=
  ∀ v, match before.disk .view v with
    | some d => after.disk .view v = some d
    | none => after.disk .view v = none ∨ after.disk .view v = some []

abbrev Does {α : Type} (n : ℕ) (P : Counted → Prop) (p : Program α) (Q : α → Counted → Prop)
    (E : Raised → Counted → Prop) : Prop :=
  Triple (runAt n) (fun _ => True) Eq P p Q E

variable {casefold : String → String} {n : ℕ} {α : Type} {P : Counted → Prop}
  {Q : α → Counted → Prop} {E : Raised → Counted → Prop}

/-- An operation that answers with what is to be raised. -/
lemma throwing_does {o : Op (Except Raised α)}
    (hop : ∀ s w r t, P s → runAt n o w s = some (r, t) → match r with
      | .ok a => Q a t
      | .error e => E e t) : Does n P (throwing o) Q E :=
  Triple.throwing (fun _ => rfl) (fun _ => rfl) fun s w r t _ hs hrun => by
    have hended := hop s w r t hs hrun
    cases r <;> exact ⟨trivial, hended⟩

lemma perform_does {o : Op α} (hop : ∀ s w a t, P s → runAt n o w s = some (a, t) → Q a t) :
    Does n P (perform o) Q E :=
  Triple.performAlone fun s w a t _ hs hrun => ⟨trivial, hop s w a t hs hrun⟩

/-- What is raised before anything is published. -/
def Early (e : Raised) (_ : Counted) : Prop := e ≠ publishFailed

lemma attempt_does {e : Raised} (he : e ≠ publishFailed) :
    Does n P (attempt e) (fun _ => P) Early := by
  refine throwing_does fun s w r t hs hrun => ?_
  obtain ⟨rfl, rfl⟩ := Prod.mk.inj (Option.some.inj hrun)
  dsimp only
  split_ifs
  · exact hs
  · exact he

lemma assertSameVolume_does : Does n P assertSameVolume (fun _ => P) Early :=
  Triple.bindAlone (attempt_does (by decide)) fun _ => attempt_does (by decide)

@[simp] lemma disk_setDisk (s : Store) (p p' : Place) (v v' : View) (d : Option (List File)) :
    (setDisk s p v d).disk p' v' = if p' = p ∧ v' = v then d else s.disk p' v' := rfl

/-! ### The layout -/

/-- What a view is for a refresh: one that was not there is made. -/
def base (before : Store) (v : View) : List File := (before.disk .view v).getD []

/-- Some views are made, and nothing else is done. -/
structure Made (before : Store) (made : List View) (s : Counted) : Prop where
  count : s.2 = 0
  backups : ∀ v, s.1.disk .backup v = none
  faileds : ∀ v, s.1.disk .failed v = none
  views : ∀ v, s.1.disk .view v = some (base before v) ∨
    v ∉ made ∧ s.1.disk .view v = before.disk .view v

variable {before : Store} {made vs : List View} {v : View}

lemma makeView_does : Does n (Made before made) (throwing (.makeDirectory .view v true))
    (fun _ => Made before (made ++ [v])) Early := by
  refine throwing_does fun s w r t h hrun => ?_
  have hrest : ∀ u ≠ v, s.1.disk .view u = some (base before u) ∨
      u ∉ made ++ [v] ∧ s.1.disk .view u = before.disk .view u := by
    intro u hu
    refine (h.views u).imp_right fun hview => ⟨fun hmem => ?_, hview.2⟩
    rcases List.mem_append.mp hmem with hmem | hmem
    · exact hview.1 hmem
    · exact hu (List.mem_singleton.mp hmem)
  simp only [runAt, run, and_true] at hrun
  split_ifs at hrun with hnew hold
  · obtain ⟨rfl, rfl⟩ := Prod.mk.inj (Option.some.inj hrun)
    refine ⟨h.count, fun u => ?_, fun u => ?_, fun u => ?_⟩
    · simpa using h.backups u
    · simpa using h.faileds u
    · by_cases hu : u = v
      · subst hu
        left
        have hnone : s.1.disk .view u = none := Option.isNone_iff_eq_none.mp hnew.2
        have hbefore : before.disk .view u = none := by
          rcases h.views u with hview | hview
          · rw [hnone] at hview
            cases hview
          · rw [← hview.2, hnone]
        simp [base, hbefore]
      · simpa [hu] using hrest u hu
  · obtain ⟨rfl, rfl⟩ := Prod.mk.inj (Option.some.inj hrun)
    refine ⟨h.count, h.backups, h.faileds, fun u => ?_⟩
    by_cases hu : u = v
    · subst hu
      left
      obtain ⟨d, hd⟩ : ∃ d, s.1.disk .view u = some d := by
        cases hd : s.1.disk .view u with
        | none => exact absurd ⟨hold, by simp [hd]⟩ hnew
        | some d => exact ⟨d, rfl⟩
      rcases h.views u with hview | hview
      · exact hview
      · simp [base, ← hview.2, hd]
    · exact hrest u hu
  · obtain ⟨rfl, rfl⟩ := Prod.mk.inj (Option.some.inj hrun)
    exact nofun

lemma makeViews_does (views : List View) : Does n (Made before made) (makeViews views)
    (fun _ => Made before (made ++ views)) Early := by
  induction views generalizing made with
  | nil => exact Triple.pureAlone fun s h => by simpa using h
  | cons v views ih =>
    refine Triple.bindAlone makeView_does fun _ => ?_
    have hrest : Does n (Made before (made ++ [v])) (makeViews views)
        (fun _ => Made before (made ++ [v] ++ views)) Early := ih
    rwa [List.append_assoc] at hrest

/-! ### Staging -/

/-- The views are there, some of them are staged, and nothing is published. -/
structure Ready (before : Store) (staged : List View) (s : Counted) : Prop where
  count : s.2 = 0
  backups : ∀ v, s.1.disk .backup v = none
  faileds : ∀ v, s.1.disk .failed v = none
  views : ∀ v, s.1.disk .view v = some (base before v)
  staged : ∀ v ∈ staged, (s.1.disk .staged v).isSome

lemma mem_viewDirectories (v : View) : v ∈ viewDirectories := by
  cases v <;> decide

lemma ensureLayout_does :
    Does n (Made before []) ensureLayout (fun _ => Ready before []) Early := by
  refine Triple.bindAlone (attempt_does (by decide)) fun _ => ?_
  refine Triple.bindAlone assertSameVolume_does fun _ => ?_
  refine Triple.bindAlone (makeViews_does viewDirectories) fun _ => ?_
  refine (attempt_does (by decide)).conseq (fun _ h => h) (fun _ s h => ?_) fun _ _ h => h
  exact ⟨h.count, h.backups, h.faileds,
    fun v => (h.views v).resolve_right fun hview => hview.1 (mem_viewDirectories v), nofun⟩

/-- More is staged. -/
lemma Ready.setStaged {s : Counted} (h : Ready before vs s) (d : List File) :
    Ready before (vs ++ [v]) (setDisk s.1 .staged v (some d), s.2) := by
  refine ⟨h.count, fun u => ?_, fun u => ?_, fun u => ?_, fun u hu => ?_⟩
  · simpa using h.backups u
  · simpa using h.faileds u
  · simpa using h.views u
  · rw [disk_setDisk]
    split_ifs with heq
    · rfl
    · refine h.staged u ((List.mem_append.mp hu).resolve_right fun hmem => heq ⟨rfl, ?_⟩)
      exact List.mem_singleton.mp hmem

lemma Ready.mono {us : List View} {s : Counted} (h : Ready before vs s) (hsub : us ⊆ vs) :
    Ready before us s :=
  ⟨h.count, h.backups, h.faileds, h.views, fun v hv => h.staged v (hsub hv)⟩

lemma stageView_does : Does n (Ready before vs) (throwing (.makeDirectory .staged v false))
    (fun _ => Ready before (vs ++ [v])) Early := by
  refine throwing_does fun s w r t h hrun => ?_
  simp only [runAt, run, Bool.false_eq_true, and_false, if_false] at hrun
  split_ifs at hrun
  · obtain ⟨rfl, rfl⟩ := Prod.mk.inj (Option.some.inj hrun)
    exact h.setStaged []
  · obtain ⟨rfl, rfl⟩ := Prod.mk.inj (Option.some.inj hrun)
    exact nofun

lemma link_does {f : File} {e e' : Raised} (he : e ≠ publishFailed) (he' : e' ≠ publishFailed)
    (hv : v ∈ vs) : Does n (Ready before vs) (throwing (.link v f e e'))
      (fun _ => Ready before vs) Early := by
  refine throwing_does fun s w r t h hrun => ?_
  cases w with
  | ok =>
    obtain ⟨rfl, rfl⟩ := Prod.mk.inj (Option.some.inj hrun)
    obtain ⟨d, hd⟩ := Option.isSome_iff_exists.mp (h.staged v hv)
    have hmore := h.setStaged (v := v) (d ++ [f])
    rw [hd, Option.map_some]
    exact hmore.mono (List.subset_append_left _ _)
  | failed =>
    obtain ⟨rfl, rfl⟩ := Prod.mk.inj (Option.some.inj hrun)
    exact he
  | late =>
    obtain ⟨rfl, rfl⟩ := Prod.mk.inj (Option.some.inj hrun)
    exact he'

lemma stageSource_does {destination : Path} (hv : v ∈ vs) (files : List File)
    (entries : List Entry) :
    Does n (Ready before vs) (stageSource casefold v destination files entries)
      (fun _ => Ready before vs) Early := by
  induction files generalizing entries with
  | nil => exact Triple.pureAlone fun _ h => h
  | cons f files ih =>
    unfold stageSource
    split_ifs
    · exact Triple.raiseAlone fun _ _ => show _ ≠ _ by decide
    · dsimp only
      split_ifs
      · exact Triple.raiseAlone fun _ _ => show _ ≠ _ by decide
      · refine Triple.bindAlone (attempt_does (by decide)) fun _ => ?_
        refine Triple.bindAlone assertSameVolume_does fun _ => ?_
        exact Triple.bindAlone (link_does (by decide) (by decide) hv) fun _ => ih _

lemma buildStagedView_does (hv : v ∈ vs) (specs : List SourceSpec) (entries : List Entry) :
    Does n (Ready before vs) (buildStagedView casefold v specs entries)
      (fun _ => Ready before vs) Early := by
  induction specs generalizing entries with
  | nil => exact Triple.pureAlone fun _ h => h
  | cons spec specs ih =>
    refine Triple.bindAlone assertSameVolume_does fun _ => ?_
    exact Triple.bindAlone (stageSource_does hv _ _) fun _ => ih _

lemma carryFiles_does {generated prior : List String} (hv : v ∈ vs) (files : List File)
    (carried : List Entry) :
    Does n (Ready before vs) (carryFiles casefold v generated prior files carried)
      (fun _ => Ready before vs) Early := by
  induction files generalizing carried with
  | nil => exact Triple.pureAlone fun _ h => h
  | cons f files ih =>
    unfold carryFiles
    split_ifs
    · exact Triple.raiseAlone fun _ _ => show _ ≠ _ by decide
    · exact ih _
    · exact Triple.raiseAlone fun _ _ => show _ ≠ _ by decide
    · refine Triple.bindAlone (attempt_does (by decide)) fun _ => ?_
      refine Triple.bindAlone assertSameVolume_does fun _ => ?_
      exact Triple.bindAlone (link_does (by decide) (by decide) hv) fun _ => ih _

lemma carryOperatorFiles_does {generated prior : List String} (hv : v ∈ vs) :
    Does n (Ready before vs) (carryOperatorFiles casefold v generated prior)
      (fun _ => Ready before vs) Early := by
  refine Triple.bindAlone (Q := fun _ => Ready before vs) (perform_does fun s w a t h hrun => ?_)
    fun listing => ?_
  · obtain ⟨rfl, rfl⟩ := Prod.mk.inj (Option.some.inj hrun)
    exact h
  · cases listing with
    | none => exact Triple.pureAlone fun _ h => h
    | some files => exact Triple.bindAlone assertSameVolume_does fun _ => carryFiles_does hv _ _

lemma stageViews_does {prior : View → List String} (views : List (View × List SourceSpec)) :
    Does n (Ready before vs) (stageViews casefold prior views)
      (fun _ => Ready before (vs ++ views.map (·.1))) Early := by
  induction views generalizing vs with
  | nil => exact Triple.pureAlone fun s h => by simpa using h
  | cons p views ih =>
    obtain ⟨v, specs⟩ := p
    have hv : v ∈ vs ++ [v] := List.mem_append_right _ List.mem_cons_self
    refine Triple.bindAlone stageView_does fun _ => ?_
    refine Triple.bindAlone (buildStagedView_does hv _ _) fun _ => ?_
    refine Triple.bindAlone (carryOperatorFiles_does hv) fun _ => ?_
    refine Triple.bindAlone ih fun _ => Triple.pureAlone fun s h => ?_
    rwa [List.append_assoc] at h

/-! ### Renames -/

def moved (source target : Place) (v : View) (s : Counted) : Counted :=
  (setDisk (setDisk s.1 target v (s.1.disk source v)) source v none, s.2 + 1)

/-- The rename with the number `n` leaves the disk as it was. -/
lemma rename_does {source target : Place} (hthere : ∀ s, P s → (s.1.disk source v).isSome)
    (hfree : ∀ s, P s → s.1.disk target v = none) :
    Does n P (throwing (.rename source target v))
      (fun _ t => ∃ s, P s ∧ s.2 ≠ n ∧ t = moved source target v s)
      (fun _ t => ∃ s, P s ∧ s.2 = n ∧ t = (s.1, s.2 + 1)) := by
  refine throwing_does fun s w r t hs hrun => ?_
  simp only [runAt] at hrun
  split_ifs at hrun with hn hw hw
  · subst hw
    simp only [run, reduceCtorEq, false_and, if_false, Option.map_some] at hrun
    obtain ⟨rfl, rfl⟩ := Prod.mk.inj (Option.some.inj hrun)
    exact ⟨s, hs, hn, rfl⟩
  · subst hw
    simp only [run, hthere s hs, hfree s hs, Option.isNone_none, and_self, if_true,
      Option.map_some] at hrun
    obtain ⟨rfl, rfl⟩ := Prod.mk.inj (Option.some.inj hrun)
    exact ⟨s, hs, hn, rfl⟩

lemma replaceIfThere_does {source target : Place}
    (hthere : ∀ s, P s → (s.1.disk source v).isSome)
    (hfree : ∀ s, P s → s.1.disk target v = none) :
    Does n P (replaceIfThere source target v)
      (fun _ t => ∃ s, P s ∧ s.2 ≠ n ∧ t = moved source target v s)
      (fun _ t => ∃ s, P s ∧ s.2 = n ∧ t = (s.1, s.2 + 1)) := by
  refine Triple.bindAlone (Q := fun a s => a = true ∧ P s) (perform_does fun s w a t hs hrun => ?_)
    fun a => ?_
  · obtain ⟨rfl, rfl⟩ := Prod.mk.inj (Option.some.inj hrun)
    exact ⟨hthere s hs, hs⟩
  · cases a with
    | false => exact fun _ h => absurd h.1 Bool.false_ne_true
    | true =>
      exact (rename_does hthere hfree).conseq (fun _ h => h.2) (fun _ _ h => h) fun _ _ h => h

/-! ### Putting back -/

/-- What a view is in the end, when `v` is the one whose exchange has failed. -/
def ending (before : Store) (n : ℕ) (v u : View) : Option (List File) :=
  if u = v ∧ n % 2 = 1 then none else some (base before u)

/-- The rename has failed, and some of the views are still to be put back. -/
structure Undoing (before : Store) (n : ℕ) (v : View) (published : List View) (s : Counted) :
    Prop where
  late : n < s.2
  put : ∀ u ∈ published, (s.1.disk .view u).isSome ∧
    s.1.disk .backup u = some (base before u) ∧ s.1.disk .failed u = none
  rest : ∀ u ∉ published, s.1.disk .view u = ending before n v u

variable {u : View} {us : List View}

/-- One more view is back. -/
lemma Undoing.next {s : Counted} (h : Undoing before n v (u :: us) s) (huv : u ≠ v) (hu : u ∉ us) :
    Undoing before n v us (moved .backup .view u (moved .view .failed u s)) := by
  have hback := (h.put u List.mem_cons_self).2.1
  refine ⟨h.late.trans (by simp only [moved]; omega), fun w hw => ?_, fun w hw => ?_⟩
  · have hne : w ≠ u := fun heq => hu (heq ▸ hw)
    simpa [moved, hne] using h.put w (List.mem_cons_of_mem u hw)
  · by_cases hne : w = u
    · subst hne
      simp [moved, hback, ending, huv]
    · simpa [moved, hne] using h.rest w fun hmem => (List.mem_cons.mp hmem).elim hne hw

lemma rollback_does (published : List View) (hnodup : published.Nodup) (hv : v ∉ published) :
    Does n (Undoing before n v published) (rollback published)
      (fun _ => Undoing before n v []) E := by
  induction published with
  | nil => exact Triple.pureAlone fun _ h => h
  | cons u us ih =>
    obtain ⟨hu, hnodup⟩ := List.nodup_cons.mp hnodup
    obtain ⟨huv, hv⟩ := List.ne_and_not_mem_of_not_mem_cons hv
    refine Triple.bindAlone (Q := fun _ => Undoing before n v us) ?_ fun _ => ih hnodup hv
    refine Triple.tryCatch (F := fun _ _ => False) (fun _ => rfl) ?_ fun _ _ h => h.elim
    -- no rename fails any more
    have hfirst : Does n (Undoing before n v (u :: us)) (replaceIfThere .view .failed u)
        (fun _ t => ∃ s, Undoing before n v (u :: us) s ∧ t = moved .view .failed u s)
        fun _ _ => False :=
      (replaceIfThere_does (fun s h => (h.put u List.mem_cons_self).1)
        fun s h => (h.put u List.mem_cons_self).2.2).conseq (fun _ h => h)
          (fun _ t ⟨s, h, _, ht⟩ => ⟨s, h, ht⟩) fun _ t ⟨s, h, hn, _⟩ => h.late.ne' hn
    refine Triple.bindAlone hfirst fun _ => ?_
    refine (replaceIfThere_does ?_ ?_).conseq (fun _ h => h) ?_ ?_
    · rintro _ ⟨s, h, rfl⟩
      simp [moved, (h.put u List.mem_cons_self).2.1]
    · rintro _ ⟨s, h, rfl⟩
      simp [moved]
    · rintro _ _ ⟨_, ⟨s, h, rfl⟩, -, rfl⟩
      exact h.next (Ne.symm huv) hu
    · rintro _ _ ⟨_, ⟨s, h, rfl⟩, hn, -⟩
      exact absurd hn (h.late.trans (Nat.lt_succ_self _)).ne'

/-! ### Publishing -/

/-- Some views are published, and others are to be. -/
structure Exchanged (before : Store) (published rest : List View) (s : Counted) : Prop where
  count : s.2 = 2 * published.length
  put : ∀ u ∈ published, (s.1.disk .view u).isSome ∧
    s.1.disk .backup u = some (base before u) ∧ s.1.disk .failed u = none
  untouched : ∀ u ∉ published, s.1.disk .view u = some (base before u) ∧
    s.1.disk .backup u = none ∧ s.1.disk .failed u = none
  staged : ∀ u ∈ rest, (s.1.disk .staged u).isSome

lemma exchanged_of_ready {s : Counted} (h : Ready before vs s) : Exchanged before [] vs s :=
  ⟨h.count, nofun, fun u _ => ⟨h.views u, h.backups u, h.faileds u⟩, h.staged⟩

variable {published rest : List View}

lemma publishView_does (hv : v ∉ published) (hrest : v ∉ rest) :
    Does n (Exchanged before published (v :: rest)) (publishView v)
      (fun _ => Exchanged before (v :: published) rest)
      fun _ s => n / 2 = published.length ∧ Undoing before n v published s := by
  have hput {s : Counted} (h : Exchanged before published (v :: rest) s) :
      ∀ u ∈ published, u ≠ v ∧ (s.1.disk .view u).isSome ∧
        s.1.disk .backup u = some (base before u) ∧ s.1.disk .failed u = none :=
    fun u hu => ⟨fun heq => hv (heq ▸ hu), h.put u hu⟩
  have hfirst : Does n (Exchanged before published (v :: rest)) (replaceIfThere .view .backup v)
      (fun _ t => ∃ s, Exchanged before published (v :: rest) s ∧ s.2 ≠ n ∧
        t = moved .view .backup v s)
      fun _ t => ∃ s, Exchanged before published (v :: rest) s ∧ s.2 = n ∧ t = (s.1, s.2 + 1) :=
    replaceIfThere_does (fun s h => by rw [(h.untouched v hv).1]; rfl)
      fun s h => (h.untouched v hv).2.1
  refine Triple.bindAlone (hfirst.conseq (fun _ h => h) (fun _ _ h => h) ?_) fun _ => ?_
  · -- the view is not moved
    rintro _ _ ⟨s, h, hn, rfl⟩
    have hcount := h.count
    refine ⟨by omega, by dsimp only; omega, h.put, fun u hu => ?_⟩
    rw [(h.untouched u hu).1, ending, if_neg fun hodd => by omega]
  · refine (rename_does ?_ ?_).conseq (fun _ h => h) ?_ ?_
    · rintro _ ⟨s, h, -, rfl⟩
      simpa [moved] using h.staged v List.mem_cons_self
    · rintro _ ⟨s, h, -, rfl⟩
      simp [moved]
    · rintro _ _ ⟨_, ⟨s, h, -, rfl⟩, -, rfl⟩
      have hcount := h.count
      refine ⟨?_, fun u hu => ?_, fun u hu => ?_, fun u hu => ?_⟩
      · simp only [moved, List.length_cons]
        omega
      · rcases List.mem_cons.mp hu with rfl | hu
        · have hold := h.untouched u hv
          simpa [moved, hold.1, hold.2.2] using h.staged u List.mem_cons_self
        · obtain ⟨hne, hold⟩ := hput h u hu
          simpa [moved, hne] using hold
      · obtain ⟨hne, hu⟩ := List.ne_and_not_mem_of_not_mem_cons hu
        simpa [moved, hne] using h.untouched u hu
      · have hne : u ≠ v := fun heq => hrest (heq ▸ hu)
        simpa [moved, hne] using h.staged u (List.mem_cons_of_mem v hu)
    · -- the view is moved, and nothing is put in its place
      rintro _ _ ⟨_, ⟨s, h, -, rfl⟩, hn, rfl⟩
      have hcount := h.count
      simp only [moved] at hn
      refine ⟨by omega, by simp only [moved]; omega, fun u hu => ?_, fun u hu => ?_⟩
      · obtain ⟨hne, hold⟩ := hput h u hu
        simpa [moved, hne] using hold
      · have hold := (h.untouched u hu).1
        by_cases hne : u = v
        · subst hne
          rw [ending, if_pos ⟨rfl, by omega⟩]
          simp [moved]
        · rw [ending, if_neg fun hodd => hne hodd.1]
          simpa [moved, hne] using hold

lemma publishViews_does (hnodup : (published.reverse ++ rest).Nodup) :
    Does n (Exchanged before published rest) (publishViews published rest) (fun _ _ => True)
      fun e s => e = publishFailed ∧ ∃ v, (published.reverse ++ rest)[n / 2]? = some v ∧
        ∀ u, s.1.disk .view u = ending before n v u := by
  induction rest generalizing published with
  | nil => exact Triple.pureAlone fun _ _ => trivial
  | cons v rest ih =>
    have hparts := List.nodup_append.mp hnodup
    have hv : v ∉ published := fun hmem =>
      hparts.2.2 v (List.mem_reverse.mpr hmem) v List.mem_cons_self rfl
    have hrest : v ∉ rest := (List.nodup_cons.mp hparts.2.1).1
    have happend : published.reverse ++ v :: rest = (v :: published).reverse ++ rest := by simp
    refine Triple.bindAlone (Q := fun _ => Exchanged before (v :: published) rest) ?_ fun _ => ?_
    · refine Triple.tryCatch (fun _ => rfl) (publishView_does hv hrest) fun _ s h => ?_
      obtain ⟨hindex, h⟩ := h
      refine Triple.bindAlone (rollback_does published (List.nodup_reverse.mp hparts.1) hv)
        (fun _ => Triple.raiseAlone fun t ht => ?_) s h
      refine ⟨rfl, v, ?_, fun u => ht.rest u List.not_mem_nil⟩
      rw [List.getElem?_append_right (by simp [hindex]), List.length_reverse, hindex,
        Nat.sub_self]
      rfl
    · rw [happend] at hnodup ⊢
      exact ih hnodup

/-! ### A refresh -/

/-- Which views a refresh that fails has put back. -/
def PutBack (before : Store) (n : ℕ) (views : List View) (s : Counted) : Prop :=
  ∃ v, views[n / 2]? = some v ∧ ∀ u, s.1.disk .view u = ending before n v u

lemma stageAndPublish_does (map : SourceMap) :
    Does n (Made before []) (stageAndPublish casefold (.ok map)) (fun _ _ => True)
      fun e s => e = publishFailed → PutBack before n (map.views.map (·.1)) s := by
  have early {γ : Type} {P' : Counted → Prop} {p : Program γ} {Q' : γ → Counted → Prop}
      (h : Does n P' p Q' Early) : Does n P' p Q' fun e s =>
        e = publishFailed → PutBack before n (map.views.map (·.1)) s :=
    h.conseq (fun _ h => h) (fun _ _ h => h) fun _ _ hne heq => absurd heq hne
  refine Triple.bindAlone (early ensureLayout_does) fun _ => ?_
  refine Triple.bindAlone (Q := fun map' s => map' = map ∧ Ready before [] s)
    (Triple.pureAlone fun _ h => ⟨rfl, h⟩) fun map' => ?_
  intro s ⟨hmap, hs⟩
  subst hmap
  refine Triple.bindAlone (early (attempt_does (by decide))) (fun _ => ?_) s hs
  refine Triple.bindAlone (early (attempt_does (by decide))) fun _ => ?_
  refine Triple.bindAlone (Q := fun _ => Ready before []) (perform_does fun s w a t h hrun => ?_)
    fun manifest => ?_
  · obtain ⟨rfl, rfl⟩ := Prod.mk.inj (Option.some.inj hrun)
    exact h
  · refine Triple.bindAlone (early (stageViews_does map'.views)) fun entries => ?_
    refine Triple.bindAlone ((publishViews_does map'.nodup).conseq
      (fun _ h => exchanged_of_ready h) (fun _ _ h => h) fun _ _ h _ => h.2) fun _ => ?_
    exact Triple.pureAlone fun _ h => h

lemma failRefresh_does {views : List View} (e : Raised) :
    Does n (fun s => e = publishFailed → PutBack before n views s) (failRefresh e)
      (fun _ _ => True) fun e s => e = publishFailed → PutBack before n views s := by
  have hcleanup : Does n (fun s => e = publishFailed → PutBack before n views s)
      (perform .cleanupStaging) (fun _ s => e = publishFailed → PutBack before n views s)
      fun e s => e = publishFailed → PutBack before n views s := by
    refine perform_does fun s w a t h hrun => ?_
    obtain ⟨rfl, rfl⟩ := Prod.mk.inj (Option.some.inj hrun)
    exact h
  refine Triple.bindAlone hcleanup fun _ => ?_
  cases e with
  | media code => exact Triple.raiseAlone fun _ h => h
  | os => exact Triple.raiseAlone fun _ _ heq => absurd heq (by decide)

lemma refresh_does (map : SourceMap) :
    Does n (Made before []) (refresh casefold (.ok map)) (fun _ _ => True)
      fun e s => e = publishFailed → PutBack before n (map.views.map (·.1)) s := by
  refine Triple.bindAlone (Triple.tryCatch (fun _ => rfl) (stageAndPublish_does map)
    fun e => failRefresh_does e) fun entries => ?_
  refine Triple.bindAlone (Q := fun _ _ => True) ?_ fun _ => ?_
  · refine throwing_does fun s w r t _ hrun => ?_
    cases w <;>
      · obtain ⟨rfl, rfl⟩ := Prod.mk.inj (Option.some.inj hrun)
        first | trivial | exact fun heq => absurd heq (by decide)
  · exact Triple.bindAlone (Q := fun _ _ => True) (perform_does fun _ _ _ _ _ _ => trivial)
      fun _ => Triple.pureAlone fun _ _ => trivial

lemma allOrNothing_iff {views : List View} {s : Counted} (h : PutBack before n views s) :
    AllOrNothing before s.1 ↔
      n % 2 = 0 ∨ ∀ v, views[n / 2]? = some v → before.disk .view v = none := by
  obtain ⟨v, hv, hending⟩ := h
  constructor
  · intro hall
    refine (Nat.mod_two_eq_zero_or_one n).imp_right fun hodd u hu => ?_
    obtain rfl := Option.some.inj (hv.symm.trans hu)
    have hlost : s.1.disk .view v = none := by rw [hending, ending, if_pos ⟨rfl, hodd⟩]
    have hthis := hall v
    cases hbefore : before.disk .view v with
    | none => rfl
    | some d =>
      rw [hbefore] at hthis
      dsimp only at hthis
      rw [hlost] at hthis
      cases hthis
  · intro hgood u
    rw [hending, ending]
    split_ifs with hlost
    · obtain ⟨rfl, hodd⟩ := hlost
      have hnone := hgood.resolve_left (by omega) u hv
      rw [hnone]
      exact .inl rfl
    · unfold base
      cases before.disk .view u with
      | none => exact .inr rfl
      | some d => rfl

def jingle : File := ⟨["opener.mp3"], 7, false, false⟩

/-- The jingles are mapped, without a source. -/
def oneView : SourceMap := ⟨[(.jingles, [])], by decide⟩

/-- An operator has placed a jingle. -/
def oneJingle : Store :=
  ⟨fun p v => if p = .view ∧ v = .jingles then some [jingle] else none, [],
    [(.jingles, jingle)]⟩

/-- The outcomes up to the first rename, or up to the second. -/
def firstFails : List Outcome := List.replicate 22 .ok ++ [.failed, .ok]

def secondFails : List Outcome := List.replicate 23 .ok ++ [.failed, .ok]

end OnAir.ViewPublication
