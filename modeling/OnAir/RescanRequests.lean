import OnAir.CatalogGenerations
import OnAir.LibraryWatcher

/-!
Requests for a rescan, and the synchronisations they overtake.

In the watcher of the library and in the catalogue, a synchronisation that succeeds says so in the
state of its profile or product, whatever was requested since it began. A watcher also forgets the
state of a profile that is not provided for a while.
-/

namespace OnAir.RescanRequests

open Resumption Runs

/-! ### The watcher -/

namespace Library

open LibraryWatcher

variable {requiredStablePolls maxRetries : ℕ} {w w' : Watcher} {key : Key}

/-- A profile with a request that is pending is not shown as watching. -/
def Heard (w : Watcher) : Prop :=
  ∀ key, w.pending key = true → shown w key ≠ some .watching

/-- What succeeds has not been overtaken, and a profile with a request comes back with its state. -/
def keepsRequest (w : Watcher) : Event → Bool
  | .poll _ profiles => profiles.all fun p => !w.pending p.key || (w.states p.key).isSome
  | .syncEnds (.ok ()) =>
    match w.thread with
    | .syncing _ profile _ _ _ => !w.pending profile.key || w.fresh profile.key
    | _ => true
  | _ => true

/-- The profiles that a poll goes through. -/
def underWay : Thread → List Profile
  | .idle => []
  | .polling _ rest => rest
  | .observing _ profile rest => profile :: rest
  | .syncing _ profile _ _ rest => profile :: rest

/-- What holds of the state of a profile with a request. -/
def Asked (state : ProfileState) : Prop :=
  state.status ≠ .watching ∧ state.syncedFingerprint = ""

structure Invariant (w : Watcher) : Prop where
  asked : ∀ key state, w.pending key = true → w.states key = some state → Asked state
  stated : ∀ key, w.pending key = true → (w.profiles key).isSome → (w.states key).isSome
  provided : ∀ p ∈ underWay w.thread, (w.profiles p.key).isSome

lemma invariant_start : Invariant start := ⟨nofun, nofun, nofun⟩

lemma Invariant.heard (h : Invariant w) : Heard w := by
  intro key hpending
  unfold shown
  cases hprofile : w.profiles key with
  | none => exact nofun
  | some profile =>
    obtain ⟨state, hstate⟩ := Option.isSome_iff_exists.mp
      (h.stated key hpending (by rw [hprofile]; rfl))
    rw [hstate]
    exact fun heq => (h.asked key state hpending hstate).1 (Option.some.inj heq)

/-- The state of one profile is changed by the poll. -/
lemma Invariant.setState (h : Invariant w) {p : Profile} (hp : (w.profiles p.key).isSome)
    {f : ProfileState → ProfileState} (hf : ∀ state, Asked state → Asked (f state))
    {thread : Thread} (hthread : ∀ q ∈ underWay thread, (w.profiles q.key).isSome) :
    Invariant { LibraryWatcher.setState p.key f w with thread } := by
  refine ⟨fun key state hpending hstate => ?_, fun key hpending hprofile => ?_, hthread⟩
  · change Function.update w.states p.key _ key = some state at hstate
    by_cases hkey : key = p.key
    · subst hkey
      rw [Function.update_self] at hstate
      obtain ⟨old, hold⟩ := Option.isSome_iff_exists.mp (h.stated p.key hpending hp)
      rw [hold] at hstate
      obtain rfl := Option.some.inj hstate
      exact hf old (h.asked p.key old hpending hold)
    · rw [Function.update_of_ne hkey] at hstate
      exact h.asked key state hpending hstate
  · change (Function.update w.states p.key _ key).isSome
    by_cases hkey : key = p.key
    · subst hkey
      rw [Function.update_self]
      rfl
    · rw [Function.update_of_ne hkey]
      exact h.stated key hpending hprofile

lemma asked_unreadable {now : ℚ} {error : String} {state : ProfileState} (h : Asked state) :
    Asked (unreadable now error state) := ⟨nofun, h.2⟩

lemma asked_syncFailed {now : ℚ} {error : String} {state : ProfileState} (h : Asked state) :
    Asked (syncFailed maxRetries now error state) := by
  refine ⟨fun hwatching => ?_, h.2⟩
  unfold syncFailed at hwatching
  dsimp only at hwatching
  split_ifs at hwatching

/-- A fingerprint does not settle a request. -/
lemma asked_observed {profile : Profile} {now : ℚ} {fingerprint : String} {fileCount : ℕ}
    {state : ProfileState} (hfingerprint : fingerprint ≠ "") (h : Asked state) :
    Asked (observed requiredStablePolls maxRetries profile now fingerprint fileCount state).1 := by
  unfold observed
  dsimp only
  have hne : fingerprint ≠ state.syncedFingerprint := fun heq => hfingerprint (heq.trans h.2)
  split_ifs with _ hwatching
  · exact ⟨nofun, h.2⟩
  · exact absurd hwatching.1 hne
  · exact ⟨nofun, h.2⟩
  · exact ⟨nofun, h.2⟩
  · exact ⟨nofun, h.2⟩
  · exact ⟨nofun, h.2⟩

lemma Invariant.poll (h : Invariant w) {now : ℚ} {profiles : List Profile}
    (hkeeps : keepsRequest w (.poll now profiles) = true) :
    Invariant { w with
      profiles := byKey profiles
      states := fun key => if key ∈ profiles.map (·.key) then w.states key else none
      thread := .polling now profiles } := by
  have hbyKey : ∀ key, (byKey profiles key).isSome ↔ key ∈ profiles.map (·.key) := by
    intro key
    unfold byKey
    rw [List.find?_isSome]
    simp
  refine ⟨fun key state hpending hstate => ?_, fun key hpending hprofile => ?_, fun p hp => ?_⟩
  · dsimp only at hstate
    split_ifs at hstate
    exact h.asked key state hpending hstate
  · have hmem := (hbyKey key).mp hprofile
    dsimp only
    rw [if_pos hmem]
    obtain ⟨p, hp, rfl⟩ := List.mem_map.mp hmem
    have hthis := List.all_eq_true.mp hkeeps p hp
    rw [show w.pending p.key = true from hpending] at hthis
    simpa using hthis
  · exact (hbyKey p.key).mpr (List.mem_map.mpr ⟨p, hp, rfl⟩)

lemma Invariant.requestRescan (h : Invariant w) {stationId : Option ℤ} {trackType : String}
    (he : step requiredStablePolls maxRetries w (.requestRescan stationId trackType) = some w') :
    Invariant w' := by
  cases he
  refine ⟨fun key state hpending hstate => ?_, fun key hpending hprofile => ?_, h.provided⟩
  · dsimp only at hpending hstate
    split_ifs at hstate with hselected
    · obtain rfl := Option.some.inj hstate
      exact ⟨nofun, rfl⟩
    · rw [Bool.not_eq_true] at hselected
      rw [hselected, Bool.false_or] at hpending
      exact h.asked key state hpending hstate
  · dsimp only at hpending ⊢
    split_ifs with hselected
    · rfl
    · rw [Bool.not_eq_true] at hselected
      rw [hselected, Bool.false_or] at hpending
      exact h.stated key hpending hprofile

/-- A success that was not overtaken answers the request. -/
lemma Invariant.syncSucceeded (h : Invariant w) {p : Profile} {f : ProfileState → ProfileState}
    (hkeeps : (!w.pending p.key || w.fresh p.key) = true) {thread : Thread}
    (hthread : ∀ q ∈ underWay thread, (w.profiles q.key).isSome) :
    Invariant { LibraryWatcher.setState p.key f w with
      thread
      pending := Function.update w.pending p.key (w.pending p.key && !w.fresh p.key) } := by
  have hanswered : (w.pending p.key && !w.fresh p.key) = false := by
    cases hpending : w.pending p.key
    · rfl
    · rw [hpending] at hkeeps
      simpa using hkeeps
  rw [hanswered]
  have hother {key : Key} (hpending : Function.update w.pending p.key false key = true) :
      key ≠ p.key ∧ w.pending key = true := by
    by_cases hkey : key = p.key
    · subst hkey
      rw [Function.update_self] at hpending
      cases hpending
    · rw [Function.update_of_ne hkey] at hpending
      exact ⟨hkey, hpending⟩
  refine ⟨fun key state hpending hstate => ?_, fun key hpending hprofile => ?_, hthread⟩
  · obtain ⟨hkey, hpending⟩ := hother hpending
    change Function.update w.states p.key _ key = some state at hstate
    rw [Function.update_of_ne hkey] at hstate
    exact h.asked key state hpending hstate
  · obtain ⟨hkey, hpending⟩ := hother hpending
    change (Function.update w.states p.key _ key).isSome
    rw [Function.update_of_ne hkey]
    exact h.stated key hpending hprofile

/-- A step that keeps the requests. -/
lemma Invariant.step (h : Invariant w) {e : Event} (hkeeps : keepsRequest w e = true)
    (he : step requiredStablePolls maxRetries w e = some w') : Invariant w' := by
  cases e with
  | poll now profiles =>
    unfold LibraryWatcher.step at he
    dsimp only at he
    split at he
    · cases he
      exact h.poll hkeeps
    · cases he
  | nextProfile =>
    unfold LibraryWatcher.step at he
    dsimp only at he
    split at he
    · cases he
      exact ⟨h.asked, h.stated, nofun⟩
    · next hthread =>
        cases he
        have hprovided := h.provided
        rw [hthread] at hprovided
        exact h.setState (hprovided _ List.mem_cons_self) (fun _ hasked => hasked) hprovided
    · cases he
  | observed r =>
    unfold LibraryWatcher.step at he
    dsimp only at he
    split at he
    · next hthread =>
        cases he
        have hprovided := h.provided
        rw [hthread] at hprovided
        exact h.setState (hprovided _ List.mem_cons_self) (fun _ => asked_unreadable)
          fun q hq => hprovided q (List.mem_cons_of_mem _ hq)
    · next now profile rest fingerprint fileCount hthread =>
        have hprovided := h.provided
        rw [hthread] at hprovided
        split_ifs at he with hempty hsync
        · cases he
          have hnext := h.setState (hprovided profile List.mem_cons_self)
            (f := fun state => (observed requiredStablePolls maxRetries profile now fingerprint
              fileCount state).1) (fun _ => asked_observed hempty) hprovided
          exact ⟨hnext.asked, hnext.stated, hnext.provided⟩
        · cases he
          exact h.setState (hprovided _ List.mem_cons_self) (fun _ => asked_observed hempty)
            fun q hq => hprovided q (List.mem_cons_of_mem _ hq)
    · cases he
  | syncEnds r =>
    unfold LibraryWatcher.step at he
    dsimp only at he
    split at he
    · next hthread =>
        cases he
        have hprovided := h.provided
        rw [hthread] at hprovided
        exact h.setState (hprovided _ List.mem_cons_self) (fun _ => asked_syncFailed)
          fun q hq => hprovided q (List.mem_cons_of_mem _ hq)
    · next hthread =>
        cases he
        have hprovided := h.provided
        rw [hthread] at hprovided
        unfold keepsRequest at hkeeps
        rw [hthread] at hkeeps
        exact h.syncSucceeded hkeeps fun q hq => hprovided q (List.mem_cons_of_mem _ hq)
    · cases he
  | requestRescan stationId trackType => exact h.requestRescan he

/-- A request that is not kept is shown as watching. -/
lemma keepsRequest_of_heard (h : Invariant w) {e : Event}
    (he : step requiredStablePolls maxRetries w e = some w') (hheard : Heard w') :
    keepsRequest w e = true := by
  cases e with
  | poll now profiles =>
    unfold step at he
    dsimp only at he
    split at he
    · cases he
      refine List.all_eq_true.mpr fun p hp => ?_
      cases hstate : w.states p.key with
      | some state => simp
      | none =>
        cases hpending : w.pending p.key with
        | false => rfl
        | true =>
          have hnot := hheard p.key hpending
          have hprofile : (byKey profiles p.key).isSome := by
            unfold byKey
            rw [List.find?_isSome]
            exact ⟨p, List.mem_reverse.mpr hp, by simp⟩
          obtain ⟨q, hq⟩ := Option.isSome_iff_exists.mp hprofile
          unfold shown at hnot
          dsimp only at hnot
          rw [hq, hstate, ite_self] at hnot
          exact absurd rfl hnot
    · cases he
  | nextProfile => rfl
  | observed r => rfl
  | syncEnds r =>
    cases r with
    | error error => rfl
    | ok u =>
      unfold step at he
      unfold keepsRequest
      dsimp only at he ⊢
      split at he
      · next heq => cases heq
      · next profile _ _ _ hthread _ =>
          cases he
          have hprovided := h.provided profile (by rw [hthread]; exact List.mem_cons_self)
          obtain ⟨p, hp⟩ := Option.isSome_iff_exists.mp hprovided
          rw [hthread]
          dsimp only
          cases hpending : w.pending profile.key with
          | false => rfl
          | true =>
            cases hfresh : w.fresh profile.key with
            | true => rfl
            | false =>
              have hnot := hheard profile.key (by simp [hpending, hfresh])
              unfold shown at hnot
              simp only [setState, Function.update_self, hp] at hnot
              exact absurd rfl hnot
      · cases he
  | requestRescan stationId trackType => rfl

end Library

/-! ### The catalogue -/

namespace Catalogue

open ProductCatalog

variable {casefold : String → String} {supported : String → Bool} {hexdigest : String → String}
  {quietSeconds : ℚ} {stablePolls maxRetries : ℕ} {m m' : Machine}

/-- A product with a request that is pending is not shown as watching. -/
def Heard (m : Machine) : Prop :=
  m.shared.pending = true → m.shared.state.status ≠ .watching

/-- An operation notes a success that a request has overtaken. -/
def isOvertaken (s : Shared) : {β : Type} → Op β → Bool
  | _, .synced _ _ _ => s.pending && !s.fresh
  | _, _ => false

def keepsRequest (m : Machine) : Event → Bool
  | .advance _ =>
    match m.program with
    | some (.op o _) => !isOvertaken m.shared o
    | _ => true
  | _ => true

/-- The state of a product with a request. -/
def Asked (s : Shared) : Prop :=
  s.pending = true → s.state.status ≠ .watching ∧ s.state.forceRescan = true

lemma asked_observe {now : ℚ} {scan : Scanned} {state : ProductState}
    (hforce : state.forceRescan = true) :
    (observe stablePolls now scan state).1.status ≠ .watching ∧
      (observe stablePolls now scan state).1.forceRescan = true := by
  unfold observe
  simp only [hforce, Bool.not_true, Bool.false_and, Bool.false_eq_true, if_false]
  split_ifs
  · exact ⟨nofun, rfl⟩
  · exact ⟨nofun, rfl⟩
  · exact ⟨nofun, rfl⟩
  · exact ⟨nofun, rfl⟩

/-- A statement leaves the state alone. -/
lemma state_of_executed {f : Database → Except Raised Database} {w : Outcome} {s t : Shared}
    {r : Except Raised Unit} (h : executed f w s = some (r, t)) :
    t.state = s.state ∧ t.pending = s.pending := by
  cases w with
  | walked found now => cases h
  | raises e =>
    obtain ⟨rfl, rfl⟩ := Prod.mk.inj (Option.some.inj h)
    exact ⟨rfl, rfl⟩
  | ok =>
    unfold executed at h
    dsimp only at h
    split at h <;>
      · obtain ⟨rfl, rfl⟩ := Prod.mk.inj (Option.some.inj h)
        exact ⟨rfl, rfl⟩

lemma Asked.congr {s t : Shared} (h : Asked s) (ht : t.state = s.state ∧ t.pending = s.pending) :
    Asked t := by
  intro hpending
  rw [ht.1]
  exact h (ht.2 ▸ hpending)

/-- An operation that has not been overtaken. -/
lemma Asked.run {β : Type} {o : Op β} {w : Outcome} {s t : Shared} {b : β} (h : Asked s)
    (hkeeps : isOvertaken s o = false)
    (hrun : run stablePolls maxRetries o w s = some (b, t)) : Asked t := by
  cases o with
  | deleteItems => exact h.congr (state_of_executed hrun)
  | insertItem file generation => exact h.congr (state_of_executed hrun)
  | upsertMeta generation fingerprint => exact h.congr (state_of_executed hrun)
  | delayed now =>
    simp only [ProductCatalog.run] at hrun
    split_ifs at hrun <;> obtain ⟨rfl, rfl⟩ := Prod.mk.inj (Option.some.inj hrun)
    · exact fun hpending => ⟨by simp, (h hpending).2⟩
    · exact h
  | observe now scan =>
    obtain ⟨rfl, rfl⟩ := Prod.mk.inj (Option.some.inj hrun)
    exact fun hpending => asked_observe (h hpending).2
  | changed =>
    obtain ⟨rfl, rfl⟩ := Prod.mk.inj (Option.some.inj hrun)
    exact fun hpending => ⟨by simp, (h hpending).2⟩
  | synced now fingerprint generation =>
    obtain ⟨rfl, rfl⟩ := Prod.mk.inj (Option.some.inj hrun)
    exact fun hpending => absurd (hpending.symm.trans hkeeps) Bool.true_eq_false.mp
  | loaded m =>
    obtain ⟨rfl, rfl⟩ := Prod.mk.inj (Option.some.inj hrun)
    exact h
  | markFailure code now =>
    obtain ⟨rfl, rfl⟩ := Prod.mk.inj (Option.some.inj hrun)
    exact fun hpending => ⟨by simp [markFailure], (h hpending).2⟩
  | close =>
    obtain ⟨rfl, rfl⟩ := Prod.mk.inj (Option.some.inj hrun)
    exact h
  | attempt =>
    cases w <;> cases hrun <;> exact h
  | walk =>
    cases w <;> cases hrun
    exact h
  | selectGeneration =>
    cases w <;> cases hrun <;> exact h
  | rollback =>
    cases w <;> cases hrun <;> exact h
  | selectMeta =>
    cases w <;> cases hrun <;> exact h
  | beginImmediate =>
    cases w with
    | ok =>
      simp only [ProductCatalog.run] at hrun
      split_ifs at hrun <;>
        · obtain ⟨rfl, rfl⟩ := Prod.mk.inj (Option.some.inj hrun)
          exact h
    | raises e => cases hrun; exact h
    | walked found now => cases hrun
  | commit =>
    cases w with
    | ok =>
      simp only [ProductCatalog.run] at hrun
      split at hrun <;>
        · obtain ⟨rfl, rfl⟩ := Prod.mk.inj (Option.some.inj hrun)
          exact h
    | raises e => cases hrun; exact h
    | walked found now => cases hrun

/-- A success that was overtaken is shown. -/
lemma shown_of_isOvertaken {β : Type} {o : Op β} {w : Outcome} {s t : Shared} {b : β}
    (hovertaken : isOvertaken s o = true)
    (hrun : run stablePolls maxRetries o w s = some (b, t)) :
    t.pending = true ∧ t.state.status = .watching := by
  cases o with
  | synced now fingerprint generation =>
    obtain ⟨rfl, rfl⟩ := Prod.mk.inj (Option.some.inj hrun)
    exact ⟨hovertaken, rfl⟩
  | _ => cases hovertaken

variable (casefold supported hexdigest quietSeconds stablePolls maxRetries) in
/-- The step of the products that a service has. -/
abbrev next := ProductCatalog.step casefold supported hexdigest quietSeconds stablePolls maxRetries

lemma asked_of_stepProduct {e : Event} (h : Asked m.shared) (hkeeps : keepsRequest m e = true)
    (he : stepProduct casefold supported hexdigest quietSeconds stablePolls maxRetries m e =
      some m') : Asked m'.shared := by
  cases e with
  | poll now =>
    unfold stepProduct at he
    dsimp only at he
    split_ifs at he
    cases he
    exact h
  | loadExisting there now =>
    unfold stepProduct at he
    dsimp only at he
    split_ifs at he
    cases he
    exact h
  | requestRescan =>
    cases he
    exact fun _ => ⟨nofun, rfl⟩
  | restart =>
    cases he
    exact nofun
  | advance w =>
    obtain ⟨program, hprogram, hafter⟩ := Option.bind_eq_some_iff.mp he
    obtain ⟨⟨p', s'⟩, hturn, rfl⟩ := Option.map_eq_some_iff.mp hafter
    cases program with
    | pure a => cases hturn
    | raise e => cases hturn
    | op o k =>
      obtain ⟨⟨b, u⟩, hrun, heq⟩ := Option.map_eq_some_iff.mp hturn
      obtain ⟨rfl, rfl⟩ := Prod.mk.inj heq
      unfold keepsRequest at hkeeps
      rw [hprogram] at hkeeps
      exact h.run (by simpa using hkeeps) hrun

/-- A request that is not kept is shown as watching. -/
lemma keepsRequest_of_heard {e : Event}
    (he : stepProduct casefold supported hexdigest quietSeconds stablePolls maxRetries m e =
      some m') (hheard : Heard m') : keepsRequest m e = true := by
  cases e with
  | poll now => rfl
  | loadExisting there now => rfl
  | requestRescan => rfl
  | restart => rfl
  | advance w =>
    obtain ⟨program, hprogram, hafter⟩ := Option.bind_eq_some_iff.mp he
    obtain ⟨⟨p', s'⟩, hturn, rfl⟩ := Option.map_eq_some_iff.mp hafter
    cases program with
    | pure a => cases hturn
    | raise e => cases hturn
    | op o k =>
      obtain ⟨⟨b, u⟩, hrun, heq⟩ := Option.map_eq_some_iff.mp hturn
      obtain ⟨rfl, rfl⟩ := Prod.mk.inj heq
      unfold keepsRequest
      rw [hprogram]
      dsimp only
      cases hovertaken : isOvertaken m.shared o with
      | false => rfl
      | true =>
        obtain ⟨hpending, hwatching⟩ := shown_of_isOvertaken hovertaken hrun
        exact absurd hwatching (hheard hpending)

/-- The requests of all products. -/
def AllHeard (s : State) : Prop := ∀ product, Heard (s product)

def keepsRequests (s : State) (e : Product × Event) : Prop := keepsRequest (s e.1) e.2 = true

lemma allHeard_iff {events : List (Product × Event)} {s : State}
    (he : exec (next casefold supported hexdigest quietSeconds stablePolls maxRetries) initial
      events = some s) :
    (∀ pre, pre <+: events → ∀ t,
      exec (next casefold supported hexdigest quietSeconds stablePolls maxRetries) initial pre =
        some t → AllHeard t) ↔
      Meets (next casefold supported hexdigest quietSeconds stablePolls maxRetries) keepsRequests
        initial events := by
  refine always_iff_meets (I := fun s => ∀ product, Asked (s product).shared) ?_ ?_ ?_
    (fun _ => nofun) he
  · intro s e t hasked hkeeps ht product
    obtain ⟨m, hm, rfl⟩ := Option.map_eq_some_iff.mp ht
    by_cases hproduct : product = e.1
    · subst hproduct
      rw [Function.update_self]
      exact asked_of_stepProduct (hasked _) hkeeps hm
    · rw [Function.update_of_ne hproduct]
      exact hasked product
  · exact fun s hasked product hpending => (hasked product hpending).1
  · intro s e t _ ht hheard
    obtain ⟨m, hm, rfl⟩ := Option.map_eq_some_iff.mp ht
    have hthis := hheard e.1
    rw [Function.update_self] at hthis
    exact keepsRequest_of_heard hm hthis

end Catalogue

/-- **Requests, heard or lost.** In a run of the watcher, and in one of the catalogue, no profile
or product with a request that is pending is shown as watching at any moment, exactly when no
synchronisation succeeds that a request has overtaken, and no profile with a request comes back
after its state was forgotten. -/
theorem requests_heard_iff (requiredStablePolls stablePolls maxRetries : ℕ)
    (casefold : String → String) (supported : String → Bool) (hexdigest : String → String)
    (quietSeconds : ℚ) :
    (∀ events w, exec (LibraryWatcher.step requiredStablePolls maxRetries) LibraryWatcher.start
        events = some w →
      ((∀ pre, pre <+: events → ∀ u, exec (LibraryWatcher.step requiredStablePolls maxRetries)
          LibraryWatcher.start pre = some u → Library.Heard u) ↔
        Meets (LibraryWatcher.step requiredStablePolls maxRetries)
          (fun w e => Library.keepsRequest w e = true) LibraryWatcher.start events)) ∧
    ∀ events s, exec (Catalogue.next casefold supported hexdigest quietSeconds stablePolls
        maxRetries) ProductCatalog.initial events = some s →
      ((∀ pre, pre <+: events → ∀ t, exec (Catalogue.next casefold supported hexdigest
          quietSeconds stablePolls maxRetries) ProductCatalog.initial pre = some t →
            Catalogue.AllHeard t) ↔
        Meets (Catalogue.next casefold supported hexdigest quietSeconds stablePolls maxRetries)
          Catalogue.keepsRequests ProductCatalog.initial events) := by
  refine ⟨fun events w he => ?_, fun events s he => Catalogue.allHeard_iff he⟩
  exact always_iff_meets (fun _ _ _ h hkeeps ht => h.step hkeeps ht) (fun _ h => h.heard)
    (fun _ _ _ h ht hheard => Library.keepsRequest_of_heard h ht hheard) Library.invariant_start he

/-- A folder that is seen twice, and a request while it is synchronised. -/
def overtakenSync : List LibraryWatcher.Event :=
  let music : LibraryWatcher.Profile := ⟨1, "music", 0⟩
  [.poll 0 [music], .nextProfile, .observed (.ok ("digest", 3)), .nextProfile,
    .poll 5 [music], .nextProfile, .observed (.ok ("digest", 3)), .requestRescan none "",
    .syncEnds (.ok ())]

/-- An empty folder that is seen twice, and a request before the success is noted. -/
def overtakenWrite : List (ProductCatalog.Product × ProductCatalog.Event) :=
  let ok : ProductCatalog.Event := .advance .ok
  let empty : ProductCatalog.Event := .advance (.walked [] 100)
  let events : List ProductCatalog.Event :=
    [.poll 0, ok, empty, ok, .poll 5, ok, empty, ok, ok, empty] ++ List.replicate 8 ok ++
      [empty] ++ List.replicate 3 ok ++ [.requestRescan, ok]
  events.map (.broadcast, ·)

theorem requests_lost :
    (¬ ∀ events w, exec (LibraryWatcher.step 2 4) LibraryWatcher.start events = some w →
      Library.Heard w) ∧
    ¬ ∀ events s, exec (Catalogue.next id (fun _ => true) (fun _ => "digest") 8 2 4)
      ProductCatalog.initial events = some s → Catalogue.AllHeard s := by
  constructor
  · intro h
    exact h overtakenSync _ rfl (1, "music") rfl rfl
  · intro h
    exact h overtakenWrite _ rfl .broadcast rfl rfl

end OnAir.RescanRequests
