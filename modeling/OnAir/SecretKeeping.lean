import OnAir.CredentialVault

/-!
What becomes of the entries of a credential store that several calls rewrite.

As long as no call writes while another one does, and a store is replaced only by what has been
made of its last version, a call changes no entry but its own, and a secret that has been set can
be read until its reference is set or deleted again.
-/

namespace OnAir.SecretKeeping

open CredentialVault PythonText Resumption Runs ThreadPool

/-! ### What a store holds -/

/-- What the entry of a reference is decrypted to, if there is one. -/
def secretOf (setup : Setup) (p : Payload) (r : String) : Option (Except Raised String) :=
  (p.get r).map setup.unprotect

def secretIn (setup : Setup) (c : Option Content) (r : String) : Option (Except Raised String) :=
  match c with
  | some (.whole p) => secretOf setup p r
  | _ => none

/-- The content that has been put in the place of the store last. -/
def committedOf (first : Option Content) : List Replaced → Option Content
  | [] => first
  | e :: _ => some e.content

abbrev committed (s : State) : Option Content := committedOf s.first s.history

/-- Whatever replaces the store keeps the entries of the references that are not its own. -/
def Linked (setup : Setup) (first : Option Content) : List Replaced → Prop
  | [] => True
  | e :: h => (∀ r, e.reference ≠ some r →
      secretIn setup (some e.content) r = secretIn setup (committedOf first h) r) ∧
    Linked setup first h

/-- No other call is writing. -/
def alone (i : ℕ) (s : State) : Bool := s.writers.all (· = i)

/-- Calls write one after the other, and a store is replaced by those who have read it last. -/
def upToDate : Condition Op World State := fun i o _ s =>
  match o with
  | .openTemporary | .writeTemporary _ _ | .unlink => alone i s
  | .replace _ => alone i s && s.history.length = s.readAt i
  | _ => true

variable {setup : Setup} {i j : ℕ} {s t u : State} {w : World} {α β : Type}

lemma lookup_filter_ne {r r' : String} (h : r' ≠ r) (entries : List (String × String)) :
    (entries.filter (·.1 ≠ r)).lookup r' = entries.lookup r' := by
  induction entries with
  | nil => rfl
  | cons e entries ih =>
    obtain ⟨k, v⟩ := e
    obtain rfl | hk := eq_or_ne k r
    · have hne : (r' == k) = false := by simpa using h
      rw [List.filter_cons_of_neg (by simp), List.lookup_cons, hne, ih]
    · rw [List.filter_cons_of_pos (by simpa using hk), List.lookup_cons, List.lookup_cons, ih]

lemma secretOf_set {p : Payload} {r r' encoded : String} (h : r' ≠ r) :
    secretOf setup (p.set r encoded) r' = secretOf setup p r' := by
  have hne : (r' == r) = false := by simpa using h
  unfold secretOf Payload.set Payload.get
  rw [List.lookup_cons, hne, lookup_filter_ne h]

lemma secretOf_set_self {p : Payload} {r encoded : String} :
    secretOf setup (p.set r encoded) r = some (setup.unprotect encoded) := by
  unfold secretOf Payload.set Payload.get
  rw [List.lookup_cons_self]
  rfl

lemma secretOf_pop {p : Payload} {r r' : String} (h : r' ≠ r) :
    secretOf setup (p.pop r) r' = secretOf setup p r' := by
  unfold secretOf Payload.pop Payload.get
  rw [lookup_filter_ne h]

/-- Entries that are decrypted to the same. -/
def SameSecrets (setup : Setup) : List (String × String) → List (String × String) → Prop :=
  List.Forall₂ fun a b => a.1 = b.1 ∧ setup.unprotect a.2 = setup.unprotect b.2

lemma secretOf_of_same {scope scope' r : String} {as bs : List (String × String)}
    (h : SameSecrets setup as bs) :
    secretOf setup ⟨scope, as⟩ r = secretOf setup ⟨scope', bs⟩ r := by
  change (as.lookup r).map setup.unprotect = (bs.lookup r).map setup.unprotect
  induction h with
  | nil => rfl
  | @cons a b as bs hab _ ih =>
    obtain ⟨hkey, hsecret⟩ := hab
    obtain ⟨k, a⟩ := a
    obtain ⟨k', b⟩ := b
    obtain rfl : k = k' := hkey
    rw [List.lookup_cons, List.lookup_cons]
    split
    · exact congrArg some hsecret
    · exact ih

/-- The last of the entries that could concern a reference decides on it. -/
lemma secretIn_committed {first : Option Content} {r : String} {h₁ h₂ : List Replaced}
    (hlinked : Linked setup first (h₂ ++ h₁)) (h : ∀ e ∈ h₂, e.reference ≠ some r) :
    secretIn setup (committedOf first (h₂ ++ h₁)) r = secretIn setup (committedOf first h₁) r := by
  induction h₂ with
  | nil => rfl
  | cons e h₂ ih =>
    obtain ⟨he, hlinked⟩ := hlinked
    refine (he r (h e List.mem_cons_self)).trans (ih hlinked fun e' he' => ?_)
    exact h e' (List.mem_cons_of_mem _ he')

/-! ### What is kept -/

/-- The store is what has been put in its place last, made of the version before it. -/
structure Inv (setup : Setup) (s : State) : Prop where
  stored : s.stored = committed s
  linked : Linked setup s.first s.history
  named : ∀ e ∈ s.history, (s.calls e.thread).map Call.reference = some e.reference
  store_lt : ∀ h, s.store = some h → h < s.contents.length
  temporary_lt : ∀ h, s.temporary = some h → h < s.contents.length
  apart : ∀ h, s.temporary = some h → s.store ≠ some h

/-- What the others leave of the state for a thread: they replace the store, but not while it is
writing. -/
structure Later (i : ℕ) (s t : State) : Prop where
  first : t.first = s.first
  history : ∃ h, t.history = h ++ s.history ∧ ∀ e ∈ h, e.thread ≠ i
  readAt : t.readAt i = s.readAt i
  calls : t.calls i = s.calls i
  writing : i ∈ s.writers → i ∈ t.writers ∧ t.temporary = s.temporary ∧ t.store = s.store ∧
    t.contents = s.contents

lemma Later.refl (i : ℕ) (s : State) : Later i s s :=
  ⟨rfl, ⟨[], rfl, fun _ h => by cases h⟩, rfl, rfl, fun h => ⟨h, rfl, rfl, rfl⟩⟩

lemma Later.trans (h : Later i s t) (h' : Later i t u) : Later i s u := by
  obtain ⟨l, hl, hli⟩ := h.history
  obtain ⟨l', hl', hli'⟩ := h'.history
  refine ⟨h'.first.trans h.first, ⟨l' ++ l, ?_, fun e he => ?_⟩, h'.readAt.trans h.readAt,
    h'.calls.trans h.calls, fun hi => ?_⟩
  · rw [hl', hl, List.append_assoc]
  · exact (List.mem_append.mp he).elim (hli' e) (hli e)
  · obtain ⟨ht, htemporary, hstore, hcontents⟩ := h.writing hi
    obtain ⟨hu, htemporary', hstore', hcontents'⟩ := h'.writing ht
    exact ⟨hu, htemporary'.trans htemporary, hstore'.trans hstore, hcontents'.trans hcontents⟩

/-- The thread has the call with the reference. -/
def Named (i : ℕ) (reference : Option String) (s : State) : Prop :=
  (s.calls i).map Call.reference = some reference

/-- What a call is going to write has the secrets of what it has read, but for its reference. -/
structure Knows (setup : Setup) (i : ℕ) (reference : Option String) (p : Payload)
    (s : State) : Prop where
  named : Named i reference s
  readAt_le : s.readAt i ≤ s.history.length
  same : s.history.length = s.readAt i → ∀ r, reference ≠ some r →
    secretIn setup (committed s) r = secretOf setup p r

/-- The thread is writing to its temporary file, and has got so far. -/
structure Writes (i h : ℕ) (c : Content) (s : State) : Prop where
  writing : i ∈ s.writers
  temporary : s.temporary = some h
  store : s.store ≠ some h
  content : s.contents[h]? = some c

/-- The thread has replaced the store once. -/
def Wrote (i : ℕ) (reference : Option String) (p : Payload) (s : State) : Prop :=
  ∃ h₂ h₁, s.history = h₂ ++ ⟨i, reference, .whole p⟩ :: h₁ ∧ ∀ e ∈ h₂, e.thread ≠ i

variable {reference : Option String} {p p' : Payload} {h : ℕ} {c : Content}

lemma stable_named : Stable (Later i) (Named i reference) := fun _ _ ht hs =>
  (congrArg (Option.map Call.reference) ht.calls).trans hs

lemma stable_knows : Stable (Later i) (Knows setup i reference p) := by
  intro s t ht hs
  obtain ⟨l, hl, -⟩ := ht.history
  refine ⟨stable_named s t ht hs.named, ?_, fun hlength r hr => ?_⟩
  · rw [ht.readAt, hl, List.length_append]
    exact hs.readAt_le.trans (by omega)
  · rw [hl, List.length_append, ht.readAt] at hlength
    have hle := hs.readAt_le
    obtain rfl : l = [] := List.length_eq_zero_iff.mp (by omega)
    rw [committed, hl, ht.first]
    exact hs.same (by omega) r hr

lemma stable_writes : Stable (Later i) (Writes i h c) := by
  intro s t ht hs
  obtain ⟨hwriting, htemporary, hstore, hcontents⟩ := ht.writing hs.writing
  exact ⟨hwriting, htemporary ▸ hs.temporary, hstore ▸ hs.store, hcontents ▸ hs.content⟩

lemma stable_wrote : Stable (Later i) (Wrote i reference p) := by
  rintro s t ht ⟨h₂, h₁, hhistory, hne⟩
  obtain ⟨l, hl, hli⟩ := ht.history
  refine ⟨l ++ h₂, h₁, by rw [hl, hhistory, List.append_assoc], fun e he => ?_⟩
  exact (List.mem_append.mp he).elim (hli e) (hne e)

lemma stable_and {P Q : State → Prop} (hP : Stable (Later i) P) (hQ : Stable (Later i) Q) :
    Stable (Later i) fun s => P s ∧ Q s := fun s t ht hs => ⟨hP s t ht hs.1, hQ s t ht hs.2⟩

lemma Knows.mono (hs : Knows setup i reference p s)
    (h : ∀ r, reference ≠ some r → secretOf setup p r = secretOf setup p' r) :
    Knows setup i reference p' s :=
  ⟨hs.named, hs.readAt_le, fun hlength r hr => (hs.same hlength r hr).trans (h r hr)⟩

/-! ### The operations -/

variable (setup) in
/-- What a thread has to know when it performs an operation. -/
def Fit (i : ℕ) : {β : Type} → Op β → State → Prop
  | _, .writeTemporary h _, s => Writes i h .empty s
  | _, .replace reference, s => ∃ h p, Writes i h (.whole p) s ∧ Knows setup i reference p s
  | _, _, _ => True

variable (setup) in
abbrev limitedRun (i : ℕ) (o : Op β) (w : World) (s : State) : Option (β × State) :=
  ((system setup).limited upToDate).run i o w s

lemma run_of_limited {o : Op β} {b : β} (h : limitedRun setup i o w s = some (b, u)) :
    upToDate i o w s = true ∧ run setup i o w s = some (b, u) :=
  Option.ite_none_right_eq_some.mp h

lemma attempt_cases {answer : Answer β × State} {a : Answer β}
    (h : attempt w s answer = (a, u)) : (∃ e, a = .error e ∧ u = s) ∨ answer = (a, u) := by
  unfold attempt at h
  split at h
  · cases h
    exact .inl ⟨_, rfl, rfl⟩
  · exact .inr h

lemma later_of_frame (hfirst : t.first = s.first) (hhistory : t.history = s.history)
    (hreadAt : t.readAt i = s.readAt i) (hcalls : t.calls i = s.calls i)
    (hwriting : i ∈ s.writers → i ∈ t.writers ∧ t.temporary = s.temporary ∧ t.store = s.store ∧
      t.contents = s.contents) : Later i s t :=
  ⟨hfirst, ⟨[], hhistory, fun _ h => by cases h⟩, hreadAt, hcalls, hwriting⟩

/-- A thread that writes is alone. -/
lemma not_writing (hne : i ≠ j) (h : alone j s = true) : i ∉ s.writers := fun hi =>
  hne (of_decide_eq_true (List.all_eq_true.mp h i hi))

/-- **An operation leaves the others what they know.** -/
theorem later_of_run {o : Op β} {b : β} (hne : i ≠ j)
    (h : limitedRun setup j o w s = some (b, u)) : Later i s u := by
  obtain ⟨hcondition, hrun⟩ := run_of_limited h
  cases o with
  | protect plain =>
    obtain ⟨-, hrun⟩ := Option.ite_none_right_eq_some.mp hrun
    obtain ⟨e, -, rfl⟩ | heq := attempt_cases (Option.some.inj hrun)
    · exact .refl i u
    · cases heq
      exact .refl i s
  | mkdir =>
    obtain ⟨e, -, rfl⟩ | heq := attempt_cases (Option.some.inj hrun)
    · exact .refl i u
    · cases heq
      exact .refl i s
  | read =>
    obtain ⟨e, -, rfl⟩ | heq := attempt_cases (Option.some.inj hrun)
    · exact .refl i u
    · cases heq
      exact later_of_frame rfl rfl (Function.update_of_ne hne ..) rfl fun hi =>
        ⟨hi, rfl, rfl, rfl⟩
  | openTemporary =>
    obtain ⟨e, -, rfl⟩ | heq := attempt_cases (Option.some.inj hrun)
    · exact .refl i u
    · have hi : i ∉ s.writers := not_writing hne hcondition
      obtain rfl : (s.opens j).2 = u := congrArg Prod.snd heq
      unfold State.opens
      split
      · exact later_of_frame rfl rfl rfl rfl fun h => absurd h hi
      · exact later_of_frame rfl rfl rfl rfl fun h => absurd h hi
  | writeTemporary k p =>
    obtain ⟨e, -, rfl⟩ | heq := attempt_cases (Option.some.inj hrun)
    · exact .refl i u
    · have hi : i ∉ s.writers := not_writing hne hcondition
      obtain rfl : s.writes w k p = u := congrArg Prod.snd heq
      exact later_of_frame rfl rfl rfl rfl fun h => absurd h hi
  | replace reference =>
    obtain ⟨e, -, rfl⟩ | heq := attempt_cases (Option.some.inj hrun)
    · exact .refl i u
    · have hi : i ∉ s.writers := not_writing hne (Bool.and_eq_true_iff.mp hcondition).1
      obtain rfl : (s.replaces j reference).2 = u := congrArg Prod.snd heq
      unfold State.replaces
      split
      · exact .refl i s
      · refine ⟨rfl, ⟨[_], rfl, fun e he => ?_⟩, rfl, rfl, fun h => absurd h hi⟩
        rw [List.mem_singleton.mp he]
        exact hne.symm
  | unlink =>
    have hi : i ∉ s.writers := not_writing hne hcondition
    obtain rfl : s.unlinks j w = u := congrArg Prod.snd (Option.some.inj hrun)
    exact later_of_frame rfl rfl rfl rfl fun h => absurd h hi

lemma inv_of_frame (hs : Inv setup s) (hfirst : t.first = s.first)
    (hhistory : t.history = s.history) (hcalls : t.calls = s.calls) (hstore : t.store = s.store)
    (hcontents : t.contents = s.contents)
    (htemporary : ∀ h, t.temporary = some h → s.temporary = some h) : Inv setup t := by
  refine ⟨?_, ?_, ?_, ?_, fun h hh => ?_, fun h hh => ?_⟩
  · rw [State.stored, hstore, hcontents, committed, hfirst, hhistory]
    exact hs.stored
  · rw [hfirst, hhistory]
    exact hs.linked
  · rw [hhistory, hcalls]
    exact hs.named
  · rw [hstore, hcontents]
    exact hs.store_lt
  · rw [hcontents]
    exact hs.temporary_lt h (htemporary h hh)
  · rw [hstore]
    exact hs.apart h (htemporary h hh)

/-- A file that is not the store is changed. -/
lemma stored_set {k : ℕ} (h : s.store ≠ some k) :
    (s.store.bind fun m => (s.contents.set k c)[m]?) = s.stored := by
  unfold State.stored
  cases hm : s.store with
  | none => rfl
  | some m =>
    rw [hm] at h
    exact List.getElem?_set_ne fun heq => h (congrArg some heq.symm)

lemma inv_set {k : ℕ} (hs : Inv setup s) (hk : s.store ≠ some k) (hfirst : t.first = s.first)
    (hhistory : t.history = s.history) (hcalls : t.calls = s.calls) (hstore : t.store = s.store)
    (htemporary : t.temporary = s.temporary) (hcontents : t.contents = s.contents.set k c) :
    Inv setup t := by
  have hlength : t.contents.length = s.contents.length := by rw [hcontents, List.length_set]
  refine ⟨?_, ?_, ?_, ?_, ?_, ?_⟩
  · rw [State.stored, hstore, hcontents, committed, hfirst, hhistory]
    exact (stored_set hk).trans hs.stored
  · rw [hfirst, hhistory]
    exact hs.linked
  · rw [hhistory, hcalls]
    exact hs.named
  · rw [hstore, hlength]
    exact hs.store_lt
  · rw [htemporary, hlength]
    exact hs.temporary_lt
  · rw [htemporary, hstore]
    exact hs.apart

lemma inv_opens (hs : Inv setup s) : Inv setup (s.opens i).2 := by
  unfold State.opens
  split
  case h_1 h htemporary =>
    exact inv_set hs (hs.apart h htemporary) rfl rfl rfl rfl rfl rfl
  case h_2 htemporary =>
    refine ⟨?_, hs.linked, hs.named, fun h hh => ?_, fun h hh => ?_, fun h hh hstore => ?_⟩
    · refine Eq.trans ?_ hs.stored
      change (s.store.bind fun k => (s.contents ++ [.empty])[k]?) = s.stored
      unfold State.stored
      cases hk : s.store with
      | none => rfl
      | some k => exact List.getElem?_append_left (hs.store_lt k hk)
    · have hlt := hs.store_lt h hh
      rw [List.length_append]
      omega
    · cases hh
      simp
    · cases hh
      exact absurd (hs.store_lt _ hstore) (lt_irrefl _)

/-- The store is replaced by what has been made of its last version. -/
lemma inv_replaces (hs : Inv setup s) (hread : s.history.length = s.readAt i)
    (hw : Writes i h (.whole p) s) (hknows : Knows setup i reference p s) :
    Inv setup (s.replaces i reference).2 := by
  unfold State.replaces
  rw [hw.temporary]
  dsimp only
  rw [hw.content]
  refine ⟨hw.content, ⟨fun r hr => (hknows.same hread r hr).symm, hs.linked⟩, ?_, ?_, ?_, ?_⟩
  · intro e he
    obtain rfl | he := List.mem_cons.mp he
    · exact hknows.named
    · exact hs.named e he
  · intro k hk
    cases hk
    exact hs.temporary_lt h hw.temporary
  · intro k hk
    cases hk
  · intro k hk
    cases hk

/-- **An operation keeps the invariant**, if its thread knows what it has to. -/
theorem inv_of_run {o : Op β} {b : β} (ho : Fit setup i o s) (hs : Inv setup s)
    (h : limitedRun setup i o w s = some (b, u)) : Inv setup u := by
  obtain ⟨hcondition, hrun⟩ := run_of_limited h
  cases o with
  | protect plain =>
    obtain ⟨-, hrun⟩ := Option.ite_none_right_eq_some.mp hrun
    obtain ⟨e, -, rfl⟩ | heq := attempt_cases (Option.some.inj hrun)
    · exact hs
    · cases heq
      exact hs
  | mkdir =>
    obtain ⟨e, -, rfl⟩ | heq := attempt_cases (Option.some.inj hrun)
    · exact hs
    · cases heq
      exact hs
  | read =>
    obtain ⟨e, -, rfl⟩ | heq := attempt_cases (Option.some.inj hrun)
    · exact hs
    · cases heq
      exact inv_of_frame hs rfl rfl rfl rfl rfl fun _ h => h
  | openTemporary =>
    obtain ⟨e, -, rfl⟩ | heq := attempt_cases (Option.some.inj hrun)
    · exact hs
    · obtain rfl : (s.opens i).2 = u := congrArg Prod.snd heq
      exact inv_opens hs
  | writeTemporary k p =>
    obtain ⟨e, -, rfl⟩ | heq := attempt_cases (Option.some.inj hrun)
    · exact hs
    · obtain rfl : s.writes w k p = u := congrArg Prod.snd heq
      exact inv_set hs ho.store rfl rfl rfl rfl rfl rfl
  | replace reference =>
    obtain ⟨e, -, rfl⟩ | heq := attempt_cases (Option.some.inj hrun)
    · exact hs
    · obtain rfl : (s.replaces i reference).2 = u := congrArg Prod.snd heq
      obtain ⟨h, p, hwrites, hknows⟩ := ho
      exact inv_replaces hs (of_decide_eq_true (Bool.and_eq_true_iff.mp hcondition).2) hwrites
        hknows
  | unlink =>
    obtain rfl : s.unlinks i w = u := congrArg Prod.snd (Option.some.inj hrun)
    refine inv_of_frame hs rfl rfl rfl rfl rfl fun h hh => ?_
    unfold State.unlinks at hh
    dsimp only at hh
    split_ifs at hh
    exact hh

/-! ### The calls -/

variable (setup) in
/-- What a call does from `P` on; nothing is promised of what it raises. -/
abbrev Does (i : ℕ) (P : State → Prop) (p : Program α) (Q : α → State → Prop) : Prop :=
  Triple (fun o => limitedRun setup i o) (Inv setup) (Later i) P p Q fun _ _ => True

variable {P : State → Prop} {Q : α → State → Prop} {R : β → State → Prop}

lemma stable_true : Stable (Later i) fun _ => True := fun _ _ _ _ => trivial

lemma then_does {p : Program α} {f : α → Program β} (h : Does setup i P p Q)
    (hf : ∀ a, Does setup i (Q a) (f a) R) : Does setup i P (p >>= f) R :=
  h.bind (Later.refl i) hf

lemma return_does {a : α} : Does setup i P (pure a : Program α) fun _ _ => True :=
  fun _ _ _ _ => trivial

lemma raise_does {e : Raised} : Does setup i P (.raise e : Program α) Q := fun _ _ _ _ => trivial

/-- One operation, with what its answer tells. -/
lemma execute_does {o : Op (Answer α)} (hP : Stable (Later i) P)
    (hQ : ∀ a, Stable (Later i) (Q a)) (ho : ∀ s, P s → Fit setup i o s)
    (h : ∀ s w a u, Inv setup s → P s → limitedRun setup i o w s = some (.ok a, u) → Q a u) :
    Does setup i P (execute o) Q := by
  intro s hs t ht hinv w a u hrun
  have hPt := hP s t ht hs
  refine ⟨inv_of_run (ho t hPt) hinv hrun, ?_⟩
  cases a with
  | ok a => exact fun v hv => hQ a u v hv (h t w a u hinv hPt hrun)
  | error e => exact fun _ _ => trivial

/-- What an operation has answered that has not raised. -/
lemma answer_of_attempt {answer : Answer β × State} {b : β}
    (h : some (attempt w s answer) = some (.ok b, u)) : answer = (.ok b, u) := by
  obtain ⟨e, he, -⟩ | heq := attempt_cases (Option.some.inj h)
  · cases he
  · exact heq

lemma protect_does {plain : String} (hP : Stable (Later i) P) :
    Does setup i P (execute (.protect plain)) fun sealed s =>
      P s ∧ setup.unprotect sealed = .ok plain := by
  refine execute_does hP (fun a => stable_and hP fun _ _ _ h => h) (fun _ _ => trivial) ?_
  intro s w sealed u _ hs hrun
  replace hrun := (run_of_limited hrun).2
  obtain ⟨hsealed, hrun⟩ := Option.ite_none_right_eq_some.mp hrun
  unfold attempt at hrun
  split at hrun
  case h_1 => cases hrun
  case h_2 hraises =>
    cases hrun
    rw [hraises, Option.isSome_none, Bool.false_or, decide_eq_true_iff] at hsealed
    refine ⟨hs, ?_⟩
    cases hplain : setup.unprotect w.sealed with
    | error e => simp [hplain, Except.toOption] at hsealed
    | ok plain' =>
      rw [hplain] at hsealed
      exact congrArg Except.ok (Option.some.inj hsealed)

lemma mkdir_does (hP : Stable (Later i) P) : Does setup i P (execute .mkdir) fun _ => P := by
  refine execute_does hP (fun _ => hP) (fun _ _ => trivial) ?_
  intro s w a u _ hs hrun
  replace hrun := (run_of_limited hrun).2
  cases answer_of_attempt hrun
  exact hs

/-- The store is read. -/
lemma read_does : Does setup i (Named i reference) (execute .read) fun p =>
    Knows setup i reference p := by
  refine execute_does stable_named (fun _ => stable_knows) (fun _ _ => trivial) ?_
  intro s w p u hinv hs hrun
  replace hrun := (run_of_limited hrun).2
  have heq := answer_of_attempt hrun
  obtain rfl : s.reads i = u := congrArg Prod.snd heq
  have hread : readFrom setup (committed s) = .ok p := hinv.stored ▸ congrArg Prod.fst heq
  have hreadAt : (s.reads i).readAt i = s.history.length := Function.update_self ..
  refine ⟨hs, hreadAt.le, fun _ r _ => ?_⟩
  change secretIn setup (committed s) r = secretOf setup p r
  unfold readFrom at hread
  split at hread
  · rename_i hc
    cases hread
    rw [hc]
    rfl
  · rename_i hc
    cases hread
    rw [hc]
    rfl
  · cases hread
  · cases hread

/-- The temporary file is opened. -/
lemma open_does : Does setup i (Knows setup i reference p) (execute .openTemporary) fun h s =>
    Knows setup i reference p s ∧ Writes i h .empty s := by
  refine execute_does stable_knows (fun _ => stable_and stable_knows stable_writes)
    (fun _ _ => trivial) ?_
  intro s w h u hinv hs hrun
  replace hrun := (run_of_limited hrun).2
  have heq := answer_of_attempt hrun
  obtain rfl : (s.opens i).2 = u := congrArg Prod.snd heq
  obtain rfl : (s.opens i).1 = h := Except.ok.inj (congrArg Prod.fst heq)
  unfold State.opens
  split
  case h_1 k hk =>
    refine ⟨⟨hs.named, hs.readAt_le, hs.same⟩, List.mem_cons_self, hk, hinv.apart k hk, ?_⟩
    exact List.getElem?_set_self (hinv.temporary_lt k hk)
  case h_2 hk =>
    refine ⟨⟨hs.named, hs.readAt_le, hs.same⟩, List.mem_cons_self, rfl, fun hstore => ?_, ?_⟩
    · exact absurd (hinv.store_lt _ hstore) (lt_irrefl _)
    · exact List.getElem?_concat_length

lemma writeTemporary_does :
    Does setup i (fun s => Knows setup i reference p s ∧ Writes i h .empty s)
      (execute (.writeTemporary h p)) fun _ s =>
        Knows setup i reference p s ∧ Writes i h (.whole p) s := by
  refine execute_does (stable_and stable_knows stable_writes)
    (fun _ => stable_and stable_knows stable_writes) (fun _ hs => hs.2) ?_
  rintro s w a u - ⟨hknows, hwrites⟩ hrun
  replace hrun := (run_of_limited hrun).2
  have heq := answer_of_attempt hrun
  obtain rfl : s.writes w h p = u := congrArg Prod.snd heq
  have hcut : w.cut = false := by
    by_contra hcut
    rw [Bool.not_eq_false] at hcut
    simp [hcut] at heq
  refine ⟨⟨hknows.named, hknows.readAt_le, hknows.same⟩, hwrites.writing, hwrites.temporary,
    hwrites.store, ?_⟩
  have hlt := (List.getElem?_eq_some_iff.mp hwrites.content).1
  simp [State.writes, hcut, hwrites.content, List.getElem?_set_self hlt]

/-- The temporary file takes the place of the store. -/
lemma replace_does :
    Does setup i (fun s => Knows setup i reference p s ∧ Writes i h (.whole p) s)
      (execute (.replace reference)) fun _ => Wrote i reference p := by
  refine execute_does (stable_and stable_knows stable_writes) (fun _ => stable_wrote)
    (fun _ hs => ⟨h, p, hs.2, hs.1⟩) ?_
  rintro s w a u - ⟨hknows, hwrites⟩ hrun
  replace hrun := (run_of_limited hrun).2
  have heq := answer_of_attempt hrun
  obtain rfl : (s.replaces i reference).2 = u := congrArg Prod.snd heq
  refine ⟨[], s.history, ?_, fun _ he => by cases he⟩
  unfold State.replaces
  rw [hwrites.temporary]
  dsimp only
  rw [hwrites.content]
  rfl

/-- The temporary file is removed; the history is not changed. -/
lemma unlink_does (hP : Stable (Later i) P) (h : ∀ s t, t.history = s.history → P s → P t) :
    Does setup i P (perform .unlink) fun _ => P := by
  refine Triple.perform hP (fun _ => hP) fun s w a u hinv hs hrun => ?_
  have hfit : Fit setup i .unlink s := trivial
  refine ⟨inv_of_run hfit hinv hrun, ?_⟩
  replace hrun := (run_of_limited hrun).2
  obtain rfl : s.unlinks i w = u := congrArg Prod.snd (Option.some.inj hrun)
  exact h s _ rfl hs

/-- **A payload is written.** -/
theorem write_does : Does setup i (Knows setup i reference p) (write setup reference p) fun _ =>
    Wrote i reference p := by
  refine then_does (mkdir_does stable_knows) fun _ => ?_
  refine then_does (Q := fun _ => Wrote i reference p) ?_ fun _ => ?_
  · refine Triple.tryCatch (F := fun _ _ => True) (Later.refl i) ?_ fun _ => ?_
    · exact then_does open_does fun h => then_does writeTemporary_does fun _ => replace_does
    · exact then_does (unlink_does stable_true fun _ _ _ _ => trivial) fun _ => raise_does
  · refine unlink_does stable_wrote fun s t ht => ?_
    rintro ⟨h₂, h₁, hhistory, hne⟩
    exact ⟨h₂, h₁, ht.trans hhistory, hne⟩

/-- What a call that sets a secret leaves in the history. -/
def HasSet (setup : Setup) (i : ℕ) (r secret : String) (s : State) : Prop :=
  ∃ p, Wrote i (some r) p s ∧ secretOf setup p r = some (.ok secret)

lemma setSecret_does (scope : Scope) (r secret : String) :
    Does setup i (Named i (some (trim r))) (setSecret setup scope r secret) fun _ =>
      HasSet setup i (trim r) secret := by
  unfold setSecret
  dsimp only
  split
  · exact raise_does
  · split
    · exact raise_does
    · refine then_does (protect_does stable_named) fun sealed s hs => ?_
      obtain ⟨hs, hsealed⟩ := hs
      revert s
      refine then_does read_does fun p => ?_
      refine Triple.conseq write_does (fun s hs => hs.mono fun r' hr' => ?_)
        (fun _ s hs => ⟨_, hs, ?_⟩) fun _ _ h => h
      · exact (secretOf_set fun heq => hr' (congrArg some heq.symm)).symm
      · exact secretOf_set_self.trans (congrArg some hsealed)

lemma deleteSecret_does (r : String) : Does setup i (Named i (some (trim r)))
    (deleteSecret setup r) fun _ _ => True := by
  refine then_does read_does fun p => ?_
  split
  · refine Triple.conseq write_does (fun s hs => hs.mono fun r' hr' => ?_)
      (fun _ _ _ => trivial) fun _ _ h => h
    exact (secretOf_pop fun heq => hr' (congrArg some heq.symm)).symm
  · exact return_does

lemma entryFailed_does {message r : String} {e : Raised} :
    Does setup i P (entryFailed message r e : Program α) Q := by
  cases e <;> exact raise_does

/-- Entries that are encrypted anew are decrypted to the same. -/
lemma rewrapEntries_does (hP : Stable (Later i) P) : ∀ {entries : List (String × String)},
    Does setup i P (rewrapEntries setup entries) fun rewrapped s =>
      P s ∧ SameSecrets setup rewrapped entries
  | [] => fun s hs t ht => ⟨hP s t ht hs, .nil⟩
  | (r, encoded) :: entries => by
    refine then_does (Q := fun sealed s =>
      P s ∧ setup.unprotect sealed = setup.unprotect encoded) ?_ fun sealed s hs => ?_
    · refine Triple.tryCatch (F := fun _ _ => True) (Later.refl i) ?_ fun _ => entryFailed_does
      split
      · rename_i plain hplain
        rw [hplain]
        exact protect_does hP
      · exact raise_does
    · obtain ⟨hs, hsealed⟩ := hs
      revert s
      refine then_does (rewrapEntries_does hP) fun rewrapped s hs t ht => ?_
      exact ⟨hP s t ht hs.1, .cons ⟨rfl, hsealed⟩ hs.2⟩

lemma rewrapPayload_does {scope : Scope} : Does setup i (Knows setup i none p)
    (rewrapPayload setup scope p) fun _ _ => True := by
  refine then_does (rewrapEntries_does stable_knows) fun rewrapped s hs => ?_
  obtain ⟨hs, hsame⟩ := hs
  revert s
  refine then_does (Q := fun _ _ => True) ?_ fun _ => return_does
  refine Triple.conseq write_does (fun s hs => hs.mono fun r _ => ?_) (fun _ _ _ => trivial)
    fun _ _ h => h
  exact (secretOf_of_same hsame).symm

lemma getSecret_does (scope : Scope) (r : String) : Does setup i (Named i none)
    (getSecret setup scope r) fun _ _ => True := by
  unfold getSecret
  dsimp only
  split
  · exact return_does
  · refine then_does read_does fun p => ?_
    split
    · exact return_does
    · split
      · exact return_does
      · refine Triple.tryCatch (F := fun _ _ => True) (Later.refl i) ?_ fun _ => entryFailed_does
        split
        · split
          · exact then_does rewrapPayload_does fun _ => return_does
          · exact return_does
        · exact raise_does

/-- What a call that has returned leaves. -/
def Left (setup : Setup) (i : ℕ) (c : Call) (s : State) : Prop :=
  match c with
  | .setSecret _ r secret => HasSet setup i (trim r) secret s
  | _ => True

lemma stable_left {c : Call} : Stable (Later i) (Left setup i c) := by
  intro s t ht hs
  cases c with
  | setSecret =>
    obtain ⟨p, hwrote, hp⟩ := hs
    exact ⟨p, stable_wrote s t ht hwrote, hp⟩
  | deleteSecret | getSecret | rewrap => trivial

lemma program_does (c : Call) :
    Does setup i (Named i c.reference) (c.program setup) fun _ => Left setup i c := by
  cases c with
  | setSecret scope r secret =>
    have h : Does setup i (Named i (some (trim r))) (setSecret setup scope r secret) fun _ =>
        Left setup i (.setSecret scope r secret) := @setSecret_does setup i scope r secret
    unfold Call.program Call.reference
    dsimp only
    -- otherwise the program is evaluated when it is compared with itself
    generalize setSecret setup scope r secret = program at h ⊢
    exact then_does h fun _ => Triple.pure stable_left fun _ h => h
  | deleteSecret r =>
    have h : Does setup i (Named i (some (trim r))) (deleteSecret setup r) fun _ _ => True :=
      deleteSecret_does r
    unfold Call.program Call.reference
    dsimp only
    generalize deleteSecret setup r = program at h ⊢
    exact then_does h fun _ => return_does
  | getSecret scope r =>
    have h : Does setup i (Named i none) (getSecret setup scope r) fun _ _ => True :=
      @getSecret_does setup i scope r
    unfold Call.program Call.reference
    dsimp only
    generalize getSecret setup scope r = program at h ⊢
    exact then_does h fun _ => return_does
  | rewrap scope =>
    refine then_does (Q := fun _ _ => True) ?_ fun _ => return_does
    exact then_does read_does fun _ => rewrapPayload_does

/-! ### Runs -/

variable (setup) in
lemma kept : Kept ((system setup).limited upToDate) (Inv setup)
    (fun i s => s.calls i = none ∧ ∀ e ∈ s.history, e.thread ≠ i) Later
    (fun i c _ => Left setup i c) fun _ _ _ _ => True where
  refl := Later.refl
  trans _ := Later.trans
  unused i {s t} ht hs := by
    obtain ⟨l, hl, hli⟩ := ht.history
    refine ⟨ht.calls.trans hs.1, fun e he => ?_⟩
    rw [hl] at he
    exact (List.mem_append.mp he).elim (hli e) (hs.2 e)
  operation hne _ _ hrun := later_of_run hne hrun
  surroundings {e} := nomatch e
  begins {i c s u} hs hfresh hbegins := by
    obtain rfl : { s with calls := Function.update s.calls i (some c) } = u :=
      Option.some.inj hbegins
    refine ⟨⟨hs.stored, hs.linked, fun e he => ?_, hs.store_lt, hs.temporary_lt, hs.apart⟩,
      fun j hj => ?_, ?_⟩
    · change (Function.update s.calls i (some c) e.thread).map Call.reference = _
      rw [Function.update_of_ne (hfresh.2 e he)]
      exact hs.named e he
    · exact later_of_frame rfl rfl rfl (Function.update_of_ne hj ..) fun h => ⟨h, rfl, rfl, rfl⟩
    · have hcalls : Function.update s.calls i (some c) i = some c := Function.update_self ..
      have hdoes : Does setup i (Named i c.reference) (c.program setup) fun _ =>
        Left setup i c := program_does c
      exact hdoes _ (congrArg (Option.map Call.reference) hcalls)

/-- The threads and the calls that the state remembers are the same. -/
def Tracks (p : Pool Op Raised Outcome Call State) : Prop :=
  ∀ j : ℕ, p.shared.calls j = p.threads[j]?.map (·.call)

/-- What an operation adds to the history is of its thread. -/
lemma history_of_run {o : Op β} {b : β} (h : run setup i o w s = some (b, u)) :
    u.calls = s.calls ∧ u.first = s.first ∧ (u.history = s.history ∨
      ∃ e, u.history = e :: s.history ∧ e.thread = i) := by
  cases o with
  | protect plain =>
    obtain ⟨-, hrun⟩ := Option.ite_none_right_eq_some.mp h
    obtain ⟨e, -, rfl⟩ | heq := attempt_cases (Option.some.inj hrun)
    · exact ⟨rfl, rfl, .inl rfl⟩
    · cases heq
      exact ⟨rfl, rfl, .inl rfl⟩
  | mkdir | read =>
    obtain ⟨e, -, rfl⟩ | heq := attempt_cases (Option.some.inj h)
    · exact ⟨rfl, rfl, .inl rfl⟩
    · cases heq
      exact ⟨rfl, rfl, .inl rfl⟩
  | openTemporary =>
    obtain ⟨e, -, rfl⟩ | heq := attempt_cases (Option.some.inj h)
    · exact ⟨rfl, rfl, .inl rfl⟩
    · obtain rfl : (s.opens i).2 = u := congrArg Prod.snd heq
      unfold State.opens
      split <;> exact ⟨rfl, rfl, .inl rfl⟩
  | writeTemporary k p =>
    obtain ⟨e, -, rfl⟩ | heq := attempt_cases (Option.some.inj h)
    · exact ⟨rfl, rfl, .inl rfl⟩
    · obtain rfl : s.writes w k p = u := congrArg Prod.snd heq
      exact ⟨rfl, rfl, .inl rfl⟩
  | replace reference =>
    obtain ⟨e, -, rfl⟩ | heq := attempt_cases (Option.some.inj h)
    · exact ⟨rfl, rfl, .inl rfl⟩
    · obtain rfl : (s.replaces i reference).2 = u := congrArg Prod.snd heq
      unfold State.replaces
      split
      · exact ⟨rfl, rfl, .inl rfl⟩
      · exact ⟨rfl, rfl, .inr ⟨_, rfl, rfl⟩⟩
  | unlink =>
    obtain rfl : s.unlinks i w = u := congrArg Prod.snd (Option.some.inj h)
    exact ⟨rfl, rfl, .inl rfl⟩

/-- What a step does to the history. -/
lemma history_of_step {p q : Pool Op Raised Outcome Call State} {e : Event Call World Empty}
    (h : step setup p e = some q) : q.shared.first = p.shared.first ∧
      (q.shared.history = p.shared.history ∨
        ∃ r t, q.shared.history = r :: p.shared.history ∧ p.threads[r.thread]? = some t ∧
          t.rest.waits = true) := by
  cases e with
  | start c =>
    obtain ⟨u, hu, rfl⟩ := start_cases h
    cases hu
    exact ⟨rfl, .inl rfl⟩
  | change e => cases e
  | turn i w =>
    obtain ⟨t, β, o, k, b, u, ht, hrest, hrun, rfl⟩ := turn_cases h
    obtain ⟨-, hfirst, hsame | ⟨e, he, rfl⟩⟩ := history_of_run hrun
    · exact ⟨hfirst, .inl hsame⟩
    · exact ⟨hfirst, .inr ⟨e, t, he, ht, by rw [hrest]; rfl⟩⟩

lemma tracks_of_step {p q : Pool Op Raised Outcome Call State} {e : Event Call World Empty}
    (hp : Tracks p) (h : step setup p e = some q) : Tracks q := by
  intro j
  cases e with
  | start c =>
    obtain ⟨u, hu, rfl⟩ := start_cases h
    cases hu
    change Function.update p.shared.calls p.threads.length (some c) j = _
    obtain rfl | hne := eq_or_ne j p.threads.length
    · rw [Function.update_self, List.getElem?_concat_length]
      rfl
    · rw [Function.update_of_ne hne, hp j]
      obtain hlt | hle := Nat.lt_or_ge j p.threads.length
      · rw [List.getElem?_append_left hlt]
      · rw [List.getElem?_eq_none_iff.mpr hle, List.getElem?_eq_none_iff.mpr]
        rw [List.length_append, List.length_singleton]
        omega
  | change e => cases e
  | turn i w =>
    obtain ⟨t, β, o, k, b, u, ht, -, hrun, rfl⟩ := turn_cases h
    change u.calls j = _
    rw [(history_of_run hrun).1, hp j]
    obtain rfl | hne := eq_or_ne i j
    · rw [List.getElem?_set_self (List.getElem?_eq_some_iff.mp ht).1, ht]
      rfl
    · rw [List.getElem?_set_ne hne]

/-- Nobody but the thread `i` is going to set or delete the reference. -/
structure Quiet (i : ℕ) (r : String) (p : Pool Op Raised Outcome Call State)
    (es : List (Event Call World Empty)) : Prop where
  threads : ∀ (j : ℕ) t, j ≠ i → p.threads[j]? = some t → t.call.reference = some r →
    t.rest.waits = false
  starts : ∀ c, .start c ∈ es → c.reference ≠ some r

variable {p q : Pool Op Raised Outcome Call State} {e : Event Call World Empty}
  {es : List (Event Call World Empty)} {r : String}

lemma Quiet.step (hp : Quiet i r p (e :: es))
    (h : step setup p e = some q) : Quiet i r q es := by
  refine ⟨fun j t hj ht href => ?_, fun c hc => hp.starts c (List.mem_cons_of_mem _ hc)⟩
  cases hjp : p.threads[j]? with
  | some t₀ =>
    obtain ⟨rest, hrest, hended⟩ := thread_of_step hjp h
    cases hrest.symm.trans ht
    have hwaits := hp.threads j t₀ hj hjp href
    rw [hended hwaits]
    exact hwaits
  | none =>
    have hle := List.getElem?_eq_none_iff.mp hjp
    cases e with
    | start c =>
      obtain ⟨u, -, rfl⟩ := start_cases h
      rw [List.getElem?_append_right hle, List.getElem?_singleton] at ht
      split at ht
      case isTrue =>
        cases ht
        exact absurd href (hp.starts c List.mem_cons_self)
      case isFalse => cases ht
    | change e => cases e
    | turn k w =>
      obtain ⟨t', β, o, k, b, u, -, -, -, rfl⟩ := turn_cases h
      rw [List.getElem?_eq_none_iff.mpr (by rwa [List.length_set])] at ht
      cases ht

/-- **In a quiet run** nobody but the one thread replaces the store for the reference. -/
theorem history_of_quiet (hp : Quiet i r p es) (hi : i < p.threads.length)
    (h : exec (step setup) p es = some q) : ∃ l, q.shared.history = l ++ p.shared.history ∧
      ∀ e ∈ l, e.thread ≠ i → ∀ t, q.threads[e.thread]? = some t → t.call.reference ≠ some r := by
  induction es generalizing p with
  | nil =>
    cases h
    exact ⟨[], rfl, fun _ he => by cases he⟩
  | cons e es ih =>
    obtain ⟨p', hp', h⟩ := exec_cons_eq_some.mp h
    have hi' : i < p'.threads.length := by
      obtain ⟨rest, hrest, -⟩ := thread_of_step (List.getElem?_eq_getElem hi) hp'
      exact (List.getElem?_eq_some_iff.mp hrest).1
    obtain ⟨l, hl, hli⟩ := ih (hp.step hp') hi' h
    obtain ⟨-, hsame | ⟨x, t, hx, ht, hwaits⟩⟩ := history_of_step hp'
    · exact ⟨l, hsame ▸ hl, hli⟩
    · refine ⟨l ++ [x], by rw [hl, hx, List.append_assoc]; rfl, fun y hy hne t' ht' => ?_⟩
      obtain hy | hy := List.mem_append.mp hy
      · exact hli y hy hne t' ht'
      · rw [List.mem_singleton.mp hy] at hne ht'
        intro href
        obtain ⟨rest, hrest⟩ : ∃ rest, q.threads[x.thread]? = some ⟨t.call, rest⟩ := by
          obtain ⟨rest, hrest, -⟩ := thread_of_step ht hp'
          obtain ⟨rest', hrest'⟩ := thread_of_exec hrest h
          exact ⟨rest', hrest'⟩
        cases hrest.symm.trans ht'
        rw [hp.threads x.thread t hne ht href] at hwaits
        cases hwaits

/-- What is in the store for a reference. -/
def secret (setup : Setup) (p : Pool Op Raised Outcome Call State) (r : String) :
    Option (Except Raised String) := secretIn setup p.shared.stored r

/-- What is kept in a run: a secret that has been set, from the return of the call on, when no
other call that has not ended before it began and none after it names the reference; and with
every turn of a call, what is stored for the references that it does not name. -/
structure Intact (setup : Setup) (first : Option Content) (es : List (Event Call World Empty)) :
    Prop where
  stored : ∀ es₁ es₂ scope r text p q a, es = es₁ ++ .start (.setSecret scope r text) :: es₂ →
    exec (step setup) (initial first) es₁ = some p → exec (step setup) (initial first) es = some q →
    (∀ (j : ℕ) t, p.threads[j]? = some t → t.call.reference = some (trim r) →
      t.rest.waits = false) →
    (∀ c, .start c ∈ es₂ → c.reference ≠ some (trim r)) →
    q.threads[p.threads.length]? = some ⟨.setSecret scope r text, .pure a⟩ →
    secret setup q (trim r) = some (.ok text)
  others : ∀ es₁ i w es₂ p q t r, es = es₁ ++ .turn i w :: es₂ →
    exec (step setup) (initial first) es₁ = some p → step setup p (.turn i w) = some q →
    p.threads[i]? = some t → t.call.reference ≠ some r → secret setup q r = secret setup p r

variable {first : Option Content}

lemma inv_start : Inv setup (.start first) := by
  cases first with
  | none => refine ⟨rfl, trivial, ?_, ?_, ?_, ?_⟩ <;> intro _ h <;> cases h
  | some c =>
    refine ⟨rfl, trivial, ?_, fun h hh => ?_, ?_, ?_⟩
    · intro _ h
      cases h
    · cases hh
      exact Nat.zero_lt_one
    · intro _ h
      cases h
    · intro _ h
      cases h

lemma holds_of_run
    (hm : Meets (step setup) (fun p e => permits upToDate p e = true) (initial first) es)
    (he : exec (step setup) (initial first) es = some q) :
    Holds ((system setup).limited upToDate) (Inv setup)
      (fun i s => s.calls i = none ∧ ∀ e ∈ s.history, e.thread ≠ i) Later
      (fun i c _ => Left setup i c) (fun _ _ _ _ => True) q :=
  holds_of_exec (kept setup) inv_start (fun _ => ⟨rfl, fun _ h => by cases h⟩)
    (exec_limited hm he)

lemma tracks_of_run (he : exec (step setup) (initial first) es = some q) : Tracks q :=
  inv_of_exec_all (fun _ _ _ hp h => tracks_of_step hp h) (fun _ => rfl) he

/-- What the thread has put in the place of the store is still there for the reference. -/
lemma secretIn_of_wrote {l h : List Replaced} {r : String} {x : Replaced}
    (hlinked : Linked setup first (l ++ h)) (hmem : ∃ h₂ h₁, l ++ h = h₂ ++ x :: h₁ ∧
      ∀ e ∈ h₂, e.thread ≠ x.thread) (hh : ∀ e ∈ h, e.thread ≠ x.thread)
    (hl : ∀ e ∈ l, e.thread ≠ x.thread → e.reference ≠ some r) :
    secretIn setup (committedOf first (l ++ h)) r = secretIn setup (some x.content) r := by
  obtain ⟨h₂, h₁, heq, hne⟩ := hmem
  have hsub : ∀ e ∈ h₂, e ∈ l := by
    obtain ⟨m, rfl, htail⟩ | ⟨m, rfl, -⟩ := List.append_eq_append_iff.mp heq
    · have hx : x ∈ h := htail ▸ List.mem_append_right _ List.mem_cons_self
      exact absurd rfl (hh x hx)
    · exact fun e he => List.mem_append_left _ he
  rw [heq] at hlinked ⊢
  exact secretIn_committed hlinked fun e he => hl e (hsub e he) (hne e he)

lemma quiet_of_start {c : Call} {u : State} {rest : Program Outcome}
    (hended : ∀ (j : ℕ) t, p.threads[j]? = some t → t.call.reference = some r →
      t.rest.waits = false) (hnone : ∀ c, .start c ∈ es → c.reference ≠ some r) :
    Quiet p.threads.length r ⟨u, p.threads ++ [⟨c, rest⟩]⟩ es := by
  refine ⟨fun j t hj ht => hended j t ?_, hnone⟩
  obtain hlt | hle := Nat.lt_or_ge j p.threads.length
  · rwa [List.getElem?_append_left hlt] at ht
  · rw [List.getElem?_append_right hle, List.getElem?_singleton] at ht
    split at ht
    case isTrue h => exact absurd (by omega) hj
    case isFalse => cases ht

/-- **No credential is lost** in a run in which the calls write one after the other and each
replaces the store that it has read. -/
theorem credentials_kept (setup : Setup) (first : Option Content)
    {es : List (Event Call World Empty)}
    (hm : Meets (step setup) (fun p e => permits upToDate p e = true) (initial first) es) :
    Intact setup first es := by
  refine ⟨fun es₁ es₂ scope r text p q a hes hp hq hended hnone hreturned => ?_,
    fun es₁ i w es₂ p q t r hes hp hstep ht hr => ?_⟩
  · have hholds := holds_of_run hm hq
    have htracks := tracks_of_run hq
    subst hes
    have hfresh := ((holds_of_run (meets_append.mp hm).1 hp).fresh _ le_rfl).2
    obtain ⟨pay, hwrote, hpay⟩ := hholds.returned (kept setup) hreturned
    rw [exec_append, hp, Option.bind_some] at hq
    obtain ⟨p', hp', hq'⟩ := exec_cons_eq_some.mp hq
    obtain ⟨u, hu, rfl⟩ := start_cases hp'
    obtain rfl := Option.some.inj hu
    obtain ⟨l, hl, hli⟩ := history_of_quiet (quiet_of_start hended hnone) (by simp) hq'
    replace hl : q.shared.history = l ++ p.shared.history := hl
    obtain ⟨h₂, h₁, heq, hne⟩ := hwrote
    have hinv := hholds.shared
    have hlinked := hinv.linked
    rw [secret, hinv.stored, committed]
    rw [hl] at hlinked heq ⊢
    refine (secretIn_of_wrote (r := trim r) hlinked ⟨h₂, h₁, heq, hne⟩ hfresh
      fun e he hj href => ?_).trans hpay
    have hnamed := hinv.named e (hl ▸ List.mem_append_left _ he)
    rw [htracks e.thread] at hnamed
    obtain ⟨c, hc, hreference⟩ := Option.map_eq_some_iff.mp hnamed
    obtain ⟨t, ht, rfl⟩ := Option.map_eq_some_iff.mp hc
    exact hli e he hj t ht (hreference.trans href)
  · have hq : exec (step setup) (initial first) (es₁ ++ [.turn i w]) = some q := by
      rw [exec_append, hp, Option.bind_some, exec_cons, hstep]
      rfl
    rw [hes, List.append_cons, meets_append] at hm
    have hinv := (holds_of_run hm.1 hq).shared
    have hinv' := (holds_of_run (meets_append.mp hm.1).1 hp).shared
    unfold secret
    rw [hinv.stored, hinv'.stored]
    obtain ⟨t', β, o, k, b, u, ht', -, hrun, rfl⟩ := turn_cases hstep
    cases ht.symm.trans ht'
    obtain ⟨hcalls, hfirst, hsame | ⟨x, hx, rfl⟩⟩ := history_of_run hrun
    · change secretIn setup (committedOf u.first u.history) r = _
      rw [hfirst, hsame]
    · have hlinked : Linked setup u.first u.history := hinv.linked
      have hnamed : (u.calls x.thread).map Call.reference = some x.reference :=
        hinv.named x (hx ▸ List.mem_cons_self)
      rw [hcalls, tracks_of_run hp, ht] at hnamed
      rw [hx, hfirst] at hlinked
      change secretIn setup (committedOf u.first u.history) r = _
      rw [hx]
      exact hlinked.1 r fun href => hr ((Option.some.inj hnamed).trans href)

/-! ### Two secrets -/

/-- A text is encrypted by a letter in front of it. -/
def plainSetup : Setup where
  path := "station-credentials.json"
  unprotect encoded := match encoded.toList with
    | 'e' :: cs => .ok (String.ofList cs)
    | _ => .error .value

/-- What has been asked for is done. -/
def fine (sealed : String) : World := ⟨none, sealed, false, false⟩

/-- So many turns of a thread. -/
def turns (i n : ℕ) (sealed : String) : List (Event Call World Empty) :=
  List.replicate n (.turn i (fine sealed))

def icecast (station : String) : String := "credential://user/station/" ++ station ++ "/icecast"

/-- Two secrets are set, a store without a scope is encrypted anew, and one of them is deleted. -/
def oneAfterAnother : List (Event Call World Empty) :=
  [.start (.setSecret .user (icecast "1") "rock")] ++ turns 0 7 "erock" ++
    [.start (.setSecret .user (icecast "2") "jazz")] ++ turns 1 7 "ejazz" ++
    [.start (.getSecret .machine (icecast "1"))] ++ turns 2 2 "ejazz" ++ turns 2 6 "erock" ++
    [.start (.deleteSecret (icecast "2"))] ++ turns 3 6 ""

theorem credentials_kept_rock :
    Meets (step plainSetup) (fun p e => permits upToDate p e = true) (initial none)
        oneAfterAnother ∧
      (exec (step plainSetup) (initial none) oneAfterAnother).isSome ∧
      Intact plainSetup none oneAfterAnother := by
  have hm : Meets (step plainSetup) (fun p e => permits upToDate p e = true) (initial none)
      oneAfterAnother := by decide +kernel
  exact ⟨hm, by decide +kernel, credentials_kept plainSetup none hm⟩

/-- The call that has returned. -/
def returned (p : Pool Op Raised Outcome Call State) (i : ℕ) : Option Call :=
  match p.threads[i]? with
  | some ⟨c, .pure _⟩ => some c
  | _ => none

lemma of_returned {c : Call} (h : returned p i = some c) :
    ∃ a, p.threads[i]? = some ⟨c, .pure a⟩ := by
  unfold returned at h
  split at h
  · cases h
    exact ⟨_, by assumption⟩
  · cases h

/-- Both calls have read the store before one of them replaces it. -/
def atOnce : List (Event Call World Empty) :=
  .start (.setSecret .user (icecast "2") "jazz") :: turns 0 2 "erock" ++ turns 1 2 "ejazz" ++
    turns 0 5 "erock" ++ turns 1 5 "ejazz"

/-- No call is started that sets or deletes the reference. -/
def startsNone (r : String) (es : List (Event Call World Empty)) : Bool :=
  es.all fun e => match e with
    | .start c => c.reference ≠ some r
    | _ => true

theorem credential_lost : ¬ ∀ (setup : Setup) (first : Option Content)
    (es : List (Event Call World Empty)), Intact setup first es := by
  intro h
  have hrun : ((exec (step plainSetup) (initial none)
      (.start (.setSecret .user (icecast "1") "rock") :: atOnce)).any fun q => decide
        (returned q 0 = some (.setSecret .user (icecast "1") "rock") ∧
          (secret plainSetup q (trim (icecast "1"))).isNone)) = true := by decide +kernel
  obtain ⟨q, hq, hlost⟩ := (Option.any_eq_true ..).mp hrun
  obtain ⟨hreturned, hnone⟩ := of_decide_eq_true hlost
  obtain ⟨a, ha⟩ := of_returned hreturned
  have hothers : startsNone (trim (icecast "1")) atOnce = true := by decide +kernel
  have hstored := (h plainSetup none _).stored [] atOnce .user (icecast "1") "rock" _ q a rfl rfl
    hq (fun j t ht => by cases ht)
    (fun c hc => of_decide_eq_true (List.all_eq_true.mp hothers _ hc)) ha
  rw [hstored] at hnone
  cases hnone

end OnAir.SecretKeeping
