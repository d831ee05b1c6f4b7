import OnAir.ServiceControl

/-!
Which services run at the same time.

No two processes of one service run together, and none that share a mount, as long as a start
finds what runs: every process that could stand against it has been recorded before it looks, and
is still known, with its mounts, when it is looked for.
-/

namespace OnAir.MountOwnership

open Resumption Runs ServiceControl ThreadPool

/-! ### The conditions -/

/-- Two processes that run are of two services, and have no mount in common. -/
def Exclusive (s : State) : Prop :=
  ∀ (m n : ℕ) p q, s.processes[m]? = some p → s.processes[n]? = some q → p.alive → q.alive →
    m ≠ n → p.service ≠ q.service ∧ common p.mounts q.mounts = false

/-- All processes that run are so. -/
def allRunning (s : State) (f : ℕ → Process → Bool) : Bool :=
  (List.range s.processes.length).all fun n => s.processes[n]?.all fun p => !p.alive || f n p

/-- A process that runs and has to be looked up in the ledger is recognized. -/
def recognizes (setup : Setup) (w : World) (sid : ServiceId) (s : State) : Bool :=
  (s.registered sid).isSome || (s.ledger sid).all fun r =>
    !s.alive r.process || r.recognizedBy setup w.details

/-- A process that is started now could stand together with the one that runs. -/
def compatible (s : State) (sid : ServiceId) (config : Config) (p : Process) : Bool :=
  p.service ≠ sid && !common (configuredMounts s.files sid config) p.mounts

/-- What runs is found by those who look for it: a recorded process is recognized, a process that
is stopped ends, a service that runs is still configured for the mounts it was started with. What
stands against a process that is spawned had been recorded when its start looked, and a process is
recorded while no other one of the service runs. -/
def finds (setup : Setup) : Condition Op World State := fun i o w s =>
  match o with
  | .trackedProcess sid _ => recognizes setup w sid s
  | .stop sid => recognizes setup w sid s && w.yes
  | .serviceMounts sid config => allRunning s fun _ p =>
    p.service ≠ sid || p.mounts.all (· ∈ configuredMounts s.files sid config)
  | .popen sid config requested =>
    (configuredMounts s.files sid config).all (· ∈ requested) &&
      allRunning s fun n p => n ∈ s.seen i || compatible s sid config p
  | .record sid n _ => allRunning s fun m p => p.service ≠ sid || m = n
  | _ => true

/-- What runs is found, if the operation does not raise at once. -/
def findsRunning (setup : Setup) : Condition Op World State := fun i o w s =>
  w.raises.isSome || finds setup i o w s

/-- The application ends only while the recorded processes that run are in the ledger. -/
def inLedger (e : Around) (s : State) : Bool :=
  match e with
  | .restart => allRunning s fun n p =>
    n ∈ s.unrecorded || (s.ledger p.service).any (·.process = n)
  | _ => true

lemma allRunning_iff {s : State} {f : ℕ → Process → Bool} :
    allRunning s f = true ↔ ∀ (n : ℕ) p, s.processes[n]? = some p → p.alive → f n p := by
  unfold allRunning
  rw [List.all_eq_true]
  constructor
  · intro h n p hp halive
    have hlt := (List.getElem?_eq_some_iff.mp hp).1
    have hn := h n (List.mem_range.mpr hlt)
    simpa [hp, halive] using hn
  · intro h n _
    cases hp : s.processes[n]? with
    | none => rfl
    | some p =>
      cases halive : p.alive with
      | false => simp [halive]
      | true => simpa [halive] using h n p hp halive

/-! ### What is kept -/

variable {setup : Setup} {i j n : ℕ} {s t u : State} {w : World} {sid : ServiceId} {α β : Type}

/-- What runs is exclusive, and known if it has been recorded. -/
structure Inv (s : State) : Prop where
  exclusive : Exclusive s
  known : ∀ (n : ℕ) p, s.processes[n]? = some p → p.alive →
    n ∈ s.unrecorded ∨ s.found p.service = some n
  handles : ∀ sid n, s.registry sid = some n → n < s.processes.length

/-- What the others leave of the state for a thread: processes may end, or be recorded. -/
structure Later (i : ℕ) (s t : State) : Prop where
  seen : t.seen i = s.seen i
  unrecorded : ∀ n < s.processes.length, n ∈ t.unrecorded → n ∈ s.unrecorded
  processes : ∀ (n : ℕ) p, s.processes[n]? = some p →
    ∃ a, t.processes[n]? = some { p with alive := a } ∧ (a = true → p.alive = true)

lemma Later.refl (i : ℕ) (s : State) : Later i s s :=
  ⟨rfl, fun _ _ h => h, fun _ p hp => ⟨p.alive, hp, id⟩⟩

lemma Later.length_le (h : Later i s t) : s.processes.length ≤ t.processes.length := by
  by_contra hlt
  rw [not_le] at hlt
  obtain ⟨a, ha, -⟩ := h.processes _ _ (List.getElem?_eq_getElem hlt)
  exact absurd (List.getElem?_eq_some_iff.mp ha).1 (lt_irrefl _)

lemma Later.trans (h : Later i s t) (h' : Later i t u) : Later i s u := by
  refine ⟨h'.seen.trans h.seen, fun n hn hu => ?_, fun n p hp => ?_⟩
  · exact h.unrecorded n hn (h'.unrecorded n (hn.trans_le h.length_le) hu)
  · obtain ⟨a, ha, halive⟩ := h.processes n p hp
    obtain ⟨b, hb, hb'⟩ := h'.processes n _ ha
    exact ⟨b, hb, fun hb => halive (hb' hb)⟩

/-- A process that is there later has been there before, if its place has. -/
lemma Later.before {p : Process} (h : Later i s t) (hn : n < s.processes.length)
    (hp : t.processes[n]? = some p) : ∃ q, s.processes[n]? = some q ∧ q.service = p.service ∧
      q.mounts = p.mounts ∧ (p.alive = true → q.alive = true) := by
  obtain ⟨a, ha, halive⟩ := h.processes n _ (List.getElem?_eq_getElem hn)
  cases ha.symm.trans hp
  exact ⟨_, List.getElem?_eq_getElem hn, rfl, rfl, halive⟩

/-- What a start knows of the processes that it has seen: they are recorded, and so are the
services and mounts of those that run. -/
structure Checked (i : ℕ) (f : ServiceId → List Mount → Prop) (s : State) : Prop where
  recorded : ∀ n ∈ s.seen i, n < s.processes.length ∧ n ∉ s.unrecorded
  running : ∀ n ∈ s.seen i, ∀ p, s.processes[n]? = some p → p.alive → f p.service p.mounts

/-- The process is one of the service. -/
def Launched (sid : ServiceId) (n : ℕ) (s : State) : Prop :=
  ∃ p, s.processes[n]? = some p ∧ p.service = sid

variable {f g : ServiceId → List Mount → Prop}

lemma stable_true : Stable (Later i) fun _ => True := fun _ _ _ _ => trivial

lemma stable_checked : Stable (Later i) (Checked i f) := by
  intro s t h hs
  refine ⟨fun n hn => ?_, fun n hn p hp halive => ?_⟩
  · rw [h.seen] at hn
    obtain ⟨hlt, hrecorded⟩ := hs.recorded n hn
    exact ⟨hlt.trans_le h.length_le, fun hu => hrecorded (h.unrecorded n hlt hu)⟩
  · rw [h.seen] at hn
    obtain ⟨q, hq, hservice, hmounts, hq'⟩ := h.before (hs.recorded n hn).1 hp
    exact hservice ▸ hmounts ▸ hs.running n hn q hq (hq' halive)

lemma stable_launched : Stable (Later i) (Launched sid n) := by
  rintro s t h ⟨p, hp, hservice⟩
  obtain ⟨a, ha, -⟩ := h.processes n p hp
  exact ⟨_, ha, hservice⟩

lemma Checked.mono (h : Checked i f s) (hfg : ∀ x ms, f x ms → g x ms) : Checked i g s :=
  ⟨h.recorded, fun n hn p hp halive => hfg _ _ (h.running n hn p hp halive)⟩

/-! ### By what a service is known -/

lemma alive_iff : s.alive n = true ↔ ∃ p, s.processes[n]? = some p ∧ p.alive = true := by
  unfold State.alive
  exact Option.any_eq_true ..

lemma found_of_registered (h : s.registered sid = some n) : s.found sid = some n := by
  simp [State.found, h]

lemma found_of_not_registered (h : s.registered sid = none) :
    s.found sid = (s.ledger sid).map (·.process) := by
  simp [State.found, h]

lemma common_comm (ms ns : List Mount) : common ms ns = common ns ms := by
  have h : ∀ ms ns : List Mount, common ms ns = true → common ns ms = true := by
    intro ms ns h
    obtain ⟨m, hm, hn⟩ := List.any_eq_true.mp h
    exact List.any_eq_true.mpr ⟨m, of_decide_eq_true hn, decide_eq_true hm⟩
  exact Bool.eq_iff_iff.mpr ⟨h ms ns, h ns ms⟩

lemma common_of_subset {ms ns ks : List Mount} (h : ms.all (· ∈ ns) = true)
    (hcommon : common ns ks = false) : common ms ks = false := by
  rw [Bool.eq_false_iff] at hcommon ⊢
  refine fun h' => hcommon ?_
  obtain ⟨m, hm, hk⟩ := List.any_eq_true.mp h'
  exact List.any_eq_true.mpr ⟨m, of_decide_eq_true (List.all_eq_true.mp h m hm), hk⟩

/-- The invariant speaks of processes and of how they are known. -/
lemma inv_of_found (hs : Inv s) (hprocesses : t.processes = s.processes)
    (hunrecorded : t.unrecorded = s.unrecorded)
    (hhandles : ∀ sid n, t.registry sid = some n → s.registry sid = some n)
    (hfound : ∀ (n : ℕ) p, s.processes[n]? = some p → p.alive → s.found p.service = some n →
      n ∈ s.unrecorded ∨ t.found p.service = some n) : Inv t := by
  refine ⟨fun m n p q hp hq => ?_, fun n p hp halive => ?_, fun sid n hn => ?_⟩
  · rw [hprocesses] at hp hq
    exact hs.exclusive m n p q hp hq
  · rw [hprocesses] at hp
    rw [hunrecorded]
    exact (hs.known n p hp halive).elim .inl (hfound n p hp halive)
  · exact hprocesses ▸ hs.handles sid n (hhandles sid n hn)

lemma later_of_processes (hseen : t.seen i = s.seen i) (hprocesses : t.processes = s.processes)
    (hunrecorded : t.unrecorded = s.unrecorded) : Later i s t :=
  ⟨hseen, fun _ _ h => hunrecorded ▸ h, fun _ p hp => ⟨p.alive, hprocesses ▸ hp, id⟩⟩

lemma update_none_eq_some {f : ServiceId → Option α} {sid' : ServiceId} {a : α}
    (h : Function.update f sid none sid' = some a) : f sid' = some a := by
  obtain rfl | hne := eq_or_ne sid' sid
  · simp at h
  · rwa [Function.update_of_ne hne] at h

lemma registered_forgetHandle {sid' : ServiceId} (h : s.registered sid = none) :
    (s.forgetHandle sid).registered sid' = s.registered sid' := by
  obtain rfl | hne := eq_or_ne sid' sid
  · rw [h]
    simp [State.registered, State.forgetHandle]
  · unfold State.registered State.forgetHandle
    dsimp only
    rw [Function.update_of_ne hne]
    rfl

lemma found_forgetHandle {sid' : ServiceId} (h : s.registered sid = none) :
    (s.forgetHandle sid).found sid' = s.found sid' := by
  unfold State.found
  rw [registered_forgetHandle h]
  rfl

lemma inv_forgetHandle (hs : Inv s) (h : s.registered sid = none) : Inv (s.forgetHandle sid) :=
  inv_of_found hs rfl rfl (fun _ _ => update_none_eq_some) fun _ _ _ _ hfound =>
    .inr ((found_forgetHandle h).trans hfound)

lemma found_forgetRecord_of_ne {sid' : ServiceId} (h : sid' ≠ sid) :
    (s.forgetRecord sid).found sid' = s.found sid' := by
  unfold State.found State.registered State.forgetRecord
  dsimp only
  rw [Function.update_of_ne h]
  rfl

lemma found_forgetHandle_of_ne {sid' : ServiceId} (h : sid' ≠ sid) :
    (s.forgetHandle sid).found sid' = s.found sid' := by
  unfold State.found State.registered State.forgetHandle
  dsimp only
  rw [Function.update_of_ne h]
  rfl

/-- The record of a process that has ended is forgotten. -/
lemma inv_forgetRecord (hs : Inv s)
    (h : (s.registered sid).isSome ∨ ∀ r, s.ledger sid = some r → s.alive r.process = false) :
    Inv (s.forgetRecord sid) := by
  refine inv_of_found hs rfl rfl (fun _ _ h => h) fun n p hp halive hfound => .inr ?_
  obtain heq | hne := eq_or_ne p.service sid
  · rw [heq] at hfound ⊢
    cases hreg : s.registered sid with
    | some m =>
      rw [found_of_registered hreg] at hfound
      cases hfound
      exact found_of_registered hreg
    | none =>
      rw [found_of_not_registered hreg] at hfound
      obtain ⟨r, hr, rfl⟩ := Option.map_eq_some_iff.mp hfound
      have hdead := (h.resolve_left (by simp [hreg])) r hr
      simp [alive_iff.mpr ⟨p, hp, halive⟩] at hdead
  · rw [found_forgetRecord_of_ne hne, hfound]

/-! ### Processes that end -/

lemma processes_exits {m : ℕ} : (s.exits n).processes[m]? =
    if n = m then (s.processes[m]?).map fun p => { p with alive := false }
    else s.processes[m]? := by
  rw [State.exits, List.getElem?_modify]
  split
  · rfl
  · exact Option.map_id' ..

lemma later_exits : Later i s (s.exits n) := by
  refine ⟨rfl, fun _ _ h => h, fun m p hp => ?_⟩
  rw [processes_exits, hp]
  split
  · exact ⟨false, rfl, by simp⟩
  · exact ⟨p.alive, rfl, id⟩

lemma alive_exits {m : ℕ} : (s.exits n).alive m = (s.alive m && m ≠ n) := by
  unfold State.alive
  rw [processes_exits]
  split
  case isTrue h =>
    subst h
    cases s.processes[n]? <;> simp
  case isFalse h =>
    have hne : m ≠ n := fun heq => h heq.symm
    simp [hne]

lemma found_exits {m : ℕ} (halive : (s.exits n).alive m = true) (h : s.found sid = some m) :
    (s.exits n).found sid = some m := by
  have hregistry : (s.exits n).registry sid = s.registry sid := rfl
  cases hr : s.registry sid with
  | none =>
    rw [found_of_not_registered (by simp [State.registered, hr])] at h
    rw [found_of_not_registered (by simp [State.registered, hregistry, hr])]
    exact h
  | some k =>
    cases hk : s.alive k with
    | true =>
      have hreg : s.registered sid = some k := by simp [State.registered, hr, hk]
      cases (found_of_registered hreg).symm.trans h
      exact found_of_registered (by simp [State.registered, hregistry, hr, halive])
    | false =>
      rw [found_of_not_registered (by simp [State.registered, hr, hk])] at h
      rw [found_of_not_registered (by simp [State.registered, hregistry, hr, alive_exits, hk])]
      exact h

lemma inv_exits (hs : Inv s) : Inv (s.exits n) := by
  have hlater : Later 0 s (s.exits n) := later_exits
  have hbefore : ∀ (m : ℕ) p, (s.exits n).processes[m]? = some p → m < s.processes.length := by
    intro m p hp
    have hlt := (List.getElem?_eq_some_iff.mp hp).1
    simpa [State.exits] using hlt
  refine ⟨fun m k p q hp hq hpa hqa hne => ?_, fun m p hp halive => ?_, fun sid m hm => ?_⟩
  · obtain ⟨p', hp', hps, hpm, hpa'⟩ := hlater.before (hbefore m p hp) hp
    obtain ⟨q', hq', hqs, hqm, hqa'⟩ := hlater.before (hbefore k q hq) hq
    rw [← hps, ← hqs, ← hpm, ← hqm]
    exact hs.exclusive m k p' q' hp' hq' (hpa' hpa) (hqa' hqa) hne
  · obtain ⟨p', hp', hps, -, hpa'⟩ := hlater.before (hbefore m p hp) hp
    refine (hs.known m p' hp' (hpa' halive)).imp_right fun hfound => ?_
    exact found_exits (alive_iff.mpr ⟨p, hp, halive⟩) (hps ▸ hfound)
  · exact (hs.handles sid m hm).trans_le hlater.length_le

/-! ### The operations -/

lemma later_tracked : Later i s (s.tracked setup w sid).2 := by
  unfold State.tracked
  split
  · exact .refl i s
  · split
    · exact later_of_processes rfl rfl rfl
    · split_ifs <;> exact later_of_processes rfl rfl rfl

/-- A recorded process that runs is known after it has been looked for. -/
lemma inv_tracked (hs : Inv s) (h : recognizes setup w sid s = true) :
    Inv (s.tracked setup w sid).2 := by
  unfold State.tracked
  cases hreg : s.registered sid with
  | some n => exact hs
  | none =>
    cases hledger : s.ledger sid with
    | none => exact inv_forgetHandle hs hreg
    | some r =>
      dsimp only
      split_ifs with hr
      · exact inv_forgetHandle hs hreg
      · refine inv_forgetRecord (inv_forgetHandle hs hreg) (.inr fun r' hr' => ?_)
        cases hledger.symm.trans hr'
        have hdead : s.alive r.process = false := by
          simpa [recognizes, hreg, hledger, hr] using h
        exact hdead
      · exact inv_forgetHandle hs hreg

/-- A service that is not found has no recorded process that runs. -/
lemma not_found_of_tracked (h : recognizes setup w sid s = true)
    (hnone : (s.tracked setup w sid).1 = .ok none) (hn : s.alive n = true) :
    s.found sid ≠ some n := by
  intro hfound
  unfold State.tracked at hnone
  cases hreg : s.registered sid with
  | some m =>
    have hm : s.alive m = true := (Option.filter_eq_some_iff.mp hreg).2
    obtain ⟨p, hp, -⟩ := alive_iff.mp hm
    simp [hreg, hp] at hnone
  | none =>
    rw [found_of_not_registered hreg] at hfound
    obtain ⟨r, hr, rfl⟩ := Option.map_eq_some_iff.mp hfound
    have hrecognized : r.recognizedBy setup w.details = true := by
      simpa [recognizes, hreg, hr, hn] using h
    simp [hreg, hr, hrecognized] at hnone

lemma later_ends : Later i s (s.ends w sid) := by
  have hforget : ∀ t, Later i s t → Later i s
      (if w.saves then (t.forgetHandle sid).forgetRecord sid else t.forgetHandle sid) := by
    intro t ht
    split_ifs
    · exact ht.trans (later_of_processes rfl rfl rfl)
    · exact ht.trans (later_of_processes rfl rfl rfl)
  refine hforget _ ?_
  split
  · split_ifs
    · exact later_exits
    · exact .refl i s
  · exact .refl i s

/-- A service of which no recorded process runs is forgotten. -/
lemma inv_forgets (hs : Inv s) (h : ∀ (n : ℕ) p, s.processes[n]? = some p → p.alive →
    p.service = sid → n ∈ s.unrecorded) :
    Inv ((s.forgetHandle sid).forgetRecord sid) ∧ Inv (s.forgetHandle sid) := by
  constructor
  · refine inv_of_found hs rfl rfl (fun _ _ => update_none_eq_some) fun n p hp halive hfound => ?_
    obtain heq | hne := eq_or_ne p.service sid
    · exact .inl (h n p hp halive heq)
    · exact .inr (by rw [found_forgetRecord_of_ne hne, found_forgetHandle_of_ne hne, hfound])
  · refine inv_of_found hs rfl rfl (fun _ _ => update_none_eq_some) fun n p hp halive hfound => ?_
    obtain heq | hne := eq_or_ne p.service sid
    · exact .inl (h n p hp halive heq)
    · exact .inr (by rw [found_forgetHandle_of_ne hne, hfound])

lemma inv_ends (hs : Inv s) (hw : w.yes = true) : Inv (s.ends w sid) := by
  have hends : ∀ t, Inv t → (∀ (n : ℕ) p, t.processes[n]? = some p → p.alive →
      p.service = sid → n ∈ t.unrecorded) →
      Inv (if w.saves then (t.forgetHandle sid).forgetRecord sid else t.forgetHandle sid) := by
    intro t ht h
    split_ifs
    · exact (inv_forgets ht h).1
    · exact (inv_forgets ht h).2
  unfold State.ends
  cases hfound : s.found sid with
  | none =>
    refine hends s hs fun n p hp halive hservice => ?_
    exact (hs.known n p hp halive).resolve_right (by simp [hservice, hfound])
  | some n =>
    simp only [hw, if_true]
    refine hends _ (inv_exits hs) fun m p hp halive hservice => ?_
    have hm : (s.exits n).alive m = true := alive_iff.mpr ⟨p, hp, halive⟩
    rw [alive_exits, Bool.and_eq_true, decide_eq_true_iff] at hm
    have hlater : Later 0 s (s.exits n) := later_exits
    obtain ⟨q, hq, halive'⟩ := alive_iff.mp hm.1
    obtain ⟨a, ha, -⟩ := hlater.processes m q hq
    cases ha.symm.trans hp
    refine (hs.known m q hq halive').resolve_right fun h => ?_
    rw [show q.service = sid from hservice, hfound] at h
    exact hm.2 (Option.some.inj h).symm

lemma later_stop : Later i s (s.stop setup w sid).2 := by
  have ht : Later i s (s.tracked setup w sid).2 := later_tracked
  unfold State.stop
  split
  case h_1 e t heq =>
    rw [heq] at ht
    exact ht
  case h_2 pid t heq =>
    rw [heq] at ht
    split
    · exact ht
    · split
      · exact ht.trans later_ends
      · exact ht

lemma inv_stop (hs : Inv s) (h : recognizes setup w sid s = true) (hw : w.yes = true) :
    Inv (s.stop setup w sid).2 := by
  have ht : Inv (s.tracked setup w sid).2 := inv_tracked hs h
  unfold State.stop
  split
  case h_1 e t heq =>
    rw [heq] at ht
    exact ht
  case h_2 pid t heq =>
    rw [heq] at ht
    split
    · exact ht
    · split
      · exact inv_ends ht hw
      · exact ht

lemma spawned_cases {config : Config} {p : Process}
    (h : (s.spawn w sid config).processes[n]? = some p) : s.processes[n]? = some p ∨
      n = s.processes.length ∧ p = ⟨sid, configuredMounts s.files sid config, w.pid, true⟩ := by
  unfold State.spawn at h
  dsimp only at h
  obtain hlt | hle := Nat.lt_or_ge n s.processes.length
  · rw [List.getElem?_append_left hlt] at h
    exact .inl h
  · rw [List.getElem?_append_right hle, List.getElem?_singleton] at h
    split at h
    case isTrue hn => exact .inr ⟨by omega, (Option.some.inj h).symm⟩
    case isFalse => cases h

lemma later_spawn {config : Config} : Later i s (s.spawn w sid config) := by
  refine ⟨rfl, fun n hn hu => ?_, fun n p hp => ⟨p.alive, ?_, id⟩⟩
  · exact (List.mem_cons.mp hu).resolve_left hn.ne
  · exact (List.getElem?_append_left (List.getElem?_eq_some_iff.mp hp).1).trans hp

lemma found_spawn {config : Config} {sid' : ServiceId} (hs : Inv s) :
    (s.spawn w sid config).found sid' = s.found sid' := by
  have hreg : (s.spawn w sid config).registered sid' = s.registered sid' := by
    have hregistry : (s.spawn w sid config).registry sid' = s.registry sid' := rfl
    unfold State.registered
    rw [hregistry]
    cases hk : s.registry sid' with
    | none => rfl
    | some k =>
      have halive : (s.spawn w sid config).alive k = s.alive k := congrArg
        (Option.any Process.alive) (List.getElem?_append_left (hs.handles sid' k hk))
      simp [Option.filter, halive]
  unfold State.found
  rw [hreg]
  rfl

/-- What runs is compatible with a process that is spawned. -/
lemma inv_spawn {config : Config} (hs : Inv s) (h : ∀ (n : ℕ) p, s.processes[n]? = some p →
    p.alive → compatible s sid config p = true) : Inv (s.spawn w sid config) := by
  have hcompatible : ∀ (n : ℕ) p, s.processes[n]? = some p → p.alive → p.service ≠ sid ∧
      common (configuredMounts s.files sid config) p.mounts = false := by
    intro n p hp halive
    have hp' := h n p hp halive
    unfold compatible at hp'
    simpa using hp'
  refine ⟨fun m n p q hp hq hpa hqa hne => ?_, fun n p hp halive => ?_, fun sid' n hn => ?_⟩
  · obtain hp | ⟨rfl, rfl⟩ := spawned_cases hp
    · obtain hq | ⟨rfl, rfl⟩ := spawned_cases hq
      · exact hs.exclusive m n p q hp hq hpa hqa hne
      · obtain ⟨hservice, hmounts⟩ := hcompatible m p hp hpa
        exact ⟨hservice, (common_comm ..).trans hmounts⟩
    · obtain hq | ⟨rfl, rfl⟩ := spawned_cases hq
      · obtain ⟨hservice, hmounts⟩ := hcompatible n q hq hqa
        exact ⟨hservice.symm, hmounts⟩
      · exact absurd rfl hne
  · obtain hp | ⟨rfl, rfl⟩ := spawned_cases hp
    · rw [found_spawn hs]
      exact (hs.known n p hp halive).imp_left (List.mem_cons_of_mem _)
    · exact .inl List.mem_cons_self
  · have hlater : Later 0 s (s.spawn w sid config) := later_spawn
    exact (hs.handles sid' n hn).trans_le hlater.length_le

lemma later_record {details : Details} : Later i s (s.record setup w sid n details) :=
  ⟨rfl, fun _ _ h => List.mem_of_mem_filter h, fun _ p hp => ⟨p.alive, hp, id⟩⟩

/-- A process of the service is recorded, and no other one runs. -/
lemma inv_record {details : Details} (hs : Inv s) (hl : Launched sid n s)
    (h : ∀ (m : ℕ) p, s.processes[m]? = some p → p.alive → p.service = sid → m = n) :
    Inv (s.record setup w sid n details) := by
  obtain ⟨p, hp, hservice⟩ := hl
  refine ⟨hs.exclusive, fun m q hq halive => ?_, fun sid' m hm => ?_⟩
  · obtain heq | hne := eq_or_ne q.service sid
    · obtain rfl := h m q hq halive heq
      right
      rw [heq]
      refine found_of_registered ?_
      have hm : s.alive m = true := alive_iff.mpr ⟨q, hq, halive⟩
      have hreg : (s.record setup w sid m details).registry sid = some m :=
        Function.update_self ..
      unfold State.registered
      rw [hreg]
      exact Option.filter_some_pos hm
    · refine (hs.known m q hq halive).imp (fun hu => ?_) fun hfound => ?_
      · refine List.mem_filter.mpr ⟨hu, decide_eq_true fun hmn => hne ?_⟩
        subst hmn
        cases hp.symm.trans hq
        exact hservice
      · rw [← hfound]
        unfold State.found State.registered State.record
        dsimp only
        rw [Function.update_of_ne hne]
        split_ifs
        · rw [Function.update_of_ne hne]
          rfl
        · rfl
  · obtain rfl | hne := eq_or_ne sid' sid
    · cases (Function.update_self ..).symm.trans hm
      exact (List.getElem?_eq_some_iff.mp hp).1
    · exact hs.handles sid' m ((Function.update_of_ne hne ..).symm.trans hm)

/-! ### Turns -/

/-- What a thread has to know when it performs an operation. -/
def Fit (i : ℕ) : {β : Type} → Op β → State → Prop
  | _, .popen sid _ requested, s =>
    Checked i (fun x ms => x ≠ sid ∧ common requested ms = false) s
  | _, .record sid n _, s => Launched sid n s
  | _, _, _ => True

/-- A thread looks for the service that it is about to start. -/
def starts : {β : Type} → Op β → Bool
  | _, .trackedProcess _ starts => starts
  | _, _ => false

variable (setup) in
abbrev limitedRun (i : ℕ) (o : Op β) (w : World) (s : State) : Option (β × State) :=
  ((system setup).limited (findsRunning setup)).run i o w s

/-- An operation that is executed raises and changes nothing, or meets the condition. -/
lemma limitedRun_cases {o : Op β} {b : β} (h : limitedRun setup i o w s = some (b, u)) :
    (∃ e, b = refusal o e ∧ u = s) ∨
      finds setup i o w s = true ∧ answer setup i o w s = (b, u) := by
  obtain ⟨hfinds, hrun⟩ := Option.ite_none_right_eq_some.mp h
  obtain ⟨-, heq⟩ := Option.ite_none_right_eq_some.mp hrun
  cases hraises : w.raises with
  | none =>
    rw [hraises] at heq
    have hfinds : (w.raises.isSome || finds setup i o w s) = true := hfinds
    rw [hraises, Option.isSome_none, Bool.false_or] at hfinds
    exact .inr ⟨hfinds, Option.some.inj heq⟩
  | some e =>
    rw [hraises] at heq
    cases heq
    exact .inl ⟨e, rfl, rfl⟩

lemma later_looks {start : Bool} (h : i ≠ j ∨ start = false) : Later i s (s.looks j start) := by
  unfold State.looks
  split
  case isTrue hstart =>
    have hne : i ≠ j := h.resolve_right (by simp [hstart])
    exact later_of_processes (Function.update_of_ne hne ..) rfl rfl
  case isFalse => exact .refl i s

/-- **An operation leaves the others what they know.** -/
theorem later_of_run {o : Op β} {b : β} (hne : i ≠ j ∨ starts o = false)
    (h : limitedRun setup j o w s = some (b, u)) : Later i s u := by
  obtain ⟨e, -, rfl⟩ | ⟨-, heq⟩ := limitedRun_cases h
  · exact .refl i u
  obtain rfl : (answer setup j o w s).2 = u := congrArg Prod.snd heq
  cases o with
  | ask | poll | processDetails | serviceMounts =>
    exact .refl i s
  | trackedProcess sid start =>
    exact (later_looks hne).trans later_tracked
  | popen sid config requested =>
    exact later_spawn
  | terminate n =>
    change Later i s (if w.yes then s.exits n else s)
    split_ifs
    · exact later_exits
    · exact .refl i s
  | record sid n details =>
    exact later_record
  | stop sid =>
    exact later_stop

lemma inv_looks {start : Bool} (hs : Inv s) : Inv (s.looks i start) := by
  unfold State.looks
  split
  · exact inv_of_found hs rfl rfl (fun _ _ h => h) fun _ _ _ _ h => .inr h
  · exact hs

lemma recognizes_looks {start : Bool} :
    recognizes setup w sid (s.looks i start) = recognizes setup w sid s := by
  unfold State.looks
  split <;> rfl

/-- **An operation keeps the invariant**, if its thread knows what it has to. -/
theorem inv_of_run {o : Op β} {b : β} (ho : Fit i o s) (hs : Inv s)
    (h : limitedRun setup i o w s = some (b, u)) : Inv u := by
  obtain ⟨e, -, rfl⟩ | ⟨hfinds, heq⟩ := limitedRun_cases h
  · exact hs
  obtain rfl : (answer setup i o w s).2 = u := congrArg Prod.snd heq
  cases o with
  | ask | poll | processDetails | serviceMounts =>
    exact hs
  | trackedProcess sid start =>
    exact inv_tracked (inv_looks hs) (recognizes_looks.trans hfinds)
  | popen sid config requested =>
    obtain ⟨hrequested, hrunning⟩ := Bool.and_eq_true_iff.mp hfinds
    refine inv_spawn hs fun n p hp halive => ?_
    refine (Bool.or_eq_true_iff.mp (allRunning_iff.mp hrunning n p hp halive)).elim
      (fun hseen => ?_) id
    obtain ⟨hservice, hmounts⟩ := ho.running n (of_decide_eq_true hseen) p hp halive
    unfold compatible
    rw [Bool.and_eq_true, Bool.not_eq_true']
    exact ⟨decide_eq_true hservice, common_of_subset hrequested hmounts⟩
  | terminate n =>
    change Inv (if w.yes then s.exits n else s)
    split_ifs
    · exact inv_exits hs
    · exact hs
  | record sid n details =>
    refine inv_record hs ho fun m p hp halive hservice => ?_
    simpa [hservice] using allRunning_iff.mp hfinds m p hp halive
  | stop sid =>
    obtain ⟨hrecognizes, hyes⟩ := Bool.and_eq_true_iff.mp hfinds
    exact inv_stop hs hrecognizes hyes

/-! ### The requests -/

variable (setup) in
/-- What a call does from `P` on; nothing is promised of what it raises. -/
abbrev Does (i : ℕ) (P : State → Prop) (p : Program α) (Q : α → State → Prop) : Prop :=
  Triple (fun o => limitedRun setup i o) Inv (Later i) P p Q fun _ _ => True

variable {P : State → Prop} {Q : α → State → Prop} {R : β → State → Prop}

lemma then_does {p : Program α} {f : α → Program β} (h : Does setup i P p Q)
    (hf : ∀ a, Does setup i (Q a) (f a) R) : Does setup i P (p >>= f) R :=
  h.bind (Later.refl i) hf

lemma return_does {a : α} (hP : Stable (Later i) P) :
    Does setup i P (pure a : Program α) fun _ => P := Triple.pure hP fun _ h => h

lemma raise_does {e : Raised} : Does setup i P (.raise e : Program α) Q := fun _ _ _ _ => trivial

/-- One operation, with what its answer tells. -/
lemma execute_does {o : Op (Answer α)} (hP : Stable (Later i) P)
    (hQ : ∀ a, Stable (Later i) (Q a)) (ho : ∀ s, P s → Fit i o s)
    (h : ∀ s w a u, Inv s → P s → limitedRun setup i o w s = some (.ok a, u) → Q a u) :
    Does setup i P (execute o) Q := by
  intro s hs t ht hinv w a u hrun
  have hPt := hP s t ht hs
  refine ⟨inv_of_run (ho t hPt) hinv hrun, ?_⟩
  cases a with
  | ok a => exact fun v hv => hQ a u v hv (h t w a u hinv hPt hrun)
  | error e => exact fun _ _ => trivial

/-- An operation by which a thread does not look for the service that it starts. -/
lemma statement_does {o : Op (Answer α)} (hP : Stable (Later i) P) (ho : ∀ s, P s → Fit i o s)
    (hstarts : starts o = false) : Does setup i P (execute o) fun _ => P :=
  execute_does hP (fun _ => hP) ho fun s _ _ u _ hs hrun =>
    hP s u (later_of_run (.inr hstarts) hrun) hs

/-- A request goes on only if the condition holds. -/
lemma demand_does {b : Bool} {detail : String} (hP : Stable (Later i) P) :
    Does setup i (fun s => b = true → P s) (demand b detail) fun _ => P := by
  unfold demand
  split
  case isTrue h => exact fun s hs t ht => hP s t ht (hs h)
  case isFalse => exact raise_does

lemma demand_keeps {b : Bool} {detail : String} (hP : Stable (Later i) P) :
    Does setup i P (demand b detail) fun _ => P :=
  (demand_does hP).conseq (fun _ hs _ => hs) (fun _ _ h => h) fun _ _ h => h

lemma demand_ask_does {detail : String} (hP : Stable (Later i) P) :
    Does setup i P (do demand (← execute .ask) detail) fun _ => P :=
  then_does (statement_does hP (fun _ _ => trivial) rfl) fun _ => demand_keeps hP


lemma demandOwnOllama_does :
    Does setup i (fun _ => True) (demandOwnOllama sid) fun _ _ => True := by
  unfold demandOwnOllama
  split
  · refine then_does (statement_does stable_true (fun _ _ => trivial) rfl) fun runs => ?_
    split
    · exact return_does stable_true
    · exact demand_ask_does stable_true
  · exact return_does stable_true

lemma configReady_does : Does setup i (fun _ => True) (configReady sid) fun _ _ => True := by
  unfold configReady
  split
  · exact return_does stable_true
  · exact statement_does stable_true (fun _ _ => trivial) rfl

lemma demandSharedAi_does : Does setup i (Checked i f) (demandSharedAi sid) fun _ =>
    Checked i f := by
  unfold demandSharedAi
  split
  · exact then_does (statement_does stable_checked (fun _ _ => trivial) rfl) fun _ =>
      demand_ask_does stable_checked
  · exact return_does stable_checked

/-- What a start has seen does not run if the service is not found. -/
lemma tracked_eq {start : Bool} {a : Option ℕ}
    (h : limitedRun setup i (.trackedProcess sid start) w s = some (.ok a, u)) :
    recognizes setup w sid s = true ∧ (s.looks i start).tracked setup w sid = (.ok a, u) := by
  obtain ⟨e, h, -⟩ | ⟨hfinds, heq⟩ := limitedRun_cases h
  · cases h
  · exact ⟨hfinds, heq⟩

/-- A recorded process that runs is not one of a service that has not been found. -/
lemma service_ne_of_tracked {p : Process} (hs : Inv s) (h : recognizes setup w sid s = true)
    (hnone : s.tracked setup w sid = (.ok none, u)) (hp : s.processes[n]? = some p)
    (halive : p.alive = true) (hn : n ∉ s.unrecorded) : p.service ≠ sid := by
  rintro rfl
  have hfound := (hs.known n p hp halive).resolve_left hn
  exact not_found_of_tracked h (congrArg Prod.fst hnone) (alive_iff.mpr ⟨p, hp, halive⟩) hfound

lemma mem_seen_looks : n ∈ (s.looks i true).seen i ↔
    n < (s.looks i true).processes.length ∧ n ∉ (s.looks i true).unrecorded := by
  change n ∈ Function.update s.seen i s.recorded i ↔ n < s.processes.length ∧ n ∉ s.unrecorded
  simp [State.recorded]

/-- The own service is looked for. -/
lemma look_does : Does setup i (fun _ => True) (execute (.trackedProcess sid true)) fun a s =>
    a = none → Checked i (fun x _ => x ≠ sid) s := by
  refine execute_does stable_true (fun a s t ht hs ha => stable_checked s t ht (hs ha))
    (fun _ _ => trivial) ?_
  rintro s w a u hinv - hrun rfl
  obtain ⟨hrecognizes, heq⟩ := tracked_eq hrun
  refine stable_checked (s.looks i true) u ?_ ⟨fun n hn => ?_, fun n hn p hp halive => ?_⟩
  · have hlater : Later i (s.looks i true) ((s.looks i true).tracked setup w sid).2 :=
      later_tracked
    rwa [heq] at hlater
  · exact mem_seen_looks.mp hn
  · exact service_ne_of_tracked (inv_looks hinv) (recognizes_looks.trans hrecognizes) heq hp
      halive (mem_seen_looks.mp hn).2

/-- Another service is looked for. -/
lemma lookFor_does {other : ServiceId} : Does setup i (Checked i f)
    (execute (.trackedProcess other false)) fun a s =>
      a = none → Checked i (fun x ms => f x ms ∧ x ≠ other) s := by
  refine execute_does stable_checked (fun a s t ht hs ha => stable_checked s t ht (hs ha))
    (fun _ _ => trivial) ?_
  rintro s w a u hinv hs hrun rfl
  obtain ⟨hrecognizes, heq⟩ := tracked_eq hrun
  refine stable_checked s u (later_of_run (.inr rfl) hrun) ⟨hs.recorded, fun n hn p hp halive => ?_⟩
  exact ⟨hs.running n hn p hp halive, service_ne_of_tracked hinv hrecognizes heq hp halive
    (hs.recorded n hn).2⟩

/-- The mounts of a service that runs are among those that are read. -/
lemma readMounts_does {other : ServiceId} {config : Config} : Does setup i (Checked i f)
    (execute (.serviceMounts other config)) fun mounts s =>
      Checked i (fun x ms => f x ms ∧ (x = other → ms.all (· ∈ mounts))) s := by
  refine execute_does stable_checked (fun _ => stable_checked) (fun _ _ => trivial) ?_
  intro s w mounts u hinv hs hrun
  obtain ⟨e, h, -⟩ | ⟨hfinds, heq⟩ := limitedRun_cases hrun
  · cases h
  refine stable_checked s u (later_of_run (.inr rfl) hrun) ⟨hs.recorded, fun n hn p hp halive => ?_⟩
  refine ⟨hs.running n hn p hp halive, fun hother => ?_⟩
  have hmounts : configuredMounts s.files other config = mounts := by
    have hread : serviceMounts s.files other config = .ok mounts := congrArg Prod.fst heq
    rw [configuredMounts, hread]
  have hp' := allRunning_iff.mp hfinds n p hp halive
  simpa [hmounts, hother] using hp'

/-- **No mount is owned by another service**, if no conflict is found. -/
theorem mountConflictAmong_does {settings : Settings} {requested : List Mount} :
    ∀ {others : List ServiceId}, Does setup i
      (Checked i fun x ms => x ≠ sid ∧ (x ∉ others → common requested ms = false))
      (mountConflictAmong settings sid requested others) fun conflict s => conflict = none →
        Checked i (fun x ms => x ≠ sid ∧ common requested ms = false) s
  | [] => by
    refine (return_does stable_checked).conseq (fun _ hs => hs) (fun _ s hs _ => ?_)
      fun _ _ h => h
    exact hs.mono fun x ms h => ⟨h.1, h.2 (by simp)⟩
  | other :: others => by
    unfold mountConflictAmong
    split
    case isTrue heq =>
      refine mountConflictAmong_does.conseq
        (fun s hs => hs.mono fun x ms h => ⟨h.1, fun hx => ?_⟩)
        (fun _ _ h => h) fun _ _ h => h
      exact h.2 (List.not_mem_cons_of_ne_of_not_mem (fun hx => h.1 (hx.trans heq)) hx)
    case isFalse =>
      refine then_does readMounts_does fun mounts => ?_
      split
      case isTrue =>
        refine then_does lookFor_does fun found => ?_
        split
        · exact fun _ _ _ _ h => by cases h
        · refine mountConflictAmong_does.conseq (fun s hs => (hs rfl).mono fun x ms h => ?_)
            (fun _ _ h => h) fun _ _ h => h
          obtain ⟨⟨⟨hservice, hmounts⟩, -⟩, hother⟩ := h
          exact ⟨hservice, fun hx => hmounts (List.not_mem_cons_of_ne_of_not_mem hother hx)⟩
      case isFalse hcommon =>
        refine mountConflictAmong_does.conseq (fun s hs => hs.mono fun x ms h => ?_)
          (fun _ _ h => h) fun _ _ h => h
        obtain ⟨⟨hservice, hmounts⟩, hsubset⟩ := h
        refine ⟨hservice, fun hx => ?_⟩
        obtain rfl | hother := eq_or_ne x other
        · rw [common_comm]
          refine common_of_subset (hsubset rfl) ?_
          rw [common_comm]
          exact Bool.eq_false_iff.mpr hcommon
        · exact hmounts (List.not_mem_cons_of_ne_of_not_mem hother hx)

lemma mountConflict_does {settings : Settings} {requested : List Mount} :
    Does setup i (Checked i fun x _ => x ≠ sid) (mountConflict settings sid requested)
      fun conflict s => conflict = none →
        Checked i (fun x ms => x ≠ sid ∧ common requested ms = false) s := by
  unfold mountConflict
  split
  case isTrue hempty =>
    refine (return_does stable_checked).conseq (fun _ hs => hs) (fun _ s hs _ => ?_) fun _ _ h => h
    rw [List.isEmpty_iff.mp hempty]
    exact hs.mono fun x ms h => ⟨h, rfl⟩
  case isFalse =>
    refine mountConflictAmong_does.conseq (fun s hs => hs.mono fun x ms h => ⟨h, fun hx => ?_⟩)
      (fun _ _ h => h) fun _ _ h => h
    exact absurd (by cases x <;> decide) hx

lemma popen_does {config : Config} {requested : List Mount} : Does setup i
    (Checked i fun x ms => x ≠ sid ∧ common requested ms = false)
    (execute (.popen sid config requested)) fun n => Launched sid n := by
  refine execute_does stable_checked (fun _ => stable_launched) (fun _ hs => hs) ?_
  intro s w n u hinv hs hrun
  obtain ⟨e, h, -⟩ | ⟨-, heq⟩ := limitedRun_cases hrun
  · cases h
  obtain rfl : s.spawn w sid config = u := congrArg Prod.snd heq
  obtain rfl : s.processes.length = n := Except.ok.inj (congrArg Prod.fst heq)
  exact ⟨_, List.getElem?_concat_length, rfl⟩

lemma launch_does {config : Config} {requested : List Mount} : Does setup i
    (Checked i fun x ms => x ≠ sid ∧ common requested ms = false)
    (launch sid config requested) fun _ _ => True := by
  refine then_does (Q := fun n => Launched sid n) ?_ fun n => ?_
  · refine Triple.tryCatch (Later.refl i) popen_does fun e => ?_
    cases e <;> exact raise_does
  refine then_does (statement_does stable_launched (fun _ _ => trivial) rfl) fun runs => ?_
  refine then_does (demand_keeps stable_launched) fun _ => ?_
  refine then_does (statement_does stable_launched (fun _ _ => trivial) rfl) fun details => ?_
  split
  · exact then_does (statement_does stable_launched (fun _ _ => trivial) rfl) fun _ => raise_does
  · refine then_does (statement_does stable_launched (fun _ hs => hs) rfl) fun _ => ?_
    exact fun _ _ _ _ => trivial

/-- **A start** spawns a process only where it has found that nothing stands against it. -/
theorem start_does {settings : Settings} :
    Does setup i (fun _ => True) (start settings sid) fun _ _ => True := by
  refine then_does (demand_keeps stable_true) fun _ => ?_
  refine then_does (statement_does stable_true (fun _ _ => trivial) rfl) fun ready => ?_
  refine then_does (demand_keeps stable_true) fun _ => ?_
  refine then_does demandOwnOllama_does fun _ => ?_
  refine then_does configReady_does fun configured => ?_
  refine then_does (demand_keeps stable_true) fun _ => ?_
  refine then_does look_does fun running => ?_
  refine then_does (Q := fun _ => Checked i fun x _ => x ≠ sid) ?_ fun _ => ?_
  · refine (demand_does stable_checked).conseq (fun s hs hnone => ?_) (fun _ _ h => h)
      fun _ _ h => h
    exact hs (Option.isNone_iff_eq_none.mp hnone)
  refine then_does (statement_does stable_checked (fun _ _ => trivial) rfl) fun requested => ?_
  refine then_does mountConflict_does fun conflict => ?_
  split
  · exact raise_does
  · refine Triple.conseq (P := Checked i fun x ms => x ≠ sid ∧ common requested ms = false) ?_
      (fun _ hs => hs rfl) (fun _ _ h => h) fun _ _ h => h
    refine then_does demandSharedAi_does fun _ => ?_
    refine then_does (statement_does stable_checked (fun _ _ => trivial) rfl) fun tools => ?_
    exact then_does (demand_keeps stable_checked) fun _ => launch_does

lemma stop_does : Does setup i (fun _ => True) (execute (.stop sid)) fun _ _ => True :=
  statement_does stable_true (fun _ _ => trivial) rfl

lemma act_does {settings : Settings} {action : Action} :
    Does setup i (fun _ => True) (act settings sid action) fun _ _ => True := by
  cases action with
  | check =>
    exact then_does (statement_does stable_true (fun _ _ => trivial) rfl) fun _ =>
      return_does stable_true
  | start => exact then_does start_does fun _ => return_does stable_true
  | stop => exact then_does stop_does fun _ => return_does stable_true
  | restart =>
    exact then_does stop_does fun _ => then_does start_does fun _ => return_does stable_true

lemma autoStartAmong_does {settings : Settings} : ∀ {services : List ServiceId},
    Does setup i (fun _ => True) (autoStartAmong settings services) fun _ _ => True
  | [] => return_does stable_true
  | sid :: services => by
    unfold autoStartAmong
    split
    · refine then_does (Q := fun _ _ => True) ?_ fun _ =>
        then_does autoStartAmong_does fun _ => return_does stable_true
      refine Triple.tryCatch (Later.refl i)
        (then_does start_does fun _ => return_does stable_true) fun e => ?_
      cases e with
      | http => exact return_does stable_true
      | os | value => exact raise_does
    · exact autoStartAmong_does

lemma program_does (c : Call) :
    Does setup i (fun _ => True) c.program fun _ _ => True := by
  cases c with
  | performAction settings sid action confirmation =>
    unfold Call.program performAction
    dsimp only
    split
    · exact act_does
    · exact raise_does
  | autoStartEnabled settings =>
    exact then_does autoStartAmong_does fun _ => return_does stable_true

/-! ### Runs -/

lemma inv_restart (hs : Inv s) (h : inLedger .restart s = true) :
    Inv { s with registry := fun _ => none, epoch := s.epoch + 1 } := by
  refine ⟨hs.exclusive, fun n p hp halive => ?_, fun _ _ h => by cases h⟩
  obtain hu | hledger := Bool.or_eq_true_iff.mp (allRunning_iff.mp h n p hp halive)
  · exact .inl (of_decide_eq_true hu)
  · obtain ⟨r, hr, hn⟩ := (Option.any_eq_true ..).mp hledger
    obtain rfl := of_decide_eq_true hn
    right
    change Option.or none ((s.ledger p.service).map (·.process)) = some r.process
    rw [hr]
    rfl

variable (setup) in
lemma kept : Kept (((system setup).limited (findsRunning setup)).confined inLedger) Inv
    (fun _ _ => True) Later (fun _ _ _ _ => True) fun _ _ _ _ => True where
  refl := Later.refl
  trans _ := Later.trans
  unused _ _ _ _ _ := trivial
  operation hne _ _ hrun := later_of_run (.inl hne) hrun
  surroundings {e s u} hs he := by
    obtain ⟨hledger, he⟩ := Option.ite_none_right_eq_some.mp he
    cases e with
    | edit path file =>
      cases he
      exact ⟨⟨hs.exclusive, hs.known, hs.handles⟩, fun _ => later_of_processes rfl rfl rfl⟩
    | exits n =>
      cases he
      exact ⟨inv_exits hs, fun _ => later_exits⟩
    | restart =>
      cases he
      exact ⟨inv_restart hs hledger, fun _ => later_of_processes rfl rfl rfl⟩
  begins {i c s u} hs _ hbegins := by
    cases hbegins
    refine ⟨⟨hs.exclusive, hs.known, hs.handles⟩, fun _ _ => later_of_processes rfl rfl rfl, ?_⟩
    have h : Does setup i (fun _ => True) c.program fun _ _ => True := program_does c
    exact h _ trivial

/-- **Services that run together share no mount**, and none has two processes, in every run in
which starts find what runs. -/
theorem running_exclusive (setup : Setup) (files : String → EnvFile)
    {es : List (Event Call World Around)} {q : Pool Op Raised Outcome Call State}
    (hm : Meets (step setup) (fun p e => (permits (findsRunning setup) p e &&
      tolerates inLedger p e) = true) (initial files) es)
    (he : exec (step setup) (initial files) es = some q) : Exclusive q.shared := by
  have hinv : Inv (.start files) :=
    ⟨fun m n p q hp => by simp [State.start] at hp, fun n p hp => by simp [State.start] at hp,
      fun _ _ h => by cases h⟩
  exact (holds_of_exec (kept setup) hinv (fun _ => trivial) (exec_confined hm he)).shared.exclusive

/-! ### Two starts -/

def plainSetup : Setup := ⟨PythonText.lower, id⟩

/-- Every service is enabled. -/
def enabledSettings : Settings := fun _ => ⟨true, false, "/etc/radiotedu.env"⟩

def agentDetails : Details := ⟨"2026-01-01T00:00:00Z", "C:\\node.exe", "voting-supervisor.mjs"⟩

/-- What is asked for is as it has to be. -/
def fine (pid : ℕ) : World := ⟨none, true, true, some agentDetails, some agentDetails, pid⟩

/-- So many turns of a thread. -/
def turns (i n : ℕ) : List (Event Call World Around) := List.replicate n (.turn i (fine (41 + i)))

def request (sid : ServiceId) (action : Action) : Event Call World Around :=
  .start (.performAction enabledSettings sid action (action.confirmation.getD ""))

/-- The agent is started, found again by a new application, restarted and stopped. The supervisor
is started in its place. -/
def oneAfterAnother : List (Event Call World Around) :=
  [request .votingAgent .start] ++ turns 0 16 ++ [.change .restart] ++
    [request .votingAgent .restart] ++ turns 1 17 ++ [request .votingAgent .stop] ++ turns 2 1 ++
    [request .rtaiSupervisor .start] ++ turns 3 18

theorem running_exclusive_supervisor :
    Meets (step plainSetup) (fun p e => (permits (findsRunning plainSetup) p e &&
        tolerates inLedger p e) = true) (initial fun _ => .missing) oneAfterAnother ∧
      ∃ q, exec (step plainSetup) (initial fun _ => .missing) oneAfterAnother = some q ∧
        q.shared.alive 2 = true ∧ Exclusive q.shared := by
  have hm : Meets (step plainSetup) (fun p e => (permits (findsRunning plainSetup) p e &&
      tolerates inLedger p e) = true) (initial fun _ => .missing) oneAfterAnother := by
    decide +kernel
  have hrun : ((exec (step plainSetup) (initial fun _ => .missing) oneAfterAnother).any fun q =>
      q.shared.alive 2) = true := by decide +kernel
  obtain ⟨q, hq, halive⟩ := (Option.any_eq_true ..).mp hrun
  exact ⟨hm, q, hq, halive, running_exclusive plainSetup _ hm hq⟩

/-- Both find that nothing runs before one of them spawns its process. -/
def atOnce : List (Event Call World Around) :=
  [request .votingAgent .start, request .rtaiSupervisor .start] ++ turns 0 10 ++ turns 1 10 ++
    turns 0 6 ++ turns 1 8

theorem mount_shared : ¬ ∀ (setup : Setup) (files : String → EnvFile)
    (es : List (Event Call World Around)) (q : Pool Op Raised Outcome Call State),
    exec (step setup) (initial files) es = some q → Exclusive q.shared := by
  intro h
  have hrun : ((exec (step plainSetup) (initial fun _ => .missing) atOnce).any fun q => decide
      (q.shared.processes = [⟨.votingAgent, [.ai], 41, true⟩,
        ⟨.rtaiSupervisor, [.ai, .event], 42, true⟩])) = true := by decide +kernel
  obtain ⟨q, hq, hprocesses⟩ := (Option.any_eq_true ..).mp hrun
  have hprocesses := of_decide_eq_true hprocesses
  have hexclusive := h plainSetup _ atOnce q hq 0 1 _ _ (by rw [hprocesses]; rfl)
    (by rw [hprocesses]; rfl) rfl rfl (by decide)
  exact absurd hexclusive.2 (by decide)

end OnAir.MountOwnership
