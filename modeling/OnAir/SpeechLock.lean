import Mathlib.Data.Rat.Defs
import Mathlib.Algebra.Order.Ring.Rat
import OnAir.Runs

/-!
The lock directory of the OmniVoice generations.

A caller makes the directory, or finds it there. One that is older than half an hour is taken over:
it is removed as a tree, which is a listing, the removal of the file in it and that of the directory
itself, and made again. Whoever has made the directory removes it in the end, whatever directory
is there then.

Any operation may fail, and a caller may die between two of them.
-/

namespace OnAir.SpeechLock

open Runs

/-! ### The callers -/

/-- The lock directory: who has made it, and whether `owner.json` is in it. -/
structure Dir where
  creator : ℕ
  mtime : ℚ
  owner : Bool
  deriving DecidableEq, Repr

/-- The steps of `shutil.rmtree`. -/
inductive Stage
  | list
  | unlink
  | rmdir
  deriving DecidableEq, Repr

/-- What a call of `_synthesize_with_omnivoice` does next. -/
inductive Phase
  | mkdir
  /-- it has made the directory and writes `owner.json` -/
  | owner
  /-- the directory was there; its age is asked -/
  | stat
  /-- the directory is too old and is removed -/
  | takeover (stage : Stage)
  /-- the directory is made again -/
  | again
  | launch
  /-- the subprocess runs -/
  | running (since : ℚ)
  | release (stage : Stage)
  | done
  | dead
  deriving DecidableEq, Repr

/-- Nothing comes after it. -/
def Phase.over : Phase → Bool
  | .done | .dead => true
  | _ => false

def staleSeconds : ℚ := 1800

def timeoutSeconds : ℚ := 900

/-- A step of `rmtree` with ignored errors: the directory after it, and the next step. -/
def rmtree (now : ℚ) (ok : Bool) (dir : Option Dir) : Stage → Option Dir × Option Stage
  | .list => (dir, some (if ok && dir.any (·.owner) then .unlink else .rmdir))
  | .unlink => (if ok then
      dir.map fun d => if d.owner then ⟨d.creator, now, false⟩ else d else dir, some .rmdir)
  | .rmdir => (if ok && dir.all (!·.owner) then none else dir, none)

/-- One operation of a caller, which succeeds or fails. -/
def act (now : ℚ) (dir : Option Dir) (i : ℕ) (ok : Bool) : Phase → Option Dir × Phase
  | .mkdir =>
    match ok, dir with
    | true, none => (some ⟨i, now, false⟩, .owner)
    | true, some _ => (dir, .stat)
    | false, _ => (dir, .done)
  | .owner =>
    match ok, dir with
    | true, some d => (some { d with mtime := now, owner := true }, .launch)
    | _, _ => (dir, .release .list)
  | .stat =>
    match ok, dir with
    | true, some d =>
      (dir, if now - d.mtime < staleSeconds then .done else .takeover .list)
    | _, _ => (dir, .done)
  | .takeover stage =>
    let (dir, next) := rmtree now ok dir stage
    (dir, next.elim .again .takeover)
  | .again =>
    match ok, dir with
    | true, none => (some ⟨i, now, false⟩, .launch)
    | _, _ => (dir, .done)
  | .launch => (dir, if ok then .running now else .release .list)
  | .running _ => (dir, .release .list)
  | .release stage =>
    let (dir, next) := rmtree now ok dir stage
    (dir, next.elim .done .release)
  | .done | .dead => (dir, .done)

/-- The state remembers whether a caller has removed the directory of another one that was alive. -/
structure State where
  calls : List Phase
  dir : Option Dir
  clock : ℚ
  foreign : Bool
  deriving DecidableEq, Repr

def initial (clock : ℚ) : State := ⟨[], none, clock, false⟩

/-- The caller is under way. -/
def State.live (s : State) (i : ℕ) : Bool := (s.calls[i]?).any (!·.over)

inductive Event
  | start
  | act (i : ℕ) (ok : Bool)
  | die (i : ℕ)
  | tick (seconds : ℚ)
  deriving DecidableEq, Repr

def step (s : State) : Event → Option State
  | .start => some { s with calls := s.calls ++ [.mkdir] }
  | .act i ok =>
    ((s.calls[i]?).filter (!·.over)).map fun p =>
      let (dir, next) := SpeechLock.act s.clock s.dir i ok p
      { s with
        calls := s.calls.set i next
        dir := dir
        foreign := s.foreign ||
          dir.isNone && s.dir.any fun d => d.creator ≠ i && s.live d.creator }
  | .die i => if s.live i then some { s with calls := s.calls.set i .dead } else none
  | .tick seconds => if 0 ≤ seconds then some { s with clock := s.clock + seconds } else none

/-! ### One generation at a time -/

/-- The subprocess of the caller is running. -/
def Running (s : State) (i : ℕ) : Prop :=
  ∃ since, s.calls[i]? = some (.running since) ∧ s.clock ≤ since + timeoutSeconds

/-- At most one caller is running its subprocess, and none has removed another one's directory. -/
def Exclusive (s : State) : Prop :=
  (∀ i j, Running s i → Running s j → i = j) ∧ s.foreign = false

/-- The directory is the caller's. -/
def Phase.Holds : Phase → Prop
  | .owner | .launch | .running _ | .release _ => True
  | _ => False

/-- The caller is removing a directory that was too old. -/
def Phase.Clears : Phase → Prop
  | .takeover _ => True
  | _ => False

/-- A caller finds a directory too old only when the one that has made it is not under way any more,
and no other caller is removing it. -/
def Sound (s : State) : Event → Prop
  | .act i true => s.calls[i]? = some .stat → ∀ d ∈ s.dir, staleSeconds ≤ s.clock - d.mtime →
      s.live d.creator = false ∧ ∀ p ∈ s.calls, ¬Phase.Clears p
  | _ => True

structure Invariant (s : State) : Prop where
  holder : ∀ (i : ℕ) (p : Phase), s.calls[i]? = some p → p.Holds → ∃ d ∈ s.dir, d.creator = i
  stale : ∀ (i : ℕ) (p : Phase), s.calls[i]? = some p → p.Clears → ∃ d ∈ s.dir, s.live d.creator = false
  one : ∀ (i j : ℕ) (p q : Phase), s.calls[i]? = some p → s.calls[j]? = some q → p.Clears →
    q.Clears → i = j
  made : ∀ d ∈ s.dir, d.creator < s.calls.length
  kept : s.foreign = false

namespace Invariant

variable {s t : State} {i : ℕ} {p q : Phase} {dir : Option Dir}

lemma initial (clock : ℚ) : Invariant (initial clock) :=
  ⟨nofun, nofun, nofun, nofun, rfl⟩

/-- Two callers do not hold the directory. -/
lemma exclusive (h : Invariant s) : Exclusive s := by
  refine ⟨fun i j ⟨_, hi, _⟩ ⟨_, hj, _⟩ => ?_, h.kept⟩
  obtain ⟨d, hd, rfl⟩ := h.holder i _ hi trivial
  obtain ⟨e, he, rfl⟩ := h.holder j _ hj trivial
  exact congrArg _ (Option.some.inj (hd.symm.trans he))

lemma live_set {j : ℕ} (hj : j ≠ i) :
    State.live { s with calls := s.calls.set i q, dir } j = s.live j := by
  simp only [State.live, List.getElem?_set_ne hj.symm]

/-- A caller goes on, and the directory stays whose it was. -/
lemma put (h : Invariant s) (hi : s.calls[i]? = some p) (hp : p.over = false)
    (hdir : ∀ d ∈ s.dir, ∃ d' ∈ dir, d'.creator = d.creator)
    (hnew : ∀ d' ∈ dir, d'.creator = i ∨ ∃ d ∈ s.dir, d'.creator = d.creator)
    (hhold : q.Holds → ∃ d ∈ dir, d.creator = i)
    (hclear : q.Clears → p.Clears ∨
      (∃ d ∈ s.dir, s.live d.creator = false) ∧ ∀ r ∈ s.calls, ¬Phase.Clears r) :
    Invariant { s with calls := s.calls.set i q, dir } := by
  have hlen : i < s.calls.length := (List.getElem?_eq_some_iff.mp hi).1
  have hlive : s.live i = true := by simp [State.live, hi, hp]
  -- a directory that is nobody's any more stays so
  have hstale : (∃ d ∈ s.dir, s.live d.creator = false) → ∃ d ∈ dir,
      State.live { s with calls := s.calls.set i q, dir } d.creator = false := by
    rintro ⟨d, hd, hdead⟩
    obtain ⟨d', hd', hsame⟩ := hdir d hd
    refine ⟨d', hd', ?_⟩
    rw [hsame, live_set fun he => ?_, hdead]
    rw [he, hlive] at hdead
    cases hdead
  have hcases : ∀ j r, (s.calls.set i q)[j]? = some r → (j = i ∧ r = q) ∨ s.calls[j]? = some r := by
    intro j r hr
    rw [List.getElem?_set] at hr
    split_ifs at hr with hij
    · exact .inl ⟨hij.symm, (Option.some.inj hr).symm⟩
    · exact .inr hr
  have hnone : ∀ j r, s.calls[j]? = some r → q.Clears → r.Clears → i = j := by
    intro j r hr hq hrc
    rcases hclear hq with hpc | ⟨-, hnone⟩
    · exact h.one i j p r hi hr hpc hrc
    · exact absurd hrc (hnone r (List.mem_of_getElem? hr))
  constructor
  case holder =>
    intro j r hr hold
    rcases hcases j r hr with ⟨rfl, rfl⟩ | hr
    · exact hhold hold
    · obtain ⟨d, hd, rfl⟩ := h.holder j r hr hold
      exact hdir d hd
  case stale =>
    intro j r hr hrc
    rcases hcases j r hr with ⟨rfl, rfl⟩ | hr
    · exact hstale ((hclear hrc).elim (h.stale j p hi) And.left)
    · exact hstale (h.stale j r hr hrc)
  case one =>
    intro j k r r' hr hr' hrc hrc'
    rcases hcases j r hr with ⟨rfl, rfl⟩ | hj <;> rcases hcases k r' hr' with ⟨rfl, rfl⟩ | hk
    · rfl
    · exact hnone k r' hk hrc hrc'
    · exact (hnone j r hj hrc' hrc).symm
    · exact h.one j k r r' hj hk hrc hrc'
  case made =>
    intro d hd
    dsimp only
    rw [List.length_set]
    rcases hnew d hd with rfl | ⟨e, he, hsame⟩
    · exact hlen
    · exact hsame ▸ h.made e he
  case kept => exact h.kept

/-- A caller removes the directory, which is no other one's. -/
lemma removed (h : Invariant s) (hi : s.calls[i]? = some p) (hlive : p.over = false)
    (hp : p.Holds ∨ p.Clears) (hq : ¬q.Holds ∧ ¬q.Clears) :
    Invariant { s with calls := s.calls.set i q, dir := none } := by
  have hothers : ∀ (j : ℕ) (r : Phase), (s.calls.set i q)[j]? = some r → ¬r.Holds ∧ ¬r.Clears := by
    intro j r hr
    rw [List.getElem?_set] at hr
    split_ifs at hr with hij
    · exact Option.some.inj hr ▸ hq
    have hi' : s.live i = true := by simp [State.live, hi, hlive]
    constructor
    · intro hold
      obtain ⟨d, hd, rfl⟩ := h.holder j r hr hold
      rcases hp with hp | hp
      · obtain ⟨e, he, rfl⟩ := h.holder i p hi hp
        exact hij (congrArg _ (Option.some.inj (he.symm.trans hd)))
      · obtain ⟨e, he, hdead⟩ := h.stale i p hi hp
        obtain rfl : e = d := Option.some.inj (he.symm.trans hd)
        have hover : r.over = false := by cases r <;> first | rfl | exact False.elim hold
        simp [State.live, hr, hover] at hdead
    · intro hclears
      rcases hp with hp | hp
      · obtain ⟨e, he, rfl⟩ := h.holder i p hi hp
        obtain ⟨d, hd, hdead⟩ := h.stale j r hr hclears
        obtain rfl : e = d := Option.some.inj (he.symm.trans hd)
        rw [hi'] at hdead
        cases hdead
      · exact hij (h.one i j p r hi hr hp hclears)
  exact ⟨fun j r hr hold => absurd hold (hothers j r hr).1,
    fun j r hr hc => absurd hc (hothers j r hr).2,
    fun j k r r' hr hr' hc => absurd hc (hothers j r hr).2, nofun, h.kept⟩

/-- A step of a removal, of the own directory or of one that was too old. -/
lemma clears (h : Invariant s) {stage : Stage} {next : Phase} (turn : Stage → Phase) (ok : Bool)
    (hi : s.calls[i]? = some (turn stage)) (hlive : (turn stage).over = false)
    (hkind : (∀ stage, (turn stage).Holds ∧ ¬(turn stage).Clears) ∨
      ∀ stage, (turn stage).Clears ∧ ¬(turn stage).Holds)
    (hnext : ¬next.Holds ∧ ¬next.Clears) :
    Invariant { s with
      calls := s.calls.set i ((rmtree s.clock ok s.dir stage).2.elim next turn)
      dir := (rmtree s.clock ok s.dir stage).1 } := by
  -- a step that leaves a directory of the same creator, if any
  have hgo : ∀ (dir : Option Dir) (q : Phase), dir.map (·.creator) = s.dir.map (·.creator) →
      (q = next ∨ ∃ stage, q = turn stage) →
        Invariant { s with calls := s.calls.set i q, dir } := by
    intro dir q hdir hq
    have hown : (turn stage).Holds → ∃ d ∈ dir, d.creator = i := fun hp => by
      obtain ⟨d, hd, rfl⟩ := h.holder i _ hi hp
      rw [hd] at hdir
      exact Option.map_eq_some_iff.mp hdir
    refine h.put hi hlive (fun d hd => ?_) (fun d hd => .inr ?_) (fun hold => hown ?_)
      fun hc => .inl ?_
    · rw [hd] at hdir
      exact Option.map_eq_some_iff.mp hdir
    · rw [hd] at hdir
      obtain ⟨e, he, hsame⟩ := Option.map_eq_some_iff.mp hdir.symm
      exact ⟨e, he, hsame.symm⟩
    · rcases hq with rfl | ⟨stage', rfl⟩
      · exact absurd hold hnext.1
      · exact hkind.elim (fun hk => (hk stage).1) fun hk => absurd hold (hk stage').2
    · rcases hq with rfl | ⟨stage', rfl⟩
      · exact absurd hc hnext.2
      · exact hkind.elim (fun hk => absurd hc (hk stage').2) fun hk => (hk stage).1
  cases stage with
  | list => exact hgo _ _ rfl (.inr ⟨_, rfl⟩)
  | unlink =>
    refine hgo _ _ ?_ (.inr ⟨_, rfl⟩)
    cases s.dir with
    | none => cases ok <;> rfl
    | some d => cases ok <;> cases hd : d.owner <;> simp [rmtree, hd]
  | rmdir =>
    unfold rmtree
    dsimp only
    split_ifs
    · exact h.removed hi hlive (hkind.imp (fun hk => (hk _).1) fun hk => (hk _).1) hnext
    · exact hgo _ _ rfl (.inl rfl)

/-- Nobody else's directory is removed. -/
lemma not_foreign (h : Invariant s) (hi : s.calls[i]? = some p) (ok : Bool) :
    ((act s.clock s.dir i ok p).1.isNone &&
      s.dir.any fun d => d.creator ≠ i && s.live d.creator) = false := by
  cases hdir : s.dir with
  | none => simp
  | some d =>
    simp only [Option.any_some, Bool.and_eq_false_iff]
    cases p with
    | takeover stage =>
      obtain ⟨e, he, hdead⟩ := h.stale i _ hi trivial
      obtain rfl : e = d := Option.some.inj (he.symm.trans hdir)
      exact .inr (.inr hdead)
    | release stage =>
      obtain ⟨e, he, hown⟩ := h.holder i _ hi trivial
      obtain rfl : e = d := Option.some.inj (he.symm.trans hdir)
      exact .inr (.inl (by simp [hown]))
    | _ => exact .inl (by cases ok <;> simp [act])

/-- A caller that has no directory, and leaves the one that is there alone. -/
lemma leaves (h : Invariant s) (hi : s.calls[i]? = some p) (hp : p.over = false)
    (hq : ¬q.Holds ∧ ¬q.Clears) : Invariant { s with calls := s.calls.set i q } :=
  h.put hi hp (fun d hd => ⟨d, hd, rfl⟩) (fun d hd => .inr ⟨d, hd, rfl⟩) (fun hold => absurd hold hq.1)
    fun hc => absurd hc hq.2

/-- A caller makes the directory. -/
lemma makes (h : Invariant s) (hi : s.calls[i]? = some p) (hp : p.over = false)
    (hdir : s.dir = none) (mtime : ℚ) (hq : ¬q.Clears) :
    Invariant { s with calls := s.calls.set i q, dir := some ⟨i, mtime, false⟩ } := by
  refine h.put hi hp (fun d hd => ?_) (fun d hd => .inl ?_) (fun _ => ⟨_, rfl, rfl⟩)
    fun hc => absurd hc hq
  · rw [hdir] at hd
    cases hd
  · obtain rfl := Option.some.inj hd
    rfl

/-- A caller that holds the directory goes on. -/
lemma holds (h : Invariant s) (hi : s.calls[i]? = some p) (hp : p.over = false) (hhold : p.Holds)
    (hq : ¬q.Clears) : Invariant { s with calls := s.calls.set i q } :=
  h.put hi hp (fun d hd => ⟨d, hd, rfl⟩) (fun d hd => .inr ⟨d, hd, rfl⟩)
    (fun _ => h.holder i p hi hhold) fun hc => absurd hc hq

/-- One operation of a caller. -/
lemma acts (h : Invariant s) {ok : Bool} (hok : Sound s (.act i ok)) (hi : s.calls[i]? = some p)
    (hp : p.over = false) :
    Invariant { s with
      calls := s.calls.set i (act s.clock s.dir i ok p).2
      dir := (act s.clock s.dir i ok p).1 } := by
  have hidle : ∀ q : Phase, q = .done ∨ q = .stat → ¬q.Holds ∧ ¬q.Clears := by
    rintro _ (rfl | rfl) <;> exact ⟨id, id⟩
  cases p with
  | mkdir =>
    dsimp only [act]
    split
    case h_1 hdir => exact h.makes hi hp hdir _ id
    case h_2 hdir => exact h.leaves hi hp (hidle _ (.inr rfl))
    case h_3 => exact h.leaves hi hp (hidle _ (.inl rfl))
  | owner =>
    dsimp only [act]
    split
    case h_1 d hdir =>
      obtain ⟨e, he, hown⟩ := h.holder i _ hi trivial
      obtain rfl : e = d := Option.some.inj (he.symm.trans hdir)
      refine h.put hi hp (fun x hx => ?_) (fun x hx => .inl ?_) (fun _ => ⟨_, rfl, hown⟩)
        False.elim
      · exact ⟨_, rfl, (Option.some.inj (hdir.symm.trans hx)) ▸ rfl⟩
      · exact Option.some.inj hx ▸ hown
    case h_2 => exact h.holds hi hp trivial id
  | stat =>
    dsimp only [act]
    split
    case h_1 d hdir =>
      split_ifs with hage
      · exact h.leaves hi hp (hidle _ (.inl rfl))
      · obtain ⟨hdead, hnone⟩ := hok hi d hdir (not_lt.mp hage)
        exact h.put hi hp (fun d hd => ⟨d, hd, rfl⟩) (fun d hd => .inr ⟨d, hd, rfl⟩) False.elim
          fun _ => .inr ⟨⟨d, hdir, hdead⟩, hnone⟩
    case h_2 => exact h.leaves hi hp (hidle _ (.inl rfl))
  | takeover stage =>
    exact h.clears .takeover ok hi hp (.inr fun _ => ⟨trivial, id⟩) ⟨id, id⟩
  | again =>
    dsimp only [act]
    split
    case h_1 hdir => exact h.makes hi hp hdir _ id
    case h_2 => exact h.leaves hi hp (hidle _ (.inl rfl))
  | launch =>
    refine h.holds hi hp trivial ?_
    cases ok <;> exact id
  | running since => exact h.holds hi hp trivial id
  | release stage =>
    exact h.clears .release ok hi hp (.inl fun _ => ⟨trivial, id⟩) (hidle _ (.inl rfl))
  | done => cases hp
  | dead => cases hp

/-- **One step** that is sound. -/
theorem step {e : Event} (h : Invariant s) (hok : Sound s e) (hstep : step s e = some t) :
    Invariant t := by
  cases e with
  | start =>
    obtain rfl := Option.some.inj hstep
    have hcases : ∀ (i : ℕ) (p : Phase), (s.calls ++ [.mkdir])[i]? = some p →
        s.calls[i]? = some p ∨ p = .mkdir := fun i p hp => by
      rw [List.getElem?_append] at hp
      split_ifs at hp
      · exact .inl hp
      · exact .inr (List.mem_singleton.mp (List.mem_of_getElem? hp))
    refine ⟨fun i p hp hold => ?_, fun i p hp hc => ?_, fun i j p q hp hq hc hc' => ?_,
      fun d hd => ?_, h.kept⟩
    · rcases hcases i p hp with hp | rfl
      · exact h.holder i p hp hold
      · exact hold.elim
    · rcases hcases i p hp with hp | rfl
      · obtain ⟨d, hd, hdead⟩ := h.stale i p hp hc
        exact ⟨d, hd, by simpa [State.live, List.getElem?_append_left (h.made d hd)] using hdead⟩
      · exact hc.elim
    · rcases hcases i p hp with hp | rfl
      · rcases hcases j q hq with hq | rfl
        · exact h.one i j p q hp hq hc hc'
        · exact hc'.elim
      · exact hc.elim
    · exact (h.made d hd).trans_le (by simp)
  | act i ok =>
    obtain ⟨p, hp, rfl⟩ := Option.map_eq_some_iff.mp hstep
    obtain ⟨hi, hover⟩ := Option.filter_eq_some_iff.mp hp
    have hacts := h.acts hok hi (by simpa using hover)
    exact ⟨hacts.holder, hacts.stale, hacts.one, hacts.made, by
      simpa only [h.kept, Bool.false_or] using h.not_foreign hi ok⟩
  | die i =>
    simp only [SpeechLock.step] at hstep
    split_ifs at hstep with hlive
    obtain rfl := Option.some.inj hstep
    obtain ⟨p, hi, hp⟩ := (Option.any_eq_true ..).mp hlive
    exact h.leaves hi (by simpa using hp) ⟨id, id⟩
  | tick seconds =>
    simp only [SpeechLock.step] at hstep
    split_ifs at hstep
    obtain rfl := Option.some.inj hstep
    exact ⟨h.holder, h.stale, h.one, h.made, h.kept⟩

end Invariant

/-- **One generation at a time**, in every run whose takeovers are sound. -/
theorem generations_exclusive (clock : ℚ) {events : List Event} {s : State}
    (hok : Meets step Sound (initial clock) events)
    (he : exec step (initial clock) events = some s) : Exclusive s := by
  have h : Invariant s :=
    inv_of_exec (fun _ _ _ h hok ht => Invariant.step h hok ht) (.initial clock) hok he
  exact h.exclusive

instance decidableClears (p : Phase) : Decidable p.Clears :=
  match p with
  | .takeover _ => isTrue trivial
  | .mkdir | .owner | .stat | .again | .launch | .running _ | .release _ | .done | .dead => isFalse id

instance decidableSound : ∀ (s : State) (e : Event), Decidable (Sound s e)
  | s, .act _ true => inferInstanceAs (Decidable (_ → ∀ d ∈ s.dir, _ → _ ∧ ∀ p ∈ s.calls, ¬_))
  | _, .act _ false | _, .start | _, .die _ | _, .tick _ => isTrue trivial

/-- The operations of a caller, all of which succeed. -/
def acts (i n : ℕ) : List Event := List.replicate n (.act i true)

/-- A caller dies and leaves its directory, which others find when it is too old. -/
def leftBehind : List Event := .start :: acts 0 3 ++ [.die 0, .tick 1800]

theorem generations_exclusive_takeover : ∃ s,
    exec step (initial 0) (leftBehind ++ .start :: acts 1 7) = some s ∧
      s.calls = [.dead, .running 1800] ∧ Exclusive s := by
  have hrun : (exec step (initial 0) (leftBehind ++ .start :: acts 1 7)).map (·.calls) =
      some [.dead, .running 1800] := by decide +kernel
  obtain ⟨s, he, hcalls⟩ := Option.map_eq_some_iff.mp hrun
  exact ⟨s, he, hcalls, generations_exclusive 0 (by decide +kernel) he⟩

/-- **Two takeovers at once.** Both callers find the directory too old; the second one removes the
directory that the first one has made. -/
theorem two_generations : ¬∀ (clock : ℚ) (events : List Event) (s : State),
    exec step (initial clock) events = some s → Exclusive s := by
  intro hall
  have hrun : (exec step (initial 0)
      (leftBehind ++ [.start, .start] ++ acts 1 2 ++ acts 2 2 ++ acts 1 5 ++ acts 2 4)).map
      (·.foreign) = some true := by decide +kernel
  obtain ⟨s, he, hforeign⟩ := Option.map_eq_some_iff.mp hrun
  have h := (hall 0 _ s he).2
  rw [hforeign] at h
  cases h

end OnAir.SpeechLock
