import OnAir.StudioService

/-!
Calls that join, leave and hand over studios at the same time, statement by statement.

A call looks its studio up, takes the lock of the studio's station and goes on under it. Other
stations have other locks, so that two joins of one user may run side by side; what each
of them reads of the sessions is of all stations. Any statement may fail, which ends the call.
-/

namespace OnAir.StudioCalls

open Runs StudioService OnAir.Table

/-! ### Statements -/

inductive Request
  | join (actor : Actor) (studioId : ℤ)
  | leave (actor : Actor) (studioId : ℤ)
  | handoff (actor : Actor) (st sourceStudioId targetStudioId : ℤ)
  deriving DecidableEq, Repr

def Request.actor : Request → Actor
  | .join actor _ => actor
  | .leave actor _ => actor
  | .handoff actor _ _ _ => actor

/-- The statement that comes next, with the rows that were read. -/
inductive Phase
  | enter
  | enterTarget
  | acquire (st : ℤ)
  | require
  | requireTarget (source : Studio)
  | check (r : Studio)
  | activeDj (r : Studio)
  | djSession (r : Studio) (userId : ℤ)
  | setCurrentUser (r : Studio)
  | listByStation (r : Studio)
  | goOnAir
  | upsertSession
  | leaveSession (r : Studio)
  | clearUser (r : Studio)
  | clearOnAir
  | setOnAir (studioIds : List ℤ)
  | release
  | done
  deriving DecidableEq, Repr

/-- Where the call goes on after a look at a studio; before the lock it just ends. -/
def found (s : Store) (studioId : ℤ) (missing : Phase) (next : Studio → Phase) : Phase :=
  match requireStudio s studioId with
  | .error _ => missing
  | .ok r => next r

/-- A statement of `join_studio`. -/
def join (actor : Actor) (studioId : ℤ) (s : Store) : Phase → Store × Phase
  | .enter => (s, match requireParticipant actor with
      | .error _ => .done
      | .ok _ => found s studioId .done fun r => .acquire r.stationId)
  | .require => (s, found s studioId .release .check)
  | .check r => (s, match assertNoOtherActiveSession actor s studioId with
      | .error _ => .release
      | .ok _ => if sessionRoleFor actor = .dj then .activeDj r else .upsertSession)
  | .activeDj r => (s, found s studioId .release fun now =>
    match now.currentUserId with
    | none => .setCurrentUser r
    | some userId => .djSession r userId)
  | .djSession r userId =>
    (s, if hasDjSession s studioId userId && decide (userId ∉ [0, actor.id]) then .release
      else .setCurrentUser r)
  | .setCurrentUser r =>
    (setCurrentUser studioId (some actor.id)
      { s with untouched := s.untouched.erase studioId }, .listByStation r)
  | .listByStation r =>
    (s, if (listByStation s r.stationId).any (·.2.isOnAir) then .upsertSession else .goOnAir)
  | .goOnAir => (setOnAir studioId true s, .upsertSession)
  | .upsertSession =>
    (upsertSession studioId actor.id (sessionRoleFor actor) .active s, .release)
  | _ => (s, .done)

/-- A statement of `leave_studio`. -/
def leave (actor : Actor) (studioId : ℤ) (s : Store) : Phase → Store × Phase
  | .enter => (s, found s studioId .done fun r => .acquire r.stationId)
  | .require => (s, found s studioId .release .leaveSession)
  | .leaveSession r =>
    (leaveSession studioId actor.id s,
      if studioCurrentUserId r = actor.id then .clearUser r else .release)
  | .clearUser r =>
    (setCurrentUser studioId none s, if r.isOnAir then .clearOnAir else .release)
  | .clearOnAir => (setOnAir studioId false s, .release)
  | _ => (s, .done)

/-- A statement of `handoff`. -/
def handoff (actor : Actor) (st sourceStudioId targetStudioId : ℤ) (s : Store) :
    Phase → Store × Phase
  | .enter => (s, found s sourceStudioId .done fun _ => .enterTarget)
  | .enterTarget => (s, found s targetStudioId .done fun _ => .acquire st)
  | .require => (s, found s sourceStudioId .release .requireTarget)
  | .requireTarget source => (s, found s targetStudioId .release fun target =>
    match requireHandoffActor actor source with
    | .error _ => .release
    | .ok _ =>
      if source.stationId ≠ st ∨ target.stationId ≠ st then .release
      else if !source.isOnAir then .release
      else .activeDj target)
  | .activeDj target => (s, found s targetStudioId .release fun now =>
    match now.currentUserId with
    | none => .release
    | some userId => .djSession target userId)
  | .djSession target userId =>
    (s, if hasDjSession s targetStudioId userId && decide (0 < userId) then .listByStation target
      else .release)
  | .listByStation _ => (s, .setOnAir ((listByStation s st).map Prod.fst))
  | .setOnAir (studioId :: rest) =>
    (setOnAir studioId (studioId = targetStudioId) s, .setOnAir rest)
  | .setOnAir [] => (s, .release)
  | _ => (s, .done)

def statement (s : Store) : Request → Phase → Store × Phase
  | .join actor studioId => join actor studioId s
  | .leave actor studioId => leave actor studioId s
  | .handoff actor st source target => handoff actor st source target s

/-! ### Calls -/

structure Call where
  request : Request
  phase : Phase
  /-- the station whose lock the call holds -/
  holds : Option ℤ
  deriving DecidableEq, Repr

structure System where
  store : Store
  /-- `_STATION_LOCKS`: the call that holds the lock of a station -/
  locks : ℤ → Option ℕ
  calls : ℕ → Option Call

def start (store : Store) : System := ⟨store, fun _ => none, fun _ => none⟩

inductive Event
  /-- a call of a user; the ids of users are positive -/
  | arrive (i : ℕ) (request : Request)
  | advance (i : ℕ)
  /-- a statement raises -/
  | fail (i : ℕ)
  /-- other requests change studios -/
  | editStudios (studios : Table Studio)
  /-- a studio is deleted, and its sessions with it -/
  | deleteStudio (studioId : ℤ)

def put (i : ℕ) (c : Call) (s : System) : System :=
  { s with calls := Function.update s.calls i (some c) }

/-- The lock of the call is free again. -/
def unlock (i : ℕ) (c : Call) (s : System) : System :=
  { put i ⟨c.request, .done, none⟩ s with
    locks := fun st => if c.holds = some st then none else s.locks st }

def advance (i : ℕ) (c : Call) (s : System) : Option System :=
  match c.phase with
  | .acquire st =>
    if s.locks st = none then
      some { put i ⟨c.request, .require, some st⟩ s with
        locks := Function.update s.locks st (some i) }
    else none
  | .release => some (unlock i c s)
  | .done => none
  | phase =>
    let r := statement s.store c.request phase
    some { put i { c with phase := r.2 } s with store := r.1 }

def step (s : System) : Event → Option System
  | .arrive i request =>
    if 0 < request.actor.id ∧ s.calls i = none then some (put i ⟨request, .enter, none⟩ s) else none
  | .advance i => (s.calls i).bind fun c => advance i c s
  | .fail i => (s.calls i).bind fun c => if c.phase = .done then none else some (unlock i c s)
  | .editStudios studios => some { s with store := { s.store with studios := studios } }
  | .deleteStudio studioId => some { s with
      store := { s.store with
        studios := s.store.studios.erase studioId
        sessions := s.store.sessions.filter fun x => x.studioId ≠ studioId } }

/-! ### Sessions -/

/-- The sessions in which a user is. -/
def Joined (s : Store) (x : Session) : Prop := x ∈ s.sessions ∧ isJoined x = true

/-- No user is in two studios. -/
def OneStudio (s : Store) : Prop :=
  ∀ x y, Joined s x → Joined s y → x.userId = y.userId → x.studioId = y.studioId

/-- What the check of a join tells of the sessions. -/
lemma check_iff {actor : Actor} (h : 0 < actor.id) (s : Store) (studioId : ℤ) :
    (assertNoOtherActiveSession actor s studioId).isOk = true ↔
      ∀ x, Joined s x → x.userId = actor.id → x.studioId = studioId := by
  unfold assertNoOtherActiveSession joinedStudioIds Joined
  rw [if_neg (not_le.mpr h)]
  simp only [List.any_map, List.any_filter]
  split_ifs with hany
  · simp only [Except.toBool, Bool.false_eq_true, false_iff]
    intro hall
    obtain ⟨x, hx, hcond⟩ := List.any_eq_true.mp hany
    simp only [Bool.and_eq_true, decide_eq_true_eq, Function.comp_apply] at hcond
    exact hcond.2 (hall x ⟨hx, hcond.1.2⟩ hcond.1.1)
  · simp only [Except.toBool, true_iff]
    intro x hx hid
    by_contra hne
    exact hany (List.any_eq_true.mpr ⟨x, hx.1, by simp [hid, hx.2, hne]⟩)

lemma joined_leaveSession {studioId userId : ℤ} {s : Store} {x : Session}
    (h : Joined (leaveSession studioId userId s) x) : Joined s x := by
  obtain ⟨hmem, hj⟩ := h
  obtain ⟨y, hy, rfl⟩ := List.mem_map.mp hmem
  by_cases hs : isSession studioId userId y = true
  · rw [if_pos hs] at hj
    exact Bool.noConfusion hj
  · rw [if_neg hs] at hj ⊢
    exact ⟨hy, hj⟩

lemma joined_upsertSession {studioId userId : ℤ} {role : SessionRole} {s : Store} {x : Session}
    (h : Joined (upsertSession studioId userId role .active s) x) :
    Joined s x ∨ x.userId = userId ∧ x.studioId = studioId := by
  obtain ⟨hmem, hj⟩ := h
  unfold upsertSession at hmem
  split_ifs at hmem
  · obtain ⟨y, hy, rfl⟩ := List.mem_map.mp hmem
    by_cases hs : isSession studioId userId y = true
    · rw [if_pos hs]
      simp only [isSession, Bool.and_eq_true, decide_eq_true_eq] at hs
      exact .inr ⟨hs.2, hs.1⟩
    · rw [if_neg hs] at hj ⊢
      exact .inl ⟨hy, hj⟩
  · rcases List.mem_append.mp hmem with hmem | hmem
    · exact .inl ⟨hmem, hj⟩
    · obtain rfl := List.mem_singleton.mp hmem
      exact .inr ⟨rfl, rfl⟩

/-- A statement brings no user into a studio, except the last one of a join. -/
lemma joined_statement {s : Store} {request : Request} {phase : Phase} {x : Session}
    (h : Joined (statement s request phase).1 x) :
    Joined s x ∨ ∃ actor studioId, request = .join actor studioId ∧ phase = .upsertSession ∧
      x.userId = actor.id ∧ x.studioId = studioId := by
  cases request with
  | join actor studioId =>
    cases phase with
    | upsertSession =>
      exact (joined_upsertSession h).imp_right fun hx => ⟨actor, studioId, rfl, rfl, hx⟩
    | _ => exact .inl h
  | leave actor studioId =>
    cases phase with
    | leaveSession r => exact .inl (joined_leaveSession h)
    | _ => exact .inl h
  | handoff actor st source target =>
    cases phase with
    | setOnAir studioIds => cases studioIds <;> exact .inl h
    | _ => exact .inl h

/-! ### One studio for each user -/

/-- The check of a join would still pass where its session is stored. -/
def storesUndisturbed (s : Store) : Request → Phase → Bool
  | .join actor studioId, .upsertSession => (assertNoOtherActiveSession actor s studioId).isOk
  | _, _ => true

def Undisturbed (s : System) : Event → Prop
  | .advance i => ∀ c ∈ s.calls i, storesUndisturbed s.store c.request c.phase = true
  | _ => True

instance (s : System) (e : Event) : Decidable (Undisturbed s e) :=
  match e with
  | .advance i => inferInstanceAs (Decidable (∀ c ∈ s.calls i, _))
  | .arrive .. | .fail .. | .editStudios .. | .deleteStudio .. => isTrue trivial

structure Inv (s : System) : Prop where
  one : OneStudio s.store
  positive : ∀ i, ∀ c ∈ s.calls i, 0 < c.request.actor.id

lemma OneStudio.of_joined {s t : Store} (h : OneStudio s) (hsub : ∀ x, Joined t x → Joined s x) :
    OneStudio t := fun x y hx hy => h x y (hsub x hx) (hsub y hy)

lemma positive_put {i : ℕ} {c : Call} {s : System}
    (h : ∀ j, ∀ d ∈ s.calls j, 0 < d.request.actor.id) (hc : 0 < c.request.actor.id) :
    ∀ j, ∀ d ∈ (put i c s).calls j, 0 < d.request.actor.id := by
  intro j d hd
  by_cases hj : j = i
  · subst hj
    simp only [put, Function.update_self, Option.mem_def, Option.some.injEq] at hd
    exact hd ▸ hc
  · simp only [put, Function.update_of_ne hj] at hd
    exact h j d hd

/-- The store after a statement, when joins are undisturbed. -/
lemma oneStudio_statement {s : Store} {request : Request} {phase : Phase} (h : OneStudio s)
    (hpos : 0 < request.actor.id)
    (hok : storesUndisturbed s request phase = true) :
    OneStudio (statement s request phase).1 := by
  have hnew : ∀ x y : Session, Joined s x → (∃ actor studioId, request = .join actor studioId ∧
      phase = .upsertSession ∧ y.userId = actor.id ∧ y.studioId = studioId) →
      x.userId = y.userId → x.studioId = y.studioId := by
    rintro x y hx ⟨actor, studioId, rfl, rfl, huser, hstudio⟩ hxy
    rw [hstudio]
    exact (check_iff hpos s studioId).mp hok x hx (hxy.trans huser)
  intro x y hx hy hxy
  rcases joined_statement hx with hx | hx <;> rcases joined_statement hy with hy | hy
  · exact h x y hx hy hxy
  · exact hnew x y hx hy hxy
  · exact (hnew y x hy hx hxy.symm).symm
  · obtain ⟨a, k, rfl, -, -, hk⟩ := hx
    obtain ⟨b, l, hb, -, -, hl⟩ := hy
    obtain ⟨rfl, rfl⟩ := Request.join.inj hb
    rw [hk, hl]

/-- What a call may do next: wait for its lock, go on, or give the lock back. -/
lemma advance_cases {i : ℕ} {c : Call} {s t : System} (h : advance i c s = some t) :
    (∃ st, c.phase = .acquire st ∧ s.locks st = none ∧
      t = { put i ⟨c.request, .require, some st⟩ s with
        locks := Function.update s.locks st (some i) }) ∨
    (c.phase = .release ∧ t = unlock i c s) ∨
    (c.phase ≠ .release ∧ c.phase ≠ .done ∧ (∀ st, c.phase ≠ .acquire st) ∧
      t = { put i { c with phase := (statement s.store c.request c.phase).2 } s with
        store := (statement s.store c.request c.phase).1 }) := by
  unfold advance at h
  cases hphase : c.phase with
  | acquire st =>
    simp only [hphase] at h
    obtain ⟨hfree, heq⟩ := Option.ite_none_right_eq_some.mp h
    exact .inl ⟨st, rfl, hfree, (Option.some.inj heq).symm⟩
  | release =>
    simp only [hphase] at h
    exact .inr (.inl ⟨rfl, (Option.some.inj h).symm⟩)
  | done =>
    simp only [hphase] at h
    exact nomatch h
  | _ =>
    simp only [hphase] at h
    exact .inr (.inr ⟨nofun, nofun, nofun, (Option.some.inj h).symm⟩)

lemma inv_step {s t : System} {e : Event} (h : Inv s) (hok : Undisturbed s e)
    (hs : step s e = some t) : Inv t := by
  cases e with
  | arrive i request =>
    obtain ⟨⟨hpos, -⟩, heq⟩ := Option.ite_none_right_eq_some.mp hs
    rw [← Option.some.inj heq]
    exact ⟨h.one, positive_put h.positive hpos⟩
  | advance i =>
    obtain ⟨c, hc, hadv⟩ := Option.bind_eq_some_iff.mp hs
    have hpos := h.positive i c hc
    obtain ⟨st, -, -, rfl⟩ | ⟨-, rfl⟩ | ⟨-, -, -, rfl⟩ := advance_cases hadv
    · exact ⟨h.one, positive_put h.positive hpos⟩
    · exact ⟨h.one, positive_put (c := ⟨c.request, .done, none⟩) h.positive hpos⟩
    · exact ⟨oneStudio_statement h.one hpos (hok c hc), positive_put
        (c := { c with phase := (statement s.store c.request c.phase).2 }) h.positive hpos⟩
  | fail i =>
    obtain ⟨c, hc, hfail⟩ := Option.bind_eq_some_iff.mp hs
    obtain ⟨-, heq⟩ := Option.ite_none_left_eq_some.mp hfail
    rw [← Option.some.inj heq]
    exact ⟨h.one, positive_put (c := ⟨c.request, .done, none⟩) h.positive (h.positive i c hc)⟩
  | editStudios studios =>
    rw [← Option.some.inj hs]
    exact ⟨h.one, h.positive⟩
  | deleteStudio studioId =>
    rw [← Option.some.inj hs]
    exact ⟨h.one.of_joined fun x hx => ⟨(List.mem_filter.mp hx.1).1, hx.2⟩, h.positive⟩

/-- **One studio for each user.** In every run of calls side by side whose joins store their
sessions undisturbed, no user is ever in two studios. -/
theorem one_studio {store : Store} (hstore : OneStudio store) {es : List Event} {s : System}
    (h : exec step (start store) es = some s) (hok : Meets step Undisturbed (start store) es) :
    OneStudio s.store :=
  (inv_of_exec (fun _ _ _ hi hok hs => inv_step hi hok hs) ⟨hstore, by simp [start]⟩ hok h).one

/-! ### Two stations with a studio each -/

def twoStudios : Store :=
  ⟨((∅ : Table Studio).insert 1 ⟨1, "Studio A", "", 1, true, true, none⟩).insert 2
    ⟨2, "Studio A", "", 1, true, true, none⟩, [], []⟩

/-- A dj who joins both. -/
def arrivals : List Event := [.arrive 0 (.join ⟨7, "dj"⟩ 1), .arrive 1 (.join ⟨7, "dj"⟩ 2)]

/-- The statements of one call, with its lock. -/
def advances (i n : ℕ) : List Event := List.replicate n (.advance i)

lemma oneStudio_twoStudios : OneStudio twoStudios := fun _ _ hx => by
  simp [twoStudios, Joined] at hx

/-- One join after the other: the second one is refused. -/
theorem one_studio_in_turn :
    ∃ s, exec step (start twoStudios) (arrivals ++ advances 0 9 ++ advances 1 5) = some s ∧
      s.store.sessions = [⟨1, 7, .dj, .active⟩] ∧ OneStudio s.store := by
  have hrun : ((exec step (start twoStudios) (arrivals ++ advances 0 9 ++ advances 1 5)).any
      fun s => decide (s.store.sessions = [⟨1, 7, .dj, .active⟩])) = true := by
    decide +kernel
  obtain ⟨s, hs, hsessions⟩ := (Option.any_eq_true ..).mp hrun
  exact ⟨s, hs, of_decide_eq_true hsessions,
    one_studio oneStudio_twoStudios hs (by decide +kernel)⟩

/-- **Two studios at once.** Both joins pass their checks before either has stored a session. -/
theorem two_studios :
    ∃ s, exec step (start twoStudios)
        (arrivals ++ advances 0 4 ++ advances 1 4 ++ advances 0 4 ++ advances 1 4) = some s ∧
      ¬OneStudio s.store := by
  have hrun : ((exec step (start twoStudios)
      (arrivals ++ advances 0 4 ++ advances 1 4 ++ advances 0 4 ++ advances 1 4)).any
      fun s => decide (s.store.sessions =
        [⟨1, 7, .dj, .active⟩, ⟨2, 7, .dj, .active⟩])) = true := by
    decide +kernel
  obtain ⟨s, hs, hsessions⟩ := (Option.any_eq_true ..).mp hrun
  have hsessions := of_decide_eq_true hsessions
  refine ⟨s, hs, fun h => ?_⟩
  have hsame := h ⟨1, 7, .dj, .active⟩ ⟨2, 7, .dj, .active⟩ ⟨by simp [hsessions], rfl⟩
    ⟨by simp [hsessions], rfl⟩ rfl
  exact absurd hsame (by decide)

end OnAir.StudioCalls
