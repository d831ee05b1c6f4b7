import OnAir.RequestPermissions
import OnAir.Runs
import OnAir.Sql

/-!
The studios of a station, the users in them, and the one studio that is on air.

The calls are made one after the other; each one refuses before it writes. A station starts with
a default studio, which is put on air before anybody has come in.
-/

namespace OnAir.StudioService

open PythonText Runs OnAir.Table

structure Studio where
  stationId : ℤ
  name : String
  description : String
  sortOrder : ℤ
  isActive : Bool
  isOnAir : Bool
  currentUserId : Option ℤ
  deriving DecidableEq, Repr

inductive SessionRole
  | dj
  | producer
  deriving DecidableEq, Repr

inductive SessionStatus
  | active
  | standby
  | left
  deriving DecidableEq, Repr

structure Session where
  studioId : ℤ
  userId : ℤ
  role : SessionRole
  status : SessionStatus
  deriving DecidableEq, Repr

structure Actor where
  id : ℤ
  role : String
  deriving DecidableEq, Repr

inductive StudioError
  | notFound (detail : String)
  | conflict (detail : String)
  | forbidden (detail : String)
  | validation (detail : String)
  deriving DecidableEq, Repr

structure Store where
  studios : Table Studio
  /-- in the order of the ids -/
  sessions : List Session
  /-- the default studios that no dj has joined yet -/
  untouched : List ℤ

def empty : Store := ⟨∅, [], []⟩

/-! ### `StudioRepository` -/

section Repository

variable (studioId userId : ℤ) (s : Store)

def listByStation (st : ℤ) : List (ℤ × Studio) :=
  Sql.orderBy (fun a b => a.2.sortOrder < b.2.sortOrder)
    ((rows s.studios).filter fun r => r.2.stationId = st)

def create (studio : Studio) (s : Store) : Store × ℤ :=
  ({ s with studios := s.studios.insert (nextId s.studios) studio }, nextId s.studios)

def ensureDefaultForStation (st : ℤ) (s : Store) : Store :=
  if (listByStation s st).isEmpty then
    let r := create ⟨st, "Studio A", "", 1, true, true, none⟩ s
    { r.1 with untouched := r.2 :: s.untouched }
  else s

def update (f : Studio → Studio) (s : Store) : Store :=
  { s with studios := s.studios.modify studioId f }

def setOnAir (isOnAir : Bool) : Store → Store :=
  update studioId fun r => { r with isOnAir := isOnAir }

def setCurrentUser (user : Option ℤ) : Store → Store :=
  update studioId fun r => { r with currentUserId := user }

def isSession (x : Session) : Bool := x.studioId = studioId && x.userId = userId

def upsertSession (role : SessionRole) (status : SessionStatus) (s : Store) : Store :=
  if s.sessions.any (isSession studioId userId) then
    { s with sessions := s.sessions.map fun x =>
      if isSession studioId userId x then { x with role := role, status := status } else x }
  else { s with sessions := s.sessions ++ [⟨studioId, userId, role, status⟩] }

def leaveSession (s : Store) : Store :=
  { s with sessions := s.sessions.map fun x =>
    if isSession studioId userId x then { x with status := .left } else x }

end Repository

/-! ### The service -/

section Service

variable (actor : Actor) (s : Store)

def normalizedRole : String := RequestPermissions.normalizeLegacyRole actor.role

def requireStudio (studioId : ℤ) : Except StudioError Studio :=
  match s.studios[studioId]? with
  | none => .error (.notFound "studio_not_found")
  | some r => .ok r

def requireAdmin : Except StudioError Unit :=
  if normalizedRole actor ≠ "admin" then .error (.forbidden "admin_required") else .ok ()

def requireParticipant : Except StudioError Unit :=
  if normalizedRole actor ∉ ["admin", "dj", "producer"] then
    .error (.forbidden "participant_role_required")
  else .ok ()

def studioCurrentUserId (r : Studio) : ℤ := r.currentUserId.getD 0

def requireHandoffActor (source : Studio) : Except StudioError Unit :=
  if normalizedRole actor = "admin" then .ok ()
  else if normalizedRole actor ≠ "dj" then .error (.forbidden "handoff_forbidden")
  else if studioCurrentUserId source ≠ actor.id then .error (.forbidden "handoff_forbidden")
  else .ok ()

def sessionRoleFor : SessionRole := if normalizedRole actor = "producer" then .producer else .dj

def isJoined (x : Session) : Bool := x.status = .active || x.status = .standby

/-- `_joined_studio_ids`. -/
def joinedStudioIds (userId : ℤ) : List ℤ :=
  if userId ≤ 0 then []
  else (s.sessions.filter fun x => x.userId = userId && isJoined x).map (·.studioId)

def assertNoOtherActiveSession (studioId : ℤ) : Except StudioError Unit :=
  if (joinedStudioIds s actor.id).any (· ≠ studioId) then
    .error (.conflict "user_already_joined_other_studio")
  else .ok ()

def hasSession (studioId userId : ℤ) : Bool :=
  s.sessions.any fun x => isSession studioId userId x && isJoined x

def hasDjSession (studioId userId : ℤ) : Bool :=
  s.sessions.any fun x => isSession studioId userId x && isJoined x && x.role = .dj

def activeDjUserId (studioId : ℤ) (r : Studio) : ℤ :=
  match r.currentUserId with
  | none => 0
  | some userId => if hasDjSession s studioId userId then userId else 0

def createStudio (st : ℤ) (name description : String) : Except StudioError Store := do
  requireAdmin actor
  let normalizedName := trim name
  if normalizedName = "" then .error (.validation "studio_name_required")
  else
    let nextSortOrder := ((listByStation s st).length : ℤ) + 1
    .ok (create ⟨st, normalizedName, trim description, nextSortOrder, true, false, none⟩ s).1

/-- The fields that `update_studio` is given. -/
structure Updates where
  name : Option String
  description : Option String
  sortOrder : Option ℤ
  isActive : Option Bool
  deriving DecidableEq, Repr

def Updates.apply (u : Updates) (r : Studio) : Studio :=
  { r with
    name := (u.name.map trim).getD r.name
    description := (u.description.map trim).getD r.description
    sortOrder := u.sortOrder.getD r.sortOrder
    isActive := u.isActive.getD r.isActive }

def updateStudio (studioId : ℤ) (u : Updates) : Except StudioError Store := do
  requireAdmin actor
  let _ ← requireStudio s studioId
  if u.name.any (trim · = "") then .error (.validation "studio_name_required")
  else .ok (update studioId u.apply s)

/-- A dj takes the studio, and puts it on air when the station has none on air. -/
def takeStudio (studioId : ℤ) (r : Studio) : Store :=
  let s' := setCurrentUser studioId (some actor.id)
    { s with untouched := s.untouched.erase studioId }
  if (listByStation s' r.stationId).any (·.2.isOnAir) then s' else setOnAir studioId true s'

def joinStudio (studioId : ℤ) : Except StudioError Store := do
  requireParticipant actor
  let r ← requireStudio s studioId
  assertNoOtherActiveSession actor s studioId
  let role := sessionRoleFor actor
  if role = .dj then
    if activeDjUserId s studioId r ∉ [0, actor.id] then
      .error (.conflict "studio_already_has_active_dj")
    else .ok (upsertSession studioId actor.id role .active (takeStudio actor s studioId r))
  else .ok (upsertSession studioId actor.id role .active s)

def leaveStudio (studioId : ℤ) : Except StudioError Store := do
  let r ← requireStudio s studioId
  let s' := leaveSession studioId actor.id s
  if studioCurrentUserId r = actor.id then
    let s'' := setCurrentUser studioId none s'
    .ok (if r.isOnAir then setOnAir studioId false s'' else s'')
  else .ok s'

def handoff (st sourceStudioId targetStudioId : ℤ) : Except StudioError Store := do
  let source ← requireStudio s sourceStudioId
  let target ← requireStudio s targetStudioId
  requireHandoffActor actor source
  if source.stationId ≠ st ∨ target.stationId ≠ st then
    .error (.conflict "studio_station_mismatch")
  else if !source.isOnAir then .error (.conflict "source_studio_not_on_air")
  else if activeDjUserId s targetStudioId target ≤ 0 then
    .error (.conflict "target_studio_missing_active_dj")
  else .ok ((listByStation s st).foldl
    (fun s r => setOnAir r.1 (r.1 = targetStudioId) s) s)

/-- `can_user_activate_mic`. -/
def canUserActivateMic (st userId : ℤ) : Bool × String :=
  match (listByStation s st).find? (·.2.isOnAir) with
  | none => (false, "no_on_air_studio")
  | some r =>
    if studioCurrentUserId r.2 ≠ userId then (false, "not_studio_owner")
    else if !hasDjSession s r.1 userId then (false, "no_dj_session")
    else (true, "ok")

end Service

/-! ### Runs -/

inductive Event
  /-- a station gets its default studio -/
  | addStation (st : ℤ)
  | create (actor : Actor) (st : ℤ) (name description : String)
  | update (actor : Actor) (studioId : ℤ) (updates : Updates)
  | join (actor : Actor) (studioId : ℤ)
  | leave (actor : Actor) (studioId : ℤ)
  | handoff (actor : Actor) (st sourceStudioId targetStudioId : ℤ)
  deriving DecidableEq, Repr

def call (s : Store) : Event → Except StudioError Store
  | .addStation st => .ok (ensureDefaultForStation st s)
  | .create actor st name description => createStudio actor s st name description
  | .update actor studioId updates => updateStudio actor s studioId updates
  | .join actor studioId => joinStudio actor s studioId
  | .leave actor studioId => leaveStudio actor s studioId
  | .handoff actor st source target => handoff actor s st source target

/-- A call that raises leaves everything as it was. -/
def step (s : Store) (e : Event) : Option Store :=
  match call s e with
  | .ok s' => some s'
  | .error _ => some s

end OnAir.StudioService
