import Mathlib.Data.Finset.Max
import Mathlib.Data.Finset.Option
import OnAir.LegacyRoles
import OnAir.PythonText
import OnAir.Runs

/-!
The users and roles API, and how long the role templates that an administrator assigns to a user
stay assigned.

Every request calls `init_db`, which assigns the template of a legacy role to each user that has
the role. So an explicit assignment stays as it is where the role of the user is no legacy one, or
its template is among those that were assigned.
-/

namespace OnAir.RoleAssignments

open LegacyRoles PythonText Runs OnAir.Table

/-! ### Requests -/

structure UserCreatePayload where
  username : String
  displayName : String
  password : String
  role : String
  /-- `none` where the field is not set -/
  roleTemplateIds : Option (List ℤ)
  deriving DecidableEq, Repr

structure UserUpdatePayload where
  displayName : Option String
  role : Option String
  isActive : Option Bool
  roleTemplateIds : Option (List ℤ)
  deriving DecidableEq, Repr

structure RoleTemplatePayload where
  name : String
  description : String
  permissionKeys : List String
  deriving DecidableEq, Repr

structure RoleTemplateUpdatePayload where
  name : Option String
  description : Option String
  permissionKeys : Option (List String)
  deriving DecidableEq, Repr

inductive Request
  | createUser (p : UserCreatePayload)
  | updateUser (userId : ℤ) (p : UserUpdatePayload)
  | deactivateUser (userId : ℤ)
  | createRole (p : RoleTemplatePayload)
  | updateRole (roleId : ℤ) (p : RoleTemplateUpdatePayload)
  | deactivateRole (roleId : ℤ)
  /-- a request that reads -/
  | read
  deriving DecidableEq, Repr

structure HTTPException where
  status : ℕ
  detail : String
  deriving DecidableEq, Repr

variable {ρ : Type}

/-- The id of the user or template that is changed, and the database afterwards. -/
abbrev Handler (ρ : Type) := Database ρ → Except HTTPException (ℤ × Database ρ)

/-! ### Users -/

/-- `_legacy_role_template_ids` of the users API. -/
def legacyRoleTemplateIds (db : Database ρ) (role : String) : Finset ℤ :=
  ((legacyRoleToTemplate role).bind (idOf db)).toFinset

/-- The first of them, if any, that `sorted` gives. -/
def first {α : Type} [LinearOrder α] (s : Finset α) : Option α := s.min

/-- `_validate_role_template_ids`. -/
def validateRoleTemplateIds (db : Database ρ) (ids : Finset ℤ) : Except HTTPException (Finset ℤ) :=
  match first (ids.filter fun id => db.roleTemplates[id]?.isNone) with
  | some id => .error ⟨400, s!"Unknown role template id: {id}"⟩
  | none => .ok ids

/-- `_resolve_role_template_ids`. -/
def resolveRoleTemplateIds (db : Database ρ) (explicit : Option (List ℤ)) (role : Option String)
    (currentUserId : Option ℤ) : Except HTTPException (Finset ℤ) :=
  validateRoleTemplateIds db <|
    match explicit, role, currentUserId with
    | some ids, _, _ => ids.toFinset
    | none, some role, _ => legacyRoleTemplateIds db role
    | none, none, some userId => listUserRoleIds db userId
    | none, none, none => ∅

/-- `RbacRepository.replace_user_roles`. -/
def replaceUserRoles (userId : ℤ) (ids : Finset ℤ) (db : Database ρ) : Database ρ :=
  { db with
    userRoles := db.userRoles.filter (fun p => p.1 ≠ userId) ∪ ids.image (Prod.mk userId) }

/-- `create_user`, once the password is long enough. -/
def createUser (p : UserCreatePayload) : Handler ρ := fun db => do
  if (rows db.users).any fun u => u.2.username = p.username then
    .error ⟨409, "Username already exists"⟩
  else
    let ids ← resolveRoleTemplateIds db p.roleTemplateIds (some p.role) none
    let userId := nextId db.users
    .ok (userId, replaceUserRoles userId ids { db with
      users := db.users.insert userId ⟨p.username, p.displayName, p.role, true⟩ })

def UserUpdatePayload.apply (p : UserUpdatePayload) (u : User) : User :=
  { u with
    displayName := p.displayName.getD u.displayName
    role := p.role.getD u.role
    isActive := p.isActive.getD u.isActive }

/-- `update_user`. -/
def updateUser (userId : ℤ) (p : UserUpdatePayload) : Handler ρ := fun db =>
  match db.users[userId]? with
  | none => .error ⟨404, "User not found"⟩
  | some row => do
    let ids ← resolveRoleTemplateIds db p.roleTemplateIds p.role (some userId)
    .ok (userId, replaceUserRoles userId ids { db with
      users := db.users.insert userId (p.apply row) })

/-- `deactivate_user`. -/
def deactivateUser (userId : ℤ) : Handler ρ := fun db =>
  match db.users[userId]? with
  | none => .error ⟨404, "User not found"⟩
  | some row => .ok (userId, { db with
      users := db.users.insert userId { row with isActive := false } })

/-! ### Roles -/

/-- `_normalize_permission_keys`. -/
def normalizePermissionKeys (keys : List String) : Except HTTPException (Finset String) :=
  let normalized := ((keys.map trim).filter (· ≠ "")).toFinset
  match first (normalized.filter (· ∉ globalPermissionKeys)) with
  | some key => .error ⟨400, s!"Invalid permission key: {key}"⟩
  | none => .ok normalized

/-- A template is written, unless another one has its name. -/
def writeTemplate (db : Database ρ) (id : ℤ) (t : RoleTemplate) :
    Except HTTPException (Database ρ) :=
  if h : idOf db t.name = none ∨ idOf db t.name = some id then .ok (putTemplate db id t h)
  else .error ⟨409, "Role template name already exists"⟩

/-- `create_role`, with the keys it has normalized. -/
def createRole (p : RoleTemplatePayload) (keys : Finset String) : Handler ρ := fun db => do
  let id := nextId db.roleTemplates
  let db ← writeTemplate db id ⟨p.name, p.description, false, true⟩
  .ok (id, replaceRolePermissions id keys db)

/-- `update_role`. -/
def updateRole (roleId : ℤ) (p : RoleTemplateUpdatePayload) : Handler ρ := fun db =>
  match db.roleTemplates[roleId]? with
  | none => .error ⟨404, "Role template not found"⟩
  | some row =>
    if row.isSystem then .error ⟨400, "System role templates cannot be updated"⟩
    else do
      let keys ← p.permissionKeys.mapM normalizePermissionKeys
      let db ← writeTemplate db roleId { row with
        name := p.name.getD row.name
        description := p.description.getD row.description }
      .ok (roleId, keys.elim db fun keys => replaceRolePermissions roleId keys db)

/-- `deactivate_role`. -/
def deactivateRole (roleId : ℤ) : Handler ρ := fun db =>
  match db.roleTemplates[roleId]? with
  | none => .error ⟨404, "Role template not found"⟩
  | some row =>
    if row.isSystem then .error ⟨400, "System role templates cannot be deactivated"⟩
    else do
      let db ← writeTemplate db roleId { row with isActive := false }
      .ok (roleId, db)

/-! ### Answers -/

/-- What raises leaves the database as it was. -/
def Handler.answer (f : Handler ρ) (db : Database ρ) : Except HTTPException ℤ × Database ρ :=
  match f db with
  | .ok (id, db') => (.ok id, db')
  | .error e => (.error e, db)

variable (u : Upgrade ρ)

/-- A request, and the database after it. -/
def handle (r : Request) (db : Database ρ) : Except HTTPException ℤ × Database ρ :=
  match r with
  | .createUser p =>
    if p.password.length < 8 then (.error ⟨400, "Password too short"⟩, db)
    else Handler.answer (createUser p) (initDb u db)
  | .updateUser userId p => Handler.answer (updateUser userId p) (initDb u db)
  | .deactivateUser userId => Handler.answer (deactivateUser userId) db
  | .createRole p =>
    match normalizePermissionKeys p.permissionKeys with
    | .error e => (.error e, db)
    | .ok keys => Handler.answer (createRole p keys) (initDb u db)
  | .updateRole roleId p => Handler.answer (updateRole roleId p) (initDb u db)
  | .deactivateRole roleId => Handler.answer (deactivateRole roleId) (initDb u db)
  | .read => (.ok 0, initDb u db)

def step (db : Database ρ) (r : Request) : Option (Database ρ) := some (handle u r db).2

/-- The database is reached by requests from one whose schema is not newer than the program. -/
def Reachable (db : Database ρ) : Prop :=
  ∃ db₀ rs, db₀.userVersion ≤ schemaVersion ∧ exec (step u) db₀ rs = some db

/-- The templates that a request assigns explicitly. -/
def Request.roleTemplateIds : Request → Option (List ℤ)
  | .createUser p => p.roleTemplateIds
  | .updateUser _ p => p.roleTemplateIds
  | _ => none

/-- The role that the user of the request has afterwards. -/
def Request.role (db : Database ρ) : Request → String
  | .createUser p => p.role
  | .updateUser userId p => p.role.getD ((db.users[userId]?.map (·.role)).getD "")
  | _ => ""

/-- The role is no legacy one, or the id of its template is among the ids. -/
def Suits (db : Database ρ) (role : String) (ids : List ℤ) : Prop :=
  ∀ name, legacyRoleToTemplate role = some name → ∃ id ∈ ids, idOf db name = some id

/-! ### Requests that assign templates -/

variable {u} {db db' : Database ρ} {userId : ℤ} {ids : List ℤ} {r : Request}

lemma listUserRoleIds_replace (S : Finset ℤ) (i : ℤ) :
    listUserRoleIds (replaceUserRoles userId S db) i =
      if i = userId then S else listUserRoleIds db i := by
  ext id
  simp only [listUserRoleIds, replaceUserRoles, Finset.mem_image, Finset.mem_filter,
    Finset.mem_union]
  split_ifs with h
  · subst h
    aesop
  · aesop

lemma mem_replace {S : Finset ℤ} {i id : ℤ} : (i, id) ∈ (replaceUserRoles userId S db).userRoles ↔
    if i = userId then id ∈ S else (i, id) ∈ db.userRoles := by
  simp only [replaceUserRoles, Finset.mem_union, Finset.mem_filter, Finset.mem_image]
  split_ifs with h
  · subst h
    aesop
  · aesop

/-- A user is written, and assigned templates. -/
def assign (db : Database ρ) (userId : ℤ) (row : User) (ids : List ℤ) : Database ρ :=
  replaceUserRoles userId ids.toFinset { db with users := db.users.insert userId row }

/-- What an answered request with explicit templates has done: a user has been written who has
the role, and has been assigned these templates. -/
def Assigned (db db' : Database ρ) (userId : ℤ) (role : String) (ids : List ℤ) : Prop :=
  ∃ row : User, row.role = role ∧ db' = assign db userId row ids

lemma resolve_explicit {S : Finset ℤ} {role : Option String} {current : Option ℤ}
    (h : resolveRoleTemplateIds db (some ids) role current = .ok S) : S = ids.toFinset := by
  unfold resolveRoleTemplateIds validateRoleTemplateIds at h
  split at h
  · cases h
  · exact (Except.ok.inj h).symm

lemma createUser_assigned {p : UserCreatePayload} (hids : p.roleTemplateIds = some ids)
    (h : createUser p db = .ok (userId, db')) : Assigned db db' userId p.role ids := by
  unfold createUser at h
  split at h
  · cases h
  · rw [hids] at h
    cases hresolve : resolveRoleTemplateIds db (some ids) (some p.role) none with
    | error e =>
      rw [hresolve] at h
      cases h
    | ok S =>
      rw [hresolve] at h
      obtain rfl := resolve_explicit hresolve
      cases h
      exact ⟨_, rfl, rfl⟩

lemma updateUser_assigned {p : UserUpdatePayload} {i : ℤ} (hids : p.roleTemplateIds = some ids)
    (h : updateUser i p db = .ok (userId, db')) :
    Assigned db db' userId (p.role.getD ((db.users[i]?.map (·.role)).getD "")) ids := by
  unfold updateUser at h
  split at h
  · cases h
  · rename_i row hrow
    rw [hids] at h
    cases hresolve : resolveRoleTemplateIds db (some ids) p.role (some i) with
    | error e =>
      rw [hresolve] at h
      cases h
    | ok S =>
      rw [hresolve] at h
      obtain rfl := resolve_explicit hresolve
      cases h
      rw [hrow]
      exact ⟨_, rfl, rfl⟩

lemma answer_ok {f : Handler ρ} (h : f.answer db = (.ok userId, db')) :
    f db = .ok (userId, db') := by
  unfold Handler.answer at h
  split at h
  · rename_i id db'' heq
    cases h
    exact heq
  · cases h

/-- **An explicit assignment** that is answered has been made to the database as `init_db` leaves
it. -/
theorem handle_assigned (hids : r.roleTemplateIds = some ids)
    (h : handle u r db = (.ok userId, db')) :
    Assigned (initDb u db) db' userId (r.role (initDb u db)) ids := by
  cases r with
  | createUser p =>
    simp only [handle] at h
    split at h
    · cases h
    · exact createUser_assigned hids (answer_ok h)
  | updateUser i p => exact updateUser_assigned hids (answer_ok h)
  | deactivateUser | createRole | updateRole | deactivateRole | read => cases hids

/-! ### Versions -/

lemma userVersion_initDb (h : db.userVersion ≤ schemaVersion) :
    (initDb u db).userVersion ≤ schemaVersion := by
  unfold initDb
  split
  case isTrue =>
    obtain ⟨settings, heq, -⟩ := complete_eq (u := u) (syncIfNeeded (bootstrap u db))
    rw [heq]
  case isFalse => exact h

lemma writeTemplate_eq {id : ℤ} {t : RoleTemplate} (h : writeTemplate db id t = .ok db') :
    ∃ hid, db' = putTemplate db id t hid := by
  unfold writeTemplate at h
  split at h
  case isTrue hid => exact ⟨hid, (Except.ok.inj h).symm⟩
  case isFalse => cases h

lemma userVersion_handler {f : Handler ρ} {d : Database ρ}
    (hf : ∀ id d', f d = .ok (id, d') → d'.userVersion = d.userVersion) :
    (f.answer d).2.userVersion = d.userVersion := by
  unfold Handler.answer
  split
  · rename_i id d' heq
    exact hf id d' heq
  · rfl

lemma userVersion_createUser {p : UserCreatePayload} {id : ℤ}
    (h : createUser p db = .ok (id, db')) : db'.userVersion = db.userVersion := by
  unfold createUser at h
  split at h
  · cases h
  · cases hresolve : resolveRoleTemplateIds db p.roleTemplateIds (some p.role) none <;>
      · rw [hresolve] at h
        cases h <;> rfl

lemma userVersion_updateUser {p : UserUpdatePayload} {i id : ℤ}
    (h : updateUser i p db = .ok (id, db')) : db'.userVersion = db.userVersion := by
  unfold updateUser at h
  split at h
  · cases h
  · cases hresolve : resolveRoleTemplateIds db p.roleTemplateIds p.role (some i) <;>
      · rw [hresolve] at h
        cases h <;> rfl

lemma userVersion_deactivateUser {i id : ℤ} (h : deactivateUser i db = .ok (id, db')) :
    db'.userVersion = db.userVersion := by
  unfold deactivateUser at h
  split at h <;> cases h
  rfl

lemma userVersion_write {id i : ℤ} {t : RoleTemplate} {f : Database ρ → Database ρ}
    (hf : ∀ d, (f d).userVersion = d.userVersion)
    (h : (do
      let d ← writeTemplate db i t
      .ok (i, f d)) = .ok (id, db')) : db'.userVersion = db.userVersion := by
  cases hwrite : writeTemplate db i t with
  | error e =>
    rw [hwrite] at h
    cases h
  | ok d =>
    obtain ⟨hid, rfl⟩ := writeTemplate_eq hwrite
    rw [hwrite] at h
    cases h
    exact hf _

lemma userVersion_updateRole {p : RoleTemplateUpdatePayload} {i id : ℤ}
    (h : updateRole i p db = .ok (id, db')) : db'.userVersion = db.userVersion := by
  unfold updateRole at h
  split at h
  · cases h
  · split at h
    · cases h
    · cases hkeys : p.permissionKeys.mapM normalizePermissionKeys with
      | error e =>
        rw [hkeys] at h
        cases h
      | ok keys =>
        rw [hkeys] at h
        refine userVersion_write (fun d => ?_) h
        cases keys <;> rfl

lemma userVersion_deactivateRole {i id : ℤ} (h : deactivateRole i db = .ok (id, db')) :
    db'.userVersion = db.userVersion := by
  unfold deactivateRole at h
  split at h
  · cases h
  · split at h
    · cases h
    · exact userVersion_write (f := fun d => d) (fun _ => rfl) h

lemma userVersion_handle (h : db.userVersion ≤ schemaVersion) :
    (handle u r db).2.userVersion ≤ schemaVersion := by
  have hinit := userVersion_initDb (u := u) h
  cases r with
  | createUser p =>
    simp only [handle]
    split
    · exact h
    · rwa [userVersion_handler fun _ _ => userVersion_createUser]
  | updateUser i p => rwa [handle, userVersion_handler fun _ _ => userVersion_updateUser]
  | deactivateUser i => rwa [handle, userVersion_handler fun _ _ => userVersion_deactivateUser]
  | createRole p =>
    simp only [handle]
    split
    · exact h
    · rename_i keys _
      rwa [userVersion_handler fun _ _ => userVersion_write
        (f := replaceRolePermissions (nextId (initDb u db).roleTemplates) keys) fun _ => rfl]
  | updateRole i p => rwa [handle, userVersion_handler fun _ _ => userVersion_updateRole]
  | deactivateRole i => rwa [handle, userVersion_handler fun _ _ => userVersion_deactivateRole]
  | read => exact hinit

lemma userVersion_reachable (h : Reachable u db) : db.userVersion ≤ schemaVersion := by
  obtain ⟨db₀, rs, hdb₀, he⟩ := h
  refine inv_of_exec_all (P := fun d : Database ρ => d.userVersion ≤ schemaVersion)
    (fun d r d' hd hd' => ?_) hdb₀ he
  cases hd'
  exact userVersion_handle hd

/-! ### `init_db` afterwards -/

variable {role : String}

/-- What a database is after `init_db`. -/
structure Settled (db : Database ρ) : Prop where
  version : db.userVersion = schemaVersion
  bootstrap : bootstrapApplied db = true
  migration : migrationApplied db = true
  roles : roleTemplatesNeedSync db = false
  users : ∀ (i : ℤ) (row : User), db.users[i]? = some row → hasLegacyRole db i row = true
  shows : showPermissionsNeedSync db = false

lemma settled_of_initWrites (hversion : db.userVersion ≤ schemaVersion)
    (h : initWrites db = false) : Settled db := by
  have hsync : db.userVersion = schemaVersion ∧ bootstrapApplied db = true ∧
      legacyRbacNeedsSync db = false := by
    simpa [initWrites, hversion, and_assoc] using h
  obtain ⟨hschema, hbootstrap, hneeds⟩ := hsync
  simp only [legacyRbacNeedsSync, Bool.or_eq_false_iff, Bool.not_eq_false'] at hneeds
  obtain ⟨⟨⟨hmigration, hroles⟩, husers⟩, hshows⟩ := hneeds
  exact ⟨hschema, hbootstrap, hmigration, hroles,
    (userRoleAssignmentsNeedSync_iff hroles).mp husers, hshows⟩

lemma settled_initDb (h : db.userVersion ≤ schemaVersion) : Settled (initDb u db) :=
  settled_of_initWrites (userVersion_initDb h) (initWrites_initDb u db)

lemma initDb_of_not_writes (h : initWrites db = false) : initDb u db = db := by
  rw [initDb, h]
  rfl

lemma listUserRoleIds_assign {row : User} :
    listUserRoleIds (assign db userId row ids) userId = ids.toFinset := by
  rw [assign, listUserRoleIds_replace, if_pos rfl]

/-- Where the role suits the templates, `init_db` has nothing to do after an assignment. -/
lemma initWrites_assign {row : User} (hdb : Settled db) (hsuits : Suits db row.role ids) :
    initWrites (assign db userId row ids) = false := by
  have hroles : roleTemplatesNeedSync (assign db userId row ids) = false := hdb.roles
  have husers : userRoleAssignmentsNeedSync (assign db userId row ids) = false := by
    refine (userRoleAssignmentsNeedSync_iff hroles).mpr fun i row' hrow' =>
      hasLegacyRole_iff.mpr fun name hname => ?_
    have hrow : (db.users.insert userId row)[i]? = some row' := hrow'
    rw [lookup_insert] at hrow
    split_ifs at hrow with hi
    · cases hrow
      obtain ⟨id, hmem, hid⟩ := hsuits name hname
      exact ⟨id, hid, mem_replace.mpr (by simpa [hi] using hmem)⟩
    · obtain ⟨id, hid, hmem⟩ := hasLegacyRole_iff.mp (hdb.users i row' hrow) name hname
      exact ⟨id, hid, mem_replace.mpr (by simpa [hi] using hmem)⟩
  have hmigration : migrationApplied (assign db userId row ids) = true := hdb.migration
  have hshows : showPermissionsNeedSync (assign db userId row ids) = false := hdb.shows
  have hversion : (assign db userId row ids).userVersion = schemaVersion := hdb.version
  have hbootstrap : bootstrapApplied (assign db userId row ids) = true := hdb.bootstrap
  simp [initWrites, legacyRbacNeedsSync, husers, hmigration, hroles, hshows, hversion, hbootstrap]

lemma idOf_congr {d d' : Database ρ} (h : d'.roleTemplates = d.roleTemplates) (name : String) :
    idOf d' name = idOf d name := by
  unfold idOf
  rw [h]

lemma bootstrap_rows (db : Database ρ) : (bootstrap u db).roleTemplates = db.roleTemplates ∧
    ∀ (i : ℤ) (row : User), db.users[i]? = some row → (bootstrap u db).users[i]? = some row := by
  unfold bootstrap
  obtain ⟨settings, heq, -⟩ := foldl_insertSetting (u.stationSettings (u.bootstrapSchema db.rest))
    (ensureDefaultAdmin { db with
      showPermissions := u.migrateShowPermissions db.rest db.showPermissions
      rest := u.bootstrapSchema db.rest })
  have hrest : (ensureDefaultAdmin { db with
      showPermissions := u.migrateShowPermissions db.rest db.showPermissions
      rest := u.bootstrapSchema db.rest }).rest = u.bootstrapSchema db.rest := by
    unfold ensureDefaultAdmin
    split <;> rfl
  dsimp only
  rw [hrest, heq]
  unfold ensureDefaultAdmin
  split
  · exact ⟨rfl, fun _ _ h => h⟩
  · refine ⟨rfl, fun i row h => ?_⟩
    change (db.users.insert (nextId db.users) _)[i]? = some row
    rw [lookup_insert, if_neg, h]
    rintro rfl
    rw [lookup_nextId] at h
    cases h

lemma idOf_sync {d : Database ρ} {name : String} {id : ℤ} (h : idOf d name = some id) :
    idOf (syncIfNeeded d) name = some id := by
  unfold syncIfNeeded
  split
  · have hseed : idOf (seedLegacyRoleTemplates d) name = some id := foldl_idOf h
    exact (idOf_congr rfl name).trans hseed
  · exact h

lemma users_sync (d : Database ρ) : (syncIfNeeded d).users = d.users := by
  have hfold : ∀ (l : List (String × List String)) (d : Database ρ),
      (l.foldl seedTemplate d).users = d.users := by
    intro l
    induction l with
    | nil => exact fun _ => rfl
    | cons a l ih => exact fun d => ih (seedTemplate d a)
  unfold syncIfNeeded
  split
  · exact hfold legacyRoleTemplatePermissions d
  · rfl

/-- `init_db` keeps the ids of the templates, and the users. -/
lemma initDb_rows (db : Database ρ) :
    (∀ name id, idOf db name = some id → idOf (initDb u db) name = some id) ∧
      ∀ (i : ℤ) (row : User), db.users[i]? = some row → (initDb u db).users[i]? = some row := by
  unfold initDb
  split
  case isTrue =>
    obtain ⟨htemplates, husers⟩ := bootstrap_rows (u := u) db
    obtain ⟨settings, heq, -⟩ := complete_eq (u := u) (syncIfNeeded (bootstrap u db))
    rw [heq]
    refine ⟨fun name id h => ?_, fun i row h => ?_⟩
    · exact (idOf_congr rfl name).trans (idOf_sync ((idOf_congr htemplates name).trans h))
    · change (syncIfNeeded (bootstrap u db)).users[i]? = some row
      rw [users_sync]
      exact husers i row h
  case isFalse => exact ⟨fun _ _ h => h, fun _ _ h => h⟩

/-- Where it does not suit them, the next `init_db` assigns another template. -/
lemma suits_of_initDb {row : User} (hdb : Settled db)
    (h : listUserRoleIds (initDb u (assign db userId row ids)) userId = ids.toFinset) :
    Suits db row.role ids := by
  intro name hname
  have hversion : (assign db userId row ids).userVersion ≤ schemaVersion := hdb.version.le
  have hsettled := settled_initDb (u := u) hversion
  obtain ⟨htemplates, husers⟩ := initDb_rows (u := u) (assign db userId row ids)
  obtain ⟨id, hid⟩ := idOf_legacy hdb.roles hname
  have hrow : (assign db userId row ids).users[userId]? = some row := by
    change (db.users.insert userId row)[userId]? = some row
    rw [lookup_insert, if_pos rfl]
  obtain ⟨id', hid', hmem⟩ := hasLegacyRole_iff.mp
    (hsettled.users userId row (husers userId row hrow)) name hname
  rw [htemplates name id hid] at hid'
  cases hid'
  refine ⟨id, ?_, hid⟩
  rw [← List.mem_toFinset, ← h]
  exact Finset.mem_image.mpr ⟨(userId, id), Finset.mem_filter.mpr ⟨hmem, rfl⟩, rfl⟩

/-- **Explicit role assignments stick** where the role of the user suits them, and nowhere else;
and a second call of `init_db` changes nothing. -/
theorem explicit_assignments_stick (u : Upgrade ρ) :
    (∀ db, initDb u (initDb u db) = initDb u db) ∧
    ∀ (db db' : Database ρ) (r : Request) (ids : List ℤ) (userId : ℤ), Reachable u db →
      r.roleTemplateIds = some ids → handle u r db = (.ok userId, db') →
      ((∀ n, listUserRoleIds ((initDb u)^[n] db') userId = ids.toFinset) ↔
        Suits (initDb u db) (r.role (initDb u db)) ids) := by
  refine ⟨fun db => initDb_of_not_writes (initWrites_initDb u db),
    fun db db' r ids userId hreach hids hok => ?_⟩
  obtain ⟨row, hrole, rfl⟩ := handle_assigned hids hok
  rw [← hrole]
  have hdb : Settled (initDb u db) := settled_initDb (userVersion_reachable hreach)
  constructor
  · exact fun h => suits_of_initDb (u := u) hdb (h 1)
  · intro hsuits n
    have hfixed : initDb u (assign (initDb u db) userId row ids) =
        assign (initDb u db) userId row ids := initDb_of_not_writes (initWrites_assign hdb hsuits)
    rw [Function.iterate_fixed hfixed]
    exact listUserRoleIds_assign

/-! ### A fresh database -/

/-- Nothing is there yet. -/
def fresh : Database Unit :=
  ⟨0, ∅, ∅, ∅, ∅, ∅, [], ∅, (), fun i j a b h => by simp at h⟩

def plain : Upgrade Unit := ⟨id, fun _ s => s, fun _ => [], id⟩

def newUser (role : String) (ids : List ℤ) : Request :=
  .createUser ⟨"user", "A user", "pass-1234", role, some ids⟩

lemma handle_of_toOption (h : (handle u r db).1.toOption = some userId) :
    handle u r db = (.ok userId, (handle u r db).2) := by
  cases heq : (handle u r db).1 with
  | error e =>
    rw [heq] at h
    cases h
  | ok i =>
    rw [heq] at h
    cases h
    exact Prod.ext heq rfl

theorem explicit_assignments_stick_viewer :
    (initDb plain (initDb plain fresh) = initDb plain fresh) ∧ ∃ db',
      handle plain (newUser "viewer" [4, 2]) fresh = (.ok 2, db') ∧
        ((∀ n, listUserRoleIds ((initDb plain)^[n] db') 2 = [4, 2].toFinset) ↔
          Suits (initDb plain fresh) "viewer" [4, 2]) := by
  have hok : (handle plain (newUser "viewer" [4, 2]) fresh).1.toOption = some 2 := by
    decide +kernel
  have hhandle := handle_of_toOption hok
  have hstick := explicit_assignments_stick plain
  exact ⟨hstick.1 fresh, _, hhandle, hstick.2 fresh _ _ _ _ ⟨fresh, [], by decide, rfl⟩ rfl hhandle⟩

/-- A viewer who is assigned no template has one after the next `init_db`. -/
theorem explicit_assignment_undone : ¬ ∀ (u : Upgrade Unit) (db db' : Database Unit) (r : Request)
    (ids : List ℤ) (userId : ℤ), Reachable u db → r.roleTemplateIds = some ids →
      handle u r db = (.ok userId, db') →
        ∀ n, listUserRoleIds ((initDb u)^[n] db') userId = ids.toFinset := by
  intro h
  have hok : (handle plain (newUser "viewer" []) fresh).1.toOption = some 2 ∧
      4 ∈ listUserRoleIds (initDb plain (handle plain (newUser "viewer" []) fresh).2) 2 := by
    decide +kernel
  have hhandle := handle_of_toOption hok.1
  have hempty := h plain fresh _ _ _ _ ⟨fresh, [], by decide, rfl⟩ rfl hhandle 1
  rw [Function.iterate_one] at hempty
  rw [hempty] at hok
  simp at hok

end OnAir.RoleAssignments
