import Mathlib.Data.Finset.Image
import OnAir.Table

/-!
The tables of users and roles, and `init_db`, which every request calls before it does anything
else: it brings a database to the schema of the program, seeds a template for each legacy role,
and assigns it to the users that have the role.

Everything else the schema holds is left to a parameter.
-/

namespace OnAir.LegacyRoles

open OnAir.Table

/-! ### Rows -/

structure RoleTemplate where
  name : String
  description : String
  isSystem : Bool
  isActive : Bool
  deriving DecidableEq, Repr

structure User where
  username : String
  displayName : String
  role : String
  isActive : Bool
  deriving DecidableEq, Repr

structure ShowAssignment where
  showId : ℤ
  userId : ℤ
  role : String
  permissionKeysJson : String
  deriving DecidableEq, Repr

/-- The name of a template is `UNIQUE`. -/
def UniqueNames (templates : Table RoleTemplate) : Prop :=
  ∀ (i j : ℤ) (a b : RoleTemplate), templates[i]? = some a → templates[j]? = some b →
    a.name = b.name → i = j

structure Database (ρ : Type) where
  /-- `PRAGMA user_version` -/
  userVersion : ℕ
  systemSettings : Std.ExtTreeMap String String
  users : Table User
  roleTemplates : Table RoleTemplate
  rolePermissions : Finset (ℤ × String)
  userRoles : Finset (ℤ × ℤ)
  showAssignments : List ShowAssignment
  showPermissions : Finset (ℤ × ℤ × String)
  rest : ρ
  uniqueNames : UniqueNames roleTemplates

/-- What `init_db` does to the rest of the schema: `_bootstrap_schema` with the migrations, the
default station with its settings, the credentials and the studios. -/
structure Upgrade (ρ : Type) where
  bootstrapSchema : ρ → ρ
  migrateShowPermissions : ρ → Finset (ℤ × ℤ × String) → Finset (ℤ × ℤ × String)
  stationSettings : ρ → List (String × String)
  complete : ρ → ρ

/-! ### Constants -/

def schemaVersion : ℕ := 14

def schemaBootstrapKey : String := "__schema_bootstrapped__"

def legacyRbacMigrationKey : String := "__legacy_rbac_seeded__"

def globalPermissionKeys : List String :=
  ["stations.view", "stations.create", "stations.edit", "stations.delete", "library.view",
    "library.edit", "playlists.view", "playlists.edit", "ads.view", "ads.edit", "downloads.use",
    "schedule.view", "schedule.edit", "logs.view", "queue.view", "queue.edit", "soundboard.view",
    "soundboard.play", "soundboard.manage", "program.panel.open", "shows.view", "shows.manage",
    "show.assign.manage", "stream.configure_basic", "stream.configure_advanced",
    "stream.failover", "users.manage", "users.reset_password", "roles.manage"]

def showPermissionKeys : List String :=
  ["show.broadcast", "show.queue_edit", "show.jingle_manage", "show.break_control", "show.end",
    "show.guest_manage", "show.guest_record"]

/-- `_LEGACY_ROLE_TEMPLATE_PERMISSIONS`. -/
def legacyRoleTemplatePermissions : List (String × List String) :=
  [("Legacy Admin", globalPermissionKeys),
    ("Legacy DJ", ["stations.view", "library.view", "library.edit", "playlists.view",
      "playlists.edit", "schedule.view", "schedule.edit", "queue.view", "queue.edit",
      "soundboard.view", "soundboard.play", "program.panel.open", "shows.view", "logs.view",
      "stream.configure_basic"]),
    ("Legacy Producer", ["library.view", "library.edit", "playlists.view", "playlists.edit",
      "ads.view", "ads.edit", "schedule.view", "schedule.edit", "queue.view", "queue.edit",
      "program.panel.open", "shows.view", "logs.view"]),
    ("Legacy Viewer", ["stations.view", "library.view", "playlists.view", "ads.view",
      "schedule.view", "queue.view", "shows.view", "logs.view"])]

/-- `_LEGACY_ROLE_TO_TEMPLATE`. -/
def legacyRoleToTemplate (role : String) : Option String :=
  if role = "admin" then some "Legacy Admin"
  else if role = "dj" then some "Legacy DJ"
  else if role = "producer" then some "Legacy Producer"
  else if role = "viewer" then some "Legacy Viewer"
  else none

/-- `_LEGACY_SHOW_ROLE_PERMISSIONS`. -/
def legacyShowRolePermissions (role : String) : List String :=
  if role = "dj" then ["show.broadcast", "show.queue_edit", "show.jingle_manage",
    "show.break_control", "show.end"]
  else if role = "producer" then ["show.queue_edit", "show.jingle_manage", "show.break_control"]
  else []

/-- `DEFAULT_SYSTEM_SETTINGS`. -/
def defaultSystemSettings : List (String × String) :=
  [("ui_language", "en-US"), ("default_crossfade_seconds", "3.0"),
    ("operation_logs_enabled", "true"), ("auto_scan_on_startup", "false"),
    ("display_brand_name", "RadioTEDU OnAir"), ("active_station_id", "1"),
    ("speaker_monitor_station_id", "1")]

variable {ρ : Type}

/-! ### Reading -/

section Reading

variable (db : Database ρ)

/-- The id of the template with a name. -/
def idOf (name : String) : Option ℤ :=
  ((rows db.roleTemplates).find? fun r => r.2.name = name).map Prod.fst

/-- `RbacRepository.list_role_permissions`. -/
def listRolePermissions (id : ℤ) : Finset String :=
  (db.rolePermissions.filter fun p => p.1 = id).image Prod.snd

/-- `RbacRepository.list_user_role_ids`. -/
def listUserRoleIds (userId : ℤ) : Finset ℤ :=
  (db.userRoles.filter fun p => p.1 = userId).image Prod.snd

/-- `RbacRepository.list_show_permissions`. -/
def listShowPermissions (showId userId : ℤ) : Finset String :=
  (db.showPermissions.filter fun p => p.1 = showId ∧ p.2.1 = userId).image fun p => p.2.2

/-- `_legacy_rbac_migration_applied`. -/
def migrationApplied : Bool := db.systemSettings[legacyRbacMigrationKey]?.isSome

/-- `_schema_bootstrap_applied`. -/
def bootstrapApplied : Bool :=
  db.systemSettings[schemaBootstrapKey]? = some (toString schemaVersion)

/-- The row of a legacy template. -/
def systemTemplate (name : String) : RoleTemplate :=
  ⟨name, s!"{name} compatibility template", true, true⟩

/-- The template is there as it is seeded. -/
def seeded (name : String) (keys : List String) : Bool :=
  match idOf db name with
  | none => false
  | some id => db.roleTemplates[id]? = some (systemTemplate name) &&
      listRolePermissions db id = keys.toFinset

/-- `_legacy_role_templates_need_sync`. -/
def roleTemplatesNeedSync : Bool :=
  legacyRoleTemplatePermissions.any fun t => !seeded db t.1 t.2

/-- The template of the user's role is assigned to the user, if the role is a legacy one. -/
def hasLegacyRole (userId : ℤ) (u : User) : Bool :=
  match legacyRoleToTemplate u.role with
  | none => true
  | some name => (idOf db name).any fun id => (userId, id) ∈ db.userRoles

/-- `_legacy_user_role_assignments_need_sync`. -/
def userRoleAssignmentsNeedSync : Bool :=
  (legacyRoleTemplatePermissions.any fun t => (idOf db t.1).isNone) ||
    (rows db.users).any fun u => !hasLegacyRole db u.1 u.2

/-- `_legacy_show_assignment_permissions_need_sync`. -/
def showPermissionsNeedSync : Bool :=
  db.showAssignments.any fun a => a.permissionKeysJson = "" &&
    !(legacyShowRolePermissions a.role).all fun key =>
      key ∈ listShowPermissions db a.showId a.userId

/-- `_legacy_rbac_needs_sync`. -/
def legacyRbacNeedsSync : Bool :=
  !migrationApplied db || roleTemplatesNeedSync db || userRoleAssignmentsNeedSync db ||
    showPermissionsNeedSync db

end Reading

/-! ### Writing -/

lemma idOf_eq {db : Database ρ} {id : ℤ} {t : RoleTemplate} (h : db.roleTemplates[id]? = some t) :
    idOf db t.name = some id := by
  cases hfind : (rows db.roleTemplates).find? fun r => r.2.name = t.name with
  | none =>
    have hnone := List.find?_eq_none.mp hfind (id, t) (mem_rows.mpr h)
    simp at hnone
  | some r =>
    have hname := List.find?_some hfind
    have hmem := mem_rows.mp (List.mem_of_find?_eq_some hfind)
    rw [idOf, hfind, Option.map_some,
      db.uniqueNames r.1 id r.2 t hmem h (of_decide_eq_true hname)]

lemma idOf_eq_some {db : Database ρ} {id : ℤ} {name : String} :
    idOf db name = some id ↔ ∃ t, db.roleTemplates[id]? = some t ∧ t.name = name := by
  constructor
  · intro h
    obtain ⟨r, hr, rfl⟩ := Option.map_eq_some_iff.mp h
    have hname := List.find?_some hr
    exact ⟨r.2, mem_rows.mp (List.mem_of_find?_eq_some hr), of_decide_eq_true hname⟩
  · rintro ⟨t, ht, rfl⟩
    exact idOf_eq ht

/-- A template is written where no other one has its name. -/
def putTemplate (db : Database ρ) (id : ℤ) (t : RoleTemplate)
    (h : idOf db t.name = none ∨ idOf db t.name = some id) : Database ρ :=
  { db with
    roleTemplates := db.roleTemplates.insert id t
    uniqueNames := by
      have hother : ∀ (j : ℤ) (b : RoleTemplate), db.roleTemplates[j]? = some b →
          b.name = t.name → j = id := by
        intro j b hb hname
        have hid := idOf_eq hb
        rw [hname] at hid
        obtain hnone | hsome := h
        · rw [hnone] at hid
          cases hid
        · exact Option.some.inj (hid.symm.trans hsome)
      intro i j a b ha hb hname
      rw [lookup_insert] at ha hb
      split_ifs at ha hb with hi hj hj
      · rw [hi, hj]
      · cases ha
        rw [hi, hother j b hb hname.symm]
      · cases hb
        rw [hj, hother i a ha hname]
      · exact db.uniqueNames i j a b ha hb hname }

/-- `RbacRepository.replace_role_permissions`. -/
def replaceRolePermissions (id : ℤ) (keys : Finset String) (db : Database ρ) : Database ρ :=
  { db with
    rolePermissions := db.rolePermissions.filter (fun p => p.1 ≠ id) ∪ keys.image (Prod.mk id) }

/-- The id of the template with a name, or of a new one. -/
def seedId (db : Database ρ) (name : String) : ℤ := (idOf db name).getD (nextId db.roleTemplates)

lemma idOf_seedId (db : Database ρ) (name : String) :
    idOf db name = none ∨ idOf db name = some (seedId db name) := by
  unfold seedId
  cases idOf db name <;> simp

/-- One round of `_seed_legacy_role_templates`. -/
def seedTemplate (db : Database ρ) (t : String × List String) : Database ρ :=
  replaceRolePermissions (seedId db t.1) t.2.toFinset
    (putTemplate db (seedId db t.1) (systemTemplate t.1) (idOf_seedId db t.1))

/-- `_seed_legacy_role_templates`. -/
def seedLegacyRoleTemplates (db : Database ρ) : Database ρ :=
  legacyRoleTemplatePermissions.foldl seedTemplate db

/-- `_backfill_user_role_assignments`. -/
def backfillUserRoleAssignments (db : Database ρ) : Database ρ :=
  { db with
    userRoles := db.userRoles ∪ ((rows db.users).filterMap fun u =>
      ((legacyRoleToTemplate u.2.role).bind (idOf db)).map (Prod.mk u.1)).toFinset }

/-- `_backfill_show_assignment_permissions`. -/
def backfillShowAssignmentPermissions (db : Database ρ) : Database ρ :=
  { db with
    showPermissions := db.showPermissions ∪ (db.showAssignments.flatMap fun a =>
      if a.permissionKeysJson = "" then
        ((legacyShowRolePermissions a.role).filter (· ∈ showPermissionKeys)).map fun key =>
          (a.showId, a.userId, key)
      else []).toFinset }

/-- `INSERT OR IGNORE INTO system_settings`. -/
def insertSetting (db : Database ρ) (s : String × String) : Database ρ :=
  { db with systemSettings := db.systemSettings.insertIfNew s.1 s.2 }

/-- `_sync_legacy_rbac`. -/
def syncLegacyRbac (db : Database ρ) : Database ρ :=
  insertSetting (backfillShowAssignmentPermissions (backfillUserRoleAssignments
    (seedLegacyRoleTemplates db))) (legacyRbacMigrationKey, "1")

/-- `_ensure_default_admin`. -/
def ensureDefaultAdmin (db : Database ρ) : Database ρ :=
  if (rows db.users).any fun u => u.2.username = "admin" then db
  else
    { db with
      users := db.users.insert (nextId db.users) ⟨"admin", "Administrator", "admin", true⟩ }

/-- `_mark_schema_bootstrap_applied`, and the version. -/
def markApplied (db : Database ρ) : Database ρ :=
  { db with
    systemSettings := db.systemSettings.insert schemaBootstrapKey (toString schemaVersion)
    userVersion := schemaVersion }

variable (u : Upgrade ρ)

/-- `init_db` up to the roles. -/
def bootstrap (db : Database ρ) : Database ρ :=
  let db := ensureDefaultAdmin { db with
    showPermissions := u.migrateShowPermissions db.rest db.showPermissions
    rest := u.bootstrapSchema db.rest }
  (u.stationSettings db.rest).foldl insertSetting db

/-- `init_db` from the roles on. -/
def complete (db : Database ρ) : Database ρ :=
  markApplied (defaultSystemSettings.foldl insertSetting { db with rest := u.complete db.rest })

def syncIfNeeded (db : Database ρ) : Database ρ :=
  if legacyRbacNeedsSync db then syncLegacyRbac db else db

/-- A call of `init_db` writes. -/
def initWrites (db : Database ρ) : Bool :=
  decide (db.userVersion ≤ schemaVersion) &&
    !(decide (db.userVersion = schemaVersion) && bootstrapApplied db && !legacyRbacNeedsSync db)

/-- `init_db`. -/
def initDb (db : Database ρ) : Database ρ :=
  if initWrites db then complete u (syncIfNeeded (bootstrap u db)) else db

/-! ### Seeding -/

variable {u} {db : Database ρ} {id : ℤ} {name : String} {t : String × List String}

lemma seeded_iff {keys : List String} : seeded db name keys = true ↔ ∃ id,
    db.roleTemplates[id]? = some (systemTemplate name) ∧
      listRolePermissions db id = keys.toFinset := by
  unfold seeded
  constructor
  · intro h
    split at h
    · cases h
    · rename_i id hid
      obtain ⟨hrow, hkeys⟩ := Bool.and_eq_true_iff.mp h
      exact ⟨id, of_decide_eq_true hrow, of_decide_eq_true hkeys⟩
  · rintro ⟨id, hrow, hkeys⟩
    have hid : idOf db name = some id := idOf_eq_some.mpr ⟨_, hrow, rfl⟩
    simp [hid, hrow, hkeys]

lemma listRolePermissions_replace (i : ℤ) (keys : Finset String) :
    listRolePermissions (replaceRolePermissions id keys db) i =
      if i = id then keys else listRolePermissions db i := by
  ext key
  simp only [listRolePermissions, replaceRolePermissions, Finset.mem_image, Finset.mem_filter,
    Finset.mem_union]
  split_ifs with h
  · subst h
    aesop
  · aesop

lemma seedTemplate_rows (i : ℤ) : (seedTemplate db t).roleTemplates[i]? =
    if i = seedId db t.1 then some (systemTemplate t.1) else db.roleTemplates[i]? :=
  lookup_insert ..

lemma seedTemplate_permissions (i : ℤ) : listRolePermissions (seedTemplate db t) i =
    if i = seedId db t.1 then t.2.toFinset else listRolePermissions db i :=
  listRolePermissions_replace ..

lemma seedTemplate_seeded : seeded (seedTemplate db t) t.1 t.2 = true :=
  seeded_iff.mpr ⟨seedId db t.1, by rw [seedTemplate_rows, if_pos rfl],
    by rw [seedTemplate_permissions, if_pos rfl]⟩

/-- A row of another name is not the one that is seeded. -/
lemma ne_seedId {r : RoleTemplate} (hr : db.roleTemplates[id]? = some r) (hne : r.name ≠ name) :
    id ≠ seedId db name := by
  rintro rfl
  unfold seedId at hr
  cases hid : idOf db name with
  | none =>
    rw [hid, Option.getD_none, lookup_nextId] at hr
    cases hr
  | some j =>
    rw [hid, Option.getD_some] at hr
    obtain ⟨r', hr', hname⟩ := idOf_eq_some.mp hid
    rw [hr] at hr'
    cases hr'
    exact hne hname

lemma seedTemplate_keeps {keys : List String} (hne : name ≠ t.1) (h : seeded db name keys = true) :
    seeded (seedTemplate db t) name keys = true := by
  obtain ⟨id, hrow, hkeys⟩ := seeded_iff.mp h
  have hid : id ≠ seedId db t.1 := ne_seedId hrow hne
  exact seeded_iff.mpr ⟨id, by rw [seedTemplate_rows, if_neg hid, hrow],
    by rw [seedTemplate_permissions, if_neg hid, hkeys]⟩

/-- Seeding keeps the ids of the templates that are there. -/
lemma seedTemplate_idOf (h : idOf db name = some id) : idOf (seedTemplate db t) name = some id := by
  obtain ⟨r, hr, rfl⟩ := idOf_eq_some.mp h
  obtain heq | hne := eq_or_ne r.name t.1
  · have hid : id = seedId db t.1 := by rw [seedId, ← heq, h, Option.getD_some]
    exact idOf_eq_some.mpr ⟨systemTemplate t.1, by rw [seedTemplate_rows, if_pos hid], heq.symm⟩
  · exact idOf_eq_some.mpr ⟨r, by rw [seedTemplate_rows, if_neg (ne_seedId hr hne), hr], rfl⟩

/-- **Every template that is seeded stays so**, while the others of a list are. -/
theorem foldl_seeded {l : List (String × List String)} (hl : (l.map Prod.fst).Nodup) :
    ∀ {db : Database ρ}, ∀ t ∈ l, seeded (l.foldl seedTemplate db) t.1 t.2 = true := by
  have hkeeps : ∀ {l : List (String × List String)} {db : Database ρ} {t : String × List String},
      t.1 ∉ l.map Prod.fst → seeded db t.1 t.2 = true →
        seeded (l.foldl seedTemplate db) t.1 t.2 = true := by
    intro l
    induction l with
    | nil => exact fun _ h => h
    | cons a l ih =>
      intro db t hnot h
      rw [List.map_cons, List.mem_cons, not_or] at hnot
      exact ih hnot.2 (seedTemplate_keeps hnot.1 h)
  induction l with
  | nil => simp
  | cons a l ih =>
    intro db t ht
    obtain ⟨hnot, hnodup⟩ := List.nodup_cons.mp hl
    obtain rfl | ht := List.mem_cons.mp ht
    · exact hkeeps (l := l) hnot seedTemplate_seeded
    · exact ih hnodup t ht

lemma foldl_idOf {l : List (String × List String)} (h : idOf db name = some id) :
    idOf (l.foldl seedTemplate db) name = some id := by
  induction l generalizing db with
  | nil => exact h
  | cons a l ih => exact ih (seedTemplate_idOf h)

/-! ### After a synchronisation nothing is to be done -/

lemma roleTemplatesNeedSync_iff : roleTemplatesNeedSync db = false ↔
    ∀ t ∈ legacyRoleTemplatePermissions, seeded db t.1 t.2 = true := by
  simp only [roleTemplatesNeedSync, List.any_eq_false, Bool.not_eq_true', Bool.not_eq_false]

lemma roleTemplates_seeded (db : Database ρ) :
    roleTemplatesNeedSync (seedLegacyRoleTemplates db) = false :=
  roleTemplatesNeedSync_iff.mpr fun t ht => foldl_seeded (by decide) t ht

lemma seeded_congr {db' : Database ρ} {keys : List String}
    (ht : db'.roleTemplates = db.roleTemplates) (hp : db'.rolePermissions = db.rolePermissions) :
    seeded db' name keys = seeded db name keys := by
  have hid : idOf db' name = idOf db name := by simp only [idOf, ht]
  have hkeys : listRolePermissions db' = listRolePermissions db := by
    funext id
    unfold listRolePermissions
    rw [hp]
  unfold seeded
  rw [hid]
  cases idOf db name with
  | none => rfl
  | some id => rw [ht, hkeys]

/-- The check of the templates reads the two tables of the templates. -/
lemma roleTemplatesNeedSync_congr {db' : Database ρ} (ht : db'.roleTemplates = db.roleTemplates)
    (hp : db'.rolePermissions = db.rolePermissions) :
    roleTemplatesNeedSync db' = roleTemplatesNeedSync db := by
  simp only [roleTemplatesNeedSync, seeded_congr ht hp]

lemma idOf_of_seeded {keys : List String} (h : seeded db name keys = true) :
    ∃ id, idOf db name = some id := by
  obtain ⟨id, hrow, -⟩ := seeded_iff.mp h
  exact ⟨id, idOf_eq_some.mpr ⟨_, hrow, rfl⟩⟩

lemma legacy_name {role : String} (h : legacyRoleToTemplate role = some name) :
    ∃ keys, (name, keys) ∈ legacyRoleTemplatePermissions := by
  have hname : name ∈ legacyRoleTemplatePermissions.map Prod.fst := by
    unfold legacyRoleToTemplate at h
    split_ifs at h <;>
      · cases h
        decide
  obtain ⟨t, ht, rfl⟩ := List.mem_map.mp hname
  exact ⟨t.2, ht⟩

/-- Where the templates are seeded, every legacy role has its id. -/
lemma idOf_legacy (h : roleTemplatesNeedSync db = false) {role : String}
    (hrole : legacyRoleToTemplate role = some name) : ∃ id, idOf db name = some id := by
  obtain ⟨keys, hmem⟩ := legacy_name hrole
  exact idOf_of_seeded (roleTemplatesNeedSync_iff.mp h _ hmem)

lemma hasLegacyRole_iff {userId : ℤ} {r : User} : hasLegacyRole db userId r = true ↔
    ∀ name, legacyRoleToTemplate r.role = some name →
      ∃ id, idOf db name = some id ∧ (userId, id) ∈ db.userRoles := by
  unfold hasLegacyRole
  cases h : legacyRoleToTemplate r.role with
  | none => simp
  | some name =>
    constructor
    · intro hany name' heq
      cases heq
      obtain ⟨id, hid, hmem⟩ := (Option.any_eq_true ..).mp hany
      exact ⟨id, hid, of_decide_eq_true hmem⟩
    · intro hall
      obtain ⟨id, hid, hmem⟩ := hall name rfl
      simp [hid, hmem]

lemma userRoleAssignmentsNeedSync_iff (h : roleTemplatesNeedSync db = false) :
    userRoleAssignmentsNeedSync db = false ↔
      ∀ (userId : ℤ) (r : User), db.users[userId]? = some r → hasLegacyRole db userId r = true := by
  have hnames : (legacyRoleTemplatePermissions.any fun t => (idOf db t.1).isNone) = false := by
    refine List.any_eq_false.mpr fun t ht => ?_
    obtain ⟨id, hid⟩ := idOf_of_seeded (roleTemplatesNeedSync_iff.mp h t ht)
    simp [hid]
  rw [userRoleAssignmentsNeedSync, hnames, Bool.false_or, List.any_eq_false]
  constructor
  · intro hall userId r hr
    simpa using hall (userId, r) (mem_rows.mpr hr)
  · intro hall r hr
    simp [hall r.1 r.2 (mem_rows.mp hr)]

lemma userRoles_backfilled (h : roleTemplatesNeedSync db = false) :
    userRoleAssignmentsNeedSync (backfillUserRoleAssignments db) = false := by
  have hroles : roleTemplatesNeedSync (backfillUserRoleAssignments db) = false :=
    (roleTemplatesNeedSync_congr rfl rfl).trans h
  refine (userRoleAssignmentsNeedSync_iff hroles).mpr fun userId r hr =>
    hasLegacyRole_iff.mpr fun name hname => ?_
  obtain ⟨id, hid⟩ := idOf_legacy h hname
  refine ⟨id, hid, Finset.mem_union_right _ (List.mem_toFinset.mpr (List.mem_filterMap.mpr
    ⟨(userId, r), mem_rows.mpr hr, ?_⟩))⟩
  simp [hname, hid]

lemma showKeys_subset (role : String) :
    ∀ key ∈ legacyShowRolePermissions role, key ∈ showPermissionKeys := by
  unfold legacyShowRolePermissions
  split_ifs <;> decide

lemma showPermissions_backfilled (db : Database ρ) :
    showPermissionsNeedSync (backfillShowAssignmentPermissions db) = false := by
  refine List.any_eq_false.mpr fun a ha => ?_
  obtain hjson | hjson := eq_or_ne a.permissionKeysJson ""
  · suffices hall : ∀ key ∈ legacyShowRolePermissions a.role,
        key ∈ listShowPermissions (backfillShowAssignmentPermissions db) a.showId a.userId by
      simpa [hjson] using hall
    intro key hkey
    refine Finset.mem_image.mpr ⟨(a.showId, a.userId, key), Finset.mem_filter.mpr ⟨?_, rfl, rfl⟩,
      rfl⟩
    refine Finset.mem_union_right _ (List.mem_toFinset.mpr (List.mem_flatMap.mpr ⟨a, ha, ?_⟩))
    rw [if_pos hjson]
    exact List.mem_map.mpr ⟨key, List.mem_filter.mpr ⟨hkey, by simp [showKeys_subset a.role key
      hkey]⟩, rfl⟩
  · simp [hjson]

lemma insertSetting_present {s : String × String} {key : String}
    (h : db.systemSettings[key]?.isSome) : (insertSetting db s).systemSettings[key]?.isSome := by
  simp only [insertSetting, Std.ExtTreeMap.getElem?_insertIfNew]
  split_ifs <;> simp [h]

lemma insertSetting_self (s : String × String) :
    (insertSetting db s).systemSettings[s.1]?.isSome := by
  simp only [insertSetting, Std.ExtTreeMap.getElem?_insertIfNew]
  by_cases h : s.1 ∈ db.systemSettings
  · rw [if_neg fun hnot => hnot.2 h]
    exact Std.ExtTreeMap.mem_iff_isSome_getElem?.mp h
  · rw [if_pos ⟨Std.ReflCmp.compare_self, h⟩]
    rfl

/-- The check of the assignments reads the users, the templates and the assignments. -/
lemma userRolesNeedSync_congr {db' : Database ρ} (hu : db'.users = db.users)
    (ht : db'.roleTemplates = db.roleTemplates) (hr : db'.userRoles = db.userRoles) :
    userRoleAssignmentsNeedSync db' = userRoleAssignmentsNeedSync db := by
  have hid : idOf db' = idOf db := by
    funext name
    simp only [idOf, ht]
  have hhas : hasLegacyRole db' = hasLegacyRole db := by
    funext userId r
    unfold hasLegacyRole
    cases legacyRoleToTemplate r.role with
    | none => rfl
    | some name => simp only [hid, hr]
  simp only [userRoleAssignmentsNeedSync, hid, hhas, hu]

lemma showPermissionsNeedSync_congr {db' : Database ρ}
    (ha : db'.showAssignments = db.showAssignments)
    (hp : db'.showPermissions = db.showPermissions) :
    showPermissionsNeedSync db' = showPermissionsNeedSync db := by
  unfold showPermissionsNeedSync listShowPermissions
  rw [ha, hp]

lemma backfilled_needs_no_sync (h : roleTemplatesNeedSync db = false) :
    legacyRbacNeedsSync (insertSetting (backfillShowAssignmentPermissions
      (backfillUserRoleAssignments db)) (legacyRbacMigrationKey, "1")) = false := by
  have husers := userRoles_backfilled h
  have hshows := showPermissions_backfilled (backfillUserRoleAssignments db)
  simp only [legacyRbacNeedsSync, Bool.or_eq_false_iff, Bool.not_eq_false']
  exact ⟨⟨⟨insertSetting_self _, (roleTemplatesNeedSync_congr rfl rfl).trans h⟩,
    (userRolesNeedSync_congr rfl rfl rfl).trans husers⟩,
    (showPermissionsNeedSync_congr rfl rfl).trans hshows⟩

/-- **After a synchronisation** none of the four checks asks for another one. -/
theorem sync_needs_no_sync : legacyRbacNeedsSync (syncLegacyRbac db) = false :=
  backfilled_needs_no_sync (roleTemplates_seeded db)

/-! ### `init_db` once more -/

lemma foldl_insertSetting (l : List (String × String)) (db : Database ρ) :
    ∃ settings, l.foldl insertSetting db = { db with systemSettings := settings } ∧
      ∀ key : String, db.systemSettings[key]?.isSome → settings[key]?.isSome := by
  induction l generalizing db with
  | nil => exact ⟨_, rfl, fun _ h => h⟩
  | cons s l ih =>
    obtain ⟨settings, heq, hpresent⟩ := ih (insertSetting db s)
    exact ⟨settings, heq, fun key h => hpresent key (insertSetting_present h)⟩

/-- The end of `init_db` leaves users and roles alone. -/
lemma complete_eq (db : Database ρ) : ∃ settings : Std.ExtTreeMap String String,
    complete u db = { db with
      rest := u.complete db.rest
      systemSettings := settings
      userVersion := schemaVersion } ∧
    settings[schemaBootstrapKey]? = some (toString schemaVersion) ∧
      ∀ key : String, db.systemSettings[key]?.isSome → settings[key]?.isSome := by
  obtain ⟨settings, heq, hpresent⟩ := foldl_insertSetting defaultSystemSettings
    { db with rest := u.complete db.rest }
  refine ⟨settings.insert schemaBootstrapKey (toString schemaVersion), ?_, ?_, fun key h => ?_⟩
  · rw [complete, heq, markApplied]
  · simp
  · rw [Std.ExtTreeMap.getElem?_insert]
    split_ifs
    · rfl
    · exact hpresent key h

lemma syncIfNeeded_needs_no_sync (db : Database ρ) :
    legacyRbacNeedsSync (syncIfNeeded db) = false := by
  unfold syncIfNeeded
  split
  case isTrue => exact sync_needs_no_sync
  case isFalse h => simpa using h

lemma complete_needs_no_sync (h : legacyRbacNeedsSync db = false) :
    legacyRbacNeedsSync (complete u db) = false := by
  obtain ⟨settings, heq, -, hpresent⟩ := complete_eq (u := u) db
  simp only [legacyRbacNeedsSync, Bool.or_eq_false_iff, Bool.not_eq_false'] at h ⊢
  obtain ⟨⟨⟨hmigration, hroles⟩, husers⟩, hshows⟩ := h
  rw [heq]
  exact ⟨⟨⟨hpresent _ hmigration, (roleTemplatesNeedSync_congr rfl rfl).trans hroles⟩,
    (userRolesNeedSync_congr rfl rfl rfl).trans husers⟩,
    (showPermissionsNeedSync_congr rfl rfl).trans hshows⟩

variable (u) in
/-- **A second call of `init_db`** finds nothing to write. -/
theorem initWrites_initDb (db : Database ρ) : initWrites (initDb u db) = false := by
  unfold initDb
  split
  case isTrue =>
    obtain ⟨settings, heq, happlied, -⟩ := complete_eq (u := u) (syncIfNeeded (bootstrap u db))
    have hsync := complete_needs_no_sync (u := u) (syncIfNeeded_needs_no_sync (bootstrap u db))
    have hversion : (complete u (syncIfNeeded (bootstrap u db))).userVersion = schemaVersion := by
      rw [heq]
    have hbootstrap : bootstrapApplied (complete u (syncIfNeeded (bootstrap u db))) = true := by
      rw [heq]
      exact decide_eq_true happlied
    simp [initWrites, hsync, hversion, hbootstrap]
  case isFalse h => simpa using h

/-- **A restart changes nothing.** The next `init_db` leaves the database as the first one did. -/
theorem initDb_restart (u' : Upgrade ρ) (db : Database ρ) :
    initDb u' (initDb u db) = initDb u db := by
  rw [initDb.eq_def u', initWrites_initDb]
  rfl

end OnAir.LegacyRoles
