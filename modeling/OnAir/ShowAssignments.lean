import Mathlib.Data.Finset.Sort
import OnAir.Json
import OnAir.RoleAssignments

/-!
The users of a show and what each of them may do in it: the requests that assign a user to a show
and take the user off it, and the two places in which the permissions are kept.

An explicit set of keys is written into the row of the assignment, as a JSON text, and into the
table of show permissions. Requests are allowed by the table alone. The API displays the text,
where there is one, and the table where there is none; only then does `init_db` add the keys of the
role to the table.
-/

namespace OnAir.ShowAssignments

open LegacyRoles PythonText RoleAssignments OnAir.Table

/-! ### The text of the keys -/

/-- The texts after the first one, with a space after each comma. -/
def writeTexts : List String → List Char
  | [] => [']']
  | s :: ss => ',' :: ' ' :: (Json.writeStr true s ++ writeTexts ss)

/-- `json.dumps` of a list of texts. -/
def dumpsTexts : List String → String
  | [] => "[]"
  | s :: ss => String.ofList ('[' :: (Json.writeStr true s ++ writeTexts ss))

/-- `json.dumps(sorted(permission_keys))`. -/
def dumpsKeys (keys : Finset String) : String := dumpsTexts (keys.sort (· ≤ ·))

/-- `str(permission).strip()` for each, without the empty ones. -/
def strippedKeys (keys : List String) : Finset String :=
  ((keys.map trim).filter (· ≠ "")).toFinset

/-- The keys in a text; no code writes one that is not a list of texts. -/
def storedKeys (raw : String) : Finset String :=
  match Json.loads raw with
  | some (.arr xs) => strippedKeys (xs.filterMap Json.Value.text)
  | _ => ∅

lemma readVal_text {n : ℕ} (h : 0 < n) (s : String) (r : List Char) :
    Json.readVal n (Json.writeStr true s ++ r) = some (.str s, r) := by
  obtain ⟨m, rfl⟩ := Nat.exists_eq_succ_of_ne_zero h.ne'
  simp [Json.writeStr, Json.readVal, Json.readStr_flatMap]

lemma skipWs_writeStr (s : String) (r : List Char) :
    Json.skipWs (Json.writeStr true s ++ r) = Json.writeStr true s ++ r :=
  Json.skipWs_cons _ (by decide)

lemma skipWs_writeTexts (ss : List String) : Json.skipWs (writeTexts ss) = writeTexts ss := by
  cases ss <;> exact Json.skipWs_cons _ (by decide)

lemma readElems_writeTexts : ∀ (ss : List String) (n : ℕ), ss.length < n →
    Json.readElems n (writeTexts ss) = some (ss.map .str, [])
  | _, 0, h => absurd h (Nat.not_lt_zero _)
  | [], n + 1, _ => rfl
  | s :: ss, n + 1, h => by
    have hlen : ss.length < n := Nat.lt_of_succ_lt_succ h
    have hrest := readElems_writeTexts ss n hlen
    have hspace : Json.skipWs (' ' :: (Json.writeStr true s ++ writeTexts ss)) =
        Json.writeStr true s ++ writeTexts ss := by
      rw [Json.skipWs, if_pos (.inl rfl), skipWs_writeStr]
    simp [writeTexts, Json.readElems, hspace, readVal_text (Nat.zero_lt_of_lt hlen),
      skipWs_writeTexts, hrest]

lemma length_writeTexts (ss : List String) : ss.length < (writeTexts ss).length := by
  induction ss with
  | nil => simp [writeTexts]
  | cons s ss ih =>
    simp only [writeTexts, List.length_cons, List.length_append]
    omega

lemma readVal_texts {n : ℕ} (s : String) {ss : List String} (h : ss.length < n) :
    Json.readVal (n + 1) ('[' :: (Json.writeStr true s ++ writeTexts ss)) =
      some (.arr (.str s :: ss.map .str), []) := by
  have hval := readVal_text (Nat.zero_lt_of_lt h) s (writeTexts ss)
  have hskip := skipWs_writeStr s (writeTexts ss)
  have hrest := readElems_writeTexts ss n h
  rw [Json.readVal]
  split
  case h_1 heq =>
    rw [hskip] at heq
    simp [Json.writeStr] at heq
  case h_2 => simp [hskip, hval, skipWs_writeTexts, hrest]

/-- **The text of a list of texts** is read as that list. -/
theorem loads_dumpsTexts (ss : List String) :
    Json.loads (dumpsTexts ss) = some (.arr (ss.map .str)) := by
  cases ss with
  | nil => rfl
  | cons s ss =>
    have hlen : ss.length < (dumpsTexts (s :: ss)).length := by
      have := length_writeTexts ss
      simp [dumpsTexts]
      omega
    have hval := readVal_texts s hlen
    have hskip : Json.skipWs (dumpsTexts (s :: ss)).toList = (dumpsTexts (s :: ss)).toList := by
      simp [dumpsTexts, Json.skipWs]
    unfold Json.loads
    rw [hskip]
    simp [dumpsTexts] at hval ⊢
    simp [hval, Json.skipWs]

/-! ### Requests -/

/-- `_normalize_permission_keys` of the shows API. -/
def normalizePermissionKeys (keys : List String) : Except HTTPException (Finset String) :=
  match first ((strippedKeys keys).filter (· ∉ showPermissionKeys)) with
  | some key => .error ⟨400, s!"Invalid permission key: {key}"⟩
  | none => .ok (strippedKeys keys)

lemma normalizePermissionKeys_ok {keys : List String} {normalized : Finset String}
    (h : normalizePermissionKeys keys = .ok normalized) :
    normalized = strippedKeys keys ∧ ∀ key ∈ normalized, key ∈ showPermissionKeys := by
  unfold normalizePermissionKeys at h
  split at h
  · cases h
  · rename_i hfirst
    cases h
    refine ⟨rfl, fun key hkey => ?_⟩
    by_contra hnot
    have hempty := Finset.min_eq_top.mp hfirst
    exact Finset.notMem_empty key (hempty ▸ Finset.mem_filter.mpr ⟨hkey, hnot⟩)

structure AssignPayload where
  userId : ℤ
  role : String
  /-- `none` where the field is not set -/
  permissionKeys : Option (List String)
  deriving DecidableEq, Repr

def AssignPayload.keys (p : AssignPayload) : Except HTTPException (Option (Finset String)) :=
  match p.permissionKeys with
  | none => .ok none
  | some keys => (normalizePermissionKeys keys).map some

/-- An assignment as the API displays it; the keys are sorted. -/
structure AssignmentView where
  showId : ℤ
  userId : ℤ
  role : String
  username : String
  permissionKeys : Finset String
  deriving DecidableEq

variable {ρ : Type}

/-- `_assignment_permission_keys`. -/
def assignmentPermissionKeys (db : Database ρ) (a : ShowAssignment) : Finset String :=
  if a.permissionKeysJson = "" then listShowPermissions db a.showId a.userId
  else storedKeys a.permissionKeysJson

/-- `_serialize_assignments`: by role, then by name. -/
def serializeAssignments (db : Database ρ) (showId : ℤ) : List AssignmentView :=
  ((db.showAssignments.filter (·.showId = showId)).filterMap fun a =>
    (db.users[a.userId]?).map fun row =>
      ⟨a.showId, a.userId, a.role, row.username, assignmentPermissionKeys db a⟩).insertionSort
    fun v w => v.role < w.role ∨ v.role = w.role ∧ v.username ≤ w.username

/-- `RbacRepository.list_user_show_permissions`: a show that the user is assigned to, and the
permissions in it. -/
def listUserShowPermissions (db : Database ρ) (userId : ℤ) : List (ℤ × Finset String) :=
  (db.showAssignments.filter (·.userId = userId)).map fun a =>
    (a.showId, listShowPermissions db a.showId userId)

/-- `ShowRepository.assign`; a new row refers to a user that exists. -/
def assign (showId userId : ℤ) (role : String) (keys : Option (Finset String)) (db : Database ρ) :
    Except HTTPException (Database ρ) :=
  let isRow (a : ShowAssignment) : Bool := a.showId = showId ∧ a.userId = userId
  if db.showAssignments.any isRow then
    .ok { db with
      showAssignments := db.showAssignments.map fun a =>
        if isRow a then
          { a with role := role, permissionKeysJson := keys.elim a.permissionKeysJson dumpsKeys }
        else a }
  else if (db.users[userId]?).isSome then
    .ok { db with
      showAssignments := db.showAssignments ++ [⟨showId, userId, role, keys.elim "" dumpsKeys⟩] }
  else .error ⟨500, "Internal Server Error"⟩

/-- `RbacRepository.replace_show_permissions`. -/
def replaceShowPermissions (showId userId : ℤ) (keys : Finset String) (db : Database ρ) :
    Database ρ :=
  { db with
    showPermissions := db.showPermissions.filter (fun p => ¬ (p.1 = showId ∧ p.2.1 = userId)) ∪
      keys.image fun key => (showId, userId, key) }

/-- `ShowRepository.unassign`: the permissions refer to the row, and go with it. -/
def unassign (showId userId : ℤ) (db : Database ρ) : Database ρ :=
  { db with
    showAssignments :=
      db.showAssignments.filter fun a => ¬ (a.showId = showId ∧ a.userId = userId)
    showPermissions := db.showPermissions.filter fun p => ¬ (p.1 = showId ∧ p.2.1 = userId) }

section Handlers

variable (u : Upgrade ρ) (hasShow : ρ → ℤ → Bool)

/-- What raises leaves the database as `init_db` left it. -/
def assignUser (showId : ℤ) (p : AssignPayload) (db : Database ρ) :
    Except HTTPException (List AssignmentView) × Database ρ :=
  if p.role ∉ ["dj", "producer"] then (.error ⟨400, "role must be 'dj' or 'producer'"⟩, db)
  else
    match p.keys with
    | .error e => (.error e, db)
    | .ok keys =>
      let db := initDb u db
      if hasShow db.rest showId then
        match assign showId p.userId p.role keys db with
        | .error e => (.error e, db)
        | .ok assigned =>
          let assigned := keys.elim assigned fun keys =>
            replaceShowPermissions showId p.userId keys assigned
          (.ok (serializeAssignments assigned showId), assigned)
      else (.error ⟨404, "Show not found"⟩, db)

def unassignUser (showId userId : ℤ) (db : Database ρ) : Except HTTPException Unit × Database ρ :=
  let db := initDb u db
  if db.showAssignments.any fun a => a.showId = showId ∧ a.userId = userId then
    (.ok (), unassign showId userId db)
  else (.error ⟨404, "Assignment not found"⟩, db)

end Handlers

/-! ### What `init_db` does to the shows -/

/-- `init_db` with a table of show permissions that the schema of this program has created: it has
the foreign key that `_migrate_show_assignment_permissions` looks for, and is left as it is. -/
def current (u : Upgrade ρ) : Upgrade ρ :=
  { u with migrateShowPermissions := fun _ permissions => permissions }

variable {u : Upgrade ρ} {db : Database ρ} {showId userId : ℤ} {key : String}

lemma mem_listShowPermissions :
    key ∈ listShowPermissions db showId userId ↔ (showId, userId, key) ∈ db.showPermissions := by
  simp only [listShowPermissions, Finset.mem_image, Finset.mem_filter]
  constructor
  · rintro ⟨⟨i, j, k⟩, ⟨hmem, rfl, rfl⟩, rfl⟩
    exact hmem
  · exact fun hmem => ⟨_, ⟨hmem, rfl, rfl⟩, rfl⟩

/-- What the backfill adds: the keys of the role, where the row has no text. -/
lemma mem_backfill :
    (showId, userId, key) ∈ (backfillShowAssignmentPermissions db).showPermissions ↔
      (showId, userId, key) ∈ db.showPermissions ∨ ∃ a ∈ db.showAssignments,
        a.showId = showId ∧ a.userId = userId ∧ a.permissionKeysJson = "" ∧
          key ∈ legacyShowRolePermissions a.role := by
  simp only [backfillShowAssignmentPermissions, Finset.mem_union, List.mem_toFinset,
    List.mem_flatMap]
  refine or_congr_right (exists_congr fun a => and_congr_right fun _ => ?_)
  by_cases hjson : a.permissionKeysJson = ""
  · rw [if_pos hjson]
    simp only [List.mem_map, List.mem_filter, Prod.mk.injEq]
    constructor
    · rintro ⟨k, ⟨hk, -⟩, hshow, huser, rfl⟩
      exact ⟨hshow, huser, hjson, hk⟩
    · rintro ⟨hshow, huser, -, hk⟩
      exact ⟨key, ⟨hk, by simpa using showKeys_subset a.role key hk⟩, hshow, huser, rfl⟩
  · simp [hjson]

/-- Where the check asks for no synchronisation the backfill adds nothing. -/
lemma backfill_of_not_needed (h : showPermissionsNeedSync db = false) :
    (backfillShowAssignmentPermissions db).showPermissions = db.showPermissions := by
  ext ⟨showId, userId, key⟩
  rw [mem_backfill]
  refine or_iff_left_of_imp ?_
  rintro ⟨a, ha, rfl, rfl, hjson, hkey⟩
  have hall := List.any_eq_false.mp h a ha
  simp only [hjson, decide_true, Bool.true_and, Bool.not_eq_true', Bool.not_eq_false] at hall
  exact mem_listShowPermissions.mp (of_decide_eq_true (List.all_eq_true.mp hall key hkey))

lemma seed_shows (db : Database ρ) :
    (seedLegacyRoleTemplates db).showAssignments = db.showAssignments ∧
      (seedLegacyRoleTemplates db).showPermissions = db.showPermissions :=
  Runs.inv_of_foldl (P := fun d : Database ρ => d.showAssignments = db.showAssignments ∧
    d.showPermissions = db.showPermissions) (f := seedTemplate) (fun _ _ h => h) _ ⟨rfl, rfl⟩

lemma bootstrap_shows (u : Upgrade ρ) (db : Database ρ) :
    (bootstrap (current u) db).showAssignments = db.showAssignments ∧
      (bootstrap (current u) db).showPermissions = db.showPermissions := by
  unfold bootstrap
  obtain ⟨settings, heq, -⟩ := foldl_insertSetting
    ((current u).stationSettings (ensureDefaultAdmin { db with
      showPermissions := (current u).migrateShowPermissions db.rest db.showPermissions
      rest := (current u).bootstrapSchema db.rest }).rest)
    (ensureDefaultAdmin { db with
      showPermissions := (current u).migrateShowPermissions db.rest db.showPermissions
      rest := (current u).bootstrapSchema db.rest })
  simp only [heq]
  unfold ensureDefaultAdmin
  split <;> exact ⟨rfl, rfl⟩

lemma syncIfNeeded_shows (db : Database ρ) :
    (syncIfNeeded db).showAssignments = db.showAssignments ∧
      (syncIfNeeded db).showPermissions =
        (backfillShowAssignmentPermissions db).showPermissions := by
  unfold syncIfNeeded
  split
  case isTrue =>
    obtain ⟨ha, hp⟩ := seed_shows db
    refine ⟨ha, ?_⟩
    simp only [syncLegacyRbac, insertSetting, backfillShowAssignmentPermissions,
      backfillUserRoleAssignments, ha, hp]
  case isFalse h =>
    refine ⟨rfl, (backfill_of_not_needed ?_).symm⟩
    simp only [legacyRbacNeedsSync, Bool.or_eq_true, not_or, Bool.not_eq_true] at h
    exact h.2

/-- **`init_db` and the shows.** It leaves the assignments, and adds to the permissions what the
backfill adds, whether it has something else to write or not. -/
theorem initDb_shows (h : db.userVersion ≤ schemaVersion) :
    (initDb (current u) db).showAssignments = db.showAssignments ∧
      (initDb (current u) db).showPermissions =
        (backfillShowAssignmentPermissions db).showPermissions := by
  unfold initDb
  split
  case isTrue =>
    obtain ⟨settings, heq, -⟩ :=
      complete_eq (u := current u) (syncIfNeeded (bootstrap (current u) db))
    obtain ⟨ha, hp⟩ := syncIfNeeded_shows (bootstrap (current u) db)
    obtain ⟨hba, hbp⟩ := bootstrap_shows u db
    rw [heq]
    refine ⟨ha.trans hba, hp.trans ?_⟩
    simp only [backfillShowAssignmentPermissions, hba, hbp]
  case isFalse hwrites =>
    exact ⟨rfl, (backfill_of_not_needed
      (settled_of_initWrites h (by simpa using hwrites)).shows).symm⟩

end OnAir.ShowAssignments
