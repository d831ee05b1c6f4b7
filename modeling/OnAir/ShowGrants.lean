import OnAir.ShowAssignments

/-!
Whether the permissions of a user in a show follow the assignment: an explicit set, once it is
given, counts until the user is taken off the show, and without one the role decides.

The backfill of `init_db` adds the keys of the role and takes none away. So the permissions follow
the assignment unless a `dj` without an explicit set becomes a `producer`: the keys of the `dj` are
in the table then, and stay there.
-/

namespace OnAir.ShowGrants

open LegacyRoles Runs ShowAssignments
open RoleAssignments (initDb_rows userVersion_initDb)

/-! ### Grants -/

/-- What an assignment stands for. -/
structure Grant where
  role : String
  /-- the keys that were given last, since the user was assigned -/
  explicit : Option (Finset String)

def Grant.keys (g : Grant) : Finset String :=
  g.explicit.getD (legacyShowRolePermissions g.role).toFinset

/-- The grant of each show and user. -/
abbrev Grants := ℤ → ℤ → Option Grant

def Grants.set (gs : Grants) (showId userId : ℤ) (g : Option Grant) : Grants :=
  fun i j => if i = showId ∧ j = userId then g else gs i j

/-- An assignment without keys leaves those that were given before. -/
def Grants.assign (gs : Grants) (showId : ℤ) (p : AssignPayload) : Grants :=
  gs.set showId p.userId (some
    ⟨p.role, (p.permissionKeys.map strippedKeys).or ((gs showId p.userId).bind (·.explicit))⟩)

/-! ### Runs -/

inductive Request
  | assign (showId : ℤ) (p : AssignPayload)
  | unassign (showId userId : ℤ)
  /-- any request that calls `init_db` and leaves the shows alone -/
  | initDb

structure State (ρ : Type) where
  db : Database ρ
  /-- what the requests that were answered stand for -/
  grants : Grants

variable {ρ : Type}

section Steps

variable (u : Upgrade ρ) (hasShow : ρ → ℤ → Bool)

def step (s : State ρ) : Request → Option (State ρ)
  | .assign showId p =>
    match assignUser (current u) hasShow showId p s.db with
    | (.ok _, db) => some ⟨db, s.grants.assign showId p⟩
    | (.error _, db) => some ⟨db, s.grants⟩
  | .unassign showId userId =>
    match unassignUser (current u) showId userId s.db with
    | (.ok _, db) => some ⟨db, s.grants.set showId userId none⟩
    | (.error _, db) => some ⟨db, s.grants⟩
  | .initDb => some ⟨initDb (current u) s.db, s.grants⟩

/-- After a call of `init_db`. -/
def called (s : State ρ) : State ρ := ⟨initDb (current u) s.db, s.grants⟩

/-- Nobody is assigned yet, and the schema is not newer than the program. -/
structure Start (s : State ρ) : Prop where
  version : s.db.userVersion ≤ schemaVersion
  assignments : s.db.showAssignments = []
  permissions : s.db.showPermissions = ∅
  grants : s.grants = fun _ _ => none

/-- A `dj` without an explicit set is made a `producer`, and is given none. -/
def Demotes (s : State ρ) : Request → Prop
  | .assign showId p =>
    p.role = "producer" ∧ p.permissionKeys = none ∧
      hasShow (called u s).db.rest showId = true ∧
      ∃ a ∈ s.db.showAssignments, a.showId = showId ∧ a.userId = p.userId ∧ a.role = "dj" ∧
        a.permissionKeysJson = ""
  | _ => False

end Steps

/-- The permissions that requests of a user are allowed by. -/
def enforcedKeys (db : Database ρ) (showId userId : ℤ) : Option (Finset String) :=
  ((listUserShowPermissions db userId).find? (·.1 = showId)).map (·.2)

def displayedKeys (db : Database ρ) (showId userId : ℤ) : Option (Finset String) :=
  ((serializeAssignments db showId).find? (·.userId = userId)).map (·.permissionKeys)

/-- Exactly the users with a grant are assigned, and its keys are enforced and displayed. -/
def Follows (s : State ρ) : Prop :=
  ∀ showId userId,
    enforcedKeys s.db showId userId = (s.grants showId userId).map Grant.keys ∧
      displayedKeys s.db showId userId = (s.grants showId userId).map Grant.keys

/-! ### The rows of the grants -/

def Grant.row (g : Grant) (showId userId : ℤ) : ShowAssignment :=
  ⟨showId, userId, g.role, g.explicit.elim "" dumpsKeys⟩

/-- What every request keeps: the rows are those of the grants, the users exist, and the keys of
an explicit set are known ones. -/
structure Records (s : State ρ) : Prop where
  version : s.db.userVersion ≤ schemaVersion
  rows : ∀ a, a ∈ s.db.showAssignments ↔
    ∃ g, s.grants a.showId a.userId = some g ∧ a = g.row a.showId a.userId
  users : ∀ a ∈ s.db.showAssignments, (s.db.users[a.userId]?).isSome
  known : ∀ showId userId g, s.grants showId userId = some g →
    ∀ keys, g.explicit = some keys → ∀ key ∈ keys, key ∈ showPermissionKeys

/-- What the table holds for a grant: an explicit set, or keys of the role. -/
def Fits (g : Option Grant) (keys : Finset String) : Prop :=
  match g with
  | none => keys = ∅
  | some g => match g.explicit with
    | some given => keys = given
    | none => keys ⊆ (legacyShowRolePermissions g.role).toFinset

structure Inv (s : State ρ) : Prop extends Records s where
  fits : ∀ showId userId, Fits (s.grants showId userId) (listShowPermissions s.db showId userId)

variable {u : Upgrade ρ} {hasShow : ρ → ℤ → Bool} {s t : State ρ} {showId userId : ℤ} {g : Grant}

lemma dumpsKeys_ne (keys : Finset String) : dumpsKeys keys ≠ "" := by
  unfold dumpsKeys dumpsTexts
  split
  · decide
  · intro h
    have := congrArg String.length h
    simp at this

lemma row_json : (g.row showId userId).permissionKeysJson = "" ↔ g.explicit = none := by
  cases h : g.explicit with
  | none => simp [Grant.row, h]
  | some keys => simp [Grant.row, h, dumpsKeys_ne]

/-- The text of known keys is read as these. -/
lemma storedKeys_dumpsKeys {keys : Finset String} (h : ∀ key ∈ keys, key ∈ showPermissionKeys) :
    storedKeys (dumpsKeys keys) = keys := by
  have hstripped : ∀ key ∈ showPermissionKeys, PythonText.trim key = key ∧ key ≠ "" := by
    decide +kernel
  have htexts : ∀ ss : List String, (ss.map Json.Value.str).filterMap Json.Value.text = ss := by
    intro ss
    simp [List.filterMap_map, Function.comp_def, Json.Value.text]
  simp only [storedKeys, dumpsKeys, loads_dumpsTexts, htexts, strippedKeys]
  ext key
  simp only [List.mem_toFinset, List.mem_filter, List.mem_map, Finset.mem_sort, decide_eq_true_eq]
  constructor
  · rintro ⟨⟨k, hk, rfl⟩, -⟩
    rwa [(hstripped k (h k hk)).1]
  · intro hk
    obtain ⟨htrim, hne⟩ := hstripped key (h key hk)
    exact ⟨⟨key, hk, htrim⟩, hne⟩

/-! ### What is enforced and displayed -/

lemma find?_unique {α : Type*} {l : List α} {p : α → Bool} {a : α} (ha : a ∈ l) (hp : p a = true)
    (h : ∀ b ∈ l, p b = true → b = a) : l.find? p = some a := by
  cases hfind : l.find? p with
  | none => exact absurd hp (List.find?_eq_none.mp hfind a ha)
  | some b => rw [h b (List.mem_of_find?_eq_some hfind) (List.find?_some hfind)]

lemma enforcedKeys_eq (h : Records s) (showId userId : ℤ) :
    enforcedKeys s.db showId userId =
      (s.grants showId userId).map fun _ => listShowPermissions s.db showId userId := by
  unfold enforcedKeys listUserShowPermissions
  cases hg : s.grants showId userId with
  | none =>
    rw [List.find?_eq_none.mpr]
    · rfl
    · rintro r hr
      obtain ⟨a, ha, rfl⟩ := List.mem_map.mp hr
      obtain ⟨hmem, huser⟩ := List.mem_filter.mp ha
      obtain ⟨g, hsome, -⟩ := (h.rows a).mp hmem
      intro hr
      have hshow : a.showId = showId := of_decide_eq_true hr
      rw [hshow, of_decide_eq_true huser, hg] at hsome
      cases hsome
  | some g =>
    have hrow : g.row showId userId ∈ s.db.showAssignments := (h.rows _).mpr ⟨g, hg, rfl⟩
    rw [find?_unique (a := (showId, listShowPermissions s.db showId userId))]
    · rfl
    · exact List.mem_map.mpr ⟨_, List.mem_filter.mpr ⟨hrow, decide_eq_true rfl⟩, rfl⟩
    · exact decide_eq_true rfl
    · intro r hr hshow
      obtain ⟨a, -, rfl⟩ := List.mem_map.mp hr
      obtain rfl := of_decide_eq_true hshow
      rfl

lemma assignmentPermissionKeys_row (h : Records s) (hg : s.grants showId userId = some g) :
    assignmentPermissionKeys s.db (g.row showId userId) =
      g.explicit.getD (listShowPermissions s.db showId userId) := by
  unfold assignmentPermissionKeys
  cases hexplicit : g.explicit with
  | none =>
    rw [if_pos (row_json.mpr hexplicit)]
    rfl
  | some keys =>
    rw [if_neg fun hjson => by simp [row_json.mp hjson] at hexplicit]
    simp only [Grant.row, hexplicit, Option.elim_some, Option.getD_some]
    exact storedKeys_dumpsKeys (h.known _ _ g hg keys hexplicit)

lemma displayedKeys_eq (h : Records s) (showId userId : ℤ) :
    displayedKeys s.db showId userId = (s.grants showId userId).map fun g =>
      g.explicit.getD (listShowPermissions s.db showId userId) := by
  have hview : ∀ v ∈ serializeAssignments s.db showId, v.userId = userId →
      ∃ g row, s.grants showId userId = some g ∧ s.db.users[userId]? = some row ∧
        v = ⟨showId, userId, g.role, row.username,
          assignmentPermissionKeys s.db (g.row showId userId)⟩ := by
    rintro v hv rfl
    obtain ⟨a, ha, hmap⟩ := List.mem_filterMap.mp ((List.mem_insertionSort _).mp hv)
    obtain ⟨hmem, hshow⟩ := List.mem_filter.mp ha
    obtain ⟨row, hrow, rfl⟩ := Option.map_eq_some_iff.mp hmap
    obtain rfl := of_decide_eq_true hshow
    obtain ⟨g, hsome, heq⟩ := (h.rows a).mp hmem
    refine ⟨g, row, hsome, hrow, ?_⟩
    rw [← heq]
    congr 1
    rw [heq]
    rfl
  unfold displayedKeys
  cases hg : s.grants showId userId with
  | none =>
    rw [List.find?_eq_none.mpr]
    · rfl
    · rintro v hv huser
      obtain ⟨g, row, hsome, -⟩ := hview v hv (of_decide_eq_true huser)
      rw [hg] at hsome
      cases hsome
  | some g =>
    have hmem : g.row showId userId ∈ s.db.showAssignments := (h.rows _).mpr ⟨g, hg, rfl⟩
    obtain ⟨row, hrow⟩ := Option.isSome_iff_exists.mp (h.users _ hmem)
    rw [find?_unique (a := ⟨showId, userId, g.role, row.username,
        assignmentPermissionKeys s.db (g.row showId userId)⟩)]
    · rw [assignmentPermissionKeys_row h hg]
      rfl
    · refine (List.mem_insertionSort _).mpr (List.mem_filterMap.mpr
        ⟨g.row showId userId, List.mem_filter.mpr ⟨hmem, decide_eq_true rfl⟩, ?_⟩)
      rw [hrow]
      rfl
    · exact decide_eq_true rfl
    · intro v hv huser
      obtain ⟨g', row', hg', hrow', rfl⟩ := hview v hv (of_decide_eq_true huser)
      rw [hg] at hg'
      cases hg'
      obtain rfl := Option.some.inj (hrow.symm.trans hrow')
      rfl

/-- Where the table is as the grants say, the permissions follow the assignments. -/
lemma follows_of_keys (h : Records s) (hkeys : ∀ showId userId g,
    s.grants showId userId = some g → listShowPermissions s.db showId userId = g.keys) :
    Follows s := by
  intro showId userId
  rw [enforcedKeys_eq h, displayedKeys_eq h]
  cases hg : s.grants showId userId with
  | none => exact ⟨rfl, rfl⟩
  | some g =>
    rw [hkeys showId userId g hg]
    refine ⟨rfl, ?_⟩
    cases hexplicit : g.explicit <;> simp [Grant.keys, hexplicit]

/-! ### `init_db` -/

lemma records_called (h : Records s) : Records (called u s) := by
  obtain ⟨hassign, -⟩ := initDb_shows (u := u) h.version
  refine ⟨userVersion_initDb h.version, ?_, ?_, h.known⟩
  · intro a
    rw [called, hassign]
    exact h.rows a
  · intro a ha
    rw [called, hassign] at ha
    obtain ⟨row, hrow⟩ := Option.isSome_iff_exists.mp (h.users a ha)
    rw [called, (initDb_rows s.db).2 _ _ hrow]
    rfl

/-- After a call of `init_db` the table has what it had, and the keys of the role where no set was
given. -/
lemma listShowPermissions_called (h : Records s) (showId userId : ℤ) :
    listShowPermissions (called u s).db showId userId =
      listShowPermissions s.db showId userId ∪ (s.grants showId userId).elim ∅ fun g =>
        if g.explicit = none then (legacyShowRolePermissions g.role).toFinset else ∅ := by
  obtain ⟨-, hperms⟩ := initDb_shows (u := u) h.version
  ext key
  rw [called, mem_listShowPermissions, hperms, mem_backfill, Finset.mem_union,
    mem_listShowPermissions]
  refine or_congr_right ⟨?_, ?_⟩
  · rintro ⟨a, ha, rfl, rfl, hjson, hkey⟩
    obtain ⟨g, hg, heq⟩ := (h.rows a).mp ha
    rw [heq] at hjson hkey
    rw [hg, Option.elim_some, if_pos (row_json.mp hjson)]
    exact List.mem_toFinset.mpr hkey
  · intro hkey
    cases hg : s.grants showId userId with
    | none => simp [hg] at hkey
    | some g =>
      rw [hg, Option.elim_some] at hkey
      split_ifs at hkey with hexplicit
      · exact ⟨g.row showId userId, (h.rows _).mpr ⟨g, hg, rfl⟩, rfl, rfl,
          row_json.mpr hexplicit, List.mem_toFinset.mp hkey⟩
      · simp at hkey

/-- **A call of `init_db`** makes the table as the grants say. -/
lemma listShowPermissions_settled (h : Inv s) (showId userId : ℤ) :
    listShowPermissions (called u s).db showId userId =
      (s.grants showId userId).elim ∅ Grant.keys := by
  have hfits := h.fits showId userId
  rw [listShowPermissions_called h.toRecords]
  cases hg : s.grants showId userId with
  | none =>
    rw [hg] at hfits
    have hnone : listShowPermissions s.db showId userId = ∅ := hfits
    simp [hnone]
  | some g =>
    rw [hg] at hfits
    unfold Fits at hfits
    cases hexplicit : g.explicit with
    | none =>
      simp only [hexplicit] at hfits
      simp [Grant.keys, hexplicit, Finset.union_eq_right.mpr hfits]
    | some given =>
      simp only [hexplicit] at hfits
      simp [Grant.keys, hexplicit, hfits]

lemma fits_keys (g : Option Grant) : Fits g (g.elim ∅ Grant.keys) := by
  cases g with
  | none => rfl
  | some g =>
    unfold Fits
    cases hexplicit : g.explicit <;> simp [Grant.keys, hexplicit]

lemma inv_called (h : Inv s) : Inv (called u s) :=
  ⟨records_called h.toRecords, fun showId userId => by
    rw [listShowPermissions_settled h]
    exact fits_keys _⟩

lemma follows_called (h : Inv s) : Follows (called u s) :=
  follows_of_keys (records_called h.toRecords) fun showId userId g hg => by
    have hgrant : s.grants showId userId = some g := hg
    rw [listShowPermissions_settled h, hgrant]
    rfl

/-! ### Requests -/

lemma keys_ok {p : AssignPayload} {keys : Option (Finset String)} (h : p.keys = .ok keys) :
    keys = p.permissionKeys.map strippedKeys ∧
      ∀ given, keys = some given → ∀ key ∈ given, key ∈ showPermissionKeys := by
  unfold AssignPayload.keys at h
  cases hp : p.permissionKeys with
  | none =>
    rw [hp] at h
    cases h
    exact ⟨rfl, by simp⟩
  | some ks =>
    rw [hp] at h
    cases hnormal : normalizePermissionKeys ks with
    | error e =>
      simp only [hnormal] at h
      cases h
    | ok given =>
      simp only [hnormal] at h
      cases h
      obtain ⟨rfl, hknown⟩ := normalizePermissionKeys_ok hnormal
      refine ⟨rfl, fun given hgiven => ?_⟩
      obtain rfl := Option.some.inj hgiven
      exact hknown

lemma Grants.set_self (gs : Grants) (showId userId : ℤ) (g : Option Grant) :
    gs.set showId userId g showId userId = g := if_pos ⟨rfl, rfl⟩

lemma Grants.set_of_ne (gs : Grants) {showId userId i j : ℤ} (g : Option Grant)
    (h : ¬ (i = showId ∧ j = userId)) : gs.set showId userId g i j = gs i j := if_neg h

lemma any_row (h : Records s) (showId userId : ℤ) :
    (s.db.showAssignments.any fun a => a.showId = showId ∧ a.userId = userId) =
      (s.grants showId userId).isSome := by
  rw [Bool.eq_iff_iff, List.any_eq_true, Option.isSome_iff_exists]
  constructor
  · rintro ⟨a, ha, hp⟩
    obtain ⟨rfl, rfl⟩ := of_decide_eq_true hp
    obtain ⟨g, hg, -⟩ := (h.rows a).mp ha
    exact ⟨g, hg⟩
  · rintro ⟨g, hg⟩
    exact ⟨g.row showId userId, (h.rows _).mpr ⟨g, hg, rfl⟩, decide_eq_true ⟨rfl, rfl⟩⟩

/-- The rows of the grants after one of them is set. -/
lemma rows_set {rows : List ShowAssignment} {gs : Grants} (g' : Option Grant)
    (hrows : ∀ a, (a.showId = showId ∧ a.userId = userId) →
      (a ∈ rows ↔ ∃ g, g' = some g ∧ a = g.row showId userId))
    (hother : ∀ a, ¬ (a.showId = showId ∧ a.userId = userId) →
      (a ∈ rows ↔ ∃ g, gs a.showId a.userId = some g ∧ a = g.row a.showId a.userId))
    (a : ShowAssignment) :
    a ∈ rows ↔ ∃ g, gs.set showId userId g' a.showId a.userId = some g ∧
      a = g.row a.showId a.userId := by
  by_cases ha : a.showId = showId ∧ a.userId = userId
  · rw [hrows a ha, ha.1, ha.2, Grants.set_self]
  · rw [hother a ha, Grants.set_of_ne _ _ ha]

/-- The grant after an assignment. -/
def assigned (s : State ρ) (showId userId : ℤ) (role : String) (keys : Option (Finset String)) :
    Grant := ⟨role, keys.or ((s.grants showId userId).bind (·.explicit))⟩

lemma known_assigned {role : String} {keys : Option (Finset String)} (h : Records s)
    (hkeys : ∀ given, keys = some given → ∀ key ∈ given, key ∈ showPermissionKeys)
    (i j : ℤ) (g : Grant)
    (hg : s.grants.set showId userId (some (assigned s showId userId role keys)) i j = some g)
    (given : Finset String) (hgiven : g.explicit = some given) :
    ∀ key ∈ given, key ∈ showPermissionKeys := by
  by_cases hij : i = showId ∧ j = userId
  · rw [Grants.set, if_pos hij] at hg
    cases hg
    obtain hnew | ⟨-, hold⟩ := Option.or_eq_some_iff.mp hgiven
    · exact hkeys given hnew
    · obtain ⟨g, hg, hexplicit⟩ := Option.bind_eq_some_iff.mp hold
      exact h.known _ _ g hg given hexplicit
  · rw [Grants.set_of_ne _ _ hij] at hg
    exact h.known i j g hg given hgiven

/-- **An assignment** writes the row of the new grant. -/
lemma records_assign {role : String} {keys : Option (Finset String)} {db : Database ρ}
    (h : Records s) (hkeys : ∀ given, keys = some given → ∀ key ∈ given, key ∈ showPermissionKeys)
    (hok : assign showId userId role keys s.db = .ok db) :
    Records (⟨db, s.grants.set showId userId (some (assigned s showId userId role keys))⟩ :
      State ρ) ∧ db.showPermissions = s.db.showPermissions := by
  have hany := any_row h showId userId
  unfold assign at hok
  cases hg : s.grants showId userId with
  | none =>
    simp only [hany, hg, Option.isSome_none, Bool.false_eq_true, if_false] at hok
    split at hok
    · rename_i huser
      obtain rfl := Except.ok.inj hok
      have hnot : ∀ a ∈ s.db.showAssignments, ¬ (a.showId = showId ∧ a.userId = userId) := by
        rintro a ha ⟨rfl, rfl⟩
        obtain ⟨g, hsome, -⟩ := (h.rows a).mp ha
        rw [hg] at hsome
        cases hsome
      refine ⟨⟨h.version, rows_set _ ?_ ?_, ?_, known_assigned h hkeys⟩, rfl⟩
      · rintro a ha
        simp only [List.mem_append, List.mem_singleton, Option.some.injEq, exists_eq_left']
        rw [or_iff_right fun hmem => hnot a hmem ha]
        simp [Grant.row, assigned, hg]
      · rintro a ha
        simp only [List.mem_append, List.mem_singleton]
        rw [or_iff_left, h.rows a]
        rintro rfl
        exact ha ⟨rfl, rfl⟩
      · intro a ha
        obtain hold | hnew := List.mem_append.mp ha
        · exact h.users a hold
        · obtain rfl := List.mem_singleton.mp hnew
          exact huser
    · cases hok
  | some g =>
    simp only [hany, hg, Option.isSome_some, if_true] at hok
    obtain rfl := Except.ok.inj hok
    have hrow : ∀ a ∈ s.db.showAssignments, a.showId = showId ∧ a.userId = userId →
        a = g.row showId userId := by
      rintro a ha ⟨rfl, rfl⟩
      obtain ⟨g', hg', heq⟩ := (h.rows a).mp ha
      rw [hg] at hg'
      cases hg'
      exact heq
    have hnew : (assigned s showId userId role keys).row showId userId =
        { g.row showId userId with
          role := role
          permissionKeysJson :=
            keys.elim (g.row showId userId).permissionKeysJson dumpsKeys } := by
      cases keys <;> simp [assigned, Grant.row, hg]
    refine ⟨⟨h.version, rows_set _ ?_ ?_, ?_, known_assigned h hkeys⟩, rfl⟩
    · intro a ha
      simp only [List.mem_map, Option.some.injEq, exists_eq_left']
      constructor
      · rintro ⟨b, hb, rfl⟩
        split_ifs with hisRow
        · rw [hnew, ← hrow b hb (of_decide_eq_true hisRow)]
        · rw [if_neg hisRow] at ha
          exact absurd (decide_eq_true ha) hisRow
      · rintro rfl
        refine ⟨g.row showId userId, (h.rows _).mpr ⟨g, hg, rfl⟩, ?_⟩
        rw [if_pos (decide_eq_true ⟨rfl, rfl⟩), hnew]
    · intro a ha
      rw [← h.rows a]
      simp only [List.mem_map]
      constructor
      · rintro ⟨b, hb, rfl⟩
        split_ifs at ha ⊢ with hisRow
        · exact absurd (of_decide_eq_true hisRow) ha
        · exact hb
      · intro hmem
        exact ⟨a, hmem, if_neg fun hisRow => ha (of_decide_eq_true hisRow)⟩
    · intro a ha
      obtain ⟨b, hb, rfl⟩ := List.mem_map.mp ha
      split_ifs <;> exact h.users b hb

lemma listShowPermissions_replace (db : Database ρ) (keys : Finset String) (i j : ℤ) :
    listShowPermissions (replaceShowPermissions showId userId keys db) i j =
      if i = showId ∧ j = userId then keys else listShowPermissions db i j := by
  ext key
  rw [mem_listShowPermissions]
  simp only [replaceShowPermissions, Finset.mem_union, Finset.mem_filter, Finset.mem_image,
    Prod.mk.injEq]
  split_ifs with hij
  · obtain ⟨rfl, rfl⟩ := hij
    simp
  · rw [mem_listShowPermissions]
    constructor
    · rintro (⟨hmem, -⟩ | ⟨_, -, rfl, rfl, -⟩)
      · exact hmem
      · exact absurd ⟨rfl, rfl⟩ hij
    · exact fun hmem => .inl ⟨hmem, hij⟩

lemma records_replace {gs : Grants} {db : Database ρ} (keys : Option (Finset String))
    (h : Records (⟨db, gs⟩ : State ρ)) :
    Records (⟨keys.elim db fun keys => replaceShowPermissions showId userId keys db, gs⟩ :
      State ρ) := by
  cases keys with
  | none => exact h
  | some keys => exact ⟨h.version, h.rows, h.users, h.known⟩

/-- **Taking a user off a show** takes the row and the permissions. -/
lemma inv_unassign (h : Inv s) :
    Inv (⟨unassign showId userId s.db, s.grants.set showId userId none⟩ : State ρ) := by
  refine ⟨⟨h.version, rows_set _ ?_ ?_, ?_, ?_⟩, ?_⟩
  · intro a ha
    simp [unassign, ha]
  · intro a ha
    rw [← h.rows a]
    simp only [unassign, List.mem_filter, decide_eq_true_eq]
    exact and_iff_left ha
  · intro a ha
    exact h.users a (List.mem_of_mem_filter ha)
  · intro i j g hset
    have hg : s.grants.set showId userId none i j = some g := hset
    by_cases hij : i = showId ∧ j = userId
    · rw [Grants.set, if_pos hij] at hg
      cases hg
    · rw [Grants.set_of_ne _ _ hij] at hg
      exact h.known i j g hg
  · intro i j
    have hlist : listShowPermissions (unassign showId userId s.db) i j =
        if i = showId ∧ j = userId then ∅ else listShowPermissions s.db i j := by
      ext key
      rw [mem_listShowPermissions]
      split_ifs with hij
      · simp [unassign, hij]
      · rw [mem_listShowPermissions]
        simp only [unassign, Finset.mem_filter]
        exact and_iff_left hij
    change Fits (s.grants.set showId userId none i j) _
    by_cases hij : i = showId ∧ j = userId
    · rw [hlist, if_pos hij, Grants.set, if_pos hij]
      rfl
    · rw [hlist, if_neg hij, Grants.set_of_ne _ _ hij]
      exact h.fits i j

/-! ### Steps -/

/-- The keys of a role are among those of the next one, unless a `dj` becomes a `producer`. -/
lemma legacy_subset {role next : String} (h : next ∈ ["dj", "producer"])
    (hne : ¬ (role = "dj" ∧ next = "producer")) :
    (legacyShowRolePermissions role).toFinset ⊆ (legacyShowRolePermissions next).toFinset := by
  by_cases hdj : role = "dj"
  · obtain rfl | hnext := List.mem_cons.mp h
    · rw [hdj]
    · exact absurd ⟨hdj, List.mem_singleton.mp hnext⟩ hne
  · by_cases hproducer : role = "producer"
    · subst hproducer
      obtain rfl | hnext := List.mem_cons.mp h
      · decide
      · rw [List.mem_singleton.mp hnext]
    · simp [legacyShowRolePermissions, hdj, hproducer]

lemma assignUser_ok {p : AssignPayload} {db db' : Database ρ} {views : List AssignmentView}
    (h : assignUser (current u) hasShow showId p db = (.ok views, db')) :
    p.role ∈ ["dj", "producer"] ∧ ∃ keys d, p.keys = .ok keys ∧
      hasShow (initDb (current u) db).rest showId = true ∧
      assign showId p.userId p.role keys (initDb (current u) db) = .ok d ∧
      db' = keys.elim d fun keys => replaceShowPermissions showId p.userId keys d := by
  unfold assignUser at h
  split at h
  · cases h
  · rename_i hrole
    split at h
    · cases h
    · rename_i keys hkeys
      simp only at h
      split at h
      · rename_i hshow
        split at h
        · cases h
        · rename_i d hassign
          cases h
          exact ⟨not_not.mp hrole, keys, d, hkeys, hshow, hassign, rfl⟩
      · cases h

lemma assignUser_error {p : AssignPayload} {db db' : Database ρ}
    {e : RoleAssignments.HTTPException}
    (h : assignUser (current u) hasShow showId p db = (.error e, db')) :
    db' = db ∨ db' = initDb (current u) db := by
  unfold assignUser at h
  split at h
  · cases h
    exact .inl rfl
  · split at h
    · cases h
      exact .inl rfl
    · simp only at h
      split at h
      · split at h
        · cases h
          exact .inr rfl
        · cases h
      · cases h
        exact .inr rfl

/-- **What a request does**: nothing, a call of `init_db`, or after that an assignment or the end
of one. -/
lemma step_cases {r : Request} (h : step u hasShow s r = some t) :
    t = s ∨ t = called u s ∨
      (∃ showId p keys db, r = .assign showId p ∧ p.role ∈ ["dj", "producer"] ∧
        p.keys = .ok keys ∧ hasShow (called u s).db.rest showId = true ∧
        assign showId p.userId p.role keys (called u s).db = .ok db ∧
        t = ⟨keys.elim db fun keys => replaceShowPermissions showId p.userId keys db,
          s.grants.set showId p.userId
            (some (assigned (called u s) showId p.userId p.role keys))⟩) ∨
      ∃ showId userId, t =
        ⟨unassign showId userId (called u s).db, s.grants.set showId userId none⟩ := by
  cases r with
  | initDb => exact .inr (.inl (Option.some.inj h).symm)
  | unassign showId userId =>
    simp only [step, unassignUser] at h
    split at h
    · rename_i hok
      split at hok
      · cases hok
        exact .inr (.inr (.inr ⟨showId, userId, (Option.some.inj h).symm⟩))
      · cases hok
    · rename_i herror
      split at herror
      · cases herror
      · cases herror
        exact .inr (.inl (Option.some.inj h).symm)
  | assign showId p =>
    simp only [step] at h
    split at h
    · rename_i views db hok
      obtain rfl := Option.some.inj h
      obtain ⟨hrole, keys, d, hkeys, hshow, hassign, rfl⟩ := assignUser_ok hok
      obtain ⟨rfl, -⟩ := keys_ok hkeys
      exact .inr (.inr (.inl ⟨showId, p, _, d, rfl, hrole, hkeys, hshow, hassign, rfl⟩))
    · rename_i e db herror
      obtain rfl := Option.some.inj h
      obtain rfl | rfl := assignUser_error herror
      · exact .inl rfl
      · exact .inr (.inl rfl)

lemma fits_assigned {role : String} {keys : Option (Finset String)} {db : Database ρ} (h : Inv s)
    (hrole : role ∈ ["dj", "producer"])
    (hkeep : keys = none → ∀ g, s.grants showId userId = some g → g.explicit = none →
      ¬ (g.role = "dj" ∧ role = "producer"))
    (hdb : db.showPermissions = (called u s).db.showPermissions) (i j : ℤ) :
    Fits (s.grants.set showId userId (some (assigned (called u s) showId userId role keys)) i j)
      (listShowPermissions (keys.elim db fun keys => replaceShowPermissions showId userId keys db)
        i j) := by
  have hlist : listShowPermissions db i j = (s.grants i j).elim ∅ Grant.keys := by
    rw [← listShowPermissions_settled (u := u) h]
    unfold listShowPermissions
    rw [hdb]
  by_cases hij : i = showId ∧ j = userId
  · obtain ⟨rfl, rfl⟩ := hij
    rw [Grants.set_self]
    cases keys with
    | some keys =>
      rw [Option.elim_some, listShowPermissions_replace, if_pos ⟨rfl, rfl⟩]
      rfl
    | none =>
      rw [Option.elim_none, hlist]
      cases hg : s.grants i j with
      | none =>
        have hexplicit : (assigned (called u s) i j role none).explicit = none := by
          simp [assigned, called, hg]
        simp [Fits, hexplicit]
      | some g =>
        have hsame : (assigned (called u s) i j role none).explicit = g.explicit := by
          simp [assigned, called, hg]
        cases hexplicit : g.explicit with
        | none =>
          simp only [Fits, hsame, hexplicit, Option.elim_some, Grant.keys, Option.getD_none]
          exact legacy_subset hrole (hkeep rfl g hg hexplicit)
        | some given => simp [Fits, hsame, hexplicit, Grant.keys]
  · rw [Grants.set_of_ne _ _ hij]
    have hother : listShowPermissions
        (keys.elim db fun keys => replaceShowPermissions showId userId keys db) i j =
          (s.grants i j).elim ∅ Grant.keys := by
      cases keys with
      | none => exact hlist
      | some keys =>
        rw [Option.elim_some, listShowPermissions_replace, if_neg hij, hlist]
    rw [hother]
    exact fits_keys _

lemma inv_step {r : Request} (h : Inv s) (hr : ¬ Demotes u hasShow s r)
    (hstep : step u hasShow s r = some t) : Inv t := by
  obtain rfl | rfl | ⟨showId, p, keys, db, rfl, hrole, hkeys, hshow, hassign, rfl⟩ |
    ⟨showId, userId, rfl⟩ := step_cases hstep
  · exact h
  · exact inv_called h
  · obtain ⟨hgiven, hknown⟩ := keys_ok hkeys
    obtain ⟨hrecords, hdb⟩ := records_assign (records_called h.toRecords) hknown hassign
    refine ⟨records_replace keys hrecords,
      fits_assigned h hrole (fun hnone g hg hexplicit => ?_) hdb⟩
    rintro ⟨hdj, hproducer⟩
    refine hr ⟨hproducer, ?_, hshow, g.row showId p.userId, (h.rows _).mpr ⟨g, hg, rfl⟩, rfl, rfl,
      hdj, row_json.mpr hexplicit⟩
    rw [hnone] at hgiven
    exact Option.map_eq_none_iff.mp hgiven.symm
  · exact inv_unassign (inv_called h)

/-- A demotion is answered, and leaves the table as the call of `init_db` before it did. -/
lemma step_demotes {r : Request} (h : Inv s) (hr : Demotes u hasShow s r) :
    ∃ showId userId g db, s.grants showId userId = some g ∧ g.role = "dj" ∧ g.explicit = none ∧
      Records (⟨db, s.grants.set showId userId (some ⟨"producer", none⟩)⟩ : State ρ) ∧
      db.showPermissions = (called u s).db.showPermissions ∧
      step u hasShow s r =
        some ⟨db, s.grants.set showId userId (some ⟨"producer", none⟩)⟩ := by
  cases r with
  | unassign | initDb => exact hr.elim
  | assign showId p =>
    obtain ⟨hproducer, hnone, hshow, a, ha, rfl, huser, hdj, hjson⟩ := hr
    obtain ⟨g, hg, heq⟩ := (h.rows a).mp ha
    rw [heq] at hdj hjson
    have hexplicit := row_json.mp hjson
    rw [huser] at hg
    have hkeys : p.keys = .ok none := by simp [AssignPayload.keys, hnone]
    obtain ⟨db, hassign⟩ :
        ∃ db, assign a.showId p.userId p.role none (called u s).db = .ok db := by
      have hany := any_row (records_called (u := u) h.toRecords) a.showId p.userId
      have hsome : ((called u s).grants a.showId p.userId).isSome = true := by
        rw [called, hg]
        rfl
      unfold assign
      rw [if_pos (hany.trans hsome)]
      exact ⟨_, rfl⟩
    obtain ⟨hrecords, hdb⟩ := records_assign (records_called h.toRecords) (by simp) hassign
    have hset : assigned (called u s) a.showId p.userId p.role none = ⟨"producer", none⟩ := by
      simp [assigned, called, hg, hexplicit, hproducer]
    rw [hset] at hrecords
    refine ⟨a.showId, p.userId, g, db, hg, hdj, hexplicit, hrecords, hdb, ?_⟩
    have hrole : p.role ∈ ["dj", "producer"] := by simp [hproducer]
    have hanswer : assignUser (current u) hasShow a.showId p s.db =
        (.ok (serializeAssignments db a.showId), db) := by
      have hfound : hasShow (initDb (current u) s.db).rest a.showId = true := hshow
      have hok : assign a.showId p.userId p.role none (initDb (current u) s.db) = .ok db :=
        hassign
      unfold assignUser
      rw [if_neg (not_not_intro hrole), hkeys]
      simp only [hfound, if_true, hok, Option.elim_none]
    simp only [step, hanswer, Grants.assign, hnone, Option.map_none, Option.none_or, hg,
      Option.bind_some, hexplicit, hproducer]

/-- After a demotion the keys of a `dj` are enforced for a `producer`. -/
lemma not_follows_of_demotes {r : Request} (h : Inv s) (hr : Demotes u hasShow s r)
    (hstep : step u hasShow s r = some t) : ¬ Follows (called u t) := by
  obtain ⟨showId, userId, g, db, hg, hdj, hexplicit, hrecords, hdb, heq⟩ := step_demotes h hr
  obtain rfl := Option.some.inj (heq.symm.trans hstep)
  intro hfollows
  have henforced := (hfollows showId userId).1
  rw [enforcedKeys_eq (records_called hrecords)] at henforced
  have hgrant : (called u (⟨db, s.grants.set showId userId (some ⟨"producer", none⟩)⟩ :
      State ρ)).grants showId userId = some ⟨"producer", none⟩ := Grants.set_self ..
  rw [hgrant, Option.map_some, Option.map_some, Option.some.injEq,
    listShowPermissions_called hrecords] at henforced
  have hkept : "show.broadcast" ∈ listShowPermissions db showId userId := by
    have hsettled := listShowPermissions_settled (u := u) h showId userId
    unfold listShowPermissions at hsettled ⊢
    rw [hdb, hsettled, hg]
    simp [Grant.keys, hexplicit, hdj, legacyShowRolePermissions]
  have hproducer : "show.broadcast" ∈ (⟨"producer", none⟩ : Grant).keys :=
    henforced ▸ Finset.mem_union_left _ hkept
  exact absurd hproducer (by decide)

lemma inv_of_start (h : Start s) : Inv s := by
  refine ⟨⟨h.version, ?_, ?_, ?_⟩, ?_⟩
  · intro a
    simp [h.assignments, h.grants]
  · simp [h.assignments]
  · simp [h.grants]
  · intro showId userId
    simp [h.grants, Fits, listShowPermissions, h.permissions]

/-- **Show permissions follow the assignment** after every call of `init_db` in a run exactly when
no request of the run makes a `dj` without an explicit set a `producer` without giving one. -/
theorem grants_follow_iff (u : Upgrade ρ) (hasShow : ρ → ℤ → Bool) {s t : State ρ}
    {rs : List Request} (hs : Start s) (he : exec (step u hasShow) s rs = some t) :
    (∀ pre, pre <+: rs → ∀ t, exec (step u hasShow) s pre = some t → Follows (called u t)) ↔
      Meets (step u hasShow) (fun s r => ¬ Demotes u hasShow s r) s rs :=
  always_iff_meets (I := Inv) (P := fun t => Follows (called u t)) (fun _ _ _ => inv_step)
    (fun _ => follows_called) (fun _ _ _ h hstep hfollows hr =>
      not_follows_of_demotes h hr hstep hfollows) (inv_of_start hs) he

lemma uniqueNames_empty : UniqueNames ∅ := by simp [UniqueNames]

/-- A database with a user whom nobody has assigned yet. -/
def firstDay : State Unit where
  db :=
    { userVersion := 0
      systemSettings := ∅
      users := (∅ : Table User).insert 1 ⟨"ada", "Ada", "dj", true⟩
      roleTemplates := ∅
      rolePermissions := ∅
      userRoles := ∅
      showAssignments := []
      showPermissions := ∅
      rest := ()
      uniqueNames := uniqueNames_empty }
  grants _ _ := none

def plainUpgrade : Upgrade Unit := ⟨id, fun _ permissions => permissions, fun _ => [], id⟩

lemma firstDay_start : Start firstDay := ⟨Nat.zero_le _, rfl, rfl, rfl⟩

variable (u hasShow) in
lemma exec_total (s : State ρ) (rs : List Request) :
    ∃ t, exec (step u hasShow) s rs = some t := by
  induction rs generalizing s with
  | nil => exact ⟨s, rfl⟩
  | cons r rs ih =>
    obtain ⟨t, ht⟩ : ∃ t, step u hasShow s r = some t := by
      cases r with
      | initDb => exact ⟨_, rfl⟩
      | assign | unassign =>
        simp only [step]
        split <;> exact ⟨_, rfl⟩
    obtain ⟨t', ht'⟩ := ih t
    exact ⟨t', exec_cons_eq_some.mpr ⟨t, ht, ht'⟩⟩

/-- A `dj` becomes a `producer` with an explicit set. -/
theorem follows_with_set :
    ∃ t, exec (step plainUpgrade fun _ _ => true) firstDay [.assign 1 ⟨1, "dj", none⟩,
      .assign 1 ⟨1, "producer", some ["show.end"]⟩, .initDb] = some t ∧
        Follows (called plainUpgrade t) := by
  obtain ⟨t, ht⟩ := exec_total plainUpgrade (fun _ _ => true) firstDay
    [.assign 1 ⟨1, "dj", none⟩, .assign 1 ⟨1, "producer", some ["show.end"]⟩, .initDb]
  refine ⟨t, ht, (grants_follow_iff plainUpgrade (fun _ _ => true) firstDay_start ht).mpr ?_ _
    List.prefix_rfl t ht⟩
  exact ⟨by simp [Demotes], fun _ _ => ⟨by simp [Demotes], fun _ _ => ⟨id, fun _ _ => trivial⟩⟩⟩

/-- A `dj` who becomes a `producer` may still broadcast. -/
theorem producer_keeps_broadcast :
    ¬ ∀ (u : Upgrade Unit) (hasShow : Unit → ℤ → Bool) (s t : State Unit) (rs : List Request),
      Start s → exec (step u hasShow) s rs = some t → Follows (called u t) := by
  intro h
  have hfirst : (step plainUpgrade (fun _ _ => true) firstDay (.assign 1 ⟨1, "dj", none⟩)).map
      (fun t => t.db.showAssignments) = some [⟨1, 1, "dj", ""⟩] := by decide +kernel
  obtain ⟨t, ht, hrows⟩ := Option.map_eq_some_iff.mp hfirst
  have hinv : Inv t := inv_step (inv_of_start firstDay_start) (by simp [Demotes]) ht
  have hdemotes : Demotes plainUpgrade (fun _ _ => true) t (.assign 1 ⟨1, "producer", none⟩) :=
    ⟨rfl, rfl, rfl, ⟨1, 1, "dj", ""⟩, by simp [hrows], rfl, rfl, rfl, rfl⟩
  obtain ⟨t', ht'⟩ := exec_total plainUpgrade (fun _ _ => true) t
    [.assign 1 ⟨1, "producer", none⟩]
  obtain ⟨t'', hstep, hlast⟩ := exec_cons_eq_some.mp ht'
  obtain rfl := Option.some.inj hlast
  exact not_follows_of_demotes hinv hdemotes hstep
    (h _ _ _ _ _ firstDay_start (exec_cons_eq_some.mpr ⟨t, ht, ht'⟩))

end OnAir.ShowGrants
