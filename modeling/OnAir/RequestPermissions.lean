import OnAir.PythonText
import OnAir.Table

/-!
Which requests a user may make: a table of roles by path, and permissions where the role is not
enough.

Every question is asked of a permission set in one of two ways, of the permissions themselves or
of those of some show. Both answers can only turn from no to yes when permissions are added, and
no branch turns an answer around.
-/

namespace OnAir.RequestPermissions

open PythonText OnAir.Table

/-! ### Paths, methods and roles -/

/-- `s.upper()`, where it is compared with the names of methods: these are the upper case of the
small letters, of the dotless i and of the long s. -/
def upper (s : String) : String :=
  String.ofList (s.toList.map fun c =>
    if c = '\u0131' then 'I' else if c = '\u017f' then 'S' else c.toUpper)

def startsWith (s start : String) : Bool := start.toList.isPrefixOf s.toList

def endsWith (s ending : String) : Bool := ending.toList.isSuffixOf s.toList

def readOnlyMethods : List String := ["GET", "HEAD", "OPTIONS"]

/-- `str(method or "GET").upper()`. -/
def normalizedMethod (method : String) : String := upper (if method = "" then "GET" else method)

def isRead (method : String) : Bool := normalizedMethod method ∈ readOnlyMethods

def normalizeLegacyRole (role : String) : String :=
  let normalized := lower (trim role)
  if normalized = "superadmin" then "admin" else normalized

def pathMatches (rulePath actualPath : String) : Bool :=
  if actualPath = rulePath then true
  else if endsWith rulePath "/" then startsWith actualPath rulePath
  else startsWith actualPath (rulePath ++ "/")

def allRoles : List String := ["admin", "dj", "producer", "viewer"]

/-- A path and the roles that may read and write below it. -/
structure Rule where
  path : String
  readRoles : List String
  writeRoles : List String
  deriving DecidableEq, Repr

def routeRoleRules : List Rule :=
  [⟨"/api/auth/", allRoles, allRoles⟩,
   ⟨"/api/users", ["admin"], ["admin"]⟩,
   ⟨"/api/roles", allRoles, allRoles⟩,
   ⟨"/api/runtime/", ["admin", "dj"], ["admin", "dj"]⟩,
   ⟨"/api/liquidsoap/", ["admin", "dj"], ["admin", "dj"]⟩,
   ⟨"/api/audio/", ["admin", "dj"], ["admin", "dj"]⟩,
   ⟨"/api/queue/", allRoles, ["admin", "dj", "producer"]⟩,
   ⟨"/api/playout/", allRoles, ["admin", "dj", "producer"]⟩,
   ⟨"/api/program/", allRoles, ["admin", "dj", "producer"]⟩,
   ⟨"/api/schedule/", allRoles, ["admin", "dj", "producer"]⟩,
   ⟨"/api/ads/", ["admin", "producer", "viewer"], ["admin", "producer"]⟩,
   ⟨"/api/ad-break-sets", ["admin", "producer", "viewer"], ["admin", "producer"]⟩,
   ⟨"/api/ad-campaigns", ["admin", "producer", "viewer"], ["admin", "producer"]⟩,
   ⟨"/api/tracks/", allRoles, ["admin", "dj", "producer"]⟩,
   ⟨"/api/library/", allRoles, ["admin", "dj", "producer"]⟩,
   ⟨"/api/media/", allRoles, ["admin", "dj", "producer"]⟩,
   ⟨"/api/scanner/", ["admin", "dj", "producer"], ["admin", "dj", "producer"]⟩,
   ⟨"/api/playlists/", allRoles, ["admin", "dj", "producer"]⟩,
   ⟨"/api/studios", allRoles, ["admin", "dj", "producer"]⟩,
   ⟨"/api/guest-recordings", ["admin", "dj", "producer"], ["admin", "dj", "producer"]⟩,
   ⟨"/api/stations/", ["admin", "dj", "viewer"], ["admin", "dj"]⟩,
   ⟨"/api/speaker/", ["admin", "dj", "viewer"], ["admin", "dj"]⟩,
   ⟨"/api/settings/", ["admin"], ["admin"]⟩,
   ⟨"/api/sweeper/", ["admin"], ["admin"]⟩,
   ⟨"/api/startup-sound/", ["admin"], ["admin"]⟩,
   ⟨"/api/outbox/", ["admin", "dj"], ["admin", "dj"]⟩,
   ⟨"/api/webrtc/", ["admin", "dj"], ["admin", "dj"]⟩,
   ⟨"/api/soundboard/", ["admin", "dj"], ["admin", "dj"]⟩,
   ⟨"/api/setup/", ["admin", "dj"], ["admin", "dj"]⟩,
   ⟨"/api/shows/", ["admin", "dj", "producer"], ["admin", "dj", "producer"]⟩,
   ⟨"/api/logs", allRoles, ["admin", "dj", "producer"]⟩,
   ⟨"/api/events", allRoles, ["admin", "dj", "producer"]⟩]

def Rule.roles (method : String) (r : Rule) : List String :=
  if isRead method then r.readRoles else r.writeRoles

def rolesFor (path method : String) : List String :=
  match routeRoleRules.find? fun r => pathMatches r.path path with
  | some r => r.roles method
  | none => if isRead method then allRoles else ["admin"]

def roleIsAllowedForRequest (role path method : String) : Bool :=
  normalizeLegacyRole role ∈ rolesFor path method

/-! ### Permissions -/

structure User where
  role : String
  effectivePermissions : List String
  showPermissions : Table (List String)

def normalizePermissionValues (values : List String) : List String :=
  (values.map trim).filter (· ≠ "")

section Questions

variable (u : User)

/-- `bool(permissions & {…})`. -/
def hasAny (keys : List String) : Bool :=
  (normalizePermissionValues u.effectivePermissions).any (· ∈ keys)

/-- `"…" in permissions`. -/
def has (key : String) : Bool := hasAny u [key]

def userHasAnyShowPermission (keys : List String) : Bool :=
  (rows u.showPermissions).any fun r => (normalizePermissionValues r.2).any
    (· ∈ normalizePermissionValues keys)

def isAdmin : Bool := normalizeLegacyRole u.role = "admin"

/-- The permissions of a show with which its host works. -/
def hostKeys : List String :=
  ["show.broadcast", "show.queue_edit", "show.jingle_manage", "show.break_control", "show.end"]

variable (path method : String)

def streamConfigAllows : Bool :=
  if isAdmin u then true
  else if isRead method then hasAny u ["stream.configure_basic", "stream.configure_advanced"]
  else if endsWith path "/rollback" then has u "stream.configure_advanced"
  else has u "stream.configure_basic"

/-- `none` where the role decides. -/
def liquidsoapAllows : Option Bool :=
  if isAdmin u then some true
  else if endsWith path "/status" then
    some (hasAny u ["stations.view", "stations.edit"] || userHasAnyShowPermission u hostKeys)
  else if endsWith path "/program/music" || endsWith path "/duck" then
    some (userHasAnyShowPermission u ["show.broadcast"])
  else if endsWith path "/push" || endsWith path "/skip" || endsWith path "/cart" then
    some (userHasAnyShowPermission u ["show.broadcast"])
  else none

def usersAllow : Bool :=
  if isRead method then hasAny u ["users.manage", "users.reset_password"]
  else if endsWith path "/reset-password" then hasAny u ["users.manage", "users.reset_password"]
  else has u "users.manage"

def stationsAllow : Bool :=
  if endsWith path "/output" then
    if isRead method then hasAny u ["stations.view", "stations.edit"] else has u "stations.edit"
  else if isRead method then
    hasAny u ["stations.view", "stations.create", "stations.edit", "stations.delete"]
  else if normalizedMethod method = "DELETE" then has u "stations.delete"
  else if endsWith path "/active" then has u "stations.edit"
  else has u "stations.create"

def speakerAllows : Bool :=
  if isRead method then hasAny u ["stations.view", "stations.edit"] else has u "stations.edit"

def soundboardAllows : Bool :=
  if isRead method then hasAny u ["soundboard.view", "soundboard.play", "soundboard.manage"]
  else if endsWith path "/play" || endsWith path "/stop" then
    hasAny u ["soundboard.play", "soundboard.manage"]
  else has u "soundboard.manage"

def programAllows : Bool :=
  if isRead method then has u "program.panel.open" || userHasAnyShowPermission u hostKeys
  else if endsWith path "/queue/source" then userHasAnyShowPermission u ["show.broadcast"]
  else if contains path "/queue" then userHasAnyShowPermission u ["show.queue_edit"]
  else has u "program.panel.open"

def showsAllow : Bool :=
  if isRead method then
    hasAny u ["shows.view", "shows.manage", "show.assign.manage", "program.panel.open"] ||
      userHasAnyShowPermission u hostKeys
  else if endsWith path "/assign" || contains path "/assign/" then has u "show.assign.manage"
  else if endsWith path "/upload-audio" then
    has u "shows.manage" || userHasAnyShowPermission u ["show.jingle_manage"]
  else if endsWith path "/go-live" then userHasAnyShowPermission u ["show.broadcast"]
  else if endsWith path "/go-break" then userHasAnyShowPermission u ["show.break_control"]
  else if endsWith path "/end" then userHasAnyShowPermission u ["show.end"]
  else has u "shows.manage"

/-- What a user may do whose role does not allow the request. -/
def permissionsAllow : Bool :=
  if pathMatches "/api/users" path then usersAllow u path method
  else if path = "/api/stations" || pathMatches "/api/stations/" path then
    stationsAllow u path method
  else if pathMatches "/api/speaker/" path then speakerAllows u method
  else if pathMatches "/api/library/import/ytdlp" path then has u "downloads.use"
  else if pathMatches "/api/logs" path || pathMatches "/api/events" path then has u "logs.view"
  else if pathMatches "/api/soundboard/" path then soundboardAllows u path method
  else if path = "/api/program" || pathMatches "/api/program/" path then
    programAllows u path method
  else if path = "/api/shows" || pathMatches "/api/shows/" path then showsAllow u path method
  else false

def userIsAllowedForRequest : Bool :=
  if pathMatches "/api/stream-config/" path then streamConfigAllows u path method
  else
    match (if pathMatches "/api/liquidsoap/" path then liquidsoapAllows u path else none) with
    | some answer => answer
    | none => roleIsAllowedForRequest u.role path method || permissionsAllow u path method

end Questions

/-! ### More permissions -/

/-- The permissions of a user for a show. -/
def permissionsFor (u : User) (showId : ℤ) : List String := u.showPermissions[showId]?.getD []

/-- The second user has the role of the first, and at least its permissions. -/
structure Extends (u v : User) : Prop where
  role : v.role = u.role
  permissions : u.effectivePermissions ⊆ v.effectivePermissions
  shows : ∀ showId, permissionsFor u showId ⊆ permissionsFor v showId

variable {u v : User}

lemma normalizePermissionValues_mono {l m : List String} (h : l ⊆ m) :
    normalizePermissionValues l ⊆ normalizePermissionValues m :=
  List.filter_subset _ (List.map_subset _ h)

lemma hasAny_mono (h : Extends u v) {keys : List String} (ha : hasAny u keys = true) :
    hasAny v keys = true := by
  obtain ⟨p, hp, hkey⟩ := List.any_eq_true.mp ha
  exact List.any_eq_true.mpr ⟨p, normalizePermissionValues_mono h.permissions hp, hkey⟩

lemma has_mono (h : Extends u v) {key : String} (ha : has u key = true) : has v key = true :=
  hasAny_mono h ha

lemma userHasAnyShowPermission_mono (h : Extends u v) {keys : List String}
    (ha : userHasAnyShowPermission u keys = true) : userHasAnyShowPermission v keys = true := by
  obtain ⟨⟨showId, values⟩, hrow, hany⟩ := List.any_eq_true.mp ha
  obtain ⟨p, hp, hkey⟩ := List.any_eq_true.mp hany
  have hu : permissionsFor u showId = values := by
    unfold permissionsFor
    rw [mem_rows.mp hrow]
    rfl
  -- the permission is not the empty text, so the second user has a row for the show as well
  obtain ⟨w, hw, rfl⟩ := List.mem_map.mp (List.mem_filter.mp hp).1
  have hv : w ∈ permissionsFor v showId := h.shows showId (hu ▸ hw)
  cases hr : v.showPermissions[showId]? with
  | none => simp [permissionsFor, hr] at hv
  | some values' =>
    have hvalues : w ∈ values' := by simpa [permissionsFor, hr] using hv
    refine List.any_eq_true.mpr ⟨(showId, values'), mem_rows.mpr hr, ?_⟩
    have hmem : trim w ∈ normalizePermissionValues values' :=
      List.mem_filter.mpr ⟨List.mem_map.mpr ⟨w, hvalues, rfl⟩, (List.mem_filter.mp hp).2⟩
    exact List.any_eq_true.mpr ⟨trim w, hmem, hkey⟩

/-- A question that only permissions can turn from no to yes. -/
lemma ite_mono {c : Prop} [Decidable c] {a b a' b' : Bool} (ha : a = true → a' = true)
    (hb : b = true → b' = true) (h : (if c then a else b) = true) :
    (if c then a' else b') = true := by
  split at h
  · next hc => rw [if_pos hc]; exact ha h
  · next hc => rw [if_neg hc]; exact hb h

lemma or_mono {a b a' b' : Bool} (ha : a = true → a' = true) (hb : b = true → b' = true)
    (h : (a || b) = true) : (a' || b') = true := by
  rcases (Bool.or_eq_true _ _).mp h with h | h
  · rw [ha h, Bool.true_or]
  · rw [hb h, Bool.or_true]

section Branches

variable (h : Extends u v) (path method : String)

include h

lemma isAdmin_eq : isAdmin v = isAdmin u := by
  unfold isAdmin
  rw [h.role]

lemma streamConfigAllows_mono (ha : streamConfigAllows u path method = true) :
    streamConfigAllows v path method = true := by
  unfold streamConfigAllows at ha ⊢
  rw [isAdmin_eq h]
  exact ite_mono id (ite_mono (hasAny_mono h) (ite_mono (has_mono h) (has_mono h))) ha

/-- The role decides for both users, or the answer for the first carries over to the second. -/
lemma liquidsoapAllows_mono :
    (liquidsoapAllows u path = none ∧ liquidsoapAllows v path = none) ∨
      ∃ a b, liquidsoapAllows u path = some a ∧ liquidsoapAllows v path = some b ∧
        (a = true → b = true) := by
  unfold liquidsoapAllows
  rw [isAdmin_eq h]
  split
  · exact .inr ⟨_, _, rfl, rfl, id⟩
  split
  · exact .inr ⟨_, _, rfl, rfl, or_mono (hasAny_mono h) (userHasAnyShowPermission_mono h)⟩
  split
  · exact .inr ⟨_, _, rfl, rfl, userHasAnyShowPermission_mono h⟩
  split
  · exact .inr ⟨_, _, rfl, rfl, userHasAnyShowPermission_mono h⟩
  · exact .inl ⟨rfl, rfl⟩

lemma usersAllow_mono : usersAllow u path method = true → usersAllow v path method = true :=
  ite_mono (hasAny_mono h) (ite_mono (hasAny_mono h) (has_mono h))

lemma stationsAllow_mono :
    stationsAllow u path method = true → stationsAllow v path method = true :=
  ite_mono (ite_mono (hasAny_mono h) (has_mono h))
    (ite_mono (hasAny_mono h) (ite_mono (has_mono h) (ite_mono (has_mono h) (has_mono h))))

lemma speakerAllows_mono : speakerAllows u method = true → speakerAllows v method = true :=
  ite_mono (hasAny_mono h) (has_mono h)

lemma soundboardAllows_mono :
    soundboardAllows u path method = true → soundboardAllows v path method = true :=
  ite_mono (hasAny_mono h) (ite_mono (hasAny_mono h) (has_mono h))

lemma programAllows_mono :
    programAllows u path method = true → programAllows v path method = true :=
  have hshow := fun keys => @userHasAnyShowPermission_mono u v h keys
  ite_mono (or_mono (has_mono h) (hshow _))
    (ite_mono (hshow _) (ite_mono (hshow _) (has_mono h)))

lemma showsAllow_mono : showsAllow u path method = true → showsAllow v path method = true :=
  have hshow := fun keys => @userHasAnyShowPermission_mono u v h keys
  ite_mono (or_mono (hasAny_mono h) (hshow _))
    (ite_mono (has_mono h) (ite_mono (or_mono (has_mono h) (hshow _))
      (ite_mono (hshow _) (ite_mono (hshow _) (ite_mono (hshow _) (has_mono h))))))

lemma permissionsAllow_mono :
    permissionsAllow u path method = true → permissionsAllow v path method = true :=
  ite_mono (usersAllow_mono h path method)
    (ite_mono (stationsAllow_mono h path method)
      (ite_mono (speakerAllows_mono h method)
        (ite_mono (has_mono h)
          (ite_mono (has_mono h)
            (ite_mono (soundboardAllows_mono h path method)
              (ite_mono (programAllows_mono h path method)
                (ite_mono (showsAllow_mono h path method) id)))))))

lemma userIsAllowedForRequest_mono (ha : userIsAllowedForRequest u path method = true) :
    userIsAllowedForRequest v path method = true := by
  have hrole : (roleIsAllowedForRequest u.role path method || permissionsAllow u path method) =
      true → (roleIsAllowedForRequest v.role path method || permissionsAllow v path method) =
      true := by
    rw [h.role]
    exact or_mono id (permissionsAllow_mono h path method)
  unfold userIsAllowedForRequest at ha ⊢
  split
  · next hstream =>
      rw [if_pos hstream] at ha
      exact streamConfigAllows_mono h path method ha
  · next hstream =>
      rw [if_neg hstream] at ha
      by_cases hliq : pathMatches "/api/liquidsoap/" path = true
      · rw [if_pos hliq] at ha ⊢
        rcases liquidsoapAllows_mono h path with ⟨hu, hv⟩ | ⟨a, b, hu, hv, hab⟩
        · rw [hu] at ha
          rw [hv]
          exact hrole ha
        · rw [hu] at ha
          rw [hv]
          exact hab ha
      · rw [if_neg hliq] at ha ⊢
        exact hrole ha

end Branches

/-! ### Admins -/

lemma admin_mem_rules : ∀ r ∈ routeRoleRules, "admin" ∈ r.readRoles ∧ "admin" ∈ r.writeRoles := by
  decide

lemma admin_mem_rolesFor (path method : String) : "admin" ∈ rolesFor path method := by
  unfold rolesFor
  split
  · next r hr =>
      have hrule := admin_mem_rules r (List.mem_of_find?_eq_some hr)
      unfold Rule.roles
      split
      · exact hrule.1
      · exact hrule.2
  · split <;> decide

lemma admin_allowed (hu : isAdmin u = true) (path method : String) :
    userIsAllowedForRequest u path method = true := by
  have hrole : roleIsAllowedForRequest u.role path method = true := by
    unfold roleIsAllowedForRequest
    rw [of_decide_eq_true hu]
    exact decide_eq_true (admin_mem_rolesFor path method)
  unfold userIsAllowedForRequest
  split
  · unfold streamConfigAllows
    rw [if_pos hu]
  · split
    · next answer hanswer =>
        split at hanswer
        · unfold liquidsoapAllows at hanswer
          rw [if_pos hu] at hanswer
          exact (Option.some.inj hanswer).symm
        · cases hanswer
    · rw [hrole, Bool.true_or]

/-- **Permissions are monotone.** What a user may request, a user of the same role with at least
the same permissions may request as well; and an admin may request everything. -/
theorem allowed_of_extends (path method : String) :
    (∀ u v, Extends u v → userIsAllowedForRequest u path method = true →
      userIsAllowedForRequest v path method = true) ∧
    ∀ u : User, u.role = "admin" ∨ u.role = "superadmin" →
      userIsAllowedForRequest u path method = true := by
  refine ⟨fun u v h => userIsAllowedForRequest_mono h path method, fun u hu => ?_⟩
  refine admin_allowed ?_ path method
  unfold isAdmin
  rcases hu with hu | hu <;> rw [hu] <;> decide

/-- A producer may delete a station once the permission is there, and an admin may anyway. -/
theorem allowed_of_extends_stations :
    userIsAllowedForRequest ⟨"producer", ["stations.delete", "logs.view"], ∅⟩ "/api/stations/3"
      "delete" = true ∧
    userIsAllowedForRequest ⟨"superadmin", [], ∅⟩ "/api/stations/3" "delete" = true :=
  ⟨(allowed_of_extends "/api/stations/3" "delete").1 ⟨"producer", ["stations.delete"], ∅⟩ _
      ⟨rfl, by decide, fun _ => List.Subset.refl _⟩ (by decide +kernel),
    (allowed_of_extends "/api/stations/3" "delete").2 _ (.inr rfl)⟩

end OnAir.RequestPermissions
