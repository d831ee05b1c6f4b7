import OnAir.StreamConfigService
import OnAir.WeakestPre
import OnAir.WriteAheadLog

/-!
The import of a legacy database: `import_legacy_database` writes into a staged copy of the
target, and `migrate_legacy_database_safely` puts that copy in the place of the target.

The legacy database is what the queries of the import yield on its snapshot; a cell that is `NULL`
is the empty text, or 0, since that is what every cell is read with. Every operation on the disk,
the databases and the vault may fail.
-/

namespace OnAir.LegacyImport

open OnAir.Database PythonText ReplicationApplier Resumption StreamConfigService WeakestPre
  WriteAheadLog Std

/-! ### Paths -/

/-- An absolute path without links and `..`. -/
abbrev Path := List String

abbrev Bytes := List UInt8

/-- The files of the disk; the last one that was written to a path is first. -/
abbrev Files := List (Path × Bytes)

structure PurePath where
  absolute : Bool
  parts : List String
  deriving DecidableEq, Repr

def PurePath.ofChars (cs : List Char) : PurePath where
  absolute := cs.head? = some '/'
  parts := ((cs.splitOn '/').filter fun p => p ≠ [] ∧ p ≠ ['.']).map String.ofList

def PurePath.ofText (s : String) : PurePath := .ofChars s.toList

def PurePath.name (p : PurePath) : String := p.parts.getLast?.getD ""

/-- `p / q`. -/
def PurePath.join (p q : PurePath) : PurePath :=
  if q.absolute then q else ⟨p.absolute, p.parts ++ q.parts⟩

def resolve (p : PurePath) : Path :=
  p.parts.foldl (fun above part => if part = ".." then above.dropLast else above ++ [part]) []

/-- `(root / p).resolve()`. -/
def under (root : Path) (p : PurePath) : Path := resolve (PurePath.join ⟨true, root⟩ p)

def Path.text (p : Path) : String := "/" ++ "/".intercalate p

/-! ### Media files -/

def normalizeTrackType (raw : String) : String :=
  let token := lower (trim raw)
  if token ∈ ["ad", "ads"] then "ad"
  else if token ∈ ["music", "jingle", "station_id", "show", "startup", "announcement"] then token
  else "music"

def mediaDirForTrackType (trackType : String) : String :=
  match normalizeTrackType trackType with
  | "jingle" => "jingles"
  | "ad" => "ads"
  | _ => "music"

def relativeMediaSubpath (raw : String) : Option PurePath :=
  let normalized := (strip raw.toList).map fun c => if c = '\\' then '/' else c
  match normalized.tails.find? fun t => "/media/".toList.isPrefixOf (t.map Char.toLower) with
  | some t =>
    let rel := ((t.drop 7).dropWhile (· = '/')).rdropWhile (· = '/')
    if rel = [] then none else some (.ofChars rel)
  | none =>
    if "media/".toList.isPrefixOf normalized then some (.ofChars (normalized.drop 6)) else none

def fallbackMediaSubpath (raw : String) (stationId : ℤ) (stationSlug trackType : String)
    (trackId : ℤ) : PurePath :=
  let name := (PurePath.ofText (trim raw)).name
  let filename := PurePath.ofText (if name = "" then s!"track-{trackId}.bin" else name)
  let bucket := PurePath.ofText (mediaDirForTrackType trackType)
  let slug := if trim stationSlug = "" then s!"station-{stationId}" else trim stationSlug
  if stationId ≤ 1 ∧ slug ∈ ["main", "default", "station-1"] then bucket.join filename
  else (((PurePath.ofText "stations").join (.ofText slug)).join bucket).join filename

-- how a glob pattern matches a name
variable (fnmatch : String → String → Bool)

/-- `root.rglob(pattern)`. -/
def rglob (files : Files) (root : Path) (pattern : String) : List Path :=
  ((files.map (·.1)).dedup).filter fun p =>
    root.isPrefixOf p && p ≠ root && fnmatch pattern (p.getLast?.getD "")

def isFile (files : Files) (p : Path) : Bool := (files.lookup p).isSome

def resolveLegacyMediaSource (files : Files) (legacyRepoRoot : Path) (raw : String) :
    Option Path :=
  let text := trim raw
  let candidate := PurePath.ofText text
  let roots := [[], ["media"], ["uploads"], ["data"]].map (legacyRepoRoot ++ ·)
  let direct := if candidate.absolute then [resolve candidate] else roots.map (under · candidate)
  let relative := (relativeMediaSubpath text).toList.map (under (legacyRepoRoot ++ ["media"]))
  let named := if candidate.name = "" then []
    else rglob fnmatch files (legacyRepoRoot ++ ["media"]) candidate.name
  if text = "" then none
  else match (direct ++ relative).find? (isFile files) with
    | some p => some p
    | none => match named with
      | [p] => some p
      | _ => none

/-! ### The databases -/

structure Setting where
  value : String
  updatedAt : String
  deriving DecidableEq, Repr

structure Track where
  stationId : ℤ
  title : String
  artist : String
  album : String
  genre : String
  language : String
  duration : ℚ
  bpm : ℚ
  trackType : String
  isActive : Bool
  musicbrainzRecordingid : String
  filePath : String
  deriving DecidableEq, Repr

/-- The content of the database; `rest` is that of the tables which no statement here reads. -/
structure Content (δ : Type) where
  stations : Table String
  tracks : Table Track
  systemSettings : ExtTreeMap String Setting
  stationSettings : Table (ExtTreeMap String Setting)
  stationOutputs : Table StationOutput
  rest : δ

structure LegacyStation where
  id : ℤ
  name : String
  slug : String

structure LegacyTrack where
  id : ℤ
  stationId : ℤ
  filePath : String
  title : String
  artist : String
  album : String
  genre : String
  language : String
  bpm : ℚ
  duration : ℚ
  trackType : String
  isActive : String

structure LegacySetting where
  key : String
  value : String
  updatedAt : String

/-- What the queries yield; a table may be missing. -/
structure Legacy (ℓ : Type) where
  stations : Option (List LegacyStation)
  tracks : Option (List LegacyTrack)
  systemSettings : Option (List LegacySetting)
  stationSettings : Option (List (ℤ × LegacySetting))
  rest : ℓ

/-- What is done to the staged database alone: the bootstrap of the schema with what it adds, and
the imports of playlists, metadata rules, schedule and ads. -/
structure Steps (ℓ δ : Type) where
  /-- the schema is not older than this one, or there is nothing to bring up to date -/
  isCurrent : Content δ → Bool
  bootstrap : Content δ → Content δ
  backfill : Content δ → Content δ
  playlists : ℓ → δ → δ
  metadataRules : ℓ → δ → δ
  schedule : ℓ → δ → δ
  ads : ℓ → δ → δ

/-- What SQLite makes of the pages of a file: the content that they hold, if they are no
malformed image, and how a statement leaves them. -/
structure Sqlite (Page δ : Type) where
  read : List Page → Option (Content δ)
  exec : (Content δ → Content δ) → List Page → List Page
  read_nil : (read []).isSome
  read_exec : ∀ {f ps c}, read ps = some c → read (exec f ps) = some (f c)
  exec_ne_nil : ∀ {f ps}, exec f ps ≠ []

/-- `x or default`. -/
def orDefault (default s : String) : String := if s = "" then default else s

def epoch : String := "1970-01-01 00:00:00"

def parseBool (raw : String) (default : Bool) : Bool :=
  let token := lower (trim raw)
  if token ∈ ["1", "true", "yes", "on"] then true
  else if token ∈ ["0", "false", "no", "off"] then false
  else default

def parseInt (raw : String) (default : ℤ) : ℤ :=
  match intOfFloat raw with
  | .ok n => n
  | .error _ => default

def parseFloat (raw : String) (default : ℚ) : ℚ :=
  match floatOf raw with
  | some (.num q) => q
  | _ => default

/-! ### Edits -/

/-- A statement, and the credential that is stored before it. -/
structure Edit (δ : Type) where
  secret : Option (String × String)
  apply : Content δ → Content δ

/-- `system_credential_reference`, for a name of letters and underscores. -/
def systemCredentialReference (name : String) : String :=
  referencePrefix ++ "system/" ++ replaceChar '_' '-' (lower (trim name))

def secretSettingKeys : List String :=
  ["rocket_admin_password", "rocket_health_password", "radiotedu_voting_agent_token"]

section Edits

variable {δ : Type}

def setOutputPassword (st : ℤ) (reference : String) (c : Content δ) : Content δ :=
  { c with
    stationOutputs := c.stationOutputs.modify st fun o => { o with icecastPassword := reference } }

def defaultOutput (reference : String) : StationOutput :=
  ⟨false, "", true, "127.0.0.1", 8000, "/stream", "source", reference, 0, "aac_plus_196", 196⟩

def insertOutput (st : ℤ) (o : StationOutput) (c : Content δ) : Content δ :=
  { c with stationOutputs := c.stationOutputs.insert st o }

def upsertSystemSetting (key : String) (s : Setting) (c : Content δ) : Content δ :=
  { c with systemSettings := c.systemSettings.insert key s }

def upsertStationSetting (st : ℤ) (key : String) (s : Setting) (c : Content δ) : Content δ :=
  { c with
    stationSettings :=
      c.stationSettings.insert st (((c.stationSettings[st]?).getD ∅).insert key s) }

def legacyPassword (c : Content δ) (st : ℤ) : String :=
  (((c.stationSettings[st]?).bind (·["icecast_password"]?)).map (·.value)).getD ""

/-- The Icecast password of one station leaves the database. -/
def migrateStationPassword (c : Content δ) (st : ℤ) : Option (Edit δ) :=
  let output := c.stationOutputs[st]?
  let stored := (output.map (·.icecastPassword)).getD ""
  let given := orDefault (legacyPassword c st) stored
  let plaintext := if lower (trim given) = "hackme" then "" else given
  let secret := if isCredentialReference stored || plaintext = "" then none
    else some (credentialReference st, plaintext)
  let reference := if isCredentialReference stored then stored
    else if plaintext = "" then "" else credentialReference st
  if output.isSome then some ⟨secret, setOutputPassword st reference⟩
  else if reference = "" then none
  else some ⟨secret, insertOutput st (defaultOutput reference)⟩

def clearLegacyPasswords : Edit δ where
  secret := none
  apply c := { c with
    stationSettings := c.stationSettings.map fun _ t =>
      t.modify "icecast_password" fun s => { s with value := "" } }

def migrateSystemSecret (c : Content δ) (key : String) : Option (Edit δ) :=
  let stored := ((c.systemSettings[key]?).map (·.value)).getD ""
  if isPlain stored then
    some ⟨some (systemCredentialReference key, stored), fun c => { c with
      systemSettings := c.systemSettings.modify key fun s =>
        { s with value := systemCredentialReference key } }⟩
  else none

/-- `_migrate_station_credentials`. -/
def migrateStationCredentials (c : Content δ) : List (Edit δ) :=
  let hasPassword := fun st => ((c.stationSettings[st]?).bind (·["icecast_password"]?)).isSome
  let stations := (c.stationOutputs.keys ++ c.stationSettings.keys.filter hasPassword)
  (stations.dedup.mergeSort (· ≤ ·)).filterMap (migrateStationPassword c) ++
    [clearLegacyPasswords] ++ secretSettingKeys.filterMap (migrateSystemSecret c)

def stationEdits (rows : List LegacyStation) : List (Edit δ) :=
  (rows.filter fun r => 0 < r.id).map fun r =>
    ⟨none, fun c => { c with
      stations := c.stations.insert r.id (trim (orDefault s!"Station {r.id}" r.name)) }⟩

def stationSlugs (rows : List LegacyStation) : Table String :=
  (rows.filter fun r => 0 < r.id).foldl
    (fun slugs r => slugs.insert r.id (orDefault s!"station-{r.id}" (trim r.slug))) ∅

def trackStation (r : LegacyTrack) : ℤ := if r.stationId = 0 then 1 else r.stationId

def trackEdit (r : LegacyTrack) (filePath : String) : Edit δ where
  secret := none
  apply c := { c with
    tracks := c.tracks.insert r.id
      { stationId := trackStation r
        title := r.title
        artist := r.artist
        album := r.album
        genre := r.genre
        language := r.language
        duration := r.duration
        bpm := r.bpm
        trackType := normalizeTrackType (orDefault "music" r.trackType)
        isActive := parseBool r.isActive true
        musicbrainzRecordingid := ((c.tracks[r.id]?).map (·.musicbrainzRecordingid)).getD ""
        filePath := filePath } }

def systemSettingEdit (r : LegacySetting) : Edit δ :=
  let updatedAt := orDefault epoch r.updatedAt
  if r.key ∈ secretSettingKeys ∧ r.value ≠ "" then
    ⟨some (systemCredentialReference r.key, r.value),
      upsertSystemSetting r.key ⟨systemCredentialReference r.key, updatedAt⟩⟩
  else ⟨none, upsertSystemSetting r.key ⟨r.value, updatedAt⟩⟩

def settingStation (r : ℤ × LegacySetting) : ℤ := if r.1 = 0 then 1 else r.1

def stationSettingEdit (r : ℤ × LegacySetting) : Edit δ where
  secret := none
  apply := upsertStationSetting (settingStation r) r.2.key
    ⟨if r.2.key = "icecast_password" then "" else r.2.value, orDefault epoch r.2.updatedAt⟩

abbrev Settings := ExtTreeMap String String

/-- `settings_by_station`. -/
def settingsByStation (rows : List (ℤ × LegacySetting)) : Table Settings :=
  rows.foldl (fun t r => t.insert (settingStation r)
    (((t[settingStation r]?).getD ∅).insert r.2.key r.2.value)) ∅

/-- `settings.get(key, default) or default`. -/
def settingOr (settings : Settings) (key default : String) : String :=
  orDefault default ((settings[key]?).getD default)

/-- The arguments of `upsert` for the output of a station. -/
def legacyOutput (st : ℤ) (settings : Settings) : StationOutput :=
  let icecast := decide (lower (trim (settingOr settings "output_mode" "speaker")) = "icecast")
  { localOutputEnabled :=
      !icecast || parseBool ((settings["speaker_monitor_enabled"]?).getD "") true
    outputDeviceId := trim ((settings["output_device_id"]?).getD "")
    icecastEnabled := icecast
    icecastHost := settingOr settings "icecast_host" "127.0.0.1"
    icecastPort := parseInt ((settings["icecast_port"]?).getD "") 8000
    icecastMount := settingOr settings "icecast_mount" s!"/station{st}"
    icecastUser := orDefault "source"
      ((settings["icecast_username"]?).getD ((settings["icecast_user"]?).getD "source"))
    icecastPassword := (settings["icecast_password"]?).getD ""
    outputGainDb := parseFloat ((settings["output_gain_db"]?).getD "") 0
    streamCodecProfile := "aac_plus_196"
    streamBitrateKbps := 196 }

/-- `StationOutputRepository.upsert`, with the row that is there. -/
def outputEdit (existing : Option StationOutput) (st : ℤ) (settings : Settings) : Edit δ :=
  let o := legacyOutput st settings
  let given := givenPassword existing o.icecastPassword
  ⟨if isPlain given then some (credentialReference st, given) else none,
    insertOutput st { o with icecastPassword := storedPassword st given }⟩

end Edits

/-! ### Operations -/

inductive Raised
  | error
  /-- `sqlite3.DatabaseError` -/
  | malformed
  /-- `shutil.SameFileError` -/
  | sameFile
  deriving DecidableEq, Repr

/-- What becomes of an operation; one that writes a file may leave a part of it. -/
inductive Outcome
  | ok
  | failed (left : Option Bytes)
  deriving DecidableEq, Repr

inductive Op (δ : Type) : Type → Type
  /-- something that may fail, and changes nothing that another operation looks at -/
  | attempt : Op δ (Except Raised Unit)
  | targetExists : Op δ Bool
  /-- `shutil.copy2(target_db, staging_db)` -/
  | stageTarget : Op δ (Except Raised Unit)
  /-- credentials go to a temporary vault from here on -/
  | overrideVault : Op δ Unit
  /-- the staged database is opened -/
  | connect : Op δ (Except Raised (Content δ))
  | query : Op δ (Except Raised (Content δ))
  | execute (f : Content δ → Content δ) : Op δ (Except Raised Unit)
  /-- the last commit, and the connection is closed -/
  | commit : Op δ (Except Raised Unit)
  | listFiles : Op δ Files
  /-- `shutil.copy2` of a media file -/
  | copyMedia (source destination : Path) : Op δ (Except Raised Unit)
  /-- `set_secret` -/
  | storeSecret (reference secret : String) : Op δ (Except Raised Unit)
  /-- `shutil.copy2(target_db, backup_path)` -/
  | backupTarget : Op δ (Except Raised Unit)
  /-- `os.replace(staging_db, target_db)` -/
  | replaceTarget : Op δ (Except Raised Unit)
  /-- the vault is set back, and the staged and temporary files are removed -/
  | cleanup : Op δ Unit

abbrev Program (δ : Type) := Prog (Op δ) Raised

abbrev Vault := String → Option String

structure State (Page : Type) where
  /-- the target database, with the log beside it -/
  target : LoggedFile Page
  files : Files
  /-- the secrets of the credential vault by their references -/
  vault : Vault
  backup : Option (List Page)
  staged : Option (List Page)
  /-- the pages as the connection to the staged database sees them -/
  connection : Option (List Page)
  overridden : Bool
  temporaryVault : Vault

variable {Page δ : Type}

def State.initial (target : LoggedFile Page) (files : Files) (vault : Vault) : State Page :=
  ⟨target, files, vault, none, none, none, false, fun _ => none⟩

/-- The answer of an operation that leaves `t` where it goes well. -/
def attempting (w : Outcome) (s t : State Page) : Option (Except Raised Unit × State Page) :=
  match w with
  | .ok => some (.ok (), t)
  | .failed _ => some (.error .error, s)

def reading (db : Sqlite Page δ) (w : Outcome) (ps : List Page) (s t : State Page) :
    Option (Except Raised (Content δ) × State Page) :=
  match w with
  | .ok => match db.read ps with
    | none => some (.error .malformed, s)
    | some c => some (.ok c, t)
  | .failed _ => some (.error .error, s)

def store (v : Vault) (reference secret : String) : Vault :=
  fun r => if r = reference then some secret else v r

/-- What an operation answers, and the state after it. -/
def run (db : Sqlite Page δ) :
    {β : Type} → Op δ β → Outcome → State Page → Option (β × State Page)
  | _, .attempt, w, s => attempting w s s
  | _, .targetExists, _, s => some (s.target.main.isSome, s)
  | _, .stageTarget, w, s => attempting w s { s with staged := s.target.main }
  | _, .overrideVault, _, s => some ((), { s with overridden := true })
  | _, .connect, w, s =>
    let ps := s.staged.getD []
    reading db w ps s { s with connection := some ps }
  | _, .query, w, s => reading db w (s.connection.getD []) s s
  | _, .execute f, w, s =>
    attempting w s { s with connection := s.connection.map (db.exec f) }
  | _, .commit, w, s => attempting w s { s with staged := s.connection, connection := none }
  | _, .listFiles, _, s => some (s.files, s)
  | _, .copyMedia source destination, w, s =>
    if source = destination then some (.error .sameFile, s)
    else match s.files.lookup source, w with
      | none, _ => some (.error .error, s)
      | some bytes, .ok => some (.ok (), { s with files := (destination, bytes) :: s.files })
      | some _, .failed none => some (.error .error, s)
      | some _, .failed (some left) =>
        some (.error .error, { s with files := (destination, left) :: s.files })
  | _, .storeSecret reference secret, w, s =>
    attempting w s (if s.overridden then
      { s with temporaryVault := store s.temporaryVault reference secret }
    else { s with vault := store s.vault reference secret })
  | _, .backupTarget, w, s => attempting w s { s with backup := s.target.main }
  | _, .replaceTarget, w, s =>
    attempting w s { s with target := ⟨s.staged, s.target.log⟩, staged := none }
  | _, .cleanup, _, s =>
    some ((), { s with
      staged := none, connection := none, overridden := false, temporaryVault := fun _ => none })

/-! ### `import_legacy_database` -/

section Programs

variable {ℓ : Type}

def throwing {α : Type} (o : Op δ (Except Raised α)) : Program δ α := do
  match ← perform o with
  | .ok a => pure a
  | .error e => .raise e

def attempt : Program δ Unit := throwing .attempt

def execute (f : Content δ → Content δ) : Program δ Unit := throwing (.execute f)

def runEdit (e : Edit δ) : Program δ Unit :=
  match e.secret with
  | none => execute e.apply
  | some (reference, secret) => do
    throwing (.storeSecret reference secret)
    execute e.apply

def runEdits : List (Edit δ) → Program δ Unit
  | [] => pure ()
  | e :: es => do
    runEdit e
    runEdits es

/-- `init_db`, on the staged database. -/
def initDb (steps : Steps ℓ δ) : Program δ Unit := do
  let c ← throwing .connect
  if steps.isCurrent c then pure ()
  else
    attempt
    execute steps.bootstrap
    let c ← throwing .query
    runEdits (migrateStationCredentials c)
    execute steps.backfill

/-- What the summary counts; the imports of the other tables have counts of their own. -/
structure Summary where
  stations : ℕ
  tracks : ℕ
  mediaCopied : ℕ
  systemSettings : ℕ
  stationSettings : ℕ
  stationOutputs : ℕ
  warnings : List String
  dryRun : Bool
  targetReplaced : Bool
  backedUp : Bool
  deriving DecidableEq, Repr

def missing {α : Type} (table : String) (rows : Option α) : List String :=
  if rows.isNone then ["legacy table missing: " ++ table] else []

def importStations (legacy : Legacy ℓ) : Program δ (Table String) := do
  attempt
  runEdits (stationEdits (legacy.stations.getD []))
  pure (stationSlugs (legacy.stations.getD []))

/-- How the call was made: `media_destination_root` and the root of the legacy repository are
resolved. -/
structure Request (ℓ : Type) where
  legacy : Legacy ℓ
  dryRun : Bool
  copyMedia : Bool
  mediaRoot : Path
  legacyRepoRoot : Path

section Tracks

variable (r : Request ℓ) (copyMedia : Bool) (slugs : Table String)

/-- Where the media file of a track would be copied to. -/
def destinationOf (row : LegacyTrack) : Path :=
  under r.mediaRoot ((relativeMediaSubpath row.filePath).getD
    (fallbackMediaSubpath row.filePath (trackStation row)
      ((slugs[trackStation row]?).getD s!"station-{trackStation row}")
      (orDefault "music" row.trackType) row.id))

/-- `_resolve_imported_file_path`: the path, whether a file was copied, and warnings. -/
def resolveImportedFilePath (row : LegacyTrack) : Program δ (String × Bool × List String) := do
  let files ← perform .listFiles
  match resolveLegacyMediaSource fnmatch files r.legacyRepoRoot row.filePath with
  | none =>
    pure (if copyMedia then (destinationOf r slugs row).text else row.filePath, false,
      [s!"track {row.id} media source could not be resolved: {row.filePath}"])
  | some source =>
    if copyMedia then
      attempt
      throwing (.copyMedia source (destinationOf r slugs row))
      pure ((destinationOf r slugs row).text, true, [])
    else pure (source.text, false, [])

/-- `_import_tracks`, with what was copied and warned of before. -/
def importTracks : List LegacyTrack → ℕ × List String → Program δ (ℕ × List String)
  | [], done => pure done
  | row :: rows, done =>
    if row.id ≤ 0 then importTracks rows done
    else do
      let (path, didCopy, warnings) ← resolveImportedFilePath fnmatch r copyMedia slugs row
      runEdit (trackEdit row path)
      importTracks rows (done.1 + didCopy.toNat, done.2 ++ warnings)

end Tracks

def importSystemSettings (legacy : Legacy ℓ) : Program δ Unit := do
  attempt
  runEdits ((legacy.systemSettings.getD []).map systemSettingEdit)

def importStationSettings (legacy : Legacy ℓ) : Program δ (Table Settings) := do
  attempt
  runEdits ((legacy.stationSettings.getD []).map stationSettingEdit)
  pure (settingsByStation (legacy.stationSettings.getD []))

def importStationOutputs : List (ℤ × Settings) → Program δ Unit
  | [] => pure ()
  | (st, settings) :: rest => do
    let c ← throwing .query
    runEdit (outputEdit c.stationOutputs[st]? st settings)
    attempt
    importStationOutputs rest

/-- A table that is imported into the staged database alone. -/
def importRest (f : ℓ → δ → δ) (legacy : Legacy ℓ) : Program δ Unit := do
  attempt
  execute fun c => { c with rest := f legacy.rest c.rest }

/-- The summary, with what was copied and warned of. -/
def importSummary (legacy : Legacy ℓ) (settings : Table Settings) (done : ℕ × List String) :
    Summary where
  stations := (legacy.stations.getD []).length
  tracks := (legacy.tracks.getD []).length
  mediaCopied := done.1
  systemSettings := (legacy.systemSettings.getD []).length
  stationSettings := (legacy.stationSettings.getD []).length
  stationOutputs := settings.rows.length
  warnings := missing "stations" legacy.stations ++ missing "tracks" legacy.tracks ++ done.2 ++
    missing "system_settings" legacy.systemSettings ++
    missing "station_settings" legacy.stationSettings
  dryRun := false
  targetReplaced := false
  backedUp := false

def importLegacyDatabase (steps : Steps ℓ δ) (r : Request ℓ) (copyMedia : Bool) :
    Program δ Summary := do
  attempt
  initDb steps
  attempt
  let slugs ← importStations r.legacy
  attempt
  let done ← importTracks fnmatch r copyMedia slugs (r.legacy.tracks.getD []) (0, [])
  importRest steps.playlists r.legacy
  importSystemSettings r.legacy
  let settings ← importStationSettings r.legacy
  importStationOutputs settings.rows
  importRest steps.metadataRules r.legacy
  importRest steps.schedule r.legacy
  importRest steps.ads r.legacy
  throwing .commit
  pure (importSummary r.legacy settings done)

/-! ### `migrate_legacy_database_safely` -/

def whenTargetExists (p : Program δ Unit) : Program δ Bool := do
  if ← perform .targetExists then
    p
    pure true
  else pure false

def overrideVault (dryRun : Bool) : Program δ Unit :=
  if dryRun then perform .overrideVault else pure ()

/-- What is added to the summary of the import. -/
def stamped (dryRun : Bool) (summary : Summary) : Summary :=
  { summary with dryRun := dryRun, targetReplaced := false, backedUp := false }

/-- The staged database takes the place of the target. -/
def publish (summary : Summary) : Program δ Summary := do
  let backedUp ← whenTargetExists (throwing .backupTarget)
  throwing .replaceTarget
  pure { summary with targetReplaced := true, backedUp := backedUp }

def stageImport (steps : Steps ℓ δ) (r : Request ℓ) : Program δ Summary := do
  attempt
  let _ ← whenTargetExists (throwing .stageTarget)
  overrideVault r.dryRun
  importLegacyDatabase fnmatch steps r (r.copyMedia && !r.dryRun)

def migrateLegacyDatabaseSafely (steps : Steps ℓ δ) (r : Request ℓ) : Program δ Summary := do
  attempt
  finallyDo (do
    let summary ← stageImport fnmatch steps r
    if r.dryRun then pure (stamped r.dryRun summary) else publish (stamped r.dryRun summary))
    (perform .cleanup)

end Programs

end OnAir.LegacyImport
