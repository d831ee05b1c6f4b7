import OnAir.LegacyImport
import OnAir.QueueRefill
import OnAir.ServiceControl
import OnAir.Transactions

/-!
The library of a station that is made to match a folder.

All files are validated before the first write. Tracks, what refers to them and the settings are
written in one transaction; then the queue is filled where it is empty, and the active tracks are
compared with the files.

What the file system and `pathlib` say of paths, and what `ffprobe` says of a file, is asked of the
environment, and so is which statement raises.
-/

namespace OnAir.FolderSync

open BroadcastQueue OnAir.Database PlayoutTables PythonText QueueRefill QueueRepository OnAir.Table
  Transactions
open LegacyImport (orDefault)

/-! ### Data -/

/-- Columns of a track that the playout does not read. -/
structure Tags where
  album : String
  genre : String
  language : String
  musicbrainzRecordingId : String
  deriving DecidableEq, Repr

structure Library where
  engine : Engine
  tags : Table Tags
  /-- the names of the stations -/
  stations : Table String

structure Payload where
  stationId : ℤ
  folder : String
  recursive : Bool
  trackType : String
  mode : String
  skipUnplayable : Bool
  removePendingQueue : Bool
  profileLabel : String
  defaultGenre : String
  defaultLanguage : String

structure Metadata where
  title : String
  artist : String
  album : String
  genre : String
  language : String
  musicbrainzRecordingId : String
  duration : ℚ

inductive Mode
  | merge
  | replace
  deriving DecidableEq, Repr

def Mode.text : Mode → String
  | .merge => "merge"
  | .replace => "replace"

structure Unplayable where
  file : String
  reason : String
  deriving DecidableEq, Repr

inductive Detail
  | text (message : String)
  | unplayable (message : String) (invalidCount : ℕ) (files : List Unplayable)
  | mismatch (message : String) (expectedFiles activeFiles : ℕ)
  deriving DecidableEq, Repr

inductive Raised
  | http (statusCode : ℕ) (detail : Detail)
  /-- what the code does not raise itself: of the file system, the database, or a missing key -/
  | other
  deriving DecidableEq, Repr

/-- What is asked of the file system, of `pathlib` and of `ffprobe`. -/
structure Files where
  /-- `str(Path(v).expanduser())` -/
  expandUser : String → String
  /-- `exists()` and `is_dir()` -/
  isDir : String → Bool
  /-- `resolve(strict=True)`, or the text of the error -/
  resolve : String → Except String String
  /-- `rglob("*")`, or `iterdir()` where it is not recursive -/
  iterate : String → Bool → Option (List String)
  /-- `is_file()`; an error counts as `False` -/
  isFile : String → Bool
  suffix : String → String
  stem : String → String
  name : String → String
  /-- `str(path.relative_to(base))` -/
  relativeTo : String → String → Option String
  /-- `base / name` -/
  join : String → String → String
  /-- `str` of `Path(v).expanduser().resolve(strict=False)`, or of `absolute()` -/
  absolute : String → String
  casefold : String → String
  /-- `_get_audio_metadata` with `require_playable`, of a path and a fallback title -/
  audioMetadata : String → String → Except String Metadata

/-! ### The payload -/

/-- `_normalize_track_type`. -/
def normalizeTrackType (raw : String) : String :=
  let token := match lower (trim raw) with
    | "song" | "songs" => "music"
    | "jingles" => "jingle"
    | "ads" | "advertisement" | "advertisements" => "ad"
    | "station-id" | "station id" | "station ids" => "station_id"
    | "recorded show" | "recorded shows" => "show"
    | token => token
  if token ∈ ["music", "jingle", "ad", "station_id", "show", "startup"] then token else "music"

def audioUploadExtensions : List String :=
  [".aac", ".adts", ".aif", ".aiff", ".flac", ".m4a", ".mp3", ".mp4", ".oga", ".ogg", ".opus",
    ".wav", ".webm", ".wma"]

def scannerMaxNewFiles : ℕ := 5000

namespace Payload

variable (p : Payload)

def sid : ℤ := if p.stationId = 0 then 1 else p.stationId

def kind : String := normalizeTrackType p.trackType

def modeOf : Option Mode :=
  match lower (trim (orDefault "replace" p.mode)) with
  | "merge" => some .merge
  | "replace" => some .replace
  | _ => none

def folderValue : String :=
  String.ofList (ServiceControl.stripChar '"' (trim p.folder).toList)

end Payload

/-! ### Files -/

section Validation

variable (fs : Files)

/-- `_canonical_library_path`. -/
def canonicalLibraryPath (value : String) : String :=
  fs.casefold (String.ofList ((fs.absolute value).toList.map fun c => if c = '/' then '\\' else c))

/-- The base of the folder, resolved. -/
def resolveBase (p : Payload) : Except Raised String :=
  if p.folderValue = "" then .error (.http 400 (.text "folder is required"))
  else
    let base := fs.expandUser p.folderValue
    if !fs.isDir base then .error (.http 400 (.text s!"Folder not found: {p.folderValue}"))
    else match fs.resolve base with
      | .ok base => .ok base
      | .error exc => .error (.http 400 (.text s!"Folder cannot be resolved: {exc}"))

/-- The audio files among the paths, resolved. -/
def audioFiles (paths : List String) : List String :=
  paths.filterMap fun path =>
    if fs.isFile path && decide (lower (fs.suffix path) ∈ audioUploadExtensions) then
      (fs.resolve path).toOption
    else none

/-- `dict.setdefault`. -/
def setDefault (d : List (String × String)) (key value : String) : List (String × String) :=
  if d.any (·.1 = key) then d else d ++ [(key, value)]

def candidatesByPath (found : List String) : List (String × String) :=
  found.foldl (fun d path => setDefault d (canonicalLibraryPath fs path) path) []

/-- The values in the order of the keys. -/
def byKeys (d : List (String × String)) : List String :=
  (d.insertionSort fun a b => a.1 ≤ b.1).map Prod.snd

def metadataOf (path : String) : Except String Metadata :=
  fs.audioMetadata path (orDefault "Track" (fs.stem path))

def metadataByPath (candidates : List String) : List (String × Metadata) :=
  candidates.filterMap fun path =>
    (metadataOf fs path).toOption.map (canonicalLibraryPath fs path, ·)

/-- `[:n]` of a text. -/
def firstChars (n : ℕ) (s : String) : String := String.ofList (s.toList.take n)

def displayPath (base path : String) : String := (fs.relativeTo path base).getD (fs.name path)

def unplayableFiles (base : String) (candidates : List String) : List Unplayable :=
  candidates.filterMap fun path =>
    match metadataOf fs path with
    | .ok _ => none
    | .error exc => some ⟨displayPath fs base path, firstChars 300 exc⟩

/-- What is known before the first write. -/
structure Validated where
  mode : Mode
  stationName : String
  base : String
  candidates : List (String × String)
  metadata : List (String × Metadata)
  unplayable : List Unplayable

/-- The function up to its first write. -/
def validate (p : Payload) (l : Library) : Except Raised Validated := do
  let some mode := p.modeOf
    | throw (.http 400 (.text "mode must be 'merge' or 'replace'"))
  let some stationName := l.stations[p.sid]?
    | throw (.http 404 (.text "station not found"))
  let base ← resolveBase fs p
  let some paths := fs.iterate base p.recursive | throw .other
  let byPath := candidatesByPath fs (audioFiles fs paths)
  let candidates := byKeys byPath
  if candidates = [] then
    throw (.http 400 (.text s!"No supported audio files found in {base}"))
  if scannerMaxNewFiles < candidates.length then
    throw (.http 413 (.text (s!"Folder contains {candidates.length} audio files; " ++
      s!"the deterministic sync limit is {scannerMaxNewFiles}. " ++
      "Split the library into smaller station folders.")))
  let metadata := metadataByPath fs candidates
  let unplayable := unplayableFiles fs base candidates
  if unplayable ≠ [] && !p.skipUnplayable then
    throw (.http 422 (.unplayable
      "Folder was not changed because one or more audio files failed validation"
      unplayable.length (unplayable.take 50)))
  if unplayable = [] then return ⟨mode, stationName, base, byPath, metadata, unplayable⟩
  let invalidPaths := unplayable.map fun item => canonicalLibraryPath fs (fs.join base item.file)
  let kept := byPath.filter fun item => item.1 ∉ invalidPaths
  if kept = [] then
    throw (.http 422 (.unplayable "Folder contains no playable audio files" unplayable.length
      (unplayable.take 50)))
  return ⟨mode, stationName, base, kept, metadata, unplayable⟩

end Validation

/-! ### Writing the rows -/

/-- The database, and the local variables of the function. -/
structure Work where
  library : Library
  added : ℕ
  reactivated : ℕ
  retained : ℕ
  duplicateRowsDeactivated : ℕ
  targetTrackIds : List ℤ
  deactivatedIds : List ℤ
  pendingRemoved : ℕ
  programItemsRemoved : ℕ
  schedulesRemoved : ℕ

def Work.start (l : Library) : Work := ⟨l, 0, 0, 0, 0, [], [], 0, 0, 0⟩

/-- `WHERE station_id=? AND LOWER(track_type)=?`. -/
def ofType (p : Payload) (t : Track) : Bool :=
  t.stationId = p.sid && Sql.lower t.trackType = lower p.kind

/-- `UPDATE tracks SET is_active=0 WHERE id=?`, of each id. -/
def deactivate (ids : List ℤ) (tracks : Table Track) : Table Track :=
  tracks.map fun id t => if id ∈ ids then { t with isActive := false } else t

def countRows {α : Type*} (t : Table α) (q : α → Bool) : ℕ := (rows t).countP fun r => q r.2

/-- `_reindex_pending_queue`. -/
def reindexPendingQueue (st : ℤ) (s : Engine) : Engine :=
  setPositions ((Sql.orderBy byPosition (queueRows st s [.pending])).map Prod.fst) s

section Writes

variable (fs : Files) (p : Payload) (v : Validated) (l : Library)

/-- The key of a track in `existing_by_path`. -/
def pathKey (t : Track) : Option String :=
  if trim t.filePath = "" then none else some (canonicalLibraryPath fs (trim t.filePath))

/-- `existing_by_path.get(key) or []`, from the rows before the first write. -/
def existingByPath (key : String) : List (ℤ × Track) :=
  (rows l.engine.tracks).filter fun r => ofType p r.2 && pathKey fs r.2 = some key

def titleOf (path : String) (m : Metadata) : String :=
  orDefault (orDefault "Track" (fs.stem path)) m.title

def tagsOf (m : Metadata) : Tags where
  album := trim m.album
  genre := trim (orDefault (trim p.defaultGenre) m.genre)
  language := trim (orDefault (trim p.defaultLanguage) m.language)
  musicbrainzRecordingId := trim m.musicbrainzRecordingId

/-- What `UPDATE tracks` makes of a row. -/
def updatedTrack (path : String) (m : Metadata) (t : Track) : Track :=
  { t with title := titleOf fs path m, artist := m.artist, filePath := path, trackType := p.kind,
           isActive := true, duration := m.duration }

/-- A tag that is blank leaves the column alone. -/
def updatedTags (new old : Tags) : Tags where
  album := orDefault old.album new.album
  genre := orDefault old.genre new.genre
  language := orDefault old.language new.language
  musicbrainzRecordingId := orDefault old.musicbrainzRecordingId new.musicbrainzRecordingId

/-- What `INSERT INTO tracks` adds. -/
def insertedTrack (path : String) (m : Metadata) : Track :=
  ⟨p.sid, titleOf fs path m, m.artist, path, m.duration, p.kind, true, false, 0, none⟩

/-- One turn of the loop over the candidates; `l` is what was read before it. -/
def syncFile (path : String) (w : Work) : Option Work := do
  let key := canonicalLibraryPath fs path
  let m ← v.metadata.lookup key
  let s := w.library.engine
  match existingByPath fs p l key with
  | primary :: duplicates =>
    let tracks := s.tracks.modify primary.1 (updatedTrack fs p path m)
    let tags := w.library.tags.modify primary.1 (updatedTags (tagsOf p m))
    return { w with
      library := { w.library with
        engine := { s with tracks := deactivate (duplicates.map Prod.fst) tracks }
        tags }
      reactivated := w.reactivated + if primary.2.isActive then 0 else 1
      retained := w.retained + if primary.2.isActive then 1 else 0
      duplicateRowsDeactivated :=
        w.duplicateRowsDeactivated + duplicates.countP fun r => r.2.isActive
      targetTrackIds := w.targetTrackIds ++ [primary.1] }
  | [] =>
    let id := nextId s.tracks
    return { w with
      library := { w.library with
        engine := { s with tracks := s.tracks.insert id (insertedTrack fs p path m) }
        tags := w.library.tags.insert id (tagsOf p m) }
      added := w.added + 1
      targetTrackIds := w.targetTrackIds ++ [id] }

/-- The active tracks that are none of the targets. -/
def staleRows (w : Work) : List ℤ :=
  ((rows w.library.engine.tracks).filter fun r =>
    ofType p r.2 && r.2.isActive && decide (r.1 ∉ w.targetTrackIds)).map Prod.fst

def deactivateStale (w : Work) : Work :=
  let ids := staleRows p w
  let s := w.library.engine
  { w with
    library := { w.library with engine := { s with tracks := deactivate ids s.tracks } }
    deactivatedIds := ids }

/-- The rows that `DELETE FROM queue_items`, `program_queue_items` and `schedule_items` are for. -/
def ofQueue (ids : List ℤ) (q : QueueItem) : Bool :=
  q.stationId = p.sid && q.status = .pending && q.trackId ∈ ids

def ofProgramQueue (ids : List ℤ) (q : ProgramQueueItem) : Bool :=
  q.stationId = p.sid && q.trackId ∈ ids

def ofSchedule (ids : List ℤ) (q : ScheduleItem) : Bool :=
  q.stationId = p.sid && q.status = .pending && q.trackId ∈ ids

def clearReferences (ids : List ℤ) (s : Engine) : Engine :=
  { s with
    queueItems := s.queueItems.filter fun _ q => !ofQueue p ids q
    programQueueItems := s.programQueueItems.filter fun _ q => !ofProgramQueue p ids q
    scheduleItems := s.scheduleItems.filter fun _ q => !ofSchedule p ids q }

/-- The rows that refer to the stale tracks are deleted, and what is pending is numbered anew. -/
def removeReferences (w : Work) : Work :=
  if w.deactivatedIds = [] then w
  else
    let s := w.library.engine
    { w with
      library := { w.library with
        engine := reindexPendingQueue p.sid (clearReferences p w.deactivatedIds s) }
      pendingRemoved := countRows s.queueItems (ofQueue p w.deactivatedIds)
      programItemsRemoved := countRows s.programQueueItems (ofProgramQueue p w.deactivatedIds)
      schedulesRemoved := countRows s.scheduleItems (ofSchedule p w.deactivatedIds) }

def prefixOf : String := if p.kind = "music" then "library" else s!"{p.kind}_library"

def profileValues : List (String × String) :=
  [(if p.kind = "music" then "music_library_folder" else s!"{p.kind}_library_folder", v.base),
    (s!"{prefixOf p}_management_mode", v.mode.text),
    (s!"{prefixOf p}_profile_label", trim p.profileLabel),
    (s!"{prefixOf p}_default_genre", trim p.defaultGenre),
    (s!"{prefixOf p}_default_language", trim p.defaultLanguage)]

def writeProfile (w : Work) : Work :=
  { w with library.engine :=
      (profileValues p v).foldl (fun s x => upsertSetting p.sid x.1 x.2 s) w.library.engine }

/-- What is written before the commit. -/
def writes : List (Work → Option Work) :=
  (byKeys v.candidates).map (syncFile fs p v l) ++
    (if v.mode = .replace then
      some ∘ deactivateStale p ::
        if p.removePendingQueue then [some ∘ removeReferences p] else []
    else []) ++ [some ∘ writeProfile p v]

/-- The writes, of which one may raise. -/
def interrupted {α : Type*} (fails : Option ℕ) (fs : List (α → Option α)) : List (α → Option α) :=
  match fails with
  | none => fs
  | some n => fs.take n ++ [fun _ => none]

end Writes

/-! ### The whole call -/

/-- `ensure_broadcast_queue_filled`, where nothing more is written after `n` items. -/
def filledUpTo (n : ℕ) (st : ℤ) (s : Engine) : Engine :=
  if !(listActiveOrdered st s).isEmpty then s
  else
    match sweeperSettings st s with
    | .error _ => s
    | .ok sweeper => ((refillItems st s sweeper).take n).foldl (addItem st) s

structure Response where
  stationId : ℤ
  stationName : String
  folder : String
  mode : Mode
  trackType : String
  profileLabel : String
  expectedFiles : ℕ
  activeFiles : ℕ
  added : ℕ
  reactivated : ℕ
  retained : ℕ
  deactivated : ℕ
  duplicateRowsDeactivated : ℕ
  metadataFallbacks : ℕ
  invalidFilesSkipped : ℕ
  invalidFiles : List Unplayable
  pendingQueueItemsRemoved : ℕ
  programQueueItemsRemoved : ℕ
  pendingSchedulesRemoved : ℕ
  deriving DecidableEq, Repr

inductive Outcome
  /-- it raised before its commit -/
  | refused (error : Raised)
  /-- it raised after its commit -/
  | unverified (error : Raised)
  | verified (response : Response)
  deriving DecidableEq, Repr

/-- What raises. -/
structure Faults where
  /-- how many writes there are before the one that raises; after the last it is the commit -/
  write : Option ℕ
  /-- how many items the refill adds before it raises -/
  refill : ℕ
  /-- the count of the active files is not written -/
  settings : Bool

section Sync

variable (fs : Files) (p : Payload)

/-- The canonical paths of the active tracks. -/
def activePaths (s : Engine) : Finset String :=
  (((rows s.tracks).filter fun r =>
    ofType p r.2 && r.2.isActive && decide (trim r.2.filePath ≠ "")).map
      fun r => canonicalLibraryPath fs r.2.filePath).toFinset

/-- `exact_match`. -/
def exactMatch (mode : Mode) (active expected : Finset String) : Bool :=
  match mode with
  | .merge => expected ⊆ active
  | .replace => active = expected

def responseOf (v : Validated) (w : Work) (active : ℕ) : Response where
  stationId := p.sid
  stationName := orDefault s!"Station {p.sid}" v.stationName
  folder := v.base
  mode := v.mode
  trackType := p.kind
  profileLabel := trim p.profileLabel
  expectedFiles := v.candidates.length
  activeFiles := active
  added := w.added
  reactivated := w.reactivated
  retained := w.retained
  deactivated := w.deactivatedIds.length
  duplicateRowsDeactivated := w.duplicateRowsDeactivated
  metadataFallbacks := 0
  invalidFilesSkipped := v.unplayable.length
  invalidFiles := v.unplayable.take 50
  pendingQueueItemsRemoved := w.pendingRemoved
  programQueueItemsRemoved := w.programItemsRemoved
  pendingSchedulesRemoved := w.schedulesRemoved

/-- The function from its first write on. -/
def write (faults : Faults) (v : Validated) (l : Library) : Library × Outcome :=
  match execute ((interrupted faults.write (writes fs p v l)).map .write ++ [.commit])
    (.opened (.start l)) with
  | (c, false) => (c.committed.library, .refused .other)
  | (c, true) =>
    let w := c.committed
    let filled := { w.library with engine := filledUpTo faults.refill p.sid w.library.engine }
    let active := activePaths fs p filled.engine
    let expected := (v.candidates.map Prod.fst).toFinset
    if !exactMatch v.mode active expected then
      (filled, .unverified (.http 409 (.mismatch
        "library sync finished but verification did not match" expected.card active.card)))
    else if faults.settings then (filled, .unverified .other)
    else
      let key := s!"{prefixOf p}_active_files"
      ({ filled with engine := upsertSetting p.sid key (toString active.card) filled.engine },
        .verified (responseOf p v w active.card))

/-- `_sync_station_library_folder_with_connection`. -/
def syncStationLibraryFolder (faults : Faults) (l : Library) : Library × Outcome :=
  match validate fs p l with
  | .error e => (l, .refused e)
  | .ok v => write fs p faults v l

end Sync

end OnAir.FolderSync
