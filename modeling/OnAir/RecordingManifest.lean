import OnAir.ReplicationApplier

/-!
The column `manifest_json` of a recording: a JSON object that lists the segments of the
recording.

A manifest is read whenever a recording is stopped, resumed or deleted, and reading it raises
where it is not such an object. The service only ever writes manifests it can read.
-/

namespace OnAir.RecordingManifest

open Json ReplicationApplier

/-! ### Dictionaries -/

/-- `d[k] = v`. -/
def setKey (fs : Fields) (k : String) (v : Value) : Fields :=
  if fs.any fun f => f.1 = k then fs.map fun f => if f.1 = k then (k, v) else f
  else fs ++ [(k, v)]

/-- `d.setdefault(k, v)`. -/
def setDefault (fs : Fields) (k : String) (v : Value) : Fields :=
  if fs.any fun f => f.1 = k then fs else fs ++ [(k, v)]

/-- An update of the last dictionary of a list; `none` where the last element is none. -/
def editLast (f : Fields → Fields) : List Value → Option (List Value)
  | [] => some []
  | [.obj fs] => some [.obj (f fs)]
  | [_] => none
  | x :: y :: xs => (editLast f (y :: xs)).map (x :: ·)

/-! ### Manifests -/

/-- `json.loads(str(row["manifest_json"] or "\x7b\x7d"))`, a dictionary. -/
def manifestOf (text : String) : Option Fields :=
  (loads (if text = "" then "\x7b\x7d" else text)).bind Value.fields

/-- `list(manifest.get("segments") or [])`. -/
def segmentsOf (manifest : Fields) : Option (List Value) :=
  ((Json.get manifest "segments").orElse (.arr [])).elems

/-- What starting a mirror comes to. -/
inductive Mirror
  | opened
  /-- the mirror is the recording itself -/
  | samePath
  | failed (error : String)
  deriving DecidableEq, Repr

/-- What a start finds around it: the time and its texts, the folder of the data, whether
ffmpeg runs, `CLEANROOM_RECORDING_MIRROR_ROOT` and what the mirror comes to. -/
structure StartEnv where
  now : String
  year : String
  month : String
  dataDir : String
  ffmpeg : Bool
  mirrorRoot : String
  mirror : Mirror

def segmentName (recordingId : ℤ) (sequence : ℕ) : String :=
  "onair-" ++ toString recordingId ++ "-segment-" ++ String.ofList (pad 3 sequence) ++ ".flac"

def segmentPath (env : StartEnv) (root : String) (stationId recordingId : ℤ) (sequence : ℕ) :
    String :=
  root ++ "/" ++ toString stationId ++ "/" ++ env.year ++ "/" ++ env.month ++ "/" ++
    segmentName recordingId sequence

def mirrorPaths (env : StartEnv) (stationId recordingId : ℤ) (sequence : ℕ) : List String :=
  if env.mirrorRoot ≠ "" ∧ env.mirror = .opened then
    [segmentPath env env.mirrorRoot stationId recordingId sequence]
  else []

def mirrorError (env : StartEnv) : String :=
  match env.mirror with
  | .failed error => if env.mirrorRoot ≠ "" then error else ""
  | _ => ""

def mirrorStatus (env : StartEnv) (paths : List String) : String :=
  if paths ≠ [] then "ready" else if env.mirrorRoot ≠ "" then "degraded" else "not_configured"

/-- The manifest and the segments that a start continues. -/
def continued (text : String) (now : String) (resume : Bool) : Option (Fields × List Value) :=
  if !resume then some ([], [])
  else do
    let manifest ← manifestOf text
    let segments ← segmentsOf manifest
    let segments ← editLast (fun fs => setDefault (setDefault fs "stopped_at" (.str now))
      "interruption_reason" (.str "leadership_lost")) segments
    return (manifest, segments)

/-- A new segment, with its path and the paths of its mirrors. -/
structure Opened where
  path : String
  mirrors : List String
  manifestJson : String

/-- What `_start` writes into the manifest. -/
def openSegment (env : StartEnv) (stationId recordingId : ℤ) (manifest : Fields)
    (segments : List Value) : Opened :=
  let sequence := segments.length + 1
  let path := segmentPath env (env.dataDir ++ "/recordings") stationId recordingId sequence
  let mirrors := mirrorPaths env stationId recordingId sequence
  let segment : Value := .obj [("sequence", .num sequence 0), ("path", .str path),
    ("mirror_paths", .arr (mirrors.map .str)), ("started_at", .str env.now)]
  let updates : Fields := [("format", .str "flac"), ("sample_rate", .num 48000 0),
    ("channels", .num 2 0), ("mirror_status", .str (mirrorStatus env mirrors)),
    ("mirror_error", .str (mirrorError env)), ("segments", .arr (segments ++ [segment]))]
  ⟨path, mirrors, dumps (.obj (updates.foldl (fun fs u => setKey fs u.1 u.2) manifest))⟩

/-- What `stop` writes into the manifest. -/
def closeSegment (text now failure : String) : Option String := do
  let manifest ← manifestOf text
  let segments ← segmentsOf manifest
  if segments.isEmpty then return dumps (.obj manifest)
  let close (fs : Fields) : Fields :=
    let fs := setKey fs "stopped_at" (.str now)
    if failure ≠ "" then setKey fs "interruption_reason" (.str failure) else fs
  return dumps (.obj (setKey manifest "segments" (.arr (← editLast close segments))))

/-- What `_handle_failed_mirrors` writes into the manifest. -/
def degrade (text : String) : Option String := do
  let manifest ← manifestOf text
  return dumps (.obj (setKey (setKey manifest "mirror_status" (.str "degraded"))
    "mirror_error" (.str "mirror_backpressure_or_failure")))

/-- The files that `delete` looks for. -/
def candidates (text filePath : String) : Option (List String) := do
  let manifest ← manifestOf text
  let segments ← (getD manifest "segments" (.arr [])).elems
  let paths ← segments.mapM fun segment => do
    let fs ← segment.fields
    let path ← ((Json.get fs "path").orElse (.str "")).text
    let mirrors ← (getD fs "mirror_paths" (.arr [])).elems
    return path :: (← mirrors.mapM fun mirror => (mirror.orElse (.str "")).text)
  return filePath :: paths.flatten

/-! ### Manifests that can be read -/

/-- A manifest whose last segment, if there is one, is a dictionary. -/
def Readable (text : String) : Prop :=
  ∃ manifest segments, manifestOf text = some manifest ∧ segmentsOf manifest = some segments ∧
    (segments = [] ∨ ∃ ss fs, segments = ss ++ [.obj fs])

section Dictionaries

variable {fs : Fields} {k k' : String} {v d : Value}

lemma find?_map_setKey (l : Fields) :
    ((l.map fun f => if f.1 = k then (k, v) else f).find? fun f => f.1 = k').map Prod.snd =
      (l.find? fun f => f.1 = k').map fun f => if k' = k then v else f.2 := by
  induction l with
  | nil => rfl
  | cons f l ih =>
    rw [List.map_cons, List.find?_cons, List.find?_cons]
    by_cases hf : f.1 = k
    · by_cases hk : k = k'
      · simp [hf, hk]
      · simpa [hf, hk] using ih
    · by_cases hk : f.1 = k'
      · have hne : k' ≠ k := hk ▸ hf
        simp [hk, hne]
      · simpa [hf, hk] using ih

/-- Looking a key up after it or another one was set. -/
lemma getD_setKey : getD (setKey fs k v) k' d = if k' = k then v else getD fs k' d := by
  unfold setKey getD
  split_ifs with hany hk hk
  · obtain ⟨f, hf, hfk⟩ := List.any_eq_true.mp hany
    have hsome : (fs.reverse.find? fun f => f.1 = k').isSome :=
      List.find?_isSome.mpr ⟨f, List.mem_reverse.mpr hf, by simpa [hk] using hfk⟩
    obtain ⟨g, hg⟩ := Option.isSome_iff_exists.mp hsome
    rw [← List.map_reverse, find?_map_setKey, hg]
    simp [hk]
  · rw [← List.map_reverse, find?_map_setKey]
    simp [hk]
  · simp [hk]
  · simp [Ne.symm hk]

end Dictionaries

lemma editLast_append (f : Fields → Fields) (ss : List Value) (fs : Fields) :
    editLast f (ss ++ [.obj fs]) = some (ss ++ [.obj (f fs)]) := by
  induction ss with
  | nil => rfl
  | cons x ss ih =>
    cases ss with
    | nil => simp [editLast]
    | cons y ss =>
      rw [List.cons_append] at ih
      simp [editLast, ih]

lemma dumps_ne_empty (x : Value) : dumps x ≠ "" := by
  intro h
  obtain ⟨c, t, hw, -⟩ := opens_write true x
  have := congrArg String.toList h
  simp [dumps, hw] at this

lemma manifestOf_dumps (m : Fields) : manifestOf (dumps (.obj m)) = some m := by
  rw [manifestOf, if_neg (dumps_ne_empty _), loads_dumps]
  rfl

lemma readable_dumps {m : Fields} {segments : List Value} (h : segmentsOf m = some segments)
    (hl : segments = [] ∨ ∃ ss fs, segments = ss ++ [.obj fs]) : Readable (dumps (.obj m)) :=
  ⟨m, segments, manifestOf_dumps m, h, hl⟩

/-- A new row can be read. -/
lemma readable_empty : Readable "\x7b\x7d" :=
  have h : dumps (.obj []) = "\x7b\x7d" := by decide +kernel
  h ▸ readable_dumps rfl (.inl rfl)

lemma segmentsOf_setKey (m : Fields) (segments : List Value) :
    segmentsOf (setKey m "segments" (.arr segments)) = some segments := by
  rw [segmentsOf, Json.get, getD_setKey, if_pos rfl]
  cases segments <;> rfl

lemma segmentsOf_setKey_ne (m : Fields) {k : String} (v : Value) (hk : "segments" ≠ k) :
    segmentsOf (setKey m k v) = segmentsOf m := by
  rw [segmentsOf, Json.get, getD_setKey, if_neg hk]
  rfl

lemma openSegment_readable (env : StartEnv) (stationId recordingId : ℤ) (manifest : Fields)
    (segments : List Value) :
    Readable (openSegment env stationId recordingId manifest segments).manifestJson :=
  readable_dumps (segmentsOf_setKey _ _) (.inr ⟨_, _, rfl⟩)

lemma closeSegment_readable {text : String} (h : Readable text) (now failure : String) :
    ∃ t, closeSegment text now failure = some t ∧ Readable t := by
  obtain ⟨m, segments, hm, hs, rfl | ⟨ss, fs, rfl⟩⟩ := h
  · exact ⟨dumps (.obj m), by simp [closeSegment, hm, hs], readable_dumps hs (.inl rfl)⟩
  · refine ⟨_, by simp [closeSegment, hm, hs, editLast_append]; rfl, ?_⟩
    exact readable_dumps (segmentsOf_setKey _ _) (.inr ⟨_, _, rfl⟩)

lemma degrade_readable {text : String} (h : Readable text) :
    ∃ t, degrade text = some t ∧ Readable t := by
  obtain ⟨m, segments, hm, hs, hl⟩ := h
  refine ⟨_, by simp [degrade, hm]; rfl, readable_dumps ?_ hl⟩
  rw [segmentsOf_setKey_ne _ _ (by decide), segmentsOf_setKey_ne _ _ (by decide), hs]

end OnAir.RecordingManifest
