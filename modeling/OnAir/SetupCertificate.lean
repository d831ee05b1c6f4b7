import OnAir.Runs
import OnAir.StreamConfigService

/-!
The deployment certificate of a station, and the playout that starts after it was issued.

A state query computes a signature over the configuration, the signatures of the checks and the
readiness of the announcements, and compares it with the one of the certificate. Of the database,
playout changes notes that the query does not read, and the row of the outputs where the station has
none or the one that older versions have left.
-/

namespace OnAir.SetupCertificate

open OnAir.Database Json PythonText Runs StreamConfigService

/-! ### The displayed outputs -/

/-- `station_settings`. -/
abbrev Settings := String → Option String

/-- `settings.get(key, default) or default`. -/
def Settings.getOr (settings : Settings) (key default : String) : String :=
  match settings key with
  | none | some "" => default
  | some value => value

def Settings.truthy (settings : Settings) (key default : String) : Bool :=
  isTruthy ((settings key).getD default)

/-- `_parse_port` of a text; `none` where it raises. -/
def parsePort (value : String) : Option ℤ :=
  match intOfFloat (trim value) with
  | .ok n => some n
  | .error .value => some 0
  | .error .overflow => none

def normalizeStreamProfile (profile : String) (bitrate : Option ℤ) : String × ℤ :=
  let token := (lower (trim profile)).toList.flatMap fun c =>
    if c = '-' then ['_'] else if c = '+' then "_plus_".toList else [c]
  if String.ofList token ∈ ["mp3", "mp3_128", "mp3_128kbps"] then ("mp3_128", 128)
  else ("aac_plus_196", (bitrate.map fun n => max 32 (min 512 n)).getD 196)

structure Output where
  localOutputEnabled : Bool
  outputDeviceId : String
  icecastEnabled : Bool
  icecastHost : String
  icecastPort : ℤ
  icecastMount : String
  icecastUser : String
  icecastPassword : String
  streamCodecProfile : String
  streamBitrateKbps : ℤ
  deriving DecidableEq, Repr

/-- `_output_payload`, of the row with its password resolved; `none` where it raises. -/
def outputPayload (row : Option StationOutput) (settings : Settings) : Option Output :=
  match row with
  | some r =>
    let (profile, bitrate) := normalizeStreamProfile r.streamCodecProfile r.streamBitrateKbps
    some ⟨r.localOutputEnabled, trim r.outputDeviceId, r.icecastEnabled, trim r.icecastHost,
      r.icecastPort, trim r.icecastMount, trim r.icecastUser, r.icecastPassword, profile, bitrate⟩
  | none =>
    let icecast : Bool := lower (trim (settings.getOr "output_mode" "speaker")) = "icecast"
    let bitrate := ((settings "stream_bitrate_kbps").map intOf).getD (some 196)
    let (profile, bitrate) :=
      normalizeStreamProfile ((settings "stream_codec_profile").getD "aac_plus_196") bitrate
    let user := ((settings "icecast_username").or (settings "icecast_user")).getD "source"
    (parsePort (settings.getOr "icecast_port" "8000")).map fun port =>
      ⟨!icecast || settings.truthy "speaker_monitor_enabled" "true", "", icecast,
        trim (settings.getOr "icecast_host" "127.0.0.1"), port,
        trim (settings.getOr "icecast_mount" "/live"), trim (if user = "" then "source" else user),
        (settings "icecast_password").getD "", profile, bitrate⟩

/-! ### Readiness of the announcements -/

/-- A row of `list_active_ordered`. -/
structure Item where
  id : ℤ
  status : String
  trackType : String
  title : String
  deriving DecidableEq, Repr

def Item.isMusic (row : Item) : Bool :=
  lower (trim (if row.trackType = "" then "music" else row.trackType)) = "music"

/-- The loop of `_get_upcoming_items`, which has seen a number of songs. -/
def upcomingItems (target : ℤ) : ℤ → List Item → List Item
  | _, [] => []
  | seen, row :: rows =>
    if lower (trim row.status) ≠ "pending" then upcomingItems target seen rows
    else if row.isMusic then
      row :: if target ≤ seen + 1 then [] else upcomingItems target (seen + 1) rows
    else row :: upcomingItems target seen rows

/-- What a state query finds besides the database of the station. -/
structure Live where
  mediaReady : Bool
  webview : Bool
  ollama : Bool
  pythonRuntime : Bool
  qwenTts : Bool
  reachable : String → ℤ → Bool
  /-- `ready` and `tts_provider` of an AI host that is enabled -/
  aiReady : Bool
  ttsProvider : String
  queue : List Item
  /-- an introduction of the item is cached; `none` where the snapshot raises -/
  cached : Option (ℤ → Bool)

/-- `ready_track_intros` of `readiness_snapshot`. -/
def readyTrackIntros (cached : ℤ → Bool) (queue : List Item) (lookahead : ℤ) : ℕ :=
  (upcomingItems lookahead 0 queue).countP fun item =>
    item.isMusic && trim item.title ≠ "" && cached item.id

/-- `startup_buffer_target`; `none` where it raises. -/
def startupBufferTarget (settings : Settings) : Option ℤ :=
  let raw := (settings "ai_ready_track_intro_target").or (settings "ai_preload_count")
  let bound (n : ℤ) : ℤ := max 1 (min 8 n)
  match raw.map intOfFloat with
  | none | some (.error .value) => some (bound 4)
  | some (.ok n) => some (bound n)
  | some (.error .overflow) => none

structure StartupAi where
  state : String
  required : ℤ
  readyIntros : ℤ
  ready : Bool
  deriving DecidableEq, Repr

/-- `_startup_ai_readiness`. -/
def startupAiReadiness (settings : Settings) (live : Live) : StartupAi :=
  if !settings.truthy "ai_host_enabled" "false" then ⟨"disabled", 0, 0, true⟩
  else
    let (required, count) : ℤ × ℤ :=
      match startupBufferTarget settings, live.cached with
      | some required, some cached => (required, readyTrackIntros cached live.queue required)
      | _, _ => (4, 0)
    let ready : Bool := required ≤ count
    ⟨if ready then "ready" else "warming", required, count, ready⟩

/-! ### The signatures -/

variable (sha256 : List Char → String)

/-- `_stable_signature`, with the digest of a text that is given by its characters. -/
def stableSignature (payload : List (String × Value)) : String :=
  sha256 (write true (sortKeys (.obj payload)))

def localSignature (o : Output) : String := stableSignature sha256
  [("local_output_enabled", .bool o.localOutputEnabled), ("output_device_id", .str o.outputDeviceId)]

def streamSignature (o : Output) : String := stableSignature sha256
  [("icecast_enabled", .bool o.icecastEnabled), ("icecast_host", .str o.icecastHost),
    ("icecast_port", .num o.icecastPort 0), ("icecast_mount", .str o.icecastMount),
    ("icecast_user", .str o.icecastUser), ("icecast_password", .str o.icecastPassword),
    ("stream_codec_profile", .str o.streamCodecProfile),
    ("stream_bitrate_kbps", .num o.streamBitrateKbps 0)]

def aiSignature (settings : Settings) : String :=
  let get key default := Value.str ((settings key).getD default)
  stableSignature sha256
    [("ai_host_enabled", get "ai_host_enabled" "false"), ("ai_llm_model", get "ai_llm_model" ""),
      ("ai_tts_provider", get "ai_tts_provider" "local-qwen-tts"),
      ("ai_tts_model_path", get "ai_tts_model_path" ""),
      ("ai_voice_persona", get "ai_voice_persona" "warm_radio_host"),
      ("setup_ai_stack", get "setup.ai_stack" "ollama_local_qwen_tts")]

/-- `WARMTH_PRESET_MAP`. -/
def warmthPresetMap : List (String × String) :=
  [("warm", "warm_radio_host"), ("energetic", "energetic_morning"), ("smooth", "smooth_evening"),
    ("professional", "professional_announcer")]

def personaToWarmth (raw : String) : String :=
  let token := lower (trim raw)
  match warmthPresetMap.find? (·.2 = token) with
  | some (warmth, _) => warmth
  | none => if warmthPresetMap.any (·.1 = token) then token else "warm"

def aiEnabled (settings : Settings) : Bool := settings.truthy "ai_host_enabled" "true"

/-- The names of `_required_checks`, in order. -/
def requiredChecks (o : Output) (settings : Settings) : List String :=
  let ai name := if aiEnabled settings then [name] else []
  ai "ai_tts" ++ ["backend"] ++ (if o.localOutputEnabled then ["local_output"] else []) ++
    ai "local_tts_runtime" ++ ["media_runtime"] ++ ai "ollama" ++ ai "startup_ai_buffer" ++
    ["station"] ++ (if o.icecastEnabled then ["stream_output"] else []) ++ ["webview2"]

def deploymentSignature (st : ℤ) (name : String) (o : Output) (settings : Settings)
    (startup : StartupAi) : String :=
  let warmth := (settings "ai_voice_persona").or (settings "setup.ai_warmth")
  stableSignature sha256
    [("station_id", .num st 0), ("station_name", .str name),
      ("required_checks", .arr ((requiredChecks o settings).map .str)),
      ("local_output_enabled", .bool o.localOutputEnabled),
      ("output_device_id", .str o.outputDeviceId), ("icecast_enabled", .bool o.icecastEnabled),
      ("icecast_host", .str o.icecastHost), ("icecast_port", .num o.icecastPort 0),
      ("icecast_mount", .str o.icecastMount), ("icecast_user", .str o.icecastUser),
      ("stream_codec_profile", .str o.streamCodecProfile),
      ("stream_bitrate_kbps", .num o.streamBitrateKbps 0),
      ("local_output_signature", .str (localSignature sha256 o)),
      ("stream_output_signature", .str (streamSignature sha256 o)),
      ("ai_tts_signature", .str (aiSignature sha256 settings)),
      ("ai_enabled", .bool (aiEnabled settings)),
      ("ai_stack", .str (settings.getOr "setup.ai_stack" "ollama_local_qwen_tts")),
      ("ai_warmth", .str (personaToWarmth (warmth.getD "warm"))),
      ("startup_ai_state", .str startup.state),
      ("startup_ai_ready_track_intros", .num startup.readyIntros 0),
      ("startup_ai_required_track_intros", .num startup.required 0)]

/-! ### State queries -/

def storedVerified (settings : Settings) (flagKey signatureKey signature : String) : Bool :=
  settings.truthy flagKey "false" && (settings signatureKey).getD "" = signature

/-- The names of the checks that are ready. -/
def readyNames (name : String) (o : Output) (settings : Settings) (startup : StartupAi)
    (live : Live) : List String :=
  let streamConfigured := o.icecastEnabled && o.icecastHost ≠ "" && 1 ≤ o.icecastPort &&
    o.icecastPort ≤ 65535 && trim o.icecastMount ≠ "" && trim o.icecastUser ≠ "" &&
    trim o.icecastPassword ≠ ""
  let streamVerified := streamConfigured && live.reachable o.icecastHost o.icecastPort &&
    settings.truthy "setup.stream_output_test_passed" "false" &&
    storedVerified settings "setup.stream_output_verified" "setup.stream_output_signature"
      (streamSignature sha256 o)
  let hostEnabled := settings.truthy "ai_host_enabled" "false"
  let aiRuntimeReady := hostEnabled && live.aiReady
  let liveAiVoiceReady := aiRuntimeReady && startup.ready &&
    trim live.ttsProvider = "local-qwen-tts"
  let aiTestPassed := settings.truthy "setup.ai_tts_test_passed" "false" || liveAiVoiceReady
  let aiSignatureVerified := storedVerified settings "setup.ai_tts_verified"
    "setup.ai_tts_signature" (aiSignature sha256 settings)
  let aiVerified := !aiEnabled settings || aiRuntimeReady && aiTestPassed &&
    (aiSignatureVerified || liveAiVoiceReady ||
      settings.truthy "setup.onboarding_completed" "false")
  let checks : List (String × Bool) :=
    [("backend", true), ("media_runtime", live.mediaReady), ("webview2", live.webview),
      ("station", trim name ≠ ""),
      ("local_output", o.localOutputEnabled && storedVerified settings
        "setup.local_output_verified" "setup.local_output_signature" (localSignature sha256 o)),
      ("stream_output", streamVerified),
      ("ollama", !aiEnabled settings || live.ollama && live.reachable "127.0.0.1" 11434),
      ("local_tts_runtime",
        !aiEnabled settings || live.qwenTts || live.qwenTts && live.pythonRuntime),
      ("ai_tts", aiVerified), ("startup_ai_buffer", startup.ready)]
  (checks.filter (·.2)).map (·.1)

/-- The tables of the station, and its name as it is displayed. -/
structure State where
  service : Service
  name : String

/-- `StationOutputRepository.get`. -/
def outputRow (st : ℤ) (s : Service) : Option StationOutput :=
  (output s st).map fun r => { r with icecastPassword := resolveCredential s r.icecastPassword }

/-- What a state query reports. -/
structure Report where
  canComplete : Bool
  certified : Bool
  deriving DecidableEq, Repr

def reportOf (st : ℤ) (name : String) (o : Output) (settings : Settings) (live : Live) : Report :=
  let startup := startupAiReadiness settings live
  let ready := readyNames sha256 name o settings startup live
  let canComplete := (requiredChecks o settings).all (· ∈ ready)
  { canComplete
    certified := settings.truthy "setup.onboarding_completed" "false" && canComplete &&
      settings.truthy "setup.deployment_certified" "false" &&
      (settings "setup.deployment_certificate_signature").getD "" =
        deploymentSignature sha256 st name o settings startup }

/-- `_build_state`; `none` where it raises. -/
def buildState (st : ℤ) (s : State) (live : Live) : Option Report :=
  (outputPayload (outputRow st s.service) (setting s.service st)).map fun o =>
    reportOf sha256 st s.name o (setting s.service st) live

/-- What `complete_setup` writes of what a state query reads. -/
def completeSetup (st : ℤ) (s : State) (live : Live) : State :=
  match outputPayload (outputRow st s.service) (setting s.service st) with
  | none => s
  | some o =>
    let settings : Settings := setting s.service st
    if (reportOf sha256 st s.name o settings live).canComplete then
      let signature := deploymentSignature sha256 st s.name o settings
        (startupAiReadiness settings live)
      let values := [("setup.onboarding_completed", "true"), ("setup.deployment_certified", "true"),
        ("setup.deployment_certificate_signature", signature)]
      { s with service := upsertSettings st values s.service }
    else s

/-! ### Playout that starts -/

def defaultOutputSettings (st : ℤ) : StationOutput :=
  ⟨true, "", false, "127.0.0.1", 8000, s!"/station{st}", "source", "", 0, "aac_plus_196", 196⟩

/-- `_is_legacy_implicit_icecast_default`. -/
def isLegacyImplicitIcecastDefault (st : ℤ) (r : StationOutput) : Bool :=
  !r.localOutputEnabled && trim r.outputDeviceId = "" && r.icecastEnabled &&
    trim r.icecastHost = "127.0.0.1" && r.icecastPort = 8000 &&
    trim r.icecastMount = s!"/station{st}" && trim r.icecastUser = "source" &&
    (r.icecastPassword = "" || r.icecastPassword = "hackme") &&
    |r.outputGainDb| ≤ 1 / 1000000000 &&
    trim (if r.streamCodecProfile = "" then "aac_plus_196" else r.streamCodecProfile) =
      "aac_plus_196" &&
    (r.streamBitrateKbps = 0 || r.streamBitrateKbps = 196)

/-- `_safe_int`. -/
def safeInt (value : Option String) (default : ℤ) : ℤ :=
  (value.map intOfFloat).elim default fun n => n.toOption.getD default

/-- `_safe_float`. No modelled function tells an infinite gain from the largest one; a gain that is
no number is refused by the table. -/
def safeFloat (value : Option String) (default : ℚ) : Option ℚ :=
  match value.bind floatOf with
  | none => some default
  | some (.num q) => some q
  | some (.inf negative) => some (if negative then -maxFloat else maxFloat)
  | some .nan => none

/-- `_sync_output_settings`, for a station with an `output_mode`. -/
def syncOutputSettings (st : ℤ) (s : Service) : Service :=
  let settings : Settings := setting s st
  let current := (outputRow st s).getD
    { defaultOutputSettings st with localOutputEnabled := false, icecastEnabled := true }
  let icecast : Bool := lower (trim (settings.getOr "output_mode" "speaker")) = "icecast"
  let user := ((settings "icecast_username").or (settings "icecast_user")).getD current.icecastUser
  let password := settings.getOr "icecast_password" current.icecastPassword
  let row (gain : ℚ) : StationOutput :=
    ⟨!icecast || settings.truthy "speaker_monitor_enabled" "true", current.outputDeviceId, icecast,
      settings.getOr "icecast_host" current.icecastHost,
      safeInt (settings "icecast_port") current.icecastPort,
      settings.getOr "icecast_mount" current.icecastMount,
      if user = "" then current.icecastUser else user, password, gain,
      settings.getOr "stream_codec_profile" current.streamCodecProfile,
      safeInt (settings "stream_bitrate_kbps") current.streamBitrateKbps⟩
  match safeFloat (settings "output_gain_db") current.outputGainDb with
  | some gain => upsertOutput st (row gain) s
  | none => if isPlain password then storeIcecastPassword st password s else s

/-- `_resolve_output_settings`. -/
def resolveOutputSettings (st : ℤ) (s : Service) : Service :=
  if (outputRow st s).any fun r => !isLegacyImplicitIcecastDefault st r then s
  else if (setting s st "output_mode").isSome then syncOutputSettings st s
  else upsertOutput st (defaultOutputSettings st) s

/-- The settings that playout and the prefetch write. -/
def noteKeys : List String := ["_startup_sound_pending", "_ai_last_station_id_at"]

inductive Event
  /-- a tick starts an item -/
  | start
  /-- a tick or a cycle notes something -/
  | note (key value : String)
  deriving DecidableEq, Repr

def step (st : ℤ) (s : State) : Event → Option State
  | .start => some { s with service := resolveOutputSettings st s.service }
  | .note key value =>
    if key ∈ noteKeys then some { s with service := upsertSettings st [(key, value)] s.service }
    else none

/-! ### Certified stations -/

/-- Where an item starts, the station has a row of outputs, and not the one of older versions. -/
def HasOutputs (st : ℤ) (s : State) : Event → Prop
  | .start => (outputRow st s.service).any fun r => !isLegacyImplicitIcecastDefault st r
  | .note .. => True

instance decidableHasOutputs (st : ℤ) : ∀ (s : State) (e : Event), Decidable (HasOutputs st s e)
  | _, .start => inferInstanceAs (Decidable (_ = true))
  | _, .note .. => isTrue trivial

/-- The settings without the notes. -/
def Settings.plain (settings : Settings) : Settings := fun key =>
  if key ∈ noteKeys then none else settings key

lemma plain_apply {settings : Settings} {key : String} (h : key ∉ noteKeys) :
    settings.plain key = settings key := if_neg h

section Reads

variable {settings : Settings} {key default : String} {live : Live} {o : Output} {name : String}
  {sha256 : List Char → String} {st : ℤ}

lemma getOr_plain (h : key ∉ noteKeys) : settings.plain.getOr key default =
    settings.getOr key default := by
  unfold Settings.getOr
  rw [plain_apply h]

lemma truthy_plain (h : key ∉ noteKeys) : settings.plain.truthy key default =
    settings.truthy key default := by
  unfold Settings.truthy
  rw [plain_apply h]

lemma outputPayload_plain (row : Option StationOutput) :
    outputPayload row settings.plain = outputPayload row settings := by
  cases row with
  | some r => rfl
  | none =>
    unfold outputPayload
    simp (disch := decide) only [plain_apply, getOr_plain, truthy_plain]

lemma aiEnabled_plain : aiEnabled settings.plain = aiEnabled settings :=
  truthy_plain (by decide)

lemma startupAiReadiness_plain :
    startupAiReadiness settings.plain live = startupAiReadiness settings live := by
  have htarget : startupBufferTarget settings.plain = startupBufferTarget settings := by
    unfold startupBufferTarget
    rw [plain_apply (by decide), plain_apply (by decide)]
  unfold startupAiReadiness
  rw [truthy_plain (by decide), htarget]

lemma requiredChecks_plain : requiredChecks o settings.plain = requiredChecks o settings := by
  unfold requiredChecks
  rw [aiEnabled_plain]

lemma aiSignature_plain : aiSignature sha256 settings.plain = aiSignature sha256 settings := by
  unfold aiSignature
  simp (disch := decide) only [plain_apply]

lemma readyNames_plain {startup : StartupAi} :
    readyNames sha256 name o settings.plain startup live =
      readyNames sha256 name o settings startup live := by
  unfold readyNames storedVerified
  simp (disch := decide) only [plain_apply, truthy_plain, aiEnabled_plain, aiSignature_plain]

lemma deploymentSignature_plain {startup : StartupAi} :
    deploymentSignature sha256 st name o settings.plain startup =
      deploymentSignature sha256 st name o settings startup := by
  unfold deploymentSignature
  simp (disch := decide) only [plain_apply, getOr_plain, aiEnabled_plain, aiSignature_plain,
    requiredChecks_plain]

lemma reportOf_plain :
    reportOf sha256 st name o settings.plain live = reportOf sha256 st name o settings live := by
  unfold reportOf
  simp (disch := decide) only [plain_apply, truthy_plain, startupAiReadiness_plain,
    requiredChecks_plain, readyNames_plain, deploymentSignature_plain]

end Reads

/-! ### Certified stations -/

variable {settings : Settings} {live : Live} {o : Output} {name : String}

/-- Of the items that come up, no more are music than are looked for. -/
lemma countP_upcomingItems {target seen : ℤ} (h : seen < target) (rows : List Item) :
    ((upcomingItems target seen rows).countP Item.isMusic : ℤ) ≤ target - seen := by
  induction rows generalizing seen with
  | nil => simp [upcomingItems, h.le]
  | cons row rows ih =>
    unfold upcomingItems
    split_ifs with hpending hmusic hlast
    · exact ih h
    · simp [hmusic]
      omega
    · have := @ih (seen + 1) (by omega)
      simp only [List.countP_cons_of_pos hmusic]
      omega
    · simpa [hmusic] using ih h

lemma readyTrackIntros_le {target : ℤ} (h : 0 < target) (cached : ℤ → Bool) (queue : List Item) :
    (readyTrackIntros cached queue target : ℤ) ≤ target := by
  have hcount : readyTrackIntros cached queue target ≤
      (upcomingItems target 0 queue).countP Item.isMusic :=
    List.countP_mono_left fun row _ hrow => by simp_all
  have := countP_upcomingItems h queue
  omega

lemma startupBufferTarget_pos {target : ℤ} (h : startupBufferTarget settings = some target) :
    0 < target := by
  unfold startupBufferTarget at h
  dsimp only at h
  split at h <;> simp only [Option.some.injEq, reduceCtorEq] at h <;> omega

/-- **Ready readiness.** What is ready has the number of introductions that the settings ask for. -/
lemma startupAiReadiness_of_ready {live' : Live} (h : (startupAiReadiness settings live).ready)
    (h' : (startupAiReadiness settings live').ready) :
    startupAiReadiness settings live = startupAiReadiness settings live' := by
  have hready : ∀ live, settings.truthy "ai_host_enabled" "false" = true →
      (startupAiReadiness settings live).ready → ∃ target,
        startupBufferTarget settings = some target ∧
          startupAiReadiness settings live = ⟨"ready", target, target, true⟩ := by
    intro live henabled h
    unfold startupAiReadiness at h ⊢
    rw [henabled] at h ⊢
    cases htarget : startupBufferTarget settings with
    | none => simp [htarget] at h
    | some target =>
      cases hcached : live.cached with
      | none => simp [htarget, hcached] at h
      | some cached =>
        have hle := readyTrackIntros_le (startupBufferTarget_pos htarget) cached live.queue
        simp only [htarget, hcached] at h ⊢
        have heq : (readyTrackIntros cached live.queue target : ℤ) = target :=
          le_antisymm hle (by simpa using h)
        exact ⟨target, rfl, by simp [heq]⟩
  cases henabled : settings.truthy "ai_host_enabled" "false" with
  | false => simp [startupAiReadiness, henabled]
  | true =>
    obtain ⟨target, ht, hs⟩ := hready live henabled h
    obtain ⟨target', ht', hs'⟩ := hready live' henabled h'
    obtain rfl := Option.some.inj (ht.symm.trans ht')
    rw [hs, hs']

/-- Where all required checks are ready, the announcements are. -/
lemma startup_ready {sha256 : List Char → String} {st : ℤ}
    (h : (reportOf sha256 st name o settings live).canComplete) :
    (startupAiReadiness settings live).ready := by
  cases henabled : settings.truthy "ai_host_enabled" "false" with
  | false => simp [startupAiReadiness, henabled]
  | true =>
    have hai : aiEnabled settings = true := by
      unfold aiEnabled
      unfold Settings.truthy at henabled ⊢
      cases hkey : settings "ai_host_enabled" with
      | none => decide +kernel
      | some v => simpa [hkey] using henabled
    simp only [reportOf, List.all_eq_true, decide_eq_true_eq] at h
    have hmem := h "startup_ai_buffer" (by simp [requiredChecks, hai])
    simpa [readyNames] using hmem

/-- Two queries over the same configuration, at both of which all required checks are ready. -/
lemma certified_of_canComplete {sha256 : List Char → String} {st : ℤ} {live' : Live}
    (h : (reportOf sha256 st name o settings live).certified)
    (h' : (reportOf sha256 st name o settings live').canComplete) :
    (reportOf sha256 st name o settings live').certified := by
  have hcan : (reportOf sha256 st name o settings live).canComplete := by
    simp only [reportOf, Bool.and_eq_true] at h ⊢
    exact h.1.1.2
  have hstartup := startupAiReadiness_of_ready (startup_ready hcan) (startup_ready h')
  simp only [reportOf, Bool.and_eq_true] at h h' ⊢
  rw [← hstartup]
  rw [← hstartup] at h'
  exact ⟨⟨⟨h.1.1.1, h'⟩, h.1.2⟩, h.2⟩

/-- Nothing that a state query reads is different. -/
structure Same (st : ℤ) (s t : State) : Prop where
  name : t.name = s.name
  row : outputRow st t.service = outputRow st s.service
  settings : Settings.plain (setting t.service st) = Settings.plain (setting s.service st)

variable {sha256 : List Char → String} {st : ℤ} {s t u : State}

lemma buildState_of_same (h : Same st s t) (live : Live) :
    buildState sha256 st t live = buildState sha256 st s live := by
  unfold buildState
  rw [h.name, h.row, ← outputPayload_plain, h.settings, outputPayload_plain]
  refine congrArg (Option.map · _) (funext fun o => ?_)
  rw [← reportOf_plain, h.settings, reportOf_plain]

lemma plain_note {key value : String} (hkey : key ∈ noteKeys) (s : Service) :
    Settings.plain (setting (upsertSettings st [(key, value)] s) st) =
      Settings.plain (setting s st) := by
  funext key'
  unfold Settings.plain
  split_ifs with hnote
  · rfl
  have hne : key ≠ key' := fun he => hnote (he ▸ hkey)
  change (Option.bind ((s.data.stationSettings.insert st _)[st]?) fun t => t[key']?) = _
  rw [Std.ExtTreeMap.getElem?_insert_self, Option.bind_some, Std.ExtTreeMap.getElem?_insert]
  rw [if_neg (by simpa using hne)]
  unfold setting
  rw [Std.ExtTreeMap.getD_eq_getD_getElem?]
  cases s.data.stationSettings[st]? <;> simp

lemma same_step {e : Event} (h : Same st s t) (hok : HasOutputs st t e)
    (he : step st t e = some u) : Same st s u := by
  cases e with
  | start =>
    obtain rfl := Option.some.inj he
    have hid : resolveOutputSettings st t.service = t.service := if_pos hok
    rw [hid]
    exact h
  | note key value =>
    simp only [step] at he
    split_ifs at he with hkey
    obtain rfl := Option.some.inj he
    exact ⟨h.name, h.row, (plain_note hkey t.service).trans h.settings⟩

/-- **A certified station stays certified**, in every run in which items start only where the
station has outputs: each query at which all required checks are ready reports it certified. -/
theorem certified_stays {events : List Event} {live live' : Live} {r r' : Report}
    (hok : Meets (step st) (HasOutputs st) s events) (he : exec (step st) s events = some t)
    (hr : buildState sha256 st s live = some r) (hcert : r.certified)
    (hr' : buildState sha256 st t live' = some r') (hcan : r'.canComplete) : r'.certified := by
  have hsame : Same st s t := inv_of_exec (fun _ _ _ h hok he => same_step h hok he)
    (⟨rfl, rfl, rfl⟩ : Same st s s) hok he
  rw [buildState_of_same hsame] at hr'
  obtain ⟨o, ho, rfl⟩ := Option.map_eq_some_iff.mp hr
  obtain ⟨o', ho', rfl⟩ := Option.map_eq_some_iff.mp hr'
  obtain rfl := Option.some.inj (ho.symm.trans ho')
  exact certified_of_canComplete hcert hcan

/-! ### A station that has never stored its outputs -/

/-- All that the station without announcements needs is there. -/
def allReady : Live :=
  ⟨true, true, true, true, true, fun _ _ => true, false, "", [], some fun _ => false⟩

/-- A digest that tells whether a text has the mount `/live`. -/
def digest (text : List Char) : String :=
  if text.tails.any "/live".toList.isPrefixOf then "live" else "other"

/-- A station whose local output is tested, with a certificate. -/
def certifiedStation (s : Service) : State where
  service := upsertSettings 1 [("ai_host_enabled", "false"),
    ("setup.local_output_verified", "true"), ("setup.local_output_signature", "other"),
    ("setup.onboarding_completed", "true"), ("setup.deployment_certified", "true"),
    ("setup.deployment_certificate_signature", "live")] s
  name := "Rock"

/-- The station once an item has started. -/
def started (s : State) : State := { s with service := resolveOutputSettings 1 s.service }

lemma exec_start (s : State) : exec (step 1) s [.start] = some (started s) := rfl

/-- A certified station that has stored its outputs. -/
def storedStation : State :=
  certifiedStation (upsertOutput 1 { defaultOutputSettings 1 with icecastMount := "/live" } .empty)

theorem certified_stays_started :
    ∃ r, buildState digest 1 (started storedStation) allReady = some r ∧ r.certified := by
  have hr : buildState digest 1 storedStation allReady = some ⟨true, true⟩ := by decide +kernel
  have hok : Meets (step 1) (HasOutputs 1) storedStation [.start] := by decide +kernel
  have hr' : buildState digest 1 (started storedStation) allReady = some ⟨true, true⟩ := by
    decide +kernel
  exact ⟨_, hr', certified_stays hok (exec_start _) hr rfl hr' rfl⟩

/-- **The first start.** A station that has never stored its outputs is certified with the mount
that is displayed; the start of its first item stores another one. -/
theorem certificate_lost : ¬∀ (sha256 : List Char → String) (st : ℤ) (s t : State)
    (events : List Event) (live live' : Live) (r r' : Report),
    exec (step st) s events = some t → buildState sha256 st s live = some r → r.certified →
      buildState sha256 st t live' = some r' → r'.canComplete → r'.certified := by
  intro h
  have hr : buildState digest 1 (certifiedStation .empty) allReady = some ⟨true, true⟩ := by
    decide +kernel
  have hr' : buildState digest 1 (started (certifiedStation .empty)) allReady =
      some ⟨true, false⟩ := by decide +kernel
  cases h digest 1 _ _ [.start] allReady allReady _ _ (exec_start _) hr rfl hr' rfl

end OnAir.SetupCertificate
