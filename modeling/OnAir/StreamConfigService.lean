import OnAir.Programs
import OnAir.PythonText
import OnAir.ReplicationApplier

/-!
`StreamConfigService`: a configuration is applied to the output of a station, verified, and taken
back where something on the way raises.

A call is cut into the transactions it makes. A password lies in the vault, and the row of the
station holds the reference under which it is found.
-/

namespace OnAir.StreamConfigService

open OnAir.Database Json Programs PythonText ReplicationApplier ReplicationJournal

/-! ### Configurations -/

/-- `_PROFILES`. -/
inductive Profile
  | mp3_128
  | aacPlus196
  deriving DecidableEq, Repr

def Profile.text : Profile → String
  | .mp3_128 => "mp3_128"
  | .aacPlus196 => "aac_plus_196"

def Profile.ofText (s : String) : Option Profile :=
  [.mp3_128, .aacPlus196].find? fun p => p.text = s

def Profile.bitrate : Profile → ℤ
  | .mp3_128 => 128
  | .aacPlus196 => 196

/-- A float, as it is printed. -/
structure Decimal where
  mantissa : ℤ
  places : ℕ
  deriving DecidableEq, Repr

def Decimal.value (d : Decimal) : ℚ := (d.mantissa : ℚ) / 10 ^ d.places

/-- What `_normalize` takes for a mount. -/
def isMount (mount : String) : Bool :=
  ['/'].isPrefixOf mount.toList && !contains mount ".." && !mount.toList.any isSpace

/-- A configuration that `_normalize` has accepted. -/
structure StreamConfig where
  stationId : ℤ
  localOutputEnabled : Bool
  outputDeviceId : String
  icecastEnabled : Bool
  icecastHost : String
  icecastPort : ℤ
  icecastMount : String
  icecastUser : String
  icecastTlsEnabled : Bool
  outputGainDb : Decimal
  streamCodecProfile : Profile
  /-- empty where no password was given -/
  passwordReference : String
  host_ne : icecastHost ≠ ""
  port_mem : 1 ≤ icecastPort ∧ icecastPort ≤ 65535
  mount_ok : isMount icecastMount
  user_ne : icecastUser ≠ ""
  deriving DecidableEq

/-- The body of a draft. -/
structure DraftPayload where
  stationId : ℤ
  localOutputEnabled : Bool
  outputDeviceId : String
  icecastEnabled : Bool
  icecastHost : String
  icecastPort : ℤ
  icecastMount : String
  icecastUser : String
  icecastTlsEnabled : Bool
  outputGainDb : Decimal
  streamCodecProfile : String
  deriving DecidableEq, Repr

/-- `_normalize`, before the password is put into the vault. -/
def normalize (p : DraftPayload) : Except String StreamConfig :=
  let profile := if p.streamCodecProfile = "" then "mp3_128" else p.streamCodecProfile
  let host := trim p.icecastHost
  let mount := trim p.icecastMount
  let user := trim (if p.icecastUser = "" then "source" else p.icecastUser)
  if p.stationId ≤ 0 then .error "station_id_required"
  else
    match Profile.ofText (lower (trim profile)) with
    | none => .error "unsupported_stream_profile"
    | some profile =>
      if hhost : host = "" then .error "broadcast_address_required"
      else if hport : 1 ≤ p.icecastPort ∧ p.icecastPort ≤ 65535 then
        if hmount : isMount mount then
          if huser : user = "" then .error "source_user_required"
          else if -30 ≤ p.outputGainDb.value ∧ p.outputGainDb.value ≤ 12 then
            .ok ⟨p.stationId, p.localOutputEnabled, trim p.outputDeviceId, p.icecastEnabled, host,
              p.icecastPort, mount, user, p.icecastTlsEnabled, p.outputGainDb, profile, "", hhost,
              hport, hmount, huser⟩
          else .error "invalid_output_gain"
        else .error "invalid_stream_mount"
      else .error "invalid_stream_port"

/-- `_public_config`. -/
def publicConfig (c : StreamConfig) : Fields :=
  [("icecast_enabled", .bool c.icecastEnabled),
    ("icecast_host", .str c.icecastHost),
    ("icecast_mount", .str c.icecastMount),
    ("icecast_password_configured", .bool (c.passwordReference ≠ "")),
    ("icecast_port", .num c.icecastPort 0),
    ("icecast_tls_enabled", .bool c.icecastTlsEnabled),
    ("icecast_user", .str c.icecastUser),
    ("local_output_enabled", .bool c.localOutputEnabled),
    ("output_device_id", .str c.outputDeviceId),
    ("output_gain_db", .num c.outputGainDb.mantissa c.outputGainDb.places),
    ("station_id", .num c.stationId 0),
    ("stream_bitrate_kbps", .num c.streamCodecProfile.bitrate 0),
    ("stream_codec_profile", .str c.streamCodecProfile.text)]

/-! ### The tables -/

inductive DraftStatus
  | draft
  | validated
  | applied
  deriving DecidableEq, Repr

/-- The outcome in the report of a validation. -/
inductive Outcome
  | ready
  | needsAttention
  | unsafe_
  deriving DecidableEq, Repr

structure Draft where
  config : StreamConfig
  status : DraftStatus
  outcome : Option Outcome
  deriving DecidableEq

inductive OperationStatus
  | preparing
  | applied
  | rolledBack
  deriving DecidableEq, Repr

/-- `previous_config_json`: the row of the station, if there was one, and its output settings. -/
structure Previous where
  output : Option StationOutput
  settings : List (String × String)
  deriving DecidableEq, Repr

structure Operation where
  draftId : ℤ
  stationId : ℤ
  idempotencyKey : String
  status : OperationStatus
  previous : Previous
  deriving DecidableEq, Repr

/-- The database of a node, and its vault. -/
structure Service where
  data : Data
  /-- the secrets of the vault by their references -/
  credentials : Std.ExtTreeMap String String
  drafts : Table Draft
  operations : Table Operation
  journal : Journal

def Service.empty : Service := ⟨.empty, ∅, ∅, ∅, .empty⟩

def output (s : Service) (st : ℤ) : Option StationOutput := s.data.stationOutputs[st]?

def setting (s : Service) (st : ℤ) (key : String) : Option String :=
  s.data.stationSettings[st]?.bind fun t => t[key]?

/-! ### `credential_vault` -/

/-- `resolve_credential_value`. -/
def resolveCredential (s : Service) (value : String) : String :=
  if isCredentialReference value then (s.credentials[trim value]?).getD "" else value

/-- `store_station_icecast_password`. -/
def storeIcecastPassword (st : ℤ) (password : String) (s : Service) : Service :=
  { s with credentials := s.credentials.insert (credentialReference st) password }

/-- The password of the station, as `StationOutputRepository.get` resolves it. -/
def icecastPassword (s : Service) (st : ℤ) : Option String :=
  (output s st).map fun r => resolveCredential s r.icecastPassword

/-! ### `StationOutputRepository.upsert` -/

/-- The password that is stored: no password keeps the one that is there. -/
def givenPassword (existing : Option StationOutput) (password : String) : String :=
  if password = "" then (existing.map (·.icecastPassword)).getD "" else password

/-- A password that goes into the vault. -/
def isPlain (password : String) : Bool := password ≠ "" && !isCredentialReference password

/-- The row of the station, once its password is in the vault. -/
def putOutput (st : ℤ) (given : String) (o : StationOutput) (s : Service) : Service :=
  let row := { o with
    icecastPassword := storedPassword st given
    streamCodecProfile := if o.streamCodecProfile = "" then "aac_plus_196" else o.streamCodecProfile
    streamBitrateKbps := if o.streamBitrateKbps = 0 then 196 else o.streamBitrateKbps }
  { s with data := { s.data with stationOutputs := s.data.stationOutputs.insert st row } }

/-- `upsert`, where nothing raises. -/
def upsertOutput (st : ℤ) (o : StationOutput) (s : Service) : Service :=
  let given := givenPassword (output s st) o.icecastPassword
  putOutput st given o (if isPlain given then storeIcecastPassword st given s else s)

/-! ### `SettingsRepository` -/

/-- `upsert_station`. -/
def upsertSettings (st : ℤ) (values : List (String × String)) (s : Service) : Service :=
  { s with data := values.foldl (fun d v => setSetting d st v.1 v.2) s.data }

/-- `_OUTPUT_SETTING_KEYS`. -/
def outputSettingKeys : List String :=
  ["output_mode", "speaker_monitor_enabled", "output_device_id", "icecast_host", "icecast_port",
    "icecast_mount", "icecast_username", "icecast_password", "icecast_tls_enabled",
    "output_gain_db", "stream_codec_profile", "stream_bitrate_kbps"]

/-- `DELETE FROM station_settings` of the output keys. -/
def clearSettings (st : ℤ) (s : Service) : Service :=
  { s with data := { s.data with
      stationSettings := s.data.stationSettings.modify st fun t =>
        t.filter fun key _ => key ∉ outputSettingKeys } }

/-! ### What a call writes -/

/-- `str(b).lower()`. -/
def boolText (b : Bool) : String := if b then "true" else "false"

/-- The columns of a configuration, with its password. -/
def outputOf (c : StreamConfig) (password : String) : StationOutput where
  localOutputEnabled := c.localOutputEnabled
  outputDeviceId := c.outputDeviceId
  icecastEnabled := c.icecastEnabled
  icecastHost := c.icecastHost
  icecastPort := c.icecastPort
  icecastMount := c.icecastMount
  icecastUser := c.icecastUser
  icecastPassword := password
  outputGainDb := c.outputGainDb.value
  streamCodecProfile := c.streamCodecProfile.text
  streamBitrateKbps := c.streamCodecProfile.bitrate

/-- The settings of a configuration. -/
def settingsOf (c : StreamConfig) : List (String × String) :=
  [("output_mode", if c.icecastEnabled then "icecast" else "speaker"),
    ("speaker_monitor_enabled", boolText c.localOutputEnabled),
    ("output_device_id", c.outputDeviceId),
    ("icecast_host", c.icecastHost),
    ("icecast_port", toString c.icecastPort),
    ("icecast_mount", c.icecastMount),
    ("icecast_username", c.icecastUser),
    ("icecast_password", ""),
    ("icecast_tls_enabled", boolText c.icecastTlsEnabled),
    ("output_gain_db", String.ofList (writeNum c.outputGainDb.mantissa c.outputGainDb.places)),
    ("stream_codec_profile", c.streamCodecProfile.text),
    ("stream_bitrate_kbps", toString c.streamCodecProfile.bitrate)]

/-- `_snapshot_output`. -/
def snapshotOutput (st : ℤ) (s : Service) : Previous where
  output := output s st
  settings := outputSettingKeys.filterMap fun key =>
    (setting s st key).map fun value => (key, value)

/-- The row that `_restore_previous` writes for one that was there. -/
def restoredOutput (r : StationOutput) : StationOutput :=
  { r with
    icecastHost := if r.icecastHost = "" then "127.0.0.1" else r.icecastHost
    icecastPort := if r.icecastPort = 0 then 8000 else r.icecastPort
    icecastMount := if r.icecastMount = "" then "/stream" else r.icecastMount
    icecastUser := if r.icecastUser = "" then "source" else r.icecastUser
    streamCodecProfile := if r.streamCodecProfile = "" then "mp3_128" else r.streamCodecProfile
    streamBitrateKbps := if r.streamBitrateKbps = 0 then 128 else r.streamBitrateKbps }

/-- The row part of `_restore_previous`. -/
def restoreOutput (op : Operation) (s : Service) : Service :=
  match op.previous.output with
  | some r => upsertOutput op.stationId (restoredOutput r) s
  | none =>
    { s with data := { s.data with
        stationOutputs := s.data.stationOutputs.erase op.stationId } }

/-- The settings part of `_restore_previous`. -/
def restoreSettings (op : Operation) (s : Service) : Service :=
  upsertSettings op.stationId op.previous.settings (clearSettings op.stationId s)

def setStatus (operationId : ℤ) (status : OperationStatus) (s : Service) : Service :=
  { s with operations := s.operations.modify operationId fun op => { op with status } }

/-- The two updates that record the success of a call. -/
def markApplied (operationId draftId : ℤ) (s : Service) : Service :=
  let s := setStatus operationId .applied s
  { s with drafts := s.drafts.modify draftId fun d => { d with status := .applied } }

/-! ### `apply` -/

/-- The places where a call may raise by what is outside. -/
inductive Point
  | safeMutation
  | journal
  | replicate
  | resolve
  | credential
  | output
  | settings
  | readback
  | restart
  | probe
  | record
  | audit
  deriving DecidableEq, Repr

/-- `runtime_registry.status` before the call. -/
structure Runtime where
  running : Bool
  activeInputUri : String
  deriving DecidableEq, Repr

/-- A round of the verification window. -/
structure Round where
  /-- running, with an active output feed -/
  feeds : Bool
  /-- the probe of the listener -/
  heard : Bool
  deriving DecidableEq, Repr

/-- What a call meets outside. -/
structure Env where
  sha256 : String → String
  haEnabled : Bool
  raises : Point → Option String
  runtime : Option Runtime
  /-- running and feeding after it was started again -/
  restarted : Bool
  verifySeconds : ℚ
  rounds : List Round

abbrev ServiceM := EStateM String Service

variable (env : Env)

def check (p : Point) : ServiceM Unit :=
  match env.raises p with
  | some e => throw e
  | none => pure ()

/-- The rounds of the verification window: the successes of the listener, and the last one. -/
def listen (icecast : Bool) : List Round → ℕ → ℕ → Bool → ServiceM (ℕ × Bool)
  | [], successes, _, last => return (successes, last)
  | r :: rs, successes, failures, last =>
    if !r.feeds then throw "live_output_verification_window_failed"
    else if !icecast then listen icecast rs successes failures last
    else if r.heard then listen icecast rs (successes + 1) 0 true
    else if 2 ≤ failures + 1 then throw "listener_audio_verification_failed"
    else listen icecast rs successes (failures + 1) false

/-- The verification of the live output; `false` where the station does not run. -/
def verifyLive (c : StreamConfig) : ServiceM Bool := do
  match env.runtime.filter (·.running) with
  | none => return false
  | some before =>
    if before.activeInputUri = "" then throw "active_runtime_input_unavailable"
    else
      check env .restart
      if !env.restarted then throw "live_output_readback_failed"
      else
        let (successes, last) ← listen c.icecastEnabled env.rounds 0 0 (!c.icecastEnabled)
        check env .probe
        let required := if 2 ≤ env.verifySeconds then 2 else 1
        if c.icecastEnabled && !(last && required ≤ successes) then
          throw "listener_audio_verification_failed"
        else return true

/-- What is journaled of a draft. -/
def entryOf (draftId : ℤ) (c : StreamConfig) : Entry :=
  ⟨"stream_config", toString draftId, "apply", canonicalJson (.obj (publicConfig c))⟩

def appendJournal (draftId : ℤ) (c : StreamConfig) (s : Service) : Service :=
  { s with journal := (s.journal.append env.sha256 (entryOf draftId c)).1 }

/-- The marks of `replicate_ordered`. -/
def replicateOrdered (draftId : ℤ) (c : StreamConfig) (s : Service) : Service :=
  match s.journal.find (env.sha256 (entryOf draftId c).material) with
  | none => s
  | some through =>
    let rows := (s.journal.pending 250).takeWhile fun r => r.1 ≤ through
    { s with journal := rows.foldl (fun j r => j.markReplicated r.1) s.journal }

/-- `upsert`, where something may raise. -/
def upsert (st : ℤ) (o : StationOutput) : ServiceM Unit := do
  let given := givenPassword (output (← get) st) o.icecastPassword
  if isPlain given then
    check env .credential
    modify (storeIcecastPassword st given)
  check env .output
  modify (putOutput st given o)

/-- The body of `try` in `apply`. -/
def applyChanges (operationId draftId : ℤ) (c : StreamConfig) : ServiceM Bool := do
  check env .safeMutation
  check env .journal
  modify (appendJournal env draftId c)
  if env.haEnabled then
    check env .replicate
    modify (replicateOrdered env draftId c)
  check env .resolve
  let password := resolveCredential (← get) c.passwordReference
  upsert env c.stationId (outputOf c password)
  check env .settings
  modify (upsertSettings c.stationId (settingsOf c))
  check env .readback
  let stored := output (← get) c.stationId
  if !stored.any fun r => r.icecastHost = c.icecastHost && r.icecastMount = c.icecastMount then
    throw "authoritative_readback_failed"
  else
    let live ← verifyLive env c
    check env .record
    modify (markApplied operationId draftId)
    check env .audit
    return live

/-- `_restore_previous`. -/
def restorePrevious (operationId : ℤ) : ServiceM Unit := do
  match (← get).operations[operationId]? with
  | none => throw "stream_operation_not_found"
  | some op =>
    modify (restoreOutput op)
    modify (restoreSettings op)

/-- What `apply` has found before it starts: an operation with the same key, or a new one. -/
inductive Begun
  | known (operationId : ℤ)
  | new (operationId : ℤ) (config : StreamConfig)
  deriving DecidableEq

/-- `apply` up to the row of the operation. -/
def beginApply (draftId : ℤ) (idempotencyKey overrideReason : String) : ServiceM Begun := do
  let key := trim idempotencyKey
  if key = "" || 128 < key.length then throw "idempotency_key_required"
  else
    let s ← get
    match (Table.rows s.operations).find? fun r => r.2.idempotencyKey = key with
    | some r => return .known r.1
    | none =>
      match s.drafts[draftId]? with
      | none => throw "stream_draft_not_found"
      | some draft =>
        if draft.status ≠ .validated then throw "stream_draft_not_validated"
        else if draft.outcome ≠ some .ready && trim overrideReason = "" then
          throw (if draft.outcome = some .unsafe_ then "stream_draft_unsafe"
            else "stream_draft_needs_attention")
        else
          let st := draft.config.stationId
          let operationId := Table.nextId s.operations
          let operation := ⟨draftId, st, key, .preparing, snapshotOutput st s⟩
          set { s with operations := s.operations.insert operationId operation }
          return .new operationId draft.config

/-- `apply` from the row of the operation on. -/
def applyOperation (operationId draftId : ℤ) (c : StreamConfig) : ServiceM Bool := do
  try applyChanges env operationId draftId c
  catch e => do
    restorePrevious operationId
    modify (setStatus operationId .rolledBack)
    throw e

/-- `apply`, with the operation it returns. -/
def apply (draftId : ℤ) (idempotencyKey overrideReason : String) : ServiceM ℤ := do
  match ← beginApply draftId idempotencyKey overrideReason with
  | .known operationId => return operationId
  | .new operationId c =>
    let _ ← applyOperation env operationId draftId c
    return operationId

/-- `rollback`. -/
def rollback (operationId : ℤ) : ServiceM Unit := do
  restorePrevious operationId
  modify (setStatus operationId .rolledBack)

end OnAir.StreamConfigService
