import OnAir.Database
import OnAir.Json
import OnAir.ReplicationJournal

/-!
`ReplicationApplier`: what each kind of entry writes into the tables of a standby.

`none` is where the source raises: a payload of another shape, a value that a column does not
take, or a constraint of the schema.
-/

namespace OnAir.ReplicationApplier

open OnAir.Database Json ReplicationJournal

abbrev Fields := List (String × Value)

/-! ### Schedule -/

/-- The row that an upsert of `_apply_schedule` writes. -/
def scheduleRow (payload : Fields) : Option ScheduleItem := do
  let stationId ← ((get payload "station_id").orElse (.num 0 0)).toInt
  let trackId ← ((get payload "track_id").orElse (.num 0 0)).toInt
  let playAt ← ((get payload "play_at").orElse (.str "")).text
  let windowEnd ← (get payload "window_end").textOrNull
  let eventName ← ((get payload "event_name").orElse (.str "")).text
  let status ← ((get payload "status").orElse (.str "pending")).text.bind ScheduleStatus.ofText
  return ⟨stationId, trackId, playAt, windowEnd, eventName, status⟩

/-- `_apply_schedule`. -/
def applySchedule (operation : String) (payload : Fields) (d : Data) : Option Data := do
  let id ← ((get payload "id").orElse (.num 0 0)).toInt
  if id ≤ 0 then return d
  if operation = "delete" then
    return { d with scheduleItems := d.scheduleItems.erase id }
  let row ← scheduleRow payload
  return { d with scheduleItems := d.scheduleItems.insert id row }

/-! ### Guest rooms -/

def inviteRow (row : Fields) : Option (ℤ × GuestInvite) := do
  let id ← (get row "id").toInt
  let studioId ← (get row "studio_id").toInt
  let stationId ← (get row "station_id").toInt
  let tokenHash ← (get row "token_hash").text
  let createdBy ← (get row "created_by").toInt
  let expiresAt ← (get row "expires_at").text
  let redeemedAt ← (get row "redeemed_at").textOrNull
  let revokedAt ← (get row "revoked_at").textOrNull
  let createdAt ← (get row "created_at").text
  return (id, ⟨studioId, stationId, tokenHash, createdBy, expiresAt, redeemedAt, revokedAt,
    createdAt⟩)

/-- The foreign keys and the unique column of `guest_invites`. -/
def inviteFits (d : Data) (id : ℤ) (r : GuestInvite) : Bool :=
  d.studios.contains r.studioId && d.stations.contains r.stationId &&
    (Table.rows d.guestInvites).all fun q => q.1 = id || q.2.tokenHash ≠ r.tokenHash

def upsertInvite (d : Data) (source : Value) : Option Data := do
  let (id, r) ← source.fields.bind inviteRow
  if inviteFits d id r then return { d with guestInvites := d.guestInvites.insert id r } else none

/-- The row of a session; a transport that is recovered is a new one, so the session is
neither connected nor on air. -/
def sessionRow (row : Fields) : Option (ℤ × GuestSession) := do
  let id ← (get row "id").toInt
  let inviteId ← (get row "invite_id").toInt
  let studioId ← (get row "studio_id").toInt
  let stationId ← (get row "station_id").toInt
  let displayName ← (get row "display_name").text
  let sessionTokenHash ← (get row "session_token_hash").text
  let status ← (get row "status").text.bind SessionStatus.ofText
  let isMuted ← (get row "is_muted").toInt
  let gainDb ← (get row "gain_db").toReal
  let connectionQuality ← (get row "connection_quality").text
  let admittedAt ← (get row "admitted_at").textOrNull
  let leftAt ← (get row "left_at").textOrNull
  let lastSeenAt ← (get row "last_seen_at").text
  let createdAt ← (get row "created_at").text
  return (id, ⟨inviteId, studioId, stationId, displayName, sessionTokenHash, status, false,
    isMuted != 0, false, gainDb, connectionQuality, admittedAt, leftAt, lastSeenAt, createdAt⟩)

def sessionFits (d : Data) (id : ℤ) (r : GuestSession) : Bool :=
  d.guestInvites.contains r.inviteId &&
    (Table.rows d.guestSessions).all fun q =>
      q.1 = id || q.2.sessionTokenHash ≠ r.sessionTokenHash

def upsertSession (d : Data) (source : Value) : Option Data := do
  let (id, r) ← source.fields.bind sessionRow
  if sessionFits d id r then return { d with guestSessions := d.guestSessions.insert id r }
  else none

/-- `_apply_guest_room`. -/
def applyGuestRoom (payload : Fields) (d : Data) : Option Data := do
  let invites ← (getD payload "invites" (.arr [])).elems
  let sessions ← (getD payload "sessions" (.arr [])).elems
  let d ← invites.foldlM upsertInvite d
  sessions.foldlM upsertSession d

/-! ### Recordings -/

def recordingRow (row : Fields) : Option (ℤ × GuestRecording) := do
  let id ← (get row "id").toInt
  let studioId ← (get row "studio_id").toInt
  let stationId ← (get row "station_id").toInt
  let status ← (get row "status").text.bind RecordingStatus.ofText
  let manifestJson ← (get row "manifest_json").text
  let filePath ← (get row "file_path").text
  let startedBy ← (get row "started_by").toInt
  let startedAt ← (get row "started_at").textOrNull
  let stoppedAt ← (get row "stopped_at").textOrNull
  let expiresAt ← (get row "expires_at").textOrNull
  let interruptionReason ← (get row "interruption_reason").text
  let createdAt ← (get row "created_at").text
  return (id, ⟨studioId, stationId, status, manifestJson, filePath, startedBy, startedAt,
    stoppedAt, expiresAt, interruptionReason, createdAt⟩)

def consentRow (item : Fields) : Option ((ℤ × ℤ) × Consent) := do
  let recordingId ← (get item "recording_id").toInt
  let sessionId ← (get item "session_id").toInt
  let decision ← (get item "decision").text.bind Decision.ofText
  let decidedAt ← (get item "decided_at").textOrNull
  return ((recordingId, sessionId), ⟨decision, decidedAt⟩)

def setConsent (d : Data) (k : ℤ × ℤ) (c : Consent) : Data :=
  { d with consents := d.consents.insert k.1 ((d.consents.getD k.1 ∅).insert k.2 c) }

/-- The consent of a session to a recording. -/
def consentOf (d : Data) (recordingId sessionId : ℤ) : Option Consent :=
  d.consents[recordingId]?.bind fun t => t[sessionId]?

lemma consentOf_setConsent (d : Data) (k : ℤ × ℤ) (c : Consent) (r g : ℤ) :
    consentOf (setConsent d k c) r g = if r = k.1 ∧ g = k.2 then some c else consentOf d r g := by
  rw [consentOf, setConsent, Table.lookup_insert]
  by_cases hr : r = k.1
  · subst hr
    rw [if_pos rfl, Option.bind_some, Table.lookup_insert, Std.ExtTreeMap.getD_eq_getD_getElem?,
      consentOf]
    cases d.consents[k.1]? <;> simp
  · simp [hr, consentOf]

def upsertConsent (d : Data) (source : Value) : Option Data := do
  let (k, c) ← source.fields.bind consentRow
  if d.guestRecordings.contains k.1 && d.guestSessions.contains k.2 then return setConsent d k c
  else none

/-- `_apply_guest_recording`. -/
def applyGuestRecording (payload : Fields) (d : Data) : Option Data := do
  let row ← ((get payload "recording").orElse (.obj [])).fields
  if row = [] then return d
  let (id, r) ← recordingRow row
  let consents ← (getD payload "consents" (.arr [])).elems
  consents.foldlM upsertConsent { d with guestRecordings := d.guestRecordings.insert id r }

/-! ### Stream configurations -/

def referencePrefix : String := "credential://user/"

/-- `is_credential_reference`. -/
def isCredentialReference (s : String) : Bool := referencePrefix.toList.isPrefixOf s.toList

/-- `credential_reference`. -/
def credentialReference (stationId : ℤ) : String :=
  referencePrefix ++ "station/" ++ toString stationId ++ "/icecast"

/-- The password `upsert` stores where it is given the one that is stored already: a legacy
password moves into the vault. -/
def storedPassword (stationId : ℤ) (password : String) : String :=
  if password ≠ "" && !isCredentialReference password then credentialReference stationId
  else password

/-- The columns `_apply_stream_config` writes over an existing row, or without one. -/
def outputRow (config : Fields) (stationId : ℤ) (existing : Option StationOutput) :
    Option StationOutput := do
  let device ← ((get config "output_device_id").orElse (.str "")).text
  let host ← ((get config "icecast_host").orElse (.str "127.0.0.1")).text
  let port ← ((get config "icecast_port").orElse (.num 8000 0)).toInt
  let mount ← ((get config "icecast_mount").orElse (.str "/stream")).text
  let user ← ((get config "icecast_user").orElse (.str "source")).text
  let gain ← ((get config "output_gain_db").orElse (.num 0 0)).toReal
  let profile ← ((get config "stream_codec_profile").orElse (.str "mp3_128")).text
  let bitrate ← ((get config "stream_bitrate_kbps").orElse (.num 128 0)).toInt
  return {
    localOutputEnabled := (get config "local_output_enabled").truthy
    outputDeviceId := device
    icecastEnabled := (getD config "icecast_enabled" (.bool true)).truthy
    icecastHost := host
    icecastPort := port
    icecastMount := mount
    icecastUser := user
    icecastPassword := storedPassword stationId ((existing.map (·.icecastPassword)).getD "")
    outputGainDb := gain
    streamCodecProfile := profile
    streamBitrateKbps := if bitrate = 0 then 196 else bitrate }

def setSetting (d : Data) (stationId : ℤ) (key value : String) : Data :=
  { d with
    stationSettings := d.stationSettings.insert stationId
      ((d.stationSettings.getD stationId ∅).insert key value) }

/-- `_apply_stream_config`. -/
def applyStreamConfig (config : Fields) (d : Data) : Option Data := do
  let stationId ← (get config "station_id").toInt
  let row ← outputRow config stationId d.stationOutputs[stationId]?
  let d := { d with stationOutputs := d.stationOutputs.insert stationId row }
  let tls := if (get config "icecast_tls_enabled").truthy then "true" else "false"
  return setSetting (setSetting d stationId "icecast_tls_enabled" tls) stationId
    "icecast_password" ""

/-! ### Entries -/

/-- The body of the loop of `apply_pending`. Only a stream configuration commits by itself. -/
def applyRow (e : Entry) (d : Data) : Option (Data × Bool) := do
  let text := if e.payloadJson = "" then "\x7b\x7d" else e.payloadJson
  let payload ← loads text
  if e.entityType = "stream_config" then
    return (← payload.fields.bind fun f => applyStreamConfig f d, true)
  else if e.entityType = "guest_room" then
    return (← payload.fields.bind fun f => applyGuestRoom f d, false)
  else if e.entityType = "guest_recording" then
    return (← payload.fields.bind fun f => applyGuestRecording f d, false)
  else if e.entityType = "schedule" then
    return (← payload.fields.bind fun f => applySchedule e.operation f d, false)
  else return (d, false)

end OnAir.ReplicationApplier
