import Mathlib.Data.Rat.Defs
import OnAir.Table

/-!
The tables that replication writes, with the columns the source gives them.

Statuses are enumerations; a text that is none of them is stored by no code. Time stamps are
the texts the source writes.
-/

namespace OnAir.Database


inductive ScheduleStatus
  | pending
  | playing
  | done
  | failed
  deriving DecidableEq, Repr

structure ScheduleItem where
  stationId : ℤ
  trackId : ℤ
  playAt : String
  windowEnd : Option String
  eventName : String
  status : ScheduleStatus
  deriving DecidableEq, Repr

structure Studio where
  stationId : ℤ
  isActive : Bool
  deriving DecidableEq, Repr

structure GuestInvite where
  studioId : ℤ
  stationId : ℤ
  tokenHash : String
  createdBy : ℤ
  expiresAt : String
  redeemedAt : Option String
  revokedAt : Option String
  createdAt : String
  deriving DecidableEq, Repr

inductive SessionStatus
  | lobby
  | admitted
  | rejected
  | kicked
  | left
  deriving DecidableEq, Repr

structure GuestSession where
  inviteId : ℤ
  studioId : ℤ
  stationId : ℤ
  displayName : String
  sessionTokenHash : String
  status : SessionStatus
  isConnected : Bool
  isMuted : Bool
  isOnAir : Bool
  gainDb : ℚ
  connectionQuality : String
  admittedAt : Option String
  leftAt : Option String
  lastSeenAt : String
  createdAt : String
  deriving DecidableEq, Repr

inductive RecordingStatus
  | pendingConsent
  | recording
  | completed
  | interrupted
  | cancelled
  | deleted
  deriving DecidableEq, Repr

structure GuestRecording where
  studioId : ℤ
  stationId : ℤ
  status : RecordingStatus
  manifestJson : String
  filePath : String
  startedBy : ℤ
  startedAt : Option String
  stoppedAt : Option String
  expiresAt : Option String
  interruptionReason : String
  createdAt : String
  deriving DecidableEq, Repr

inductive Decision
  | pending
  | accepted
  | declined
  deriving DecidableEq, Repr

structure Consent where
  decision : Decision
  decidedAt : Option String
  deriving DecidableEq, Repr

structure StationOutput where
  localOutputEnabled : Bool
  outputDeviceId : String
  icecastEnabled : Bool
  icecastHost : String
  icecastPort : ℤ
  icecastMount : String
  icecastUser : String
  icecastPassword : String
  outputGainDb : ℚ
  streamCodecProfile : String
  streamBitrateKbps : ℤ
  deriving DecidableEq, Repr

/-- The tables an entry may write, and the parents they refer to. Consents are keyed by
recording and session, settings by station and name. -/
structure Data where
  studios : Table Studio
  stations : Table Unit
  scheduleItems : Table ScheduleItem
  guestInvites : Table GuestInvite
  guestSessions : Table GuestSession
  guestRecordings : Table GuestRecording
  consents : Table (Table Consent)
  stationOutputs : Table StationOutput
  stationSettings : Table (Std.ExtTreeMap String String)

def Data.empty : Data := ⟨∅, ∅, ∅, ∅, ∅, ∅, ∅, ∅, ∅⟩

/-! ### The texts of the statuses -/

def ScheduleStatus.text : ScheduleStatus → String
  | .pending => "pending"
  | .playing => "playing"
  | .done => "done"
  | .failed => "failed"

def ScheduleStatus.ofText (s : String) : Option ScheduleStatus :=
  [.pending, .playing, .done, .failed].find? fun x => x.text = s

def SessionStatus.text : SessionStatus → String
  | .lobby => "lobby"
  | .admitted => "admitted"
  | .rejected => "rejected"
  | .kicked => "kicked"
  | .left => "left"

def SessionStatus.ofText (s : String) : Option SessionStatus :=
  [.lobby, .admitted, .rejected, .kicked, .left].find? fun x => x.text = s

def RecordingStatus.text : RecordingStatus → String
  | .pendingConsent => "pending_consent"
  | .recording => "recording"
  | .completed => "completed"
  | .interrupted => "interrupted"
  | .cancelled => "cancelled"
  | .deleted => "deleted"

def RecordingStatus.ofText (s : String) : Option RecordingStatus :=
  [.pendingConsent, .recording, .completed, .interrupted, .cancelled, .deleted].find? fun x =>
    x.text = s

def Decision.text : Decision → String
  | .pending => "pending"
  | .accepted => "accepted"
  | .declined => "declined"

def Decision.ofText (s : String) : Option Decision :=
  [.pending, .accepted, .declined].find? fun x => x.text = s

@[simp] lemma ScheduleStatus.ofText_text (s : ScheduleStatus) : ofText s.text = some s := by
  cases s <;> decide

end OnAir.Database
