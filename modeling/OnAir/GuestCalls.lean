import OnAir.GuestRoomService
import OnAir.Runs

/-!
Calls of the guest room on connections of their own.

A call reads with statements that see what was committed before each of them, and then writes in
one transaction. Between any two statements of a call, those of the others run; nothing that a call
has read is looked at again when it writes.
-/

namespace OnAir.GuestCalls

open OnAir.Database GuestRoomService PythonText ReplicationApplier Runs OnAir.Table

/-! ### Statements -/

inductive Request
  | createInvite (token : String) (studioId actorId : ℤ)
  | revokeInvite (studioId inviteId : ℤ)
  | redeem (sessionToken token displayName : String)
  | setConnected (sessionId : ℤ) (connected : Bool) (quality : String)
  | admitGuest (studioId sessionId : ℤ)
  | rejectOrKick (studioId sessionId : ℤ) (action : String)
  | updateAudio (studioId sessionId : ℤ) (muted onAir : Option Bool) (gainDb : Option ℚ)
  | allOffAir (studioId : ℤ)
  | guestSelfMute (sessionToken : String) (muted : Bool)
  deriving DecidableEq, Repr

/-- The next statement of a call that has passed the checks before it. -/
inductive Pending
  | insertInvite (studioId stationId actorId : ℤ) (token expiresAt : String)
  | markRevoked (inviteId : ℤ)
  | insertSession (inviteId : ℤ) (invite : GuestInvite) (name sessionToken : String)
  | markConnected (sessionId : ℤ) (connected : Bool) (quality : String)
  | countAdmitted (studioId sessionId : ℤ)
  | findRecording (studioId sessionId : ℤ)
  | findConsent (sessionId recordingId : ℤ)
  | markAdmitted (sessionId : ℤ)
  | markDismissed (sessionId : ℤ) (action : String)
  | setAudio (sessionId : ℤ) (muted onAir : Option Bool) (gainDb : Option ℚ)
  | takeOffAir (studioId : ℤ)
  | setMuted (sessionId : ℤ) (muted : Bool)
  deriving DecidableEq, Repr

section Statements

variable (sha : String → String) (tm : TimeText) (now : ℤ)

/-- The first statement of a call, if it reads, and the checks after it. -/
def begins (q : Request) (d : Data) : Except GuestRoomError Pending :=
  match q with
  | .createInvite token studioId actorId =>
    match d.studios[studioId]? with
    | none => .error .studioNotFound
    | some studio =>
      if !studio.isActive then .error .studioNotFound
      else .ok (.insertInvite studioId studio.stationId actorId token (tm.iso (now + 7200000000)))
  | .revokeInvite studioId inviteId =>
    match d.guestInvites[inviteId]? with
    | none => .error .guestInviteNotFound
    | some invite =>
      if invite.studioId ≠ studioId then .error .guestInviteNotFound
      else .ok (.markRevoked inviteId)
  | .redeem sessionToken token displayName =>
    let name := squeeze displayName
    if ¬ (1 ≤ name.length ∧ name.length ≤ 80) then .error .guestDisplayNameRequired
    else
      match (rows d.guestInvites).find? fun r => r.2.tokenHash = sha token with
      | none => .error .guestInviteInvalid
      | some (inviteId, invite) =>
        if invite.revokedAt.isSome || invite.redeemedAt.isSome then .error .guestInviteUnavailable
        else
          match tm.fromIso (invite.expiresAt.replace "Z" "+00:00") with
          | none => .error .other
          | some expires =>
            if expires ≤ now then .error .guestInviteExpired
            else .ok (.insertSession inviteId invite name sessionToken)
  | .setConnected sessionId connected quality => .ok (.markConnected sessionId connected quality)
  | .admitGuest studioId sessionId =>
    match sessionOf d studioId sessionId with
    | none => .error .guestSessionNotInLobby
    | some session =>
      if session.status ≠ .lobby then .error .guestSessionNotInLobby
      else .ok (.countAdmitted studioId sessionId)
  | .rejectOrKick studioId sessionId action =>
    match sessionOf d studioId sessionId with
    | none => .error .guestSessionNotFound
    | some _ => .ok (.markDismissed sessionId action)
  | .updateAudio studioId sessionId muted onAir gainDb =>
    match sessionOf d studioId sessionId with
    | none => .error .guestSessionNotAdmitted
    | some session =>
      if session.status ≠ .admitted then .error .guestSessionNotAdmitted
      else if gainDb.any fun g => ¬ (-24 ≤ g ∧ g ≤ 12) then .error .invalidGuestGain
      else .ok (.setAudio sessionId muted onAir gainDb)
  | .allOffAir studioId =>
    match d.studios[studioId]? with
    | none => .error .studioNotFound
    | some _ => .ok (.takeOffAir studioId)
  | .guestSelfMute sessionToken muted =>
    (authenticateSession sha sessionToken d).map fun session => .setMuted session.1 muted

/-- The next statement: the tables afterwards, and the statement after it, if the call goes
on. -/
def proceed (p : Pending) (d : Data) : Except GuestRoomError (Data × Option Pending) :=
  match p with
  | .insertInvite studioId stationId actorId token expiresAt =>
    let id := newId d.guestInvites
    let invite : GuestInvite :=
      ⟨studioId, stationId, sha token, actorId, expiresAt, none, none, tm.current now⟩
    if inviteFits d id invite then
      .ok ({ d with guestInvites := d.guestInvites.insert id invite }, none)
    else .error .other
  | .markRevoked inviteId =>
    .ok ({ d with
      guestInvites :=
        d.guestInvites.modify inviteId fun r => { r with revokedAt := some (tm.current now) } },
      none)
  | .insertSession inviteId invite name sessionToken =>
    let id := newId d.guestSessions
    let session : GuestSession := ⟨inviteId, invite.studioId, invite.stationId, name,
      sha sessionToken, .lobby, false, false, false, 0, "unknown", none, none,
      tm.current now, tm.current now⟩
    if sessionFits d id session then
      .ok ({ d with
        guestSessions := d.guestSessions.insert id session
        guestInvites := d.guestInvites.modify inviteId fun r =>
          { r with redeemedAt := some (tm.current now) } }, none)
    else .error .other
  | .markConnected sessionId connected quality =>
    .ok (setConnected tm now sessionId connected quality d, none)
  | .countAdmitted studioId sessionId =>
    if maxAdmittedGuests ≤ admittedCount d studioId then .error .guestRoomFull
    else .ok (d, some (.findRecording studioId sessionId))
  | .findRecording studioId sessionId =>
    match activeRecording d studioId with
    | none => .ok (d, some (.markAdmitted sessionId))
    | some recordingId => .ok (d, some (.findConsent sessionId recordingId))
  | .findConsent sessionId recordingId =>
    if (consentOf d recordingId sessionId).any fun c => c.decision = .accepted then
      .ok (d, some (.markAdmitted sessionId))
    else .error .recordingConsentRequired
  | .markAdmitted sessionId =>
    .ok (updateSession d sessionId fun r => { r with
      status := .admitted
      admittedAt := some (tm.current now)
      isOnAir := false }, none)
  | .markDismissed sessionId action =>
    .ok (updateSession d sessionId fun r => { r with
      status := if action = "reject" then .rejected else .kicked
      isOnAir := false
      leftAt := some (tm.current now) }, none)
  | .setAudio sessionId muted onAir gainDb =>
    .ok (updateSession d sessionId (audioControls tm now muted onAir gainDb), none)
  | .takeOffAir studioId =>
    .ok ({ d with
      guestSessions := d.guestSessions.map fun _ => GuestRoomService.takeOffAir studioId }, none)
  | .setMuted sessionId muted =>
    .ok (updateSession d sessionId fun r =>
      { r with isMuted := muted, lastSeenAt := tm.current now }, none)

/-! ### Calls that run at the same time -/

/-- The tables, and the calls in flight by the statements they have reached. -/
structure State where
  data : Data
  calls : List Pending

inductive Event
  | call (q : Request)
  | turn (p : Pending)
  /-- the recordings and their consents are written by others -/
  | recordings (recordings : Table GuestRecording) (consents : Table (Table Consent))

/-- An event, with the reading of the clock. -/
structure Act where
  now : ℤ
  event : Event

/-- A call begins, or executes its next statement; one that is refused leaves nothing. -/
def step (s : State) (a : Act) : Option State :=
  match a.event with
  | .call q =>
    match begins sha tm a.now q s.data with
    | .ok p => some { s with calls := p :: s.calls }
    | .error _ => some s
  | .turn p =>
    if p ∈ s.calls then
      match proceed sha tm a.now p s.data with
      | .ok (d, next) => some ⟨d, next.toList ++ s.calls.erase p⟩
      | .error _ => some { s with calls := s.calls.erase p }
    else none
  | .recordings recordings consents =>
    some { s with data := { s.data with guestRecordings := recordings, consents := consents } }

end Statements

end OnAir.GuestCalls
