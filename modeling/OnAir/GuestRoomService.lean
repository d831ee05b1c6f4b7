import OnAir.PythonText
import OnAir.ReplicationApplier

/-!
`GuestRoomService`: invites, and the sessions of the guests who redeem them.

Each call reads the tables, refuses or writes, and commits once. Tokens are drawn by the caller
and stored under their hash. Rows are never deleted, so the counter of a table is its largest
id.
-/

namespace OnAir.GuestRoomService

open OnAir.Database PythonText ReplicationApplier OnAir.Table

/-- How instants, in microseconds, are written and read. -/
structure TimeText where
  /-- `isoformat` -/
  iso : ℤ → String
  /-- `fromisoformat` -/
  fromIso : String → Option ℤ
  /-- `CURRENT_TIMESTAMP` -/
  current : ℤ → String

inductive GuestRoomError
  | studioNotFound
  | guestInviteNotFound
  | guestDisplayNameRequired
  | guestInviteInvalid
  | guestInviteUnavailable
  | guestInviteExpired
  | guestSessionInvalid
  | guestSessionNotInLobby
  | guestRoomFull
  | recordingConsentRequired
  | guestSessionNotFound
  | guestSessionNotAdmitted
  | invalidGuestGain
  /-- what is raised by SQLite or by a conversion -/
  | other
  deriving DecidableEq, Repr

def GuestRoomError.text : GuestRoomError → String
  | .studioNotFound => "studio_not_found"
  | .guestInviteNotFound => "guest_invite_not_found"
  | .guestDisplayNameRequired => "guest_display_name_required"
  | .guestInviteInvalid => "guest_invite_invalid"
  | .guestInviteUnavailable => "guest_invite_unavailable"
  | .guestInviteExpired => "guest_invite_expired"
  | .guestSessionInvalid => "guest_session_invalid"
  | .guestSessionNotInLobby => "guest_session_not_in_lobby"
  | .guestRoomFull => "guest_room_full"
  | .recordingConsentRequired => "recording_consent_required"
  | .guestSessionNotFound => "guest_session_not_found"
  | .guestSessionNotAdmitted => "guest_session_not_admitted"
  | .invalidGuestGain => "invalid_guest_gain"
  | .other => ""

def maxAdmittedGuests : ℕ := 4

/-- The id of the next row of an `AUTOINCREMENT` table. -/
def newId {α : Type} (t : Table α) : ℤ := max 1 (nextId t)

lemma lookup_newId {α : Type} (t : Table α) : t[newId t]? = none := by
  cases h : t[newId t]? with
  | none => rfl
  | some a =>
    have hlt := lt_nextId h
    have hle : nextId t ≤ newId t := le_max_right _ _
    omega

section Calls

variable (sha : String → String) (tm : TimeText) (now : ℤ)

/-! ### Invites -/

def createInvite (token : String) (studioId actorId : ℤ) (d : Data) :
    Except GuestRoomError (ℤ × Data) :=
  match d.studios[studioId]? with
  | none => .error .studioNotFound
  | some studio =>
    if !studio.isActive then .error .studioNotFound
    else
      let id := newId d.guestInvites
      let invite : GuestInvite := ⟨studioId, studio.stationId, sha token, actorId,
        tm.iso (now + 7200000000), none, none, tm.current now⟩
      if inviteFits d id invite then
        .ok (id, { d with guestInvites := d.guestInvites.insert id invite })
      else .error .other

def revokeInvite (studioId inviteId : ℤ) (d : Data) : Except GuestRoomError Data :=
  match d.guestInvites[inviteId]? with
  | none => .error .guestInviteNotFound
  | some invite =>
    if invite.studioId ≠ studioId then .error .guestInviteNotFound
    else .ok { d with
      guestInvites :=
        d.guestInvites.modify inviteId fun r => { r with revokedAt := some (tm.current now) } }

/-! ### Sessions -/

def redeem (sessionToken token displayName : String) (d : Data) :
    Except GuestRoomError (ℤ × Data) :=
  let name := squeeze displayName
  if ¬ (1 ≤ name.length ∧ name.length ≤ 80) then .error .guestDisplayNameRequired
  else
    match (rows d.guestInvites).find? fun r => r.2.tokenHash = sha token with
    | none => .error .guestInviteInvalid
    | some (inviteId, invite) =>
      if invite.revokedAt.isSome || invite.redeemedAt.isSome then .error .guestInviteUnavailable
      else
        match tm.fromIso (invite.expiresAt.replace "Z" "+00:00") with
        | none => .error .other
        | some expires =>
          if expires ≤ now then .error .guestInviteExpired
          else
            let id := newId d.guestSessions
            let session : GuestSession := ⟨inviteId, invite.studioId, invite.stationId, name,
              sha sessionToken, .lobby, false, false, false, 0, "unknown", none, none,
              tm.current now, tm.current now⟩
            if sessionFits d id session then
              .ok (id, { d with
                guestSessions := d.guestSessions.insert id session
                guestInvites := d.guestInvites.modify inviteId fun r =>
                  { r with redeemedAt := some (tm.current now) } })
            else .error .other

def authenticateSession (sessionToken : String) (d : Data) :
    Except GuestRoomError (ℤ × GuestSession) :=
  match (rows d.guestSessions).find? fun r => r.2.sessionTokenHash = sha sessionToken with
  | none => .error .guestSessionInvalid
  | some r =>
    if r.2.status = .rejected ∨ r.2.status = .kicked ∨ r.2.status = .left then
      .error .guestSessionInvalid
    else .ok r

/-- `UPDATE guest_sessions SET … WHERE id=?`. -/
def updateSession (d : Data) (sessionId : ℤ) (f : GuestSession → GuestSession) : Data :=
  { d with guestSessions := d.guestSessions.modify sessionId f }

/-- `SELECT * FROM guest_sessions WHERE id=? AND studio_id=?`. -/
def sessionOf (d : Data) (studioId sessionId : ℤ) : Option GuestSession :=
  d.guestSessions[sessionId]?.filter fun r => r.studioId = studioId

/-- `set_connected` updates the row whatever its status is. -/
def setConnected (sessionId : ℤ) (connected : Bool) (quality : String) (d : Data) : Data :=
  let quality := if quality = "" then "unknown" else quality
  updateSession d sessionId fun r => { r with
    isConnected := connected
    connectionQuality := String.ofList (quality.toList.take 32)
    lastSeenAt := tm.current now }

def admittedCount (d : Data) (studioId : ℤ) : ℕ :=
  ((rows d.guestSessions).filter fun r =>
    r.2.studioId = studioId && r.2.status = .admitted).length

/-- `SELECT id FROM guest_recordings WHERE studio_id=? AND status='recording' LIMIT 1`. -/
def activeRecording (d : Data) (studioId : ℤ) : Option ℤ :=
  ((rows d.guestRecordings).find? fun r =>
    r.2.studioId = studioId && r.2.status = .recording).map Prod.fst

/-- Whether `admit` finds the consent it asks for. -/
def mayBeRecorded (d : Data) (studioId sessionId : ℤ) : Bool :=
  match activeRecording d studioId with
  | none => true
  | some recordingId => (consentOf d recordingId sessionId).any fun c => c.decision = .accepted

def admitGuest (studioId sessionId : ℤ) (d : Data) : Except GuestRoomError Data :=
  match sessionOf d studioId sessionId with
  | none => .error .guestSessionNotInLobby
  | some session =>
    if session.status ≠ .lobby then .error .guestSessionNotInLobby
    else if maxAdmittedGuests ≤ admittedCount d studioId then .error .guestRoomFull
    else if !mayBeRecorded d studioId sessionId then .error .recordingConsentRequired
    else .ok (updateSession d sessionId fun r => { r with
      status := .admitted
      admittedAt := some (tm.current now)
      isOnAir := false })

def rejectOrKick (studioId sessionId : ℤ) (action : String) (d : Data) :
    Except GuestRoomError Data :=
  match sessionOf d studioId sessionId with
  | none => .error .guestSessionNotFound
  | some _ => .ok (updateSession d sessionId fun r => { r with
      status := if action = "reject" then .rejected else .kicked
      isOnAir := false
      leftAt := some (tm.current now) })

/-! ### Audio controls -/

/-- The columns of `update_audio` that are given. -/
def audioControls (muted onAir : Option Bool) (gainDb : Option ℚ) (r : GuestSession) :
    GuestSession :=
  { r with
    isMuted := muted.getD r.isMuted
    isOnAir := onAir.getD r.isOnAir
    gainDb := gainDb.getD r.gainDb
    lastSeenAt := if muted.isSome || onAir.isSome || gainDb.isSome then tm.current now
      else r.lastSeenAt }

def updateAudio (studioId sessionId : ℤ) (muted onAir : Option Bool) (gainDb : Option ℚ)
    (d : Data) : Except GuestRoomError Data :=
  match sessionOf d studioId sessionId with
  | none => .error .guestSessionNotAdmitted
  | some session =>
    if session.status ≠ .admitted then .error .guestSessionNotAdmitted
    else if gainDb.any fun g => ¬ (-24 ≤ g ∧ g ≤ 12) then .error .invalidGuestGain
    else .ok (updateSession d sessionId (audioControls tm now muted onAir gainDb))

/-- Whether `UPDATE … WHERE studio_id=? AND status='admitted'` takes the row off the air. -/
def takeOffAir (studioId : ℤ) (r : GuestSession) : GuestSession :=
  if r.studioId = studioId ∧ r.status = .admitted then { r with isOnAir := false } else r

def allOffAir (studioId : ℤ) (d : Data) : Except GuestRoomError (ℕ × Data) :=
  match d.studios[studioId]? with
  | none => .error .studioNotFound
  | some _ => .ok (admittedCount d studioId,
      { d with guestSessions := d.guestSessions.map fun _ => takeOffAir studioId })

def guestSelfMute (sessionToken : String) (muted : Bool) (d : Data) :
    Except GuestRoomError Data :=
  (authenticateSession sha sessionToken d).map fun session =>
    updateSession d session.1 fun r => { r with isMuted := muted, lastSeenAt := tm.current now }

end Calls

/-! ### What a call does -/

section Effects

variable {sha : String → String} {tm : TimeText} {now : ℤ} {d d' : Data}

lemma createInvite_ok {token : String} {studioId actorId : ℤ} {out : ℤ × Data}
    (h : createInvite sha tm now token studioId actorId d = .ok out) :
    ∃ t, out.2 = { d with guestInvites := t } := by
  revert h
  fun_cases createInvite sha tm now token studioId actorId d <;> intro h <;> cases h
  exact ⟨_, rfl⟩

lemma revokeInvite_ok {studioId inviteId : ℤ}
    (h : revokeInvite tm now studioId inviteId d = .ok d') :
    ∃ t, d' = { d with guestInvites := t } := by
  revert h
  fun_cases revokeInvite tm now studioId inviteId d <;> intro h <;> cases h
  exact ⟨_, rfl⟩

/-- A guest comes in through the lobby. -/
lemma redeem_ok {sessionToken token displayName : String} {out : ℤ × Data}
    (h : redeem sha tm now sessionToken token displayName d = .ok out) :
    ∃ (x : GuestSession) (t : Table GuestInvite), x.status = .lobby ∧
      out.2 = { d with
        guestSessions := d.guestSessions.insert (newId d.guestSessions) x
        guestInvites := t } := by
  revert h
  fun_cases redeem sha tm now sessionToken token displayName d <;> intro h <;> cases h
  exact ⟨_, _, rfl, rfl⟩

lemma sessionOf_eq {studioId sessionId : ℤ} {x : GuestSession}
    (h : sessionOf d studioId sessionId = some x) :
    d.guestSessions[sessionId]? = some x ∧ x.studioId = studioId := by
  obtain ⟨hx, hst⟩ := Option.filter_eq_some_iff.mp h
  exact ⟨hx, by simpa using hst⟩

/-- Only a guest in the lobby is admitted, to a room that is not full. -/
lemma admitGuest_ok {studioId sessionId : ℤ}
    (h : admitGuest tm now studioId sessionId d = .ok d') :
    ∃ x, sessionOf d studioId sessionId = some x ∧ x.status = .lobby ∧
      admittedCount d studioId < maxAdmittedGuests ∧ mayBeRecorded d studioId sessionId ∧
      d' = updateSession d sessionId fun r => { r with
        status := .admitted
        admittedAt := some (tm.current now)
        isOnAir := false } := by
  revert h
  fun_cases admitGuest tm now studioId sessionId d <;> intro h <;> cases h
  case case5 x hx hlobby hroom hrec =>
    exact ⟨x, hx, by simpa using hlobby, by simpa using hroom, by simpa using hrec, rfl⟩

lemma rejectOrKick_ok {studioId sessionId : ℤ} {action : String}
    (h : rejectOrKick tm now studioId sessionId action d = .ok d') :
    ∃ f, d' = updateSession d sessionId f ∧
      ∀ x, (f x).studioId = x.studioId ∧ (f x).status ≠ .admitted := by
  revert h
  fun_cases rejectOrKick tm now studioId sessionId action d <;> intro h <;> cases h
  refine ⟨_, rfl, fun x => ⟨rfl, ?_⟩⟩
  dsimp only
  split_ifs <;> decide

/-- Audio controls are of admitted guests. -/
lemma updateAudio_ok {studioId sessionId : ℤ} {muted onAir : Option Bool} {gainDb : Option ℚ}
    (h : updateAudio tm now studioId sessionId muted onAir gainDb d = .ok d') :
    ∃ x, sessionOf d studioId sessionId = some x ∧ x.status = .admitted ∧
      d' = updateSession d sessionId (audioControls tm now muted onAir gainDb) := by
  revert h
  fun_cases updateAudio tm now studioId sessionId muted onAir gainDb d <;> intro h <;> cases h
  case case4 x hx hadm _ => exact ⟨x, hx, by simpa using hadm, rfl⟩

lemma allOffAir_ok {studioId : ℤ} {out : ℕ × Data} (h : allOffAir studioId d = .ok out) :
    out.2 = { d with guestSessions := d.guestSessions.map fun _ => takeOffAir studioId } := by
  revert h
  fun_cases allOffAir studioId d <;> intro h <;> cases h
  rfl

lemma guestSelfMute_ok {sessionToken : String} {muted : Bool}
    (h : guestSelfMute sha tm now sessionToken muted d = .ok d') :
    ∃ g, d' = updateSession d g fun r =>
      { r with isMuted := muted, lastSeenAt := tm.current now } := by
  unfold guestSelfMute at h
  cases ha : authenticateSession sha sessionToken d with
  | error e => simp [ha, Except.map] at h
  | ok r =>
    rw [ha] at h
    cases h
    exact ⟨r.1, rfl⟩

end Effects

end OnAir.GuestRoomService
