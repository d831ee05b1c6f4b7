import OnAir.LiveAudioMixer
import OnAir.PcmBuffers

/-!
`GuestAudioRegistry`: the guests of a studio in the program, and the program that each of them
hears.

A round of `_live_mix_loop` reads a chunk from every guest of the station, adds up those who are on
air, adds the host, and mixes the sum over the music. The mixed program is then pushed to every
connected guest without what the guest has said in this round. The factor of a gain in decibels is
`linear`.
-/

namespace OnAir.GuestAudio

open PcmSamples ChunkQueue PcmBuffers LiveAudioMixer

/-- A row of `guest_sessions` that is admitted. -/
structure Control where
  stationId : ℤ
  isConnected : Bool
  isMuted : Bool
  isOnAir : Bool
  gainDb : ℚ
  deriving DecidableEq, Repr

/-- What `_controls` returns. -/
abbrev Controls := ℤ → Option Control

/-- The buffers of `RtcMicSession`, one for each session that is registered. -/
abbrev Sessions := List (ℤ × Queue UInt8)

/-- The registry. The last chunk of a session is forgotten with the session. -/
structure Registry where
  sessions : Sessions
  returns : ℤ → Option GuestReturnBuffer
  lastPcm : ℤ → Option Bytes
  nodup : (sessions.map Prod.fst).Nodup
  kept : ∀ id, id ∉ sessions.map Prod.fst → lastPcm id = none

/-- `_clamp`. -/
def clamp (value : ℚ) : ℤ := max minSample (min maxSample (roundEven value))

lemma inRange_clamp (value : ℚ) : InRange (clamp value) :=
  ⟨le_max_left _ _, max_le (by decide) (min_le_left _ _)⟩

/-- The bytes of a sample. -/
def sampleBytes (value : ℤ) (h : InRange value) : Bytes :=
  (toBytes value).get (by
    obtain ⟨bytes, hbytes, -⟩ := toBytes_of_inRange h
    rw [hbytes]
    rfl)

/-! ### The registry -/

def fresh : GuestReturnBuffer := GuestReturnBuffer.new 384000

def reset : Registry := ⟨[], fun _ => none, fun _ => none, List.nodup_nil, fun _ _ => rfl⟩

/-- `self._sessions[session_id] = session`. -/
def setSession (sessionId : ℤ) (session : Queue UInt8) : Sessions → Sessions
  | [] => [(sessionId, session)]
  | (id, old) :: rest =>
    if id = sessionId then (id, session) :: rest
    else (id, old) :: setSession sessionId session rest

lemma mem_setSession_keys {sessions : Sessions} {sessionId id : ℤ} {session : Queue UInt8} :
    id ∈ (setSession sessionId session sessions).map Prod.fst ↔
      id = sessionId ∨ id ∈ sessions.map Prod.fst := by
  induction sessions with
  | nil => simp [setSession]
  | cons entry rest ih =>
    unfold setSession
    split_ifs with h
    · subst h
      simp
    · rw [List.map_cons, List.mem_cons, ih, List.map_cons, List.mem_cons]
      tauto

lemma nodup_setSession {sessions : Sessions} (sessionId : ℤ) (session : Queue UInt8)
    (h : (sessions.map Prod.fst).Nodup) :
    ((setSession sessionId session sessions).map Prod.fst).Nodup := by
  induction sessions with
  | nil => exact List.nodup_singleton _
  | cons entry rest ih =>
    obtain ⟨hnew, hrest⟩ := List.nodup_cons.mp h
    unfold setSession
    split_ifs with heq
    · exact List.nodup_cons.mpr ⟨hnew, hrest⟩
    · refine List.nodup_cons.mpr ⟨fun hmem => ?_, ih hrest⟩
      exact (mem_setSession_keys.mp hmem).elim heq hnew

def register (sessionId : ℤ) (session : Queue UInt8) (r : Registry) : Registry where
  sessions := setSession sessionId session r.sessions
  returns := Function.update r.returns sessionId (some ((r.returns sessionId).getD fresh))
  lastPcm := r.lastPcm
  nodup := nodup_setSession sessionId session r.nodup
  kept := fun id hid => r.kept id fun hmem => hid (mem_setSession_keys.mpr (.inr hmem))

/-! ### Reading the guests -/

section Reading

variable (linear : ℚ → ℚ) (controls : Controls) (stationId : ℤ) (requested : ℕ)

/-- The guests that a station reads. -/
def ofStation (id : ℤ) : Option Control := (controls id).filter (·.stationId = stationId)

/-- Whether a guest is part of the program. -/
def onAir (control : Control) : Bool :=
  control.isConnected && !control.isMuted && control.isOnAir

/-- `RtcMicSession.read_pcm`. -/
def readPcm (session : Queue UInt8) : Bytes × Queue UInt8 :=
  let r := readChunks requested session
  (pad requested r.1, r.2)

/-- What a session adds to `sources`. -/
def source (entry : ℤ × Queue UInt8) : Option (Bytes × ℚ) :=
  (ofStation controls stationId entry.1).bind fun control =>
    if onAir control then some ((readPcm requested entry.2).1, linear control.gainDb) else none

/-- A session after the round. -/
def readSession (entry : ℤ × Queue UInt8) : ℤ × Queue UInt8 :=
  if (ofStation controls stationId entry.1).isSome then (entry.1, (readPcm requested entry.2).2)
  else entry

/-- The chunk that a guest of the station has given. -/
def chunkOf (sessions : Sessions) (id : ℤ) : Option Bytes :=
  if (ofStation controls stationId id).isSome then
    (sessions.lookup id).map fun session => (readPcm requested session).1
  else none

/-- The samples of all sources, added up. -/
def sumSources (sources : List (Bytes × ℚ)) : Bytes :=
  ((List.range (requested / 2)).map fun frame =>
    let mixed : ℚ := (sources.map fun s => (sampleAt s.1 (frame * 2) : ℚ) * s.2).sum
    sampleBytes (clamp mixed) (inRange_clamp mixed)).flatten ++
  List.replicate (requested % 2) 0

lemma keys_readSession (sessions : Sessions) :
    (sessions.map (readSession controls stationId requested)).map Prod.fst =
      sessions.map Prod.fst := by
  rw [List.map_map]
  refine List.map_congr_left fun entry _ => ?_
  rw [Function.comp_apply, readSession]
  split_ifs <;> rfl

lemma lookup_eq_none {sessions : Sessions} {id : ℤ} (h : id ∉ sessions.map Prod.fst) :
    sessions.lookup id = none :=
  List.lookup_eq_none_iff.mpr fun entry hentry =>
    bne_iff_ne.mpr fun heq => h (List.mem_map.mpr ⟨entry, hentry, heq.symm⟩)

/-- The sessions and chunks after a round that read them. -/
def readSessions (r : Registry) : Registry where
  sessions := r.sessions.map (readSession controls stationId requested)
  returns := r.returns
  lastPcm id := (chunkOf controls stationId requested r.sessions id).or (r.lastPcm id)
  nodup := by
    rw [keys_readSession]
    exact r.nodup
  kept := by
    intro id hid
    rw [keys_readSession] at hid
    rw [chunkOf, lookup_eq_none hid, r.kept id hid]
    split_ifs <;> rfl

def readOnAirPcm (r : Registry) : Registry × Bytes :=
  if requested = 0 then (r, [])
  else
    let sources := r.sessions.filterMap (source linear controls stationId requested)
    (readSessions controls stationId requested r,
      if sources = [] then List.replicate requested 0 else sumSources requested sources)

end Reading

/-! ### The round -/

lemma inRange_clampSum (value : ℤ) : InRange (max minSample (min maxSample value)) :=
  ⟨le_max_left _ _, max_le (by decide) (min_le_left _ _)⟩

/-- `_sum_mono_pcm`. -/
def sumMonoPcm (left right : Bytes) : Bytes :=
  let length := max left.length right.length
  ((List.range (length / 2)).map fun frame =>
    let value := sampleAt left (frame * 2) + sampleAt right (frame * 2)
    sampleBytes (max minSample (min maxSample value)) (inRange_clampSum value)).flatten ++
  List.replicate (length % 2) 0

section Publishing

variable (linear : ℚ → ℚ) (controls : Controls) (stationId : ℤ) (program : Bytes) (voiceGain : ℚ)

/-- The program without a guest. -/
def withoutOwn (own : Bytes) (gain : ℚ) : Bytes :=
  let remaining (frame channel : ℕ) : Bytes :=
    let value : ℚ :=
      sampleAt program (frame * 4 + channel) - sampleAt own (frame * 2) * gain
    sampleBytes (clamp value) (inRange_clamp value)
  ((List.range (program.length / 4)).map fun frame =>
    remaining frame 0 ++ remaining frame 2).flatten ++
  program.drop (program.length / 4 * 4)

/-- What a connected guest is sent. -/
def returnPcm (control : Control) (lastPcm : Option Bytes) : Bytes :=
  let own := if control.isOnAir && !control.isMuted then lastPcm.getD [] else []
  let gain := linear control.gainDb * max 0 voiceGain
  if own = [] then program else withoutOwn program own gain

/-- `publish_program_pcm`. -/
def publishProgramPcm (r : Registry) : Registry :=
  { r with
    returns := fun id =>
      (r.returns id).map fun buffer =>
        match (ofStation controls stationId id).filter (·.isConnected) with
        | some control =>
          (buffer.push (returnPcm linear program voiceGain control (r.lastPcm id))).1
        | none => buffer }

end Publishing

/-- The chunk that is mixed. The chunk of the microphone is what its reader gives for half of the
bytes of the music. -/
def liveChunk (c : Chunk) (guestPcm : Bytes) : Chunk :=
  let micPcm := if c.musicPcm.length / 2 = 0 then [] else c.micPcm
  { c with micPcm := sumMonoPcm micPcm guestPcm }

/-- A round of `_live_mix_loop` up to the mixed program. -/
def liveMix (linear : ℚ → ℚ) (controls : Controls) (stationId : ℤ) (r : Registry) (m : Mixer)
    (c : Chunk) : Option (Registry × Mixer × Bytes) := do
  let (r', guestPcm) := readOnAirPcm linear controls stationId (c.musicPcm.length / 2) r
  let (m', mixed) ← mixPcmChunk m (liveChunk c guestPcm)
  return (r', m', mixed)

end OnAir.GuestAudio
