import OnAir.ChunkQueue
import OnAir.PcmSamples
import OnAir.Runs

/-!
The buffers that carry PCM between threads: the microphone of a station, the return audio of a
guest, and a sound effect that is played.

All three are queues of chunks. The microphone measures its level with every chunk, and takes the
chunk for whole samples there. An effect is only decoded as far as there is room for it.
-/

namespace OnAir.PcmBuffers

open ChunkQueue PcmSamples Runs

/-- `output.extend(b"\x00" * ..)`. -/
def pad (requested : ℕ) (output : Bytes) : Bytes :=
  output ++ List.replicate (requested - output.length) 0

/-- The samples of a chunk without its odd byte. -/
def samples : Bytes → List ℤ
  | low :: high :: rest => ofBytes low high :: samples rest
  | _ => []

/-! ### `MicSession` -/

/-- What the two levels in decibels are computed from; `none` is silence. -/
structure Level where
  peak : ℕ
  squares : ℕ
  sampleCount : ℕ
  deriving DecidableEq, Repr

structure MicSession where
  maxBufferBytes : ℤ
  buffer : Queue UInt8
  level : Option Level
  deriving DecidableEq, Repr

/-- `MicSession.__init__`. -/
def MicSession.new (maxBufferBytes : ℤ) : MicSession := ⟨max 4096 maxBufferBytes, empty, none⟩

/-- `_update_levels`; `none` where the cast to whole samples raises. -/
def MicSession.updateLevels (chunk : Bytes) (m : MicSession) : Option MicSession :=
  if chunk.length < 2 then some m
  else if chunk.length % 2 ≠ 0 then none
  else
    let peak := (samples chunk).foldl (fun peak x => max peak x.natAbs) 0
    if peak = 0 then some { m with level := none }
    else some { m with level := some ⟨peak, ((samples chunk).map fun x => x.natAbs ^ 2).sum,
      chunk.length / 2⟩ }

/-- `_append_pcm`: the session afterwards, what was dropped, and whether the call returns. -/
def MicSession.appendPcm (chunk : Bytes) (m : MicSession) : MicSession × Bytes × Bool :=
  if chunk = [] then (m, [], true)
  else
    let r := dropOver m.maxBufferBytes (append chunk m.buffer)
    let m' := { m with buffer := r.1 }
    match m'.updateLevels chunk with
    | some m'' => (m'', r.2, true)
    | none => (m', r.2, false)

/-! ### `GuestReturnBuffer` -/

structure GuestReturnBuffer where
  maxBytes : ℕ
  chunks : Queue UInt8
  deriving DecidableEq, Repr

def GuestReturnBuffer.new (maxBytes : ℕ) : GuestReturnBuffer := ⟨maxBytes, empty⟩

def GuestReturnBuffer.push (chunk : Bytes) (g : GuestReturnBuffer) : GuestReturnBuffer × Bytes :=
  if chunk = [] then (g, [])
  else
    let r := dropOver g.maxBytes (append chunk g.chunks)
    ({ g with chunks := r.1 }, r.2)

/-! ### `SoundEffectSlot` -/

def pcmChunkBytes : ℤ := 4096

def pcmMaxBufferBytes : ℤ := 48000 * 1 * 2 * 5

structure SoundEffectSlot where
  gainLinear : ℚ
  buffer : Queue UInt8
  /-- the room that the reader thread has found, before it waits for the decoder -/
  bufferRoom : Option ℤ
  deriving DecidableEq, Repr

def SoundEffectSlot.new (gainLinear : ℚ) : SoundEffectSlot := ⟨gainLinear, empty, none⟩

/-- The reader thread looks for room. -/
def SoundEffectSlot.findRoom (s : SoundEffectSlot) : SoundEffectSlot :=
  let bufferRoom := max 0 (pcmMaxBufferBytes - s.buffer.size)
  { s with bufferRoom := if bufferRoom ≤ 0 then none else some bufferRoom }

/-- The decoder has given a chunk to the reader thread, which asked for no more than there was room
for. -/
def SoundEffectSlot.receive (chunk : Bytes) (s : SoundEffectSlot) : Option SoundEffectSlot :=
  s.bufferRoom.bind fun room =>
    if (chunk.length : ℤ) ≤ min pcmChunkBytes room then
      some { s with
        buffer := if chunk = [] then s.buffer else append chunk s.buffer
        bufferRoom := none }
    else none

def gained (gainLinear : ℚ) (sample : ℤ) : ℤ :=
  max minSample (min maxSample (roundEven (sample * gainLinear)))

/-- The gain that `read_pcm` applies; `none` where an odd number of bytes is unpacked. -/
def SoundEffectSlot.applyGain (output : Bytes) (s : SoundEffectSlot) : Option Bytes :=
  if s.gainLinear ≠ 1 ∧ 2 ≤ output.length then
    if output.length % 2 ≠ 0 then none
    else ((samples output).mapM fun x => toBytes (gained s.gainLinear x)).map List.flatten
  else some output

/-! ### Reading -/

/-- The loop of all three: what is taken, and the queue afterwards. -/
def readChunks (numBytes : ℤ) (q : Queue UInt8) : Bytes × Queue UInt8 := take numBytes.toNat q

def MicSession.readPcm (numBytes : ℤ) (m : MicSession) : MicSession × Bytes :=
  let r := readChunks numBytes m.buffer
  ({ m with buffer := r.2 }, pad numBytes.toNat r.1)

def GuestReturnBuffer.read (requested : ℤ) (g : GuestReturnBuffer) : GuestReturnBuffer × Bytes :=
  let r := readChunks requested g.chunks
  ({ g with chunks := r.2 }, pad requested.toNat r.1)

/-- `SoundEffectSlot.read_pcm`; no output where it raises. -/
def SoundEffectSlot.readPcm (numBytes : ℤ) (s : SoundEffectSlot) :
    SoundEffectSlot × Option Bytes :=
  let r := readChunks numBytes s.buffer
  ({ s with buffer := r.2 }, (s.applyGain r.1).map (pad numBytes.toNat))

/-! ### Runs -/

inductive Call
  | push (chunk : Bytes)
  | read (numBytes : ℤ)
  deriving DecidableEq, Repr

inductive SlotEvent
  | findRoom
  | receive (chunk : Bytes)
  | read (numBytes : ℤ)
  deriving DecidableEq, Repr

/-- A buffer, what its calls have pushed and returned, and whether they all have returned. -/
structure Logged (β : Type) where
  buffer : β
  log : List (Record UInt8)
  returned : Bool
  deriving DecidableEq, Repr

def fresh {β : Type} (buffer : β) : Logged β := ⟨buffer, [], true⟩

def micStep (s : Logged MicSession) : Call → Option (Logged MicSession)
  | .push chunk =>
    let r := s.buffer.appendPcm chunk
    some ⟨r.1, s.log ++ [.pushed chunk r.2.1 (held r.1.buffer).length], s.returned && r.2.2⟩
  | .read numBytes =>
    let taken := (readChunks numBytes s.buffer.buffer).1
    let r := s.buffer.readPcm numBytes
    some ⟨r.1, s.log ++ [.returned numBytes.toNat taken r.2 (held r.1.buffer).length], s.returned⟩

def guestStep (s : Logged GuestReturnBuffer) : Call → Option (Logged GuestReturnBuffer)
  | .push chunk =>
    let r := s.buffer.push chunk
    some ⟨r.1, s.log ++ [.pushed chunk r.2 (held r.1.chunks).length], s.returned⟩
  | .read numBytes =>
    let taken := (readChunks numBytes s.buffer.chunks).1
    let r := s.buffer.read numBytes
    some ⟨r.1, s.log ++ [.returned numBytes.toNat taken r.2 (held r.1.chunks).length], s.returned⟩

def slotStep (s : Logged SoundEffectSlot) : SlotEvent → Option (Logged SoundEffectSlot)
  | .findRoom => some { s with buffer := s.buffer.findRoom }
  | .receive chunk =>
    (s.buffer.receive chunk).map fun buffer =>
      ⟨buffer, s.log ++ [.pushed chunk [] (held buffer.buffer).length], s.returned⟩
  | .read numBytes =>
    let taken := (readChunks numBytes s.buffer.buffer).1
    let r := s.buffer.readPcm numBytes
    some ⟨r.1, s.log ++ [.returned numBytes.toNat taken (r.2.getD []) (held r.1.buffer).length],
      s.returned && r.2.isSome⟩

/-! ### The microphone -/

section Microphone

variable {s s' : Logged MicSession} {m : MicSession} {chunk : Bytes}

/-- What the cast to samples of two bytes takes. -/
def WholeSamples (chunk : Bytes) : Prop := chunk.length < 2 ∨ chunk.length % 2 = 0

instance (chunk : Bytes) : Decidable (WholeSamples chunk) := inferInstanceAs (Decidable (_ ∨ _))

lemma updateLevels_isSome_iff : (m.updateLevels chunk).isSome ↔ WholeSamples chunk := by
  unfold MicSession.updateLevels WholeSamples
  split_ifs with hshort hodd
  · exact iff_of_true rfl (.inl hshort)
  · exact iff_of_false Bool.false_ne_true fun h => h.elim hshort hodd
  · exact iff_of_true (by dsimp only; split_ifs <;> rfl) (.inr (not_not.mp hodd))

/-- The level has no part in the buffer. -/
lemma updateLevels_buffer {m' : MicSession} (h : m.updateLevels chunk = some m') :
    m'.buffer = m.buffer ∧ m'.maxBufferBytes = m.maxBufferBytes := by
  unfold MicSession.updateLevels at h
  split_ifs at h
  · cases h
    exact ⟨rfl, rfl⟩
  · dsimp only at h
    split_ifs at h <;>
      · cases h
        exact ⟨rfl, rfl⟩

lemma appendPcm_returns_iff : (m.appendPcm chunk).2.2 = true ↔ WholeSamples chunk := by
  unfold MicSession.appendPcm
  split_ifs with hnil
  · exact iff_of_true rfl (.inl (by simp [hnil]))
  · dsimp only
    rw [← updateLevels_isSome_iff (m := { m with
      buffer := (dropOver m.maxBufferBytes (append chunk m.buffer)).1 })]
    split
    · rename_i h
      simp [h]
    · rename_i h
      simp [h]

/-- A chunk is in the buffer before its level is measured. -/
lemma appendPcm_buffer (m : MicSession) (hne : chunk ≠ []) :
    (m.appendPcm chunk).1.buffer = (dropOver m.maxBufferBytes (append chunk m.buffer)).1 ∧
      (m.appendPcm chunk).1.maxBufferBytes = m.maxBufferBytes ∧
      (m.appendPcm chunk).2.1 = (dropOver m.maxBufferBytes (append chunk m.buffer)).2 := by
  unfold MicSession.appendPcm
  rw [if_neg hne]
  dsimp only
  split
  · rename_i h
    exact ⟨(updateLevels_buffer h).1, (updateLevels_buffer h).2, rfl⟩
  · exact ⟨rfl, rfl, rfl⟩

/-- What holds of a microphone with its log. -/
structure MicOk (maxBufferBytes : ℤ) (s : Logged MicSession) : Prop where
  limit : s.buffer.maxBufferBytes = maxBufferBytes
  fifo : Fifo maxBufferBytes 0 s.buffer.buffer s.log

lemma micOk_step {maxBufferBytes : ℤ} (hlimit : 0 ≤ maxBufferBytes) (h : MicOk maxBufferBytes s)
    {c : Call} (hs : micStep s c = some s') : MicOk maxBufferBytes s' := by
  obtain ⟨hmax, hfifo⟩ := h
  cases c with
  | push chunk =>
    cases hs
    by_cases hne : chunk = []
    · subst hne
      exact ⟨hmax, hfifo.push_nil⟩
    · obtain ⟨hbuffer, hkeep, hdropped⟩ := appendPcm_buffer s.buffer hne
      refine ⟨hkeep.trans hmax, ?_⟩
      dsimp only
      rw [hbuffer, hdropped, hmax]
      exact hfifo.push chunk hlimit
  | read numBytes =>
    cases hs
    exact ⟨hmax, hfifo.read numBytes.toNat⟩

lemma micStep_isSome (s : Logged MicSession) (c : Call) : ∃ s', micStep s c = some s' := by
  cases c <;> exact ⟨_, rfl⟩

/-- One call returns if and only if it pushes whole samples, or reads. -/
lemma micStep_returned {c : Call} (hs : micStep s c = some s') :
    s'.returned = true ↔ s.returned = true ∧ ∀ chunk, c = .push chunk → WholeSamples chunk := by
  cases c with
  | push chunk =>
    cases hs
    dsimp only
    rw [Bool.and_eq_true, appendPcm_returns_iff]
    simp
  | read numBytes =>
    cases hs
    simp

lemma mic_run {maxBufferBytes : ℤ} (hlimit : 0 ≤ maxBufferBytes) (calls : List Call)
    (h : MicOk maxBufferBytes s) :
    ∃ s', exec micStep s calls = some s' ∧ MicOk maxBufferBytes s' ∧
      (s'.returned = true ↔ s.returned = true ∧
        ∀ chunk, .push chunk ∈ calls → WholeSamples chunk) := by
  induction calls generalizing s with
  | nil => exact ⟨s, rfl, h, by simp⟩
  | cons c calls ih =>
    obtain ⟨t, ht⟩ := micStep_isSome s c
    obtain ⟨s', he, hok, hret⟩ := ih (micOk_step hlimit h ht)
    refine ⟨s', exec_cons_eq_some.mpr ⟨t, ht, he⟩, hok, ?_⟩
    rw [hret, micStep_returned ht]
    constructor
    · rintro ⟨⟨hs, hc⟩, hrest⟩
      refine ⟨hs, fun chunk hmem => ?_⟩
      rcases List.mem_cons.mp hmem with heq | hmem
      · exact hc chunk heq.symm
      · exact hrest chunk hmem
    · rintro ⟨hs, hall⟩
      exact ⟨⟨hs, fun chunk heq => hall chunk (heq ▸ List.mem_cons_self)⟩,
        fun chunk hmem => hall chunk (List.mem_cons_of_mem _ hmem)⟩

end Microphone

/-! ### The return buffer and the slot -/

section Others

structure GuestOk (maxBytes : ℕ) (s : Logged GuestReturnBuffer) : Prop where
  limit : s.buffer.maxBytes = maxBytes
  fifo : Fifo maxBytes 0 s.buffer.chunks s.log
  returned : s.returned = true

lemma guest_run {maxBytes : ℕ} (calls : List Call) {s : Logged GuestReturnBuffer}
    (h : GuestOk maxBytes s) : ∃ s', exec guestStep s calls = some s' ∧ GuestOk maxBytes s' := by
  have hstep : ∀ (t : Logged GuestReturnBuffer) (c : Call), GuestOk maxBytes t →
      ∃ t', guestStep t c = some t' ∧ GuestOk maxBytes t' := by
    rintro t c ⟨hmax, hfifo, hret⟩
    cases c with
    | push chunk =>
      refine ⟨_, rfl, ?_⟩
      unfold GuestReturnBuffer.push
      split_ifs with hne
      · subst hne
        exact ⟨hmax, hfifo.push_nil, hret⟩
      · refine ⟨hmax, ?_, hret⟩
        dsimp only
        rw [hmax]
        exact hfifo.push chunk (Int.natCast_nonneg _)
    | read requested => exact ⟨_, rfl, hmax, hfifo.read requested.toNat, hret⟩
  induction calls generalizing s with
  | nil => exact ⟨s, rfl, h⟩
  | cons c calls ih =>
    obtain ⟨t, ht, hok⟩ := hstep s c h
    obtain ⟨s', he, hok'⟩ := ih hok
    exact ⟨s', exec_cons_eq_some.mpr ⟨t, ht, he⟩, hok'⟩

/-- A slot of unity gain. The room that was found can only grow until the chunk is there. -/
structure SlotOk (s : Logged SoundEffectSlot) : Prop where
  unity : s.buffer.gainLinear = 1
  room : ∀ room, s.buffer.bufferRoom = some room → s.buffer.buffer.size + room ≤ pcmMaxBufferBytes
  fifo : Fifo pcmMaxBufferBytes 0 s.buffer.buffer s.log
  complete : ∀ r ∈ s.log, r.dropped = []
  returned : s.returned = true

lemma slotOk_step {s s' : Logged SoundEffectSlot} {e : SlotEvent} (h : SlotOk s)
    (hs : slotStep s e = some s') : SlotOk s' := by
  obtain ⟨hunity, hroom, hfifo, hcomplete, hret⟩ := h
  cases e with
  | findRoom =>
    cases hs
    refine ⟨hunity, fun room hr => ?_, hfifo, hcomplete, hret⟩
    have hwithin := hfifo.within
    simp only [SoundEffectSlot.findRoom] at hr ⊢
    split_ifs at hr with hnone
    obtain rfl := Option.some.inj hr
    omega
  | receive chunk =>
    obtain ⟨buffer, hb, rfl⟩ := Option.map_eq_some_iff.mp hs
    obtain ⟨room, hr, hchunk⟩ := Option.bind_eq_some_iff.mp hb
    have hfits : (chunk.length : ℤ) ≤ min pcmChunkBytes room := by
      by_contra hnot
      rw [if_neg hnot] at hchunk
      cases hchunk
    have hle : s.buffer.buffer.size + chunk.length ≤ pcmMaxBufferBytes := by
      have hmin := hfits.trans (min_le_right _ _)
      have hfound := hroom room hr
      omega
    rw [if_pos hfits] at hchunk
    cases hchunk
    refine ⟨hunity, fun _ h => (nomatch h), ?_, forall_mem_concat hcomplete rfl, hret⟩
    dsimp only
    split_ifs with hne
    · subst hne
      exact hfifo.push_nil
    · exact hfifo.push_within chunk hle
  | read numBytes =>
    have hgain : ∀ output : Bytes, s.buffer.applyGain output = some output := fun output => by
      rw [SoundEffectSlot.applyGain, if_neg fun h => h.1 hunity]
    have hread := hfifo.read numBytes.toNat
    have hout : (s.buffer.readPcm numBytes).2 =
        some (pad numBytes.toNat (readChunks numBytes s.buffer.buffer).1) := by
      rw [SoundEffectSlot.readPcm]
      dsimp only
      rw [hgain]
      rfl
    simp only [slotStep, hout, Option.getD_some, Option.isSome_some, Bool.and_true,
      Option.some.injEq] at hs
    subst hs
    refine ⟨hunity, fun room hr => ?_, hread, forall_mem_concat hcomplete rfl, hret⟩
    have hle : (take numBytes.toNat s.buffer.buffer).2.size ≤ s.buffer.buffer.size := by
      have htakes := take_takes numBytes.toNat hfifo.exact
      rw [htakes.exact, hfifo.exact, htakes.oldest, List.length_append, Nat.cast_add]
      omega
    exact (add_le_add_left hle room).trans (hroom room hr)

end Others

/-- **PCM buffers.** After any calls the three buffers have counted what they hold, keep within
their limits, have returned as many bytes as were asked for, and have given back in order what was
pushed, but for what had to be dropped; an effect loses nothing. Every call has returned, if and
only if no chunk of the microphone ends within a sample. -/
theorem buffers_exact_iff (maxBufferBytes : ℤ) (calls : List Call) (maxBytes : ℕ)
    (calls' : List Call) (events : List SlotEvent) :
    (∃ s, exec micStep (fresh (MicSession.new maxBufferBytes)) calls = some s ∧
      Fifo (max 4096 maxBufferBytes) 0 s.buffer.buffer s.log ∧
      (s.returned = true ↔ ∀ chunk, .push chunk ∈ calls → WholeSamples chunk)) ∧
    (∃ s, exec guestStep (fresh (GuestReturnBuffer.new maxBytes)) calls' = some s ∧
      Fifo maxBytes 0 s.buffer.chunks s.log ∧ s.returned = true) ∧
    ∀ s, exec slotStep (fresh (SoundEffectSlot.new 1)) events = some s →
      Fifo pcmMaxBufferBytes 0 s.buffer.buffer s.log ∧ (∀ r ∈ s.log, r.dropped = []) ∧
        s.returned = true := by
  refine ⟨?_, ?_, fun s he => ?_⟩
  · have hlimit : 0 ≤ max 4096 maxBufferBytes := le_max_of_le_left (by decide)
    obtain ⟨s, he, hok, hret⟩ := mic_run hlimit calls
      (s := fresh (MicSession.new maxBufferBytes)) ⟨rfl, fifo_empty hlimit⟩
    exact ⟨s, he, hok.fifo, hret.trans (by simp [fresh])⟩
  · obtain ⟨s, he, hok⟩ := guest_run calls' (s := fresh (GuestReturnBuffer.new maxBytes))
      ⟨rfl, fifo_empty (Int.natCast_nonneg _), rfl⟩
    exact ⟨s, he, hok.fifo, hok.returned⟩
  · have hstart : SlotOk (fresh (SoundEffectSlot.new 1)) :=
      ⟨rfl, fun _ h => (nomatch h), fifo_empty (by decide), fun _ h => (nomatch h), rfl⟩
    have hok := inv_of_exec_all (fun _ _ _ h hs => slotOk_step h hs) hstart he
    exact ⟨hok.fifo, hok.complete, hok.returned⟩

/-- A chunk of three bytes is put into the buffer, and the push raises. -/
theorem odd_chunk_raises : ¬ ∀ (maxBufferBytes : ℤ) (calls : List Call) (s : Logged MicSession),
    exec micStep (fresh (MicSession.new maxBufferBytes)) calls = some s → s.returned = true := by
  intro h
  have hrun : ((exec micStep (fresh (MicSession.new 96000)) [.push [1, 2, 3]]).map
    (·.returned)) = some false := by decide
  obtain ⟨s, hs, hfalse⟩ := Option.map_eq_some_iff.mp hrun
  rw [h 96000 _ s hs] at hfalse
  cases hfalse

end OnAir.PcmBuffers
