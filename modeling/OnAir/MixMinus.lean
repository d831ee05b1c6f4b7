import OnAir.GuestAudio
import Mathlib.Tactic.LinearCombination

/-!
What a guest is sent is the program without the guest.

The guests are added up and rounded, mixed over the music and rounded, and one of them is taken off
again and rounded. The offsets of the three stages agree, so the other voices and the music are left
over.
-/

namespace OnAir.MixMinus

open PcmSamples ChunkQueue PcmBuffers LiveAudioMixer GuestAudio

/-! ### Blocks of bytes -/

section Blocks

variable {f : ℕ → Bytes} {width : ℕ}

lemma length_blocks (hf : ∀ i, (f i).length = width) (n : ℕ) :
    ((List.range n).map f).flatten.length = n * width := by
  induction n with
  | zero => simp
  | succ n ih =>
    rw [List.range_succ, List.map_append, List.flatten_append, List.length_append, ih]
    simp [hf, Nat.succ_mul]

lemma drop_blocks (hf : ∀ i, (f i).length = width) {n i : ℕ} (hi : i < n) (rest : Bytes) :
    ∃ rest', (((List.range n).map f).flatten ++ rest).drop (i * width) = f i ++ rest' := by
  obtain ⟨k, rfl⟩ : ∃ k, n = i + (k + 1) := ⟨n - i - 1, by omega⟩
  have hlen := length_blocks hf i
  rw [List.range_add, List.map_append, List.flatten_append, List.append_assoc,
    List.drop_append_of_le_length (by omega), ← hlen, List.drop_length, List.nil_append,
    List.range_succ_eq_map]
  exact ⟨_, by simp only [List.map_cons, List.flatten_cons, List.append_assoc]; rfl⟩

lemma sampleAt_append {bytes : Bytes} {offset : ℕ} (h : offset + 2 ≤ bytes.length)
    (rest : Bytes) : sampleAt (bytes ++ rest) offset = sampleAt bytes offset := by
  unfold sampleAt
  rw [List.drop_append_of_le_length (by omega)]
  match hd : bytes.drop offset with
  | low :: high :: more => rfl
  | [x] =>
    have := congrArg List.length hd
    simp only [List.length_drop, List.length_singleton] at this
    omega
  | [] =>
    have := congrArg List.length hd
    simp only [List.length_drop, List.length_nil] at this
    omega

lemma sampleAt_add (bytes : Bytes) (i j : ℕ) :
    sampleAt bytes (i + j) = sampleAt (bytes.drop i) j := by
  unfold sampleAt
  rw [List.drop_drop]

/-- A sample of a block is a sample of the whole. -/
lemma sampleAt_blocks (hf : ∀ i, (f i).length = width) {n i offset : ℕ} (hi : i < n)
    (hoffset : offset + 2 ≤ width) (rest : Bytes) :
    sampleAt (((List.range n).map f).flatten ++ rest) (i * width + offset) =
      sampleAt (f i) offset := by
  obtain ⟨rest', h⟩ := drop_blocks hf hi rest
  rw [sampleAt_add, h, sampleAt_append (by rw [hf]; exact hoffset)]

/-- Past the last whole sample there is silence. -/
lemma sampleAt_of_length_lt {bytes : Bytes} {offset : ℕ} (h : bytes.length < offset + 2) :
    sampleAt bytes offset = 0 := by
  unfold sampleAt
  match hd : bytes.drop offset with
  | low :: high :: more =>
    have := congrArg List.length hd
    simp only [List.length_drop, List.length_cons] at this
    omega
  | [x] => rfl
  | [] => rfl

lemma toBytes_sampleBytes {value : ℤ} (h : InRange value) :
    toBytes value = some (sampleBytes value h) := (Option.some_get _).symm

lemma length_sampleBytes {value : ℤ} (h : InRange value) : (sampleBytes value h).length = 2 := by
  obtain ⟨bytes, hbytes, hlen⟩ := toBytes_of_inRange h
  rw [toBytes_sampleBytes h] at hbytes
  rw [Option.some.inj hbytes, hlen]

lemma sampleAt_sampleBytes {value : ℤ} (h : InRange value) (rest : Bytes) :
    sampleAt (sampleBytes value h ++ rest) 0 = value :=
  sampleAt_of_toBytes (toBytes_sampleBytes h) rest

lemma sampleAt_bytes {value : ℤ} (h : InRange value) :
    sampleAt (sampleBytes value h) 0 = value := by
  rw [← List.append_nil (sampleBytes value h), sampleAt_sampleBytes]

lemma sampleAt_replicate (n offset : ℕ) : sampleAt (List.replicate n 0) offset = 0 := by
  unfold sampleAt
  rw [List.drop_replicate]
  match n - offset with
  | 0 => rfl
  | 1 => rfl
  | k + 2 => rfl

end Blocks

/-! ### Numbers that fit -/

lemma clamp_of_inRange {value : ℚ} (h : InRange (roundEven value)) :
    GuestAudio.clamp value = roundEven value := by
  unfold GuestAudio.clamp
  rw [min_eq_right h.2, max_eq_right h.1]

lemma clampSample_of_inRange {value : ℚ} (h : InRange (roundEven value)) :
    clampSample value = roundEven value := by
  unfold clampSample
  dsimp only
  rw [if_neg (not_lt.mpr h.2), if_neg (not_lt.mpr h.1)]

lemma clampSum_of_inRange {value : ℤ} (h : InRange value) :
    max minSample (min maxSample value) = value := by
  rw [min_eq_right h.2, max_eq_right h.1]

/-! ### The guests -/

section Guests

variable (linear : ℚ → ℚ) (controls : Controls) (stationId : ℤ) (requested : ℕ)

/-- What the sessions add to a frame. -/
def guestSum (sessions : Sessions) (frame : ℕ) : ℚ :=
  ((sessions.filterMap (source linear controls stationId requested)).map fun s =>
    (sampleAt s.1 (frame * 2) : ℚ) * s.2).sum

variable {linear controls stationId requested}

lemma length_takeChunks (need : ℕ) (chunks : List Bytes) (size : ℤ) :
    (takeChunks need chunks size).1.length ≤ need := by
  induction chunks generalizing need size with
  | nil => exact Nat.zero_le _
  | cons c cs ih =>
    unfold takeChunks
    split_ifs with hzero hfits
    · exact Nat.zero_le _
    · have hrest := ih (need - c.length) (size - c.length)
      simp only [List.length_append]
      omega
    · exact List.length_take_le _ _

lemma length_readPcm (session : Queue UInt8) :
    (readPcm requested session).1.length = requested := by
  have htaken : (readChunks requested session).1.length ≤ requested :=
    length_takeChunks _ session.chunks session.size
  simp only [readPcm, pad, List.length_append, List.length_replicate]
  omega

lemma sampleAt_source {entry : ℤ × Queue UInt8} {s : Bytes × ℚ}
    (h : source linear controls stationId requested entry = some s) {frame : ℕ}
    (hframe : requested / 2 ≤ frame) : sampleAt s.1 (frame * 2) = 0 := by
  obtain ⟨control, -, hs⟩ := Option.bind_eq_some_iff.mp h
  split_ifs at hs
  cases hs
  refine sampleAt_of_length_lt ?_
  rw [length_readPcm]
  omega

/-- No guest says anything past the end. -/
lemma guestSum_of_le {sessions : Sessions} {frame : ℕ} (hframe : requested / 2 ≤ frame) :
    guestSum linear controls stationId requested sessions frame = 0 := by
  refine List.sum_eq_zero fun x hx => ?_
  obtain ⟨s, hs, rfl⟩ := List.mem_map.mp hx
  obtain ⟨entry, -, hsource⟩ := List.mem_filterMap.mp hs
  rw [sampleAt_source hsource hframe, Int.cast_zero, zero_mul]

/-- A guest and the others. -/
lemma guestSum_split (sessions : Sessions) (g : ℤ) (frame : ℕ) :
    guestSum linear controls stationId requested sessions frame =
      guestSum linear controls stationId requested (sessions.filter (·.1 = g)) frame +
        guestSum linear controls stationId requested (sessions.filter (·.1 ≠ g)) frame := by
  induction sessions with
  | nil => simp [guestSum]
  | cons entry rest ih =>
    unfold guestSum at ih ⊢
    by_cases hg : entry.1 = g
    · rw [List.filter_cons_of_pos (by simpa using hg),
        List.filter_cons_of_neg (by simpa using hg), List.filterMap_cons, List.filterMap_cons]
      cases source linear controls stationId requested entry with
      | none => exact ih
      | some s => simp only [List.map_cons, List.sum_cons, ih, add_assoc]
    · rw [List.filter_cons_of_neg (by simpa using hg),
        List.filter_cons_of_pos (by simpa using hg), List.filterMap_cons, List.filterMap_cons]
      cases source linear controls stationId requested entry with
      | none => exact ih
      | some s => simp only [List.map_cons, List.sum_cons, ih]; ring

lemma filter_eq_of_lookup {sessions : Sessions} (hnodup : (sessions.map Prod.fst).Nodup) {g : ℤ}
    {session : Queue UInt8} (h : sessions.lookup g = some session) :
    sessions.filter (·.1 = g) = [(g, session)] := by
  induction sessions with
  | nil => cases h
  | cons entry rest ih =>
    obtain ⟨hnew, hrest⟩ := List.nodup_cons.mp hnodup
    rw [List.lookup_cons] at h
    by_cases hg : g = entry.1
    · subst hg
      rw [beq_self_eq_true] at h
      cases h
      rw [List.filter_cons_of_pos (by simp), List.filter_eq_nil_iff.mpr]
      intro other hother
      simpa using fun heq => hnew (List.mem_map.mpr ⟨other, hother, heq⟩)
    · rw [beq_false_of_ne hg] at h
      rw [List.filter_cons_of_neg (by simpa using fun heq => hg heq.symm), ih hrest h]

lemma filter_eq_nil_of_lookup {sessions : Sessions} {g : ℤ} (h : sessions.lookup g = none) :
    sessions.filter (·.1 = g) = [] := by
  refine List.filter_eq_nil_iff.mpr fun entry hentry => ?_
  have := List.lookup_eq_none_iff.mp h entry hentry
  simpa using fun heq : entry.1 = g => (bne_iff_ne.mp this) heq.symm

/-- A sample of what all guests have said. -/
lemma sampleAt_readOnAirPcm (r : Registry) (frame : ℕ)
    (hfit : InRange (roundEven (guestSum linear controls stationId requested r.sessions frame))) :
    sampleAt (readOnAirPcm linear controls stationId requested r).2 (frame * 2) =
      roundEven (guestSum linear controls stationId requested r.sessions frame) := by
  by_cases hpast : requested / 2 ≤ frame
  · have hlen : (readOnAirPcm linear controls stationId requested r).2.length < frame * 2 + 2 := by
      unfold readOnAirPcm
      split_ifs with hzero
      · simp
      · dsimp only
        split_ifs
        · rw [List.length_replicate]
          omega
        · rw [sumSources, List.length_append, List.length_replicate,
            length_blocks fun _ => length_sampleBytes _]
          omega
    rw [sampleAt_of_length_lt hlen, guestSum_of_le hpast]
    exact (roundEven_intCast 0).symm
  · unfold readOnAirPcm
    rw [if_neg (by omega)]
    dsimp only
    split_ifs with hnone
    · have hsum : guestSum linear controls stationId requested r.sessions frame = 0 := by
        rw [guestSum, hnone]
        rfl
      rw [sampleAt_replicate, hsum]
      exact (roundEven_intCast 0).symm
    · unfold sumSources
      rw [← Nat.add_zero (frame * 2), sampleAt_blocks (fun _ => length_sampleBytes _)
        (by omega) (by omega)]
      exact (sampleAt_bytes _).trans (clamp_of_inRange hfit)

end Guests

/-! ### The stages -/

/-- The host and the guests in a frame. -/
lemma sampleAt_sumMonoPcm (left right : Bytes) (frame : ℕ)
    (hfit : InRange (sampleAt left (frame * 2) + sampleAt right (frame * 2))) :
    sampleAt (sumMonoPcm left right) (frame * 2) =
      sampleAt left (frame * 2) + sampleAt right (frame * 2) := by
  unfold sumMonoPcm
  dsimp only
  by_cases hpast : max left.length right.length / 2 ≤ frame
  · rw [sampleAt_of_length_lt, sampleAt_of_length_lt (by omega), sampleAt_of_length_lt (by omega)]
    · rfl
    · rw [List.length_append, List.length_replicate, length_blocks fun _ => length_sampleBytes _]
      omega
  · rw [← Nat.add_zero (frame * 2), sampleAt_blocks (fun _ => length_sampleBytes _)
      (by omega) (by omega), Nat.add_zero]
    exact (sampleAt_bytes _).trans (clampSum_of_inRange hfit)

lemma frameBytes_eq {left right : ℤ} (hleft : InRange left) (hright : InRange right) :
    frameBytes left right = some (sampleBytes left hleft ++ sampleBytes right hright) := by
  rw [frameBytes, toBytes_sampleBytes hleft, toBytes_sampleBytes hright]
  rfl

/-- The left and the right sample of a frame. -/
lemma sampleAt_pair {left right : ℤ} (hleft : InRange left) (hright : InRange right) :
    sampleAt (sampleBytes left hleft ++ sampleBytes right hright) 0 = left ∧
      sampleAt (sampleBytes left hleft ++ sampleBytes right hright) 2 = right := by
  refine ⟨sampleAt_sampleBytes hleft _, ?_⟩
  rw [← Nat.add_zero 2, sampleAt_add, List.drop_append_of_le_length (length_sampleBytes hleft).ge,
    ← length_sampleBytes hleft, List.drop_length, List.nil_append, sampleAt_bytes]

section Mixing

variable (m : Mixer) (c : Chunk)

/-- What the effects add to a frame. -/
def effectAt (frame : ℕ) : ℤ := c.effectPcm.elim 0 fun effectPcm => sampleAt effectPcm (frame * 2)

/-- The music and the microphone in a frame. -/
def mixedValue (frame channel : ℕ) : ℚ :=
  sampleAt c.musicPcm (frame * 4 + channel) * effectiveMusicScale m c +
    sampleAt c.micPcm (frame * 2) * micScale c

def programSample (frame channel : ℕ) : ℤ :=
  clampSample ((clampSample (mixedValue m c frame channel) + effectAt c frame : ℤ) : ℚ)

lemma inRange_programSample (frame channel : ℕ) : InRange (programSample m c frame channel) :=
  inRange_clampSample _

def programFrame (frame : ℕ) : Bytes :=
  sampleBytes (programSample m c frame 0) (inRange_programSample m c frame 0) ++
    sampleBytes (programSample m c frame 2) (inRange_programSample m c frame 2)

lemma length_programFrame (frame : ℕ) : (programFrame m c frame).length = 4 := by
  rw [programFrame, List.length_append, length_sampleBytes, length_sampleBytes]

lemma clampSample_clampSample (value : ℚ) :
    clampSample ((clampSample value + 0 : ℤ) : ℚ) = clampSample value := by
  have hrange := inRange_clampSample value
  rw [add_zero, clampSample_of_inRange] <;> rw [roundEven_intCast]
  exact hrange

lemma outputFrame_eq (frame : ℕ) :
    outputFrame c (effectiveMusicScale m c) frame = some (programFrame m c frame) := by
  have hmix : mixFrame c (effectiveMusicScale m c) frame =
      some (sampleBytes (clampSample (mixedValue m c frame 0)) (inRange_clampSample _) ++
        sampleBytes (clampSample (mixedValue m c frame 2)) (inRange_clampSample _)) :=
    frameBytes_eq _ _
  have hsilent (h : effectAt c frame = 0) : sampleBytes (clampSample (mixedValue m c frame 0))
      (inRange_clampSample _) ++ sampleBytes (clampSample (mixedValue m c frame 2))
        (inRange_clampSample _) = programFrame m c frame := by
    simp only [programFrame, programSample, h, clampSample_clampSample]
  unfold outputFrame
  rw [hmix, Option.bind_eq_bind, Option.bind_some]
  cases heffect : c.effectPcm with
  | none => exact congrArg some (hsilent (by rw [effectAt, heffect]; rfl))
  | some effectPcm =>
    have hat : effectAt c frame = sampleAt effectPcm (frame * 2) := by rw [effectAt, heffect]; rfl
    dsimp only
    unfold addEffect
    dsimp only
    rw [← hat, (sampleAt_pair _ _).1, (sampleAt_pair _ _).2]
    split_ifs with hzero
    · exact congrArg some (hsilent hzero)
    · exact frameBytes_eq _ _

lemma mixPcmChunk_eq :
    mixPcmChunk m c = some (next m c,
      ((List.range (frameCount c)).map (programFrame m c)).flatten) := by
  have hframes : (List.range (frameCount c)).mapM (outputFrame c (effectiveMusicScale m c)) =
      some ((List.range (frameCount c)).map (programFrame m c)) := by
    rw [funext (outputFrame_eq m c)]
    exact List.mapM_pure
  rw [mixPcmChunk, hframes]
  rfl

variable {m c}

/-- A sample of the program. -/
lemma sampleAt_program {frame channel : ℕ} (hframe : frame < frameCount c)
    (hchannel : channel = 0 ∨ channel = 2) :
    sampleAt ((List.range (frameCount c)).map (programFrame m c)).flatten (frame * 4 + channel) =
      programSample m c frame channel := by
  rw [← List.append_nil (List.flatten _),
    sampleAt_blocks (length_programFrame m c) hframe (by omega)]
  rcases hchannel with rfl | rfl
  · exact (sampleAt_pair _ _).1
  · exact (sampleAt_pair _ _).2

end Mixing

lemma length_withoutOwn (program own : Bytes) (gain : ℚ) :
    (withoutOwn program own gain).length = program.length := by
  unfold withoutOwn
  dsimp only
  rw [List.length_append, List.length_drop,
    length_blocks fun _ => by rw [List.length_append, length_sampleBytes, length_sampleBytes]]
  omega

lemma length_returnPcm (linear : ℚ → ℚ) (program : Bytes) (voiceGain : ℚ) (control : Control)
    (lastPcm : Option Bytes) :
    (returnPcm linear program voiceGain control lastPcm).length = program.length := by
  unfold returnPcm
  dsimp only
  split_ifs
  · rfl
  · exact length_withoutOwn _ _ _
  · rfl
  · exact length_withoutOwn _ _ _

/-- A sample of the program without a guest. -/
lemma sampleAt_withoutOwn {program own : Bytes} {gain : ℚ} {frame channel : ℕ}
    (hframe : frame < program.length / 4) (hchannel : channel = 0 ∨ channel = 2)
    (hfit : InRange (roundEven
      (sampleAt program (frame * 4 + channel) - sampleAt own (frame * 2) * gain))) :
    sampleAt (withoutOwn program own gain) (frame * 4 + channel) =
      roundEven (sampleAt program (frame * 4 + channel) - sampleAt own (frame * 2) * gain) := by
  unfold withoutOwn
  dsimp only
  rw [sampleAt_blocks (fun _ => by rw [List.length_append, length_sampleBytes, length_sampleBytes])
    hframe (by omega)]
  rcases hchannel with rfl | rfl
  · exact (sampleAt_pair _ _).1.trans (clamp_of_inRange hfit)
  · exact (sampleAt_pair _ _).2.trans (clamp_of_inRange hfit)

/-! ### The return of a guest -/

section Return

variable (linear : ℚ → ℚ) (controls : Controls) (stationId : ℤ) (r : Registry) (m : Mixer)
  (c : Chunk)

/-- What is mixed in the round. -/
def roundChunk : Chunk :=
  liveChunk c (readOnAirPcm linear controls stationId (c.musicPcm.length / 2) r).2

/-- What the sessions of one guest, or of all the others, have said. -/
def ownSum (g : ℤ) (frame : ℕ) : ℚ :=
  guestSum linear controls stationId (c.musicPcm.length / 2) (r.sessions.filter (·.1 = g)) frame

def otherSum (g : ℤ) (frame : ℕ) : ℚ :=
  guestSum linear controls stationId (c.musicPcm.length / 2) (r.sessions.filter (·.1 ≠ g)) frame

/-- What the host has said. -/
def hostSample (frame : ℕ) : ℤ :=
  if c.musicPcm.length / 2 = 0 then 0 else sampleAt c.micPcm (frame * 2)

/-- The music under the voices, as the mixer scales it. -/
def musicValue (frame channel : ℕ) : ℚ :=
  sampleAt c.musicPcm (frame * 4 + channel) *
    effectiveMusicScale m (roundChunk linear controls stationId r c)

/-- No value on the way is clamped. -/
structure Unclamped (g : ℤ) (frame channel : ℕ) : Prop where
  guests : InRange (roundEven (guestSum linear controls stationId (c.musicPcm.length / 2)
    r.sessions frame))
  voices : InRange (hostSample c frame + roundEven (guestSum linear controls stationId
    (c.musicPcm.length / 2) r.sessions frame))
  mixed : InRange (roundEven (mixedValue m (roundChunk linear controls stationId r c)
    frame channel))
  effect : InRange (roundEven (mixedValue m (roundChunk linear controls stationId r c)
    frame channel) + effectAt c frame)
  remaining : InRange (roundEven (programSample m (roundChunk linear controls stationId r c)
    frame channel - ownSum linear controls stationId r c g frame * micScale c))

variable {linear controls stationId r m c} {g : ℤ} {frame channel : ℕ}

/-- The voices in a frame. -/
lemma sampleAt_voices (h : Unclamped linear controls stationId r m c g frame channel) :
    sampleAt (roundChunk linear controls stationId r c).micPcm (frame * 2) =
      hostSample c frame + roundEven (guestSum linear controls stationId (c.musicPcm.length / 2)
        r.sessions frame) := by
  have hguests := sampleAt_readOnAirPcm r frame h.guests
  have hhost : sampleAt (if c.musicPcm.length / 2 = 0 then [] else c.micPcm) (frame * 2) =
      hostSample c frame := by
    unfold hostSample
    split_ifs
    · exact sampleAt_of_length_lt (by simp)
    · rfl
  have hfit := h.voices
  rw [← hguests, ← hhost] at hfit ⊢
  exact sampleAt_sumMonoPcm _ _ _ hfit

/-- The program in a frame. -/
lemma programSample_eq (h : Unclamped linear controls stationId r m c g frame channel) :
    programSample m (roundChunk linear controls stationId r c) frame channel =
      roundEven (mixedValue m (roundChunk linear controls stationId r c) frame channel) +
        effectAt c frame := by
  have heffect : effectAt (roundChunk linear controls stationId r c) frame = effectAt c frame := rfl
  rw [programSample, clampSample_of_inRange h.mixed, heffect, clampSample_of_inRange]
  · rw [roundEven_intCast]
  · rw [roundEven_intCast]
    exact h.effect

/-- The music, the host and all guests, up to the rounding of two stages. -/
lemma program_error (h : Unclamped linear controls stationId r m c g frame channel) :
    |(programSample m (roundChunk linear controls stationId r c) frame channel : ℚ) -
      (musicValue linear controls stationId r m c frame channel + effectAt c frame +
        (hostSample c frame + (ownSum linear controls stationId r c g frame +
          otherSum linear controls stationId r c g frame)) * micScale c)| ≤
      micScale c / 2 + 1 / 2 := by
  set everyone := guestSum linear controls stationId (c.musicPcm.length / 2) r.sessions frame
    with heveryone
  have hsplit : everyone = ownSum linear controls stationId r c g frame +
      otherSum linear controls stationId r c g frame := guestSum_split r.sessions g frame
  have hscale : micScale (roundChunk linear controls stationId r c) = micScale c := rfl
  have hmixed : mixedValue m (roundChunk linear controls stationId r c) frame channel =
      musicValue linear controls stationId r m c frame channel +
        (hostSample c frame + roundEven everyone) * micScale c := by
    rw [mixedValue, sampleAt_voices h, hscale, musicValue]
    push_cast
    rfl
  have hround := roundEven_error
    (mixedValue m (roundChunk linear controls stationId r c) frame channel)
  have hguests : |((roundEven everyone : ℚ) - everyone) * micScale c| ≤ 1 / 2 * micScale c := by
    have hnonneg : 0 ≤ micScale c := le_max_left _ _
    rw [abs_mul, abs_of_nonneg hnonneg]
    exact mul_le_mul_of_nonneg_right (roundEven_error everyone) hnonneg
  rw [programSample_eq h, ← hsplit]
  rw [abs_le] at hround hguests ⊢
  rw [hmixed] at hround ⊢
  push_cast
  constructor <;> linarith

/-- A program with a frame has been read for. -/
lemma read_of_frame (h : frame < frameCount (roundChunk linear controls stationId r c)) :
    c.musicPcm.length / 2 ≠ 0 := by
  intro hzero
  have hempty : (roundChunk linear controls stationId r c).micPcm = [] := by
    rw [roundChunk, liveChunk, if_pos hzero, readOnAirPcm, if_pos hzero]
    simp [sumMonoPcm]
  rw [frameCount, hempty] at h
  change frame < max (c.musicPcm.length / 4) 0 at h
  omega

/-- What is taken off the program is what the guest has added to it. -/
lemma returnPcm_cases {control : Control} (hcontrol : ofStation controls stationId g = some control)
    (hconnected : control.isConnected = true) (hread : c.musicPcm.length / 2 ≠ 0)
    (program : Bytes) (voiceGain : ℚ) :
    (returnPcm linear program voiceGain control ((readOnAirPcm linear controls stationId
        (c.musicPcm.length / 2) r).1.lastPcm g) = program ∧
      ∀ frame, ownSum linear controls stationId r c g frame = 0) ∨
    ∃ own, returnPcm linear program voiceGain control ((readOnAirPcm linear controls stationId
        (c.musicPcm.length / 2) r).1.lastPcm g) =
          withoutOwn program own (linear control.gainDb * max 0 voiceGain) ∧
      ∀ frame, ownSum linear controls stationId r c g frame =
        sampleAt own (frame * 2) * linear control.gainDb := by
  have hlast : (readOnAirPcm linear controls stationId (c.musicPcm.length / 2) r).1.lastPcm g =
      ((r.sessions.lookup g).map fun session =>
        (readPcm (c.musicPcm.length / 2) session).1).or (r.lastPcm g) := by
    rw [readOnAirPcm, if_neg hread]
    change (chunkOf controls stationId _ r.sessions g).or (r.lastPcm g) = _
    rw [chunkOf, hcontrol]
    rfl
  rw [hlast]
  unfold returnPcm ownSum
  cases hsession : r.sessions.lookup g with
  | none =>
    have hforgotten : r.lastPcm g = none := r.kept g fun hmem => by
      obtain ⟨entry, hentry, rfl⟩ := List.mem_map.mp hmem
      exact bne_iff_ne.mp (List.lookup_eq_none_iff.mp hsession entry hentry) rfl
    refine .inl ⟨?_, fun frame => ?_⟩
    · rw [hforgotten]
      simp
    · rw [filter_eq_nil_of_lookup hsession]
      rfl
  | some session =>
    have hfilter := filter_eq_of_lookup r.nodup hsession
    have hchunk : (readPcm (c.musicPcm.length / 2) session).1 ≠ [] := by
      rw [← List.length_pos_iff_ne_nil, length_readPcm]
      omega
    by_cases hair : (control.isOnAir && !control.isMuted) = true
    · refine .inr ⟨(readPcm (c.musicPcm.length / 2) session).1, ?_, fun frame => ?_⟩
      · simp only [hair, Option.map_some, Option.some_or, Option.getD_some, if_true,
          if_neg hchunk]
      · have honAir : onAir control = true := by
          simp only [Bool.and_eq_true] at hair
          simp [onAir, hconnected, hair.1, hair.2]
        simp [guestSum, hfilter, source, hcontrol, honAir]
    · refine .inl ⟨by simp [hair], fun frame => ?_⟩
      have honAir : onAir control = false := by
        rw [Bool.not_eq_true, Bool.and_eq_false_iff] at hair
        rcases hair with h | h <;> simp [onAir, h]
      simp [guestSum, hfilter, source, hcontrol, honAir]

variable (linear controls stationId r m c) in
/-- **A guest is sent the program without itself.** A round mixes the guests on air, the host and
the music, and pushes to a connected guest, whose control and gain of the microphone are the same in
both, a chunk with a frame for each frame of the program. Where nothing is clamped, a sample of it
is half a step from that of the program without the guest's own part, and it is within the rounding
of three stages the music and effects, the host and the other guests. -/
theorem mix_minus (controls' : Controls) (control : Control) (buffer : GuestReturnBuffer)
    (hcontrol : ofStation controls stationId g = some control)
    (hsame : controls' g = controls g) (hconnected : control.isConnected = true)
    (hbuffer : r.returns g = some buffer) :
    ∃ r' m' program pushed,
      liveMix linear controls stationId r m c = some (r', m', program) ∧
      (publishProgramPcm linear controls' stationId program c.micGain r').returns g =
        some (buffer.push pushed).1 ∧
      pushed.length = program.length ∧
      ∀ frame < program.length / 4, ∀ channel, channel = 0 ∨ channel = 2 →
        Unclamped linear controls stationId r m c g frame channel →
        |(sampleAt pushed (frame * 4 + channel) : ℚ) -
          (sampleAt program (frame * 4 + channel) -
            ownSum linear controls stationId r c g frame * micScale c)| ≤ 1 / 2 ∧
        |(sampleAt pushed (frame * 4 + channel) : ℚ) -
          (musicValue linear controls stationId r m c frame channel + effectAt c frame +
            (hostSample c frame + otherSum linear controls stationId r c g frame) *
              micScale c)| ≤ micScale c / 2 + 1 := by
  set c' := roundChunk linear controls stationId r c
  set r' := (readOnAirPcm linear controls stationId (c.musicPcm.length / 2) r).1
  set program := ((List.range (frameCount c')).map (programFrame m c')).flatten
  have hlength : program.length = frameCount c' * 4 :=
    length_blocks (length_programFrame m c') _
  refine ⟨r', next m c', program, returnPcm linear program c.micGain control (r'.lastPcm g),
    ?_, ?_, length_returnPcm _ _ _ _ _, ?_⟩
  · change (mixPcmChunk m c').bind _ = _
    rw [mixPcmChunk_eq]
    rfl
  · have hbuffer' : r'.returns g = some buffer := by
      rw [← hbuffer]
      change (readOnAirPcm _ _ _ _ r).1.returns g = _
      unfold readOnAirPcm
      split_ifs <;> rfl
    have hcontrol' : ofStation controls' stationId g = some control := by
      rw [ofStation, hsame]
      exact hcontrol
    simp only [publishProgramPcm, hbuffer', hcontrol', Option.map_some, Option.filter_some,
      hconnected, if_true]
  · intro frame hframe channel hchannel h
    have hcount : frame < frameCount c' := by omega
    have hprogram : sampleAt program (frame * 4 + channel) = programSample m c' frame channel :=
      sampleAt_program hcount hchannel
    -- what is pushed is the rounded difference, also where nothing is taken off
    have hpushed : sampleAt (returnPcm linear program c.micGain control (r'.lastPcm g))
        (frame * 4 + channel) = roundEven (programSample m c' frame channel -
          ownSum linear controls stationId r c g frame * micScale c) := by
      have hread : c.musicPcm.length / 2 ≠ 0 := read_of_frame hcount
      rcases returnPcm_cases hcontrol hconnected hread program
          c.micGain with ⟨hreturn, hown⟩ | ⟨own, hreturn, hown⟩
      · rw [hreturn, hprogram, hown, zero_mul, sub_zero, roundEven_intCast]
      · have hgain : (sampleAt own (frame * 2) : ℚ) *
            (linear control.gainDb * max 0 c.micGain) =
              ownSum linear controls stationId r c g frame * micScale c := by
          rw [hown, mul_assoc]
          rfl
        rw [hreturn, sampleAt_withoutOwn (by omega) hchannel] <;> rw [hprogram, hgain]
        exact h.remaining
    have hlast := roundEven_error (programSample m c' frame channel -
      ownSum linear controls stationId r c g frame * micScale c)
    have hmixed := program_error h
    rw [hpushed, hprogram]
    refine ⟨hlast, ?_⟩
    rw [abs_le] at hlast hmixed ⊢
    constructor <;> linarith

end Return

/-! ### Two guests -/

def decibels (db : ℚ) : ℚ := if db = 20 then 10 else 1

def twoControls (id : ℤ) : Option Control :=
  if id = 1 then some ⟨5, true, false, true, 0⟩
  else if id = 2 then some ⟨5, true, false, true, 20⟩
  else none

def twoGuests : Registry :=
  register 2 ⟨[[7, 0]], 2⟩ (register 1 ⟨[[100, 0]], 2⟩ reset)

def oneFrame : Chunk := ⟨[232, 3, 232, 3], [50, 0], none, "normal", 1, 1, 15 / 100⟩

/-- The music of `1000`, the host of `50` and the other guest of `7`, ten times as loud. -/
theorem first_of_two_guests :
    ∃ r' m' program pushed,
      liveMix decibels twoControls 5 twoGuests LiveAudioMixer.start oneFrame =
        some (r', m', program) ∧
      (publishProgramPcm decibels twoControls 5 program 1 r').returns 1 =
        some (fresh.push pushed).1 ∧
      pushed.length = 4 ∧ |(sampleAt pushed 0 : ℚ) - (1000 + 50 + 70)| ≤ 3 / 2 := by
  obtain ⟨r', m', program, pushed, hmix, hpush, hlen, hsample⟩ :=
    mix_minus decibels twoControls 5 twoGuests LiveAudioMixer.start oneFrame (g := 1) twoControls
      ⟨5, true, false, true, 0⟩ fresh rfl rfl rfl rfl
  have hfour : program.length = 4 := by
    have hsome : (liveMix decibels twoControls 5 twoGuests LiveAudioMixer.start oneFrame).map
        (·.2.2.length) = some 4 := by decide +kernel
    rw [hmix] at hsome
    exact Option.some.inj hsome
  refine ⟨r', m', program, pushed, hmix, hpush, hlen.trans hfour, ?_⟩
  have hfit : Unclamped decibels twoControls 5 twoGuests LiveAudioMixer.start oneFrame 1 0 0 :=
    ⟨by decide +kernel, by decide +kernel, by decide +kernel, by decide +kernel,
      by decide +kernel⟩
  have hothers := (hsample 0 (by omega) 0 (.inl rfl) hfit).2
  have hvalue : musicValue decibels twoControls 5 twoGuests LiveAudioMixer.start oneFrame 0 0 +
      effectAt oneFrame 0 + (hostSample oneFrame 0 +
        otherSum decibels twoControls 5 twoGuests oneFrame 1 0) * micScale oneFrame =
          1000 + 50 + 70 := by decide +kernel
  rw [hvalue] at hothers
  exact hothers.trans (by decide +kernel)

end OnAir.MixMinus
