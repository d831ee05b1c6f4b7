import OnAir.PcmSamples
import OnAir.PythonText
import OnAir.Runs

/-!
`LiveAudioMixer`: the music of a station, in stereo, under a microphone and its effects.

In the normal mode the music is lowered while somebody speaks. The factor by which it is lowered
rises with every loud chunk, is held for a second after the last one, and then falls. Gains are
rational numbers.
-/

namespace OnAir.LiveAudioMixer

open PcmSamples PythonText Runs

def voiceThreshold : ℤ := 2000

def attackRate : ℚ := 35 / 100

def releaseRate : ℚ := 6 / 100

def holdChunks : ℤ := 47

structure Mixer where
  autoDuckFactor : ℚ
  holdRemaining : ℤ
  deriving DecidableEq, Repr

def start : Mixer := ⟨0, 0⟩

inductive Mode
  | duck
  | mute
  | normal
  deriving DecidableEq, Repr

/-- The arguments of `mix_pcm_chunk`. -/
structure Chunk where
  musicPcm : Bytes
  micPcm : Bytes
  effectPcm : Option Bytes
  programMusicMode : String
  micGain : ℚ
  musicGain : ℚ
  duckLevel : ℚ
  deriving DecidableEq, Repr

/-- `_clamp_sample`. -/
def clampSample (value : ℚ) : ℤ :=
  let rounded := roundEven value
  if rounded > maxSample then maxSample
  else if rounded < minSample then minSample
  else rounded

/-- `_normalize_mode`. -/
def normalizeMode (programMusicMode : String) : Mode :=
  let token := lower (trim programMusicMode)
  if token = "duck" then .duck
  else if token = "mute" then .mute
  else .normal

/-- `_mic_peak`: a byte without a second one is left out. -/
def micPeak : Bytes → ℤ
  | low :: high :: rest => max |ofBytes low high| (micPeak rest)
  | _ => 0

section Scales

variable (m : Mixer) (c : Chunk)

def micScale : ℚ := max 0 c.micGain

def baseMusicScale : ℚ := max 0 c.musicGain

def duckScale : ℚ := max 0 (min 1 c.duckLevel)

/-- What the voice does to the factor. -/
def autoDuck : Mixer :=
  if voiceThreshold < micPeak c.micPcm then
    ⟨min 1 (m.autoDuckFactor + attackRate), holdChunks⟩
  else if 0 < m.holdRemaining then { m with holdRemaining := m.holdRemaining - 1 }
  else { m with autoDuckFactor := max 0 (m.autoDuckFactor - releaseRate) }

/-- The mixer after a chunk. -/
def next : Mixer :=
  match normalizeMode c.programMusicMode with
  | .normal => autoDuck m c
  | .duck | .mute => m

def effectiveMusicScale : ℚ :=
  match normalizeMode c.programMusicMode with
  | .normal => baseMusicScale c * (1 - (autoDuck m c).autoDuckFactor * (1 - duckScale c))
  | .duck => baseMusicScale c * duckScale c
  | .mute => 0

end Scales

section Frames

variable (c : Chunk)

def frameCount : ℕ := max (c.musicPcm.length / 4) (c.micPcm.length / 2)

/-- The bytes of a frame, the left sample first. -/
def frameBytes (left right : ℤ) : Option Bytes := do
  return (← toBytes left) ++ (← toBytes right)

def mixFrame (musicScale : ℚ) (index : ℕ) : Option Bytes :=
  let musicLeft := sampleAt c.musicPcm (index * 4)
  let musicRight := sampleAt c.musicPcm (index * 4 + 2)
  let mic := sampleAt c.micPcm (index * 2)
  frameBytes (clampSample (musicLeft * musicScale + mic * micScale c))
    (clampSample (musicRight * musicScale + mic * micScale c))

/-- An effect on a frame that was mixed. -/
def addEffect (effectPcm frame : Bytes) (index : ℕ) : Option Bytes :=
  let effect := sampleAt effectPcm (index * 2)
  if effect = 0 then some frame
  else frameBytes (clampSample (sampleAt frame 0 + effect : ℤ))
    (clampSample (sampleAt frame 2 + effect : ℤ))

def outputFrame (musicScale : ℚ) (index : ℕ) : Option Bytes := do
  let frame ← mixFrame c musicScale index
  match c.effectPcm with
  | none => return frame
  | some effectPcm => addEffect effectPcm frame index

end Frames

/-- `mix_pcm_chunk`; `none` where a conversion raises. Both passes over the output are made frame
by frame. -/
def mixPcmChunk (m : Mixer) (c : Chunk) : Option (Mixer × Bytes) := do
  let frames ← (List.range (frameCount c)).mapM (outputFrame c (effectiveMusicScale m c))
  return (next m c, frames.flatten)

/-! ### The output -/

lemma inRange_clampSample (value : ℚ) : InRange (clampSample value) := by
  unfold InRange clampSample
  dsimp only
  split_ifs <;> simp only [minSample, maxSample] at * <;> omega

lemma frameBytes_clampSample (left right : ℚ) :
    ∃ frame, frameBytes (clampSample left) (clampSample right) = some frame ∧
      frame.length = 4 := by
  obtain ⟨l, hl, hlen⟩ := toBytes_of_inRange (inRange_clampSample left)
  obtain ⟨r, hr, hlen'⟩ := toBytes_of_inRange (inRange_clampSample right)
  refine ⟨l ++ r, ?_, by rw [List.length_append, hlen, hlen']⟩
  rw [frameBytes, hl, hr]
  rfl

lemma outputFrame_ok (c : Chunk) (musicScale : ℚ) (index : ℕ) :
    ∃ frame, outputFrame c musicScale index = some frame ∧ frame.length = 4 := by
  obtain ⟨mixed, hmixed, hlen⟩ : ∃ frame, mixFrame c musicScale index = some frame ∧
      frame.length = 4 := frameBytes_clampSample _ _
  unfold outputFrame
  rw [hmixed, Option.bind_eq_bind, Option.bind_some]
  cases c.effectPcm with
  | none => exact ⟨mixed, rfl, hlen⟩
  | some effectPcm =>
    dsimp only
    unfold addEffect
    dsimp only
    split_ifs
    · exact ⟨mixed, rfl, hlen⟩
    · exact frameBytes_clampSample _ _

/-- A loop whose rounds all return frames of four bytes. -/
lemma mapM_frames {f : ℕ → Option Bytes} (hf : ∀ i, ∃ frame, f i = some frame ∧ frame.length = 4)
    (indices : List ℕ) :
    ∃ frames, indices.mapM f = some frames ∧ frames.flatten.length = 4 * indices.length := by
  induction indices with
  | nil => exact ⟨[], rfl, rfl⟩
  | cons i indices ih =>
    obtain ⟨frame, hframe, hlen⟩ := hf i
    obtain ⟨frames, hframes, hlen'⟩ := ih
    refine ⟨frame :: frames, ?_, ?_⟩
    · rw [List.mapM_cons, hframe, hframes]
      rfl
    · rw [List.flatten_cons, List.length_append, hlen, hlen', List.length_cons]
      omega

lemma mixPcmChunk_ok (m : Mixer) (c : Chunk) :
    ∃ output, mixPcmChunk m c = some (next m c, output) ∧ output.length = 4 * frameCount c := by
  obtain ⟨frames, hframes, hlen⟩ :=
    mapM_frames (outputFrame_ok c (effectiveMusicScale m c)) (List.range (frameCount c))
  refine ⟨frames.flatten, ?_, by rw [hlen, List.length_range]⟩
  rw [mixPcmChunk, hframes]
  rfl

/-! ### The scales -/

section Scales

variable {m : Mixer}

/-- The factor is one. -/
def FactorOk (m : Mixer) : Prop := 0 ≤ m.autoDuckFactor ∧ m.autoDuckFactor ≤ 1

lemma factorOk_autoDuck (h : FactorOk m) (c : Chunk) : FactorOk (autoDuck m c) := by
  obtain ⟨hlow, hhigh⟩ := h
  unfold autoDuck
  split_ifs
  · have hsum : 0 ≤ m.autoDuckFactor + attackRate := add_nonneg hlow (by norm_num [attackRate])
    exact ⟨le_min zero_le_one hsum, min_le_left _ _⟩
  · exact ⟨hlow, hhigh⟩
  · have hrate : 0 ≤ releaseRate := by norm_num [releaseRate]
    exact ⟨le_max_left _ _, max_le zero_le_one ((sub_le_self _ hrate).trans hhigh)⟩

lemma factorOk_next (h : FactorOk m) (c : Chunk) : FactorOk (next m c) := by
  unfold next
  split
  · exact factorOk_autoDuck h c
  · exact h
  · exact h

lemma duckScale_mem (c : Chunk) : 0 ≤ duckScale c ∧ duckScale c ≤ 1 :=
  ⟨le_max_left _ _, max_le zero_le_one (min_le_left _ _)⟩

/-- A base that is scaled by a number between `0` and `1`. -/
lemma mul_mem {base x : ℚ} (hbase : 0 ≤ base) (h : 0 ≤ x ∧ x ≤ 1) :
    0 ≤ base * x ∧ base * x ≤ base :=
  ⟨mul_nonneg hbase h.1, mul_le_of_le_one_right hbase h.2⟩

lemma effectiveMusicScale_mem (h : FactorOk m) (c : Chunk) :
    0 ≤ effectiveMusicScale m c ∧ effectiveMusicScale m c ≤ baseMusicScale c := by
  have hbase : 0 ≤ baseMusicScale c := le_max_left _ _
  obtain ⟨hduck, hduck'⟩ := duckScale_mem c
  unfold effectiveMusicScale
  split
  · obtain ⟨hlow, hhigh⟩ := factorOk_autoDuck h c
    have hrest : 0 ≤ 1 - duckScale c ∧ 1 - duckScale c ≤ 1 :=
      ⟨sub_nonneg.mpr hduck', sub_le_self _ hduck⟩
    have hlowered := mul_mem hlow hrest
    exact mul_mem hbase
      ⟨sub_nonneg.mpr (hlowered.2.trans hhigh), sub_le_self _ hlowered.1⟩
  · exact mul_mem hbase ⟨hduck, hduck'⟩
  · exact ⟨le_refl _, hbase⟩

end Scales

/-! ### Runs -/

def step (m : Mixer) (c : Chunk) : Option Mixer := (mixPcmChunk m c).map Prod.fst

lemma step_eq (m : Mixer) (c : Chunk) : step m c = some (next m c) := by
  obtain ⟨output, h, -⟩ := mixPcmChunk_ok m c
  simp only [step, h, Option.map_some]

/-- **Valid output.** However many chunks were mixed before, the next one is mixed without a
conversion that raises: the output has the bytes of the longer input, the factor of the mixer stays
between `0` and `1`, and the music is scaled by no more than its gain. -/
theorem output_valid (chunks : List Chunk) (c : Chunk) :
    ∃ m, exec step start chunks = some m ∧
      ∃ output, mixPcmChunk m c = some (next m c, output) ∧
        output.length = 4 * max (c.musicPcm.length / 4) (c.micPcm.length / 2) ∧
        FactorOk (next m c) ∧
        0 ≤ effectiveMusicScale m c ∧ effectiveMusicScale m c ≤ baseMusicScale c := by
  have hrun : ∀ (chunks : List Chunk) (m : Mixer), FactorOk m →
      ∃ m', exec step m chunks = some m' ∧ FactorOk m' := by
    intro chunks
    induction chunks with
    | nil => exact fun m h => ⟨m, rfl, h⟩
    | cons d chunks ih =>
      intro m h
      rw [exec_cons, step_eq, Option.bind_some]
      exact ih _ (factorOk_next h d)
  obtain ⟨m, hm, hfactor⟩ := hrun chunks start ⟨le_refl _, zero_le_one⟩
  obtain ⟨output, houtput, hlen⟩ := mixPcmChunk_ok m c
  exact ⟨m, hm, output, houtput, hlen, factorOk_next hfactor c,
    effectiveMusicScale_mem hfactor c⟩

end OnAir.LiveAudioMixer
