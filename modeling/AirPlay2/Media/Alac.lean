import AirPlay2.Jitter.Buffer
import AirPlay2.Lib.Text

/- The ALAC side of the media path (`alac_config.cpp`, `audio_pipeline.cpp`,
   `alac_audio_pipeline.cpp`, `alac_rtp.cpp`). Decoders and sinks are interfaces:
   any state with the operations of `AlacDecoder` and `AudioSink`, whose answers may
   depend on it. -/
namespace AirPlay2
open Lib

structure AlacConfig where
  frameLength : UInt32 := 0
  compatibleVersion : UInt8 := 0
  pb : UInt8 := 0
  mb : UInt8 := 0
  kb : UInt8 := 0
  numChannels : UInt8 := 0
  maxRun : UInt16 := 0
  maxFrameBytes : UInt32 := 0
  avgBitRate : UInt32 := 0
  sampleRate : UInt32 := 0
  bitDepth : UInt16 := 0
  codecData : Bytes := []
  deriving DecidableEq

namespace AlacConfig

def valid (c : AlacConfig) : Bool :=
  c.frameLength != 0 && c.numChannels != 0 && c.sampleRate != 0 && c.bitDepth != 0

end AlacConfig

/-! ## The format parameters of an SDP -/

def parseUint (value : Bytes) : Option ℕ :=
  let cleaned := trim value
  match stoul 0 cleaned with
  | none => none
  | some (n, consumed) => if consumed ≠ cleaned.length ∨ 0xffffffff < n then none else some n

/-- One `key=value` token; `none` where the parser gives up. -/
def parseFmtpToken (cfg : AlacConfig) (token : Bytes) : Option AlacConfig :=
  match find token [61] 0 with
  | none => some cfg
  | some eq =>
    let key := trim (token.take eq)
    match parseUint (trim (token.drop (eq + 1))) with
    | none => some cfg
    | some number =>
      if key = ascii "sampleRate" ∨ key = ascii "sample_rate" ∨ key = ascii "sample-rate" then
        some { cfg with sampleRate := UInt32.ofNat number }
      else if key = ascii "channels" then
        if 255 < number then none else some { cfg with numChannels := UInt8.ofNat number }
      else if key = ascii "bitDepth" ∨ key = ascii "bit_depth" ∨ key = ascii "bit-depth" then
        if 65535 < number then none else some { cfg with bitDepth := UInt16.ofNat number }
      else if key = ascii "frameLength" ∨ key = ascii "frame_length" ∨ key = ascii "frame-length" then
        some { cfg with frameLength := UInt32.ofNat number }
      else some cfg

/-- `parse_alac_fmtp` into a fresh config; `none` where it returns `false`. -/
def parseAlacFmtp (fmtp : Bytes) : Option AlacConfig :=
  match (getlines 59 fmtp).foldlM parseFmtpToken {} with
  | none => none
  | some cfg => if cfg.valid then some cfg else none

/-! ## The pipeline -/

structure PcmFormat where
  sampleRate : UInt32 := 44100
  channels : UInt16 := 2
  bitsPerSample : UInt16 := 16
  deriving DecidableEq

structure PcmAudioFrame where
  sampleRate : UInt32 := 0
  channels : UInt16 := 0
  bitsPerSample : UInt16 := 0
  frames : UInt32 := 0
  samples : List Int16 := []
  deriving DecidableEq

class AlacDecoder (δ : Type*) where
  configure : δ → AlacConfig → Bool × δ
  decode : δ → Bytes → Option PcmAudioFrame × δ
  reset : δ → δ

class AudioSink (κ : Type*) where
  openSink : κ → PcmFormat → Bool × κ
  closeSink : κ → κ
  write : κ → List Int16 → ℕ → Bool × κ

/-- `AudioPipeline`; `none` is a null pointer. -/
structure AudioPipeline (δ κ : Type*) where
  decoder : Option δ
  sink : Option κ
  format : PcmFormat := {}
  opened : Bool := false
  deriving DecidableEq

namespace AudioPipeline

variable {δ κ : Type*} [AlacDecoder δ] [AudioSink κ]

def reset (p : AudioPipeline δ κ) : AudioPipeline δ κ :=
  { p with
    sink := if p.opened then p.sink.map AudioSink.closeSink else p.sink
    decoder := p.decoder.map AlacDecoder.reset
    opened := false }

/-- The check `configure` makes before it touches anything. -/
def takes (p : AudioPipeline δ κ) (config : AlacConfig) : Bool :=
  p.decoder.isSome && p.sink.isSome && config.valid && config.numChannels != 0 &&
    config.sampleRate != 0 && config.bitDepth == 16

def configure (p : AudioPipeline δ κ) (config : AlacConfig) : Bool × AudioPipeline δ κ :=
  if !p.takes config then (false, p)
  else
    let p := p.reset
    match p.decoder, p.sink with
    | some decoder, some sink =>
      let (ok, decoder) := AlacDecoder.configure decoder config
      let p := { p with decoder := some decoder }
      if !ok then (false, p)
      else
        let format : PcmFormat :=
          { sampleRate := config.sampleRate
            channels := config.numChannels.toUInt16
            bitsPerSample := config.bitDepth }
        let (ok, sink) := AudioSink.openSink sink format
        let p := { p with sink := some sink }
        if !ok then (false, { p with decoder := some (AlacDecoder.reset decoder) })
        else (true, { p with format := format, opened := true })
    | _, _ => (false, p)

def push (p : AudioPipeline δ κ) (packet : Bytes) : Bool × AudioPipeline δ κ :=
  match p.decoder, p.sink with
  | some decoder, some sink =>
    if !p.opened || packet.isEmpty then (false, p)
    else
      let (pcm, decoder) := AlacDecoder.decode decoder packet
      let p := { p with decoder := some decoder }
      match pcm with
      | none => (false, p)
      | some pcm =>
        if pcm.channels ≠ p.format.channels ∨ pcm.sampleRate ≠ p.format.sampleRate ∨
            pcm.bitsPerSample ≠ p.format.bitsPerSample ∨ pcm.frames = 0 then (false, p)
        else if pcm.samples.length ≠ pcm.frames.toNat * p.format.channels.toNat then (false, p)
        else
          let (ok, sink) := AudioSink.write sink pcm.samples pcm.frames.toNat
          (ok, { p with sink := some sink })
  | _, _ => (false, p)

end AudioPipeline

/-- `AlacAudioPipeline`, whose `pipeline_` its constructor always sets. -/
structure AlacAudioPipeline (δ κ : Type*) where
  pipeline : AudioPipeline δ κ
  deriving DecidableEq

namespace AlacAudioPipeline

variable {δ κ : Type*} [AlacDecoder δ] [AudioSink κ]

def new (decoder : Option δ) (sink : Option κ) : AlacAudioPipeline δ κ :=
  ⟨{ decoder := decoder, sink := sink }⟩

def configured (p : AlacAudioPipeline δ κ) : Bool := p.pipeline.opened

def configure (p : AlacAudioPipeline δ κ) (config : AlacConfig) : Bool × AlacAudioPipeline δ κ :=
  ((p.pipeline.configure config).1, ⟨(p.pipeline.configure config).2⟩)

/-- `AlacRtpPayload::extract` hands on the payload, and refuses an empty one. -/
def push (p : AlacAudioPipeline δ κ) (packet : RtpPacket) : Bool × AlacAudioPipeline δ κ :=
  if packet.payload.isEmpty then (false, p)
  else ((p.pipeline.push packet.payload).1, ⟨(p.pipeline.push packet.payload).2⟩)

def reset (p : AlacAudioPipeline δ κ) : AlacAudioPipeline δ κ := ⟨p.pipeline.reset⟩

/-- A refused configuration leaves the pipeline closed, unless it was refused before
    anything was touched. -/
theorem configured_of_refused {p : AlacAudioPipeline δ κ} {c : AlacConfig}
    (h : (p.configure c).1 = false) :
    (p.configure c).2.configured = (p.configured && !p.pipeline.takes c) := by
  simp only [configure, AudioPipeline.configure, configured] at h ⊢
  split
  · rename_i ht
    simp [ht]
  · rename_i ht
    rw [if_neg ht] at h
    have ht : p.pipeline.takes c = true := by simpa using ht
    simp only [ht, Bool.not_true, Bool.and_false]
    split
    · rename_i decoder sink hd hs
      simp only [hd, hs] at h
      split
      · rfl
      · rename_i hok
        rw [if_neg hok] at h
        split
        · rfl
        · rename_i hopen
          rw [if_neg hopen] at h
          exact absurd h (by simp)
    · rfl

/-- An accepted configuration opens the pipeline with the format it asks for. -/
theorem configured_of_accepted {p : AlacAudioPipeline δ κ} {c : AlacConfig}
    (h : (p.configure c).1 = true) :
    (p.configure c).2.configured = true ∧
      (p.configure c).2.pipeline.format =
        { sampleRate := c.sampleRate
          channels := c.numChannels.toUInt16
          bitsPerSample := c.bitDepth } := by
  simp only [configure, AudioPipeline.configure, configured] at h ⊢
  split
  · rename_i ht
    rw [if_pos ht] at h
    cases h
  · rename_i ht
    rw [if_neg ht] at h
    split
    · rename_i decoder sink hd hs
      simp only [hd, hs] at h
      split
      · rename_i hno
        rw [if_pos hno] at h
        cases h
      · rename_i hok
        rw [if_neg hok] at h
        split
        · rename_i hno
          rw [if_pos hno] at h
          cases h
        · exact ⟨rfl, rfl⟩
    · rename_i hnone
      split at h
      · rename_i decoder sink hd hs
        exact absurd hs (hnone decoder sink hd)
      · cases h

end AlacAudioPipeline

/-! ## The decoder and the sink that do nothing -/

structure NullAlacDecoder where
  config : AlacConfig := {}
  configured : Bool := false
  deriving DecidableEq

instance : AlacDecoder NullAlacDecoder where
  configure d config :=
    if !config.valid then (false, d) else (true, { config := config, configured := true })
  decode d _ := (none, d)
  reset _ := {}

structure NullAudioSink where
  format : PcmFormat := {}
  opened : Bool := false
  deriving DecidableEq

instance : AudioSink NullAudioSink where
  openSink _ format := (true, { format := format, opened := true })
  closeSink k := { k with opened := false }
  write k _ _ := (k.opened, k)

end AirPlay2
