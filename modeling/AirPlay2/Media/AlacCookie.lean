import AirPlay2.Lib.BigEndian
import AirPlay2.Lib.Runs
import AirPlay2.Media.Fmtp

/- The ALAC magic cookie (`alac_config.cpp`, `alac_decoder.cpp`). The writer puts the bit
   depth at byte 5; the reader has no bit depth and takes byte 5 for `pb`, and everything
   behind it one byte early. So they agree on the configurations that have nothing
   there (`parseAlacConfig_makeCookie_iff`), and the decoder, which is given the cookie a
   configuration was read from, need not be set up for the configuration itself
   (`decoder_coherent_iff`). -/
namespace AirPlay2
open Lib

/-! ## Reader and writer -/

def byteAt (data : Bytes) (p : ℕ) : UInt8 := data.getD p 0

def be32 (data : Bytes) (p : ℕ) : UInt32 :=
  (byteAt data p).toUInt32 <<< 24 ||| (byteAt data (p + 1)).toUInt32 <<< 16 |||
    (byteAt data (p + 2)).toUInt32 <<< 8 ||| (byteAt data (p + 3)).toUInt32

def be16 (data : Bytes) (p : ℕ) : UInt16 :=
  (byteAt data p).toUInt16 <<< 8 ||| (byteAt data (p + 1)).toUInt16

/-- `parse_alac_config`; `none` where it returns `false`. -/
def parseAlacConfig (data : Bytes) : Option AlacConfig :=
  if data.length < 24 then none
  else some
    { frameLength := be32 data 0
      compatibleVersion := byteAt data 4
      pb := byteAt data 5
      mb := byteAt data 6
      kb := byteAt data 7
      numChannels := byteAt data 8
      maxRun := be16 data 9
      maxFrameBytes := be32 data 11
      avgBitRate := be32 data 15
      sampleRate := be32 data 19
      codecData := data.take 24 }

def put32 (p : ℕ) (v : UInt32) (cookie : Bytes) : Bytes :=
  (((cookie.set p (v >>> 24).toUInt8).set (p + 1) (v >>> 16).toUInt8).set (p + 2)
    (v >>> 8).toUInt8).set (p + 3) v.toUInt8

def put16 (p : ℕ) (v : UInt16) (cookie : Bytes) : Bytes :=
  (cookie.set p (v >>> 8).toUInt8).set (p + 1) v.toUInt8

def makeCookie (c : AlacConfig) : Bytes :=
  if c.codecData ≠ [] then c.codecData
  else
    let cookie := List.replicate 24 0
    let cookie := put32 0 c.frameLength cookie
    let cookie := cookie.set 4 c.compatibleVersion
    let cookie := cookie.set 5 c.bitDepth.toUInt8
    let cookie := cookie.set 6 c.pb
    let cookie := cookie.set 7 c.mb
    let cookie := cookie.set 8 c.kb
    let cookie := cookie.set 9 c.numChannels
    let cookie := put16 10 c.maxRun cookie
    let cookie := put32 12 c.maxFrameBytes cookie
    let cookie := put32 16 c.avgBitRate cookie
    put32 20 c.sampleRate cookie

/-- A written cookie is the bytes of the fields, one after the other. -/
theorem makeCookie_bytes {c : AlacConfig} (h : c.codecData = []) :
    ∃ f₀ f₁ f₂ f₃ r₀ r₁ m₀ m₁ m₂ m₃ a₀ a₁ a₂ a₃ s₀ s₁ s₂ s₃ : UInt8,
      makeCookie c = [f₀, f₁, f₂, f₃, c.compatibleVersion, c.bitDepth.toUInt8, c.pb, c.mb, c.kb,
        c.numChannels, r₀, r₁, m₀, m₁, m₂, m₃, a₀, a₁, a₂, a₃, s₀, s₁, s₂, s₃] ∧
      f₀.toUInt32 <<< 24 ||| f₁.toUInt32 <<< 16 ||| f₂.toUInt32 <<< 8 ||| f₃.toUInt32 =
        c.frameLength ∧
      r₀.toUInt16 <<< 8 ||| r₁.toUInt16 = c.maxRun ∧
      m₀.toUInt32 <<< 24 ||| m₁.toUInt32 <<< 16 ||| m₂.toUInt32 <<< 8 ||| m₃.toUInt32 =
        c.maxFrameBytes ∧
      a₀.toUInt32 <<< 24 ||| a₁.toUInt32 <<< 16 ||| a₂.toUInt32 <<< 8 ||| a₃.toUInt32 =
        c.avgBitRate ∧
      s₀.toUInt32 <<< 24 ||| s₁.toUInt32 <<< 16 ||| s₂.toUInt32 <<< 8 ||| s₃.toUInt32 =
        c.sampleRate := by
  obtain ⟨f₀, f₁, f₂, f₃, hframe, hf⟩ := word32_of_bytes c.frameLength
  obtain ⟨r₀, r₁, hrun, -, hr⟩ := word16_of_bytes c.maxRun
  obtain ⟨m₀, m₁, m₂, m₃, hmax, hm⟩ := word32_of_bytes c.maxFrameBytes
  obtain ⟨a₀, a₁, a₂, a₃, havg, ha⟩ := word32_of_bytes c.avgBitRate
  obtain ⟨s₀, s₁, s₂, s₃, hrate, hs⟩ := word32_of_bytes c.sampleRate
  refine ⟨f₀, f₁, f₂, f₃, r₀, r₁, m₀, m₁, m₂, m₃, a₀, a₁, a₂, a₃, s₀, s₁, s₂, s₃, ?_,
    hf, hr, hm, ha, hs⟩
  rw [← bytes32_eq] at hframe hmax havg hrate
  rw [← bytes16_eq] at hrun
  simp only [List.cons.injEq, and_true] at hframe hrun hmax havg hrate
  simp only [makeCookie, h, ne_eq, not_true_eq_false, if_false, put32, put16, List.replicate_succ,
    List.replicate_zero, Nat.reduceAdd, List.set_cons_succ, List.set_cons_zero, hframe, hrun, hmax,
    havg, hrate]

/-- What the reader makes of a written cookie. -/
theorem parseAlacConfig_bytes (f₀ f₁ f₂ f₃ version depth pb mb kb channels r₀ r₁ m₀ m₁ m₂ m₃ a₀ a₁ a₂
    a₃ s₀ s₁ s₂ s₃ : UInt8) :
    parseAlacConfig [f₀, f₁, f₂, f₃, version, depth, pb, mb, kb, channels, r₀, r₁, m₀, m₁, m₂, m₃,
        a₀, a₁, a₂, a₃, s₀, s₁, s₂, s₃] = some
      { frameLength := f₀.toUInt32 <<< 24 ||| f₁.toUInt32 <<< 16 ||| f₂.toUInt32 <<< 8 ||| f₃.toUInt32
        compatibleVersion := version
        pb := depth
        mb := pb
        kb := mb
        numChannels := kb
        maxRun := channels.toUInt16 <<< 8 ||| r₀.toUInt16
        maxFrameBytes :=
          r₁.toUInt32 <<< 24 ||| m₀.toUInt32 <<< 16 ||| m₁.toUInt32 <<< 8 ||| m₂.toUInt32
        avgBitRate := m₃.toUInt32 <<< 24 ||| a₀.toUInt32 <<< 16 ||| a₁.toUInt32 <<< 8 ||| a₂.toUInt32
        sampleRate := a₃.toUInt32 <<< 24 ||| s₀.toUInt32 <<< 16 ||| s₁.toUInt32 <<< 8 ||| s₂.toUInt32
        codecData := [f₀, f₁, f₂, f₃, version, depth, pb, mb, kb, channels, r₀, r₁, m₀, m₁, m₂, m₃,
          a₀, a₁, a₂, a₃, s₀, s₁, s₂, s₃] } := rfl

/-- **Where reader and writer agree.** The reader gives back the configuration exactly
    where it has nothing but a frame length and a version: everything else is read from
    one byte before, and so is zero with the bit depth that is never read. -/
theorem parseAlacConfig_makeCookie_iff (c : AlacConfig) (hdata : c.codecData = []) :
    parseAlacConfig (makeCookie c) = some { c with codecData := makeCookie c } ↔
      c.bitDepth = 0 ∧ c.pb = 0 ∧ c.mb = 0 ∧ c.kb = 0 ∧ c.numChannels = 0 ∧ c.maxRun = 0 ∧
        c.maxFrameBytes = 0 ∧ c.avgBitRate = 0 ∧ c.sampleRate = 0 := by
  obtain ⟨f₀, f₁, f₂, f₃, r₀, r₁, m₀, m₁, m₂, m₃, a₀, a₁, a₂, a₃, s₀, s₁, s₂, s₃, hcookie, hf, hr,
    hm, ha, hs⟩ := makeCookie_bytes hdata
  rw [hcookie, parseAlacConfig_bytes]
  clear hcookie hdata
  obtain ⟨frameLength, version, pb, mb, kb, channels, maxRun, maxFrameBytes, avgBitRate, sampleRate,
    bitDepth, codecData⟩ := c
  simp only at hf hr hm ha hs ⊢
  subst hf hr hm ha hs
  -- Field by field, each byte equals the one before it.
  simp only [Option.some.injEq, AlacConfig.mk.injEq, word16_inj, word32_inj, word16_eq_zero,
    word32_eq_zero]
  refine ⟨?_, ?_⟩
  · intro h
    obtain ⟨-, -, rfl, rfl, rfl, rfl, ⟨rfl, rfl⟩, ⟨rfl, rfl, rfl, rfl⟩, ⟨rfl, rfl, rfl, rfl⟩,
      ⟨rfl, rfl, rfl, rfl⟩, rfl, -⟩ := h
    decide
  · intro h
    obtain ⟨rfl, rfl, rfl, rfl, rfl, ⟨rfl, rfl⟩, ⟨rfl, rfl, rfl, rfl⟩, ⟨rfl, rfl, rfl, rfl⟩,
      rfl, rfl, rfl, rfl⟩ := h
    simp

/-- A configuration with nothing but a frame length is read back. -/
theorem parseAlacConfig_makeCookie_bare :
    parseAlacConfig (makeCookie { frameLength := 352 }) =
      some { frameLength := 352, codecData := makeCookie { frameLength := 352 } } :=
  (parseAlacConfig_makeCookie_iff { frameLength := 352 } rfl).mpr (by decide)

/-- What a sender of CD audio asks for. -/
def stereoConfig : AlacConfig :=
  { frameLength := 352, numChannels := 2, sampleRate := 44100, bitDepth := 16 }

/-- Its cookie is not read back: the bit depth comes out as `pb`. -/
theorem stereoConfig_misread :
    stereoConfig.codecData = [] ∧ stereoConfig.bitDepth.toNat ≤ 255 ∧
      parseAlacConfig (makeCookie stereoConfig) ≠
        some { stereoConfig with codecData := makeCookie stereoConfig } := by
  refine ⟨rfl, by decide, ?_⟩
  intro h
  have hpb := congrArg (Option.map AlacConfig.pb) h
  revert hpb
  decide

/-! ## The decoder

The ALAC library is not part of the source: `AlacLibrary` is any state with its two
calls, of which the decoder uses what they return. -/

/-- What a call of the library's `Decode` gives back. -/
structure AlacDecoded (l : Type*) where
  ok : Bool
  decoded : UInt32
  buffer : List Int16
  library : l

/-- `ALACDecoder`: a new one, `Init` on a cookie and its size, and `Decode` of a packet
    into a buffer, for a number of frames and channels. -/
class AlacLibrary (l : Type*) where
  fresh : l
  init : l → Bytes → UInt32 → Bool × l
  decode : l → Bytes → List Int16 → UInt32 → UInt8 → AlacDecoded l

structure SoftwareAlacDecoder (l : Type*) where
  decoder : l
  config : AlacConfig := {}
  configured : Bool := false

namespace SoftwareAlacDecoder

variable {l : Type*} [AlacLibrary l]

def new : SoftwareAlacDecoder l := { decoder := AlacLibrary.fresh }

/-- The check `configure` makes before it turns to the library. -/
def takes (config : AlacConfig) : Bool :=
  config.valid && config.bitDepth == 16 && config.numChannels != 0 && config.numChannels ≤ 8 &&
    config.frameLength != 0 && config.frameLength ≤ 0x100000

theorem takes_bitDepth {config : AlacConfig} (h : takes config = true) : config.bitDepth = 16 := by
  simp only [takes, Bool.and_eq_true, beq_iff_eq] at h
  exact h.1.1.1.1.2

def configure (d : SoftwareAlacDecoder l) (config : AlacConfig) : Bool × SoftwareAlacDecoder l :=
  if !takes config then (false, d)
  else
    let cookie := makeCookie config
    if cookie.length < 24 then (false, d)
    else
      let (ok, decoder) := AlacLibrary.init d.decoder cookie (UInt32.ofNat cookie.length)
      if !ok then (false, { d with decoder := decoder })
      else (true, { decoder := decoder, config := config, configured := true })

def decode (d : SoftwareAlacDecoder l) (packet : Bytes) : Option PcmAudioFrame × SoftwareAlacDecoder l :=
  if !d.configured || packet.isEmpty then (none, d)
  else if 0xffffffff < packet.length then (none, d)
  else
    -- 32 bits by 8 bits: the capacity in bytes is far below `SIZE_MAX`
    let capacity := d.config.frameLength.toNat * d.config.numChannels.toNat
    let r := AlacLibrary.decode d.decoder packet (List.replicate capacity 0) d.config.frameLength
      d.config.numChannels
    let d := { d with decoder := r.library }
    if !r.ok || r.decoded == 0 then (none, d)
    else
      let size := r.decoded.toNat * d.config.numChannels.toNat
      (some
        { sampleRate := d.config.sampleRate
          channels := d.config.numChannels.toUInt16
          bitsPerSample := 16
          frames := r.decoded
          samples := r.buffer.take size ++ List.replicate (size - r.buffer.length) 0 }, d)

def reset (_ : SoftwareAlacDecoder l) : SoftwareAlacDecoder l := new

instance alacDecoder : AlacDecoder (SoftwareAlacDecoder l) where
  configure := configure
  decode := decode
  reset := reset

/-- Decoding leaves the configuration, and labels what it returns with it. -/
theorem decode_config (d : SoftwareAlacDecoder l) (packet : Bytes) :
    (d.decode packet).2.config = d.config := by
  unfold decode
  dsimp only
  split_ifs
  · rfl
  · rfl
  · rfl
  · rfl

theorem decode_labels {d : SoftwareAlacDecoder l} {packet : Bytes} {pcm : PcmAudioFrame}
    (h : (d.decode packet).1 = some pcm) :
    pcm.sampleRate = d.config.sampleRate ∧ pcm.channels = d.config.numChannels.toUInt16 ∧
      pcm.bitsPerSample = 16 ∧
      pcm.samples.length = pcm.frames.toNat * d.config.numChannels.toNat := by
  unfold decode at h
  dsimp only at h
  split_ifs at h
  obtain rfl := Option.some.inj h
  refine ⟨rfl, rfl, rfl, ?_⟩
  simp only [List.length_append, List.length_take, List.length_replicate]
  omega

theorem configure_accepted {d : SoftwareAlacDecoder l} {config : AlacConfig}
    (h : (d.configure config).1 = true) :
    takes config = true ∧ 24 ≤ (makeCookie config).length ∧ (d.configure config).2.config = config ∧
      (d.configure config).2.decoder =
        (AlacLibrary.init d.decoder (makeCookie config) (UInt32.ofNat (makeCookie config).length)).2 := by
  unfold configure at h ⊢
  dsimp only at h ⊢
  split_ifs at h ⊢ with htakes hshort hok
  exact ⟨by simpa using htakes, Nat.le_of_not_lt hshort, rfl, rfl⟩

end SoftwareAlacDecoder

/-! ## What the library is told -/

/-- A library, and the cookies it was given. -/
structure CookieLog (l : Type*) where
  library : l
  cookies : List Bytes := []

instance cookieLog {l : Type*} [AlacLibrary l] : AlacLibrary (CookieLog l) where
  fresh := { library := AlacLibrary.fresh }
  init m cookie size :=
    ((AlacLibrary.init m.library cookie size).1,
      { library := (AlacLibrary.init m.library cookie size).2, cookies := m.cookies ++ [cookie] })
  decode m packet buffer frames channels :=
    let r := AlacLibrary.decode m.library packet buffer frames channels
    { ok := r.ok, decoded := r.decoded, buffer := r.buffer, library := { m with library := r.library } }

/-- The fields at the offsets where the library looks for them. -/
structure Describes (cookie : Bytes) (config : AlacConfig) : Prop where
  frameLength : be32 cookie 0 = config.frameLength
  bitDepth : (byteAt cookie 5).toUInt16 = config.bitDepth
  numChannels : byteAt cookie 9 = config.numChannels
  sampleRate : be32 cookie 20 = config.sampleRate

namespace SoftwareAlacDecoder

variable {l : Type*} [AlacLibrary l]

/-- The cookie the library was last given describes the configuration `decode` uses. -/
def Coherent (d : SoftwareAlacDecoder (CookieLog l)) : Prop :=
  ∃ cookie, d.decoder.cookies.getLast? = some cookie ∧ Describes cookie d.config

/-- The decoder after some packets. -/
def afterPackets (d : SoftwareAlacDecoder (CookieLog l)) (packets : List Bytes) :
    SoftwareAlacDecoder (CookieLog l) := run (fun d packet => (d.decode packet).2) d packets

theorem decode_cookies (d : SoftwareAlacDecoder (CookieLog l)) (packet : Bytes) :
    (d.decode packet).2.decoder.cookies = d.decoder.cookies := by
  unfold decode
  dsimp only
  split_ifs
  · rfl
  · rfl
  · rfl
  · rfl

theorem afterPackets_keeps (d : SoftwareAlacDecoder (CookieLog l)) (packets : List Bytes) :
    (d.afterPackets packets).config = d.config ∧
      (d.afterPackets packets).decoder.cookies = d.decoder.cookies := by
  unfold afterPackets
  apply run_induction (P := fun e : SoftwareAlacDecoder (CookieLog l) =>
    e.config = d.config ∧ e.decoder.cookies = d.decoder.cookies)
  · intro e packet h
    rw [decode_config, decode_cookies]
    exact h
  · exact ⟨rfl, rfl⟩

/-- In a coherent decoder every frame comes with the labels of the cookie. -/
theorem Coherent.labels {d : SoftwareAlacDecoder (CookieLog l)} (h : Coherent d) {packet : Bytes}
    {pcm : PcmAudioFrame} (hpcm : (d.decode packet).1 = some pcm) :
    ∃ cookie, d.decoder.cookies.getLast? = some cookie ∧ pcm.sampleRate = be32 cookie 20 ∧
      pcm.channels = (byteAt cookie 9).toUInt16 := by
  obtain ⟨cookie, hlast, hdescribes⟩ := h
  obtain ⟨hrate, hchannels, -⟩ := decode_labels hpcm
  refine ⟨cookie, hlast, ?_, ?_⟩
  · rw [hrate, hdescribes.sampleRate]
  · rw [hchannels, hdescribes.numChannels]

/-- After an accepted configuration, whatever is decoded, it is all a matter of the
    cookie made from it. -/
theorem coherent_configured {d : SoftwareAlacDecoder (CookieLog l)} {config : AlacConfig}
    (h : (d.configure config).1 = true) :
    (∀ packets, Coherent ((d.configure config).2.afterPackets packets)) ↔
      Describes (makeCookie config) config := by
  obtain ⟨-, -, hconfig, hdecoder⟩ := configure_accepted h
  have hlast : (d.configure config).2.decoder.cookies.getLast? = some (makeCookie config) := by
    rw [hdecoder]
    exact List.getLast?_concat
  have hcoherent : ∀ packets, Coherent ((d.configure config).2.afterPackets packets) ↔
      Describes (makeCookie config) config := by
    intro packets
    obtain ⟨hkeep, hcookies⟩ := afterPackets_keeps (d.configure config).2 packets
    unfold Coherent
    rw [hkeep, hcookies, hlast, hconfig]
    refine ⟨?_, ?_⟩
    · intro hsome
      obtain ⟨cookie, heq, hdescribes⟩ := hsome
      obtain rfl := Option.some.inj heq
      exact hdescribes
    · intro hdescribes
      exact ⟨_, rfl, hdescribes⟩
  refine ⟨?_, ?_⟩
  · intro hall
    exact (hcoherent []).mp (hall [])
  · intro hdescribes packets
    exact (hcoherent packets).mpr hdescribes

end SoftwareAlacDecoder

/-- A cookie made from the fields describes them: 16 fits in the byte for the bit depth. -/
theorem describes_makeCookie {c : AlacConfig} (hdata : c.codecData = []) (hdepth : c.bitDepth = 16) :
    Describes (makeCookie c) c := by
  obtain ⟨f₀, f₁, f₂, f₃, r₀, r₁, m₀, m₁, m₂, m₃, a₀, a₁, a₂, a₃, s₀, s₁, s₂, s₃, hcookie, hf, -,
    -, -, hs⟩ := makeCookie_bytes hdata
  rw [hcookie]
  refine ⟨hf, ?_, rfl, hs⟩
  show c.bitDepth.toUInt8.toUInt16 = c.bitDepth
  rw [hdepth]
  rfl

theorem byteAt_take {data : Bytes} {p n : ℕ} (h : p < n) : byteAt (data.take n) p = byteAt data p := by
  rw [byteAt, byteAt, List.getD_eq_getElem?_getD, List.getD_eq_getElem?_getD, List.getElem?_take_of_lt h]

theorem be32_take {data : Bytes} {p n : ℕ} (h : p + 3 < n) : be32 (data.take n) p = be32 data p := by
  rw [be32, byteAt_take (by omega), byteAt_take (by omega), byteAt_take (by omega),
    byteAt_take h, be32]

/-- The number a text gives last for a field, or else the one it had. -/
def fmtpNumber (field : FmtpField) (fmtp : Bytes) (old : ℕ) : ℕ :=
  (lastValue field (fmtpEntries (getlines 59 fmtp))).getD old

theorem parseAlacConfig_fields {magic : Bytes} {parsed : AlacConfig}
    (h : parseAlacConfig magic = some parsed) :
    parsed.frameLength = be32 magic 0 ∧ parsed.numChannels = byteAt magic 8 ∧
      parsed.sampleRate = be32 magic 19 := by
  unfold parseAlacConfig at h
  split_ifs at h
  obtain rfl := Option.some.inj h
  exact ⟨rfl, rfl, rfl⟩

/-- A configuration the decoder takes has its bit depth from the format parameters, and
    the cookie it was read from for its own. -/
theorem merged_taken {magic fmtp : Bytes} {parsed : AlacConfig}
    (hparsed : parseAlacConfig magic = some parsed)
    (htakes : SoftwareAlacDecoder.takes (parseAlacFmtpInto fmtp parsed).2 = true) :
    makeCookie (parseAlacFmtpInto fmtp parsed).2 = magic.take 24 ∧
      (parseAlacFmtpInto fmtp parsed).1 = true ∧ (parseAlacFmtpInto fmtp parsed).2.bitDepth = 16 := by
  have hlong : 24 ≤ magic.length := by
    by_contra hshort
    rw [parseAlacConfig, if_pos (Nat.lt_of_not_le hshort)] at hparsed
    cases hparsed
  rw [parseAlacConfig, if_neg (Nat.not_lt_of_le hlong)] at hparsed
  have hdata : parsed.codecData = magic.take 24 := by rw [← Option.some.inj hparsed]
  have hnone : parsed.bitDepth = 0 := by rw [← Option.some.inj hparsed]
  have hkept : (parseAlacFmtpInto fmtp parsed).2.codecData = magic.take 24 :=
    (congrArg AlacConfig.codecData (rest_parseAlacFmtpInto fmtp parsed)).trans hdata
  have hdepth : (parseAlacFmtpInto fmtp parsed).2.bitDepth = 16 :=
    SoftwareAlacDecoder.takes_bitDepth htakes
  refine ⟨?_, ?_, hdepth⟩
  · have hne : magic.take 24 ≠ [] := by
      intro hnil
      have hlength := congrArg List.length hnil
      simp only [List.length_take, List.length_nil] at hlength
      omega
    rw [makeCookie, hkept, if_pos hne]
  · -- refused, the merge would have left the bit depth at zero
    cases hok : (parseAlacFmtpInto fmtp parsed).1 with
    | true => rfl
    | false =>
      rw [parseAlacFmtpInto_refused hok, hnone] at hdepth
      exact absurd hdepth (by decide)

/-- **When decoder and library see one configuration.** For every configuration the decoder
    accepts: where it carries no cookie, or one that describes it. For one read from a magic
    cookie and merged with format parameters: where byte 5 of the cookie is 16, and frame
    length, channels and sample rate come out as at bytes 0, 9 and 20, although without a
    parameter the reader takes the channels from byte 8 and the rate from byte 19. -/
theorem decoder_coherent_iff {l : Type*} [AlacLibrary l] (d : SoftwareAlacDecoder (CookieLog l)) :
    (∀ config, (d.configure config).1 = true →
      ((∀ packets, ((d.configure config).2.afterPackets packets).Coherent) ↔
        config.codecData = [] ∨ Describes config.codecData config)) ∧
    (∀ magic fmtp parsed, parseAlacConfig magic = some parsed →
      (d.configure (parseAlacFmtpInto fmtp parsed).2).1 = true →
      ((∀ packets,
          ((d.configure (parseAlacFmtpInto fmtp parsed).2).2.afterPackets packets).Coherent) ↔
        byteAt magic 5 = 16 ∧
          fmtpNumber .frameLength fmtp (be32 magic 0).toNat = (be32 magic 0).toNat ∧
          fmtpNumber .numChannels fmtp (byteAt magic 8).toNat = (byteAt magic 9).toNat ∧
          fmtpNumber .sampleRate fmtp (be32 magic 19).toNat = (be32 magic 20).toNat)) := by
  refine ⟨?_, ?_⟩
  · intro config haccepted
    rw [SoftwareAlacDecoder.coherent_configured haccepted]
    by_cases hdata : config.codecData = []
    · have hdepth : config.bitDepth = 16 :=
        SoftwareAlacDecoder.takes_bitDepth (SoftwareAlacDecoder.configure_accepted haccepted).1
      exact iff_of_true (describes_makeCookie hdata hdepth) (Or.inl hdata)
    · rw [makeCookie, if_pos hdata]
      exact (or_iff_right hdata).symm
  · intro magic fmtp parsed hparsed haccepted
    obtain ⟨hcookie, hok, hdepth⟩ :=
      merged_taken hparsed (SoftwareAlacDecoder.configure_accepted haccepted).1
    rw [SoftwareAlacDecoder.coherent_configured haccepted, hcookie]
    have hframe : (parseAlacFmtpInto fmtp parsed).2.frameLength.toNat =
        fmtpNumber .frameLength fmtp (be32 magic 0).toNat := by
      rw [← (parseAlacConfig_fields hparsed).1]
      exact get_parseAlacFmtpInto hok .frameLength
    have hchannels : (parseAlacFmtpInto fmtp parsed).2.numChannels.toNat =
        fmtpNumber .numChannels fmtp (byteAt magic 8).toNat := by
      rw [← (parseAlacConfig_fields hparsed).2.1]
      exact get_parseAlacFmtpInto hok .numChannels
    have hrate : (parseAlacFmtpInto fmtp parsed).2.sampleRate.toNat =
        fmtpNumber .sampleRate fmtp (be32 magic 19).toNat := by
      rw [← (parseAlacConfig_fields hparsed).2.2]
      exact get_parseAlacFmtpInto hok .sampleRate
    rw [← hframe, ← hchannels, ← hrate]
    have hbyte : byteAt magic 5 = 16 ↔ (byteAt magic 5).toUInt16 = 16 := by
      rw [← UInt8.toNat_inj, ← UInt16.toNat_inj, UInt8.toNat_toUInt16]
      rfl
    rw [hbyte, ← hdepth, UInt32.toNat_inj, UInt8.toNat_inj, UInt32.toNat_inj]
    refine ⟨?_, ?_⟩
    · intro h
      refine ⟨?_, ?_, ?_, ?_⟩
      · rw [← h.bitDepth, byteAt_take (by omega)]
      · rw [← h.frameLength, be32_take (by omega)]
      · rw [← h.numChannels, byteAt_take (by omega)]
      · rw [← h.sampleRate, be32_take (by omega)]
    · intro h
      obtain ⟨hdepth, hframe, hchannels, hrate⟩ := h
      refine ⟨?_, ?_, ?_, ?_⟩
      · rw [be32_take (by omega), hframe]
      · rw [byteAt_take (by omega), hdepth]
      · rw [byteAt_take (by omega), hchannels]
      · rw [be32_take (by omega), hrate]

/-- A library that accepts every cookie and decodes nothing. -/
instance acceptingLibrary : AlacLibrary Unit where
  fresh := ()
  init _ _ _ := (true, ())
  decode _ _ _ _ _ := { ok := false, decoded := 0, buffer := [], library := () }

/-- A cookie for 4096 frames of 16 bits in stereo at 44100 Hz. -/
def stereoCookie : Bytes :=
  [0, 0, 0x10, 0, 0, 16, 0, 0, 0, 2, 0, 0, 0, 0, 0, 0, 0, 0, 0, 0, 0, 0, 0xac, 0x44]

/-- What the reader makes of it: no channels, and a rate of 172. -/
def stereoParsed : AlacConfig :=
  { frameLength := 4096, pb := 16, maxRun := 512, sampleRate := 172, codecData := stereoCookie }

/-- Format parameters for this many frames. -/
def stereoFmtp (frames : String) : Bytes :=
  ascii "sampleRate=44100;channels=2;bitDepth=16;frameLength=" ++ ascii frames

/-- A decoder before its first configuration. -/
def newDecoder : SoftwareAlacDecoder (CookieLog Unit) := .new

/-- Merged with parameters for 4096 frames, the cookie describes the configuration. -/
theorem stereoCookie_coherent :
    (newDecoder.configure (parseAlacFmtpInto (stereoFmtp "4096") stereoParsed).2).1 = true ∧
      ∀ packets, ((newDecoder.configure
        (parseAlacFmtpInto (stereoFmtp "4096") stereoParsed).2).2.afterPackets packets).Coherent := by
  have haccepted :
      (newDecoder.configure (parseAlacFmtpInto (stereoFmtp "4096") stereoParsed).2).1 = true := by
    decide +kernel
  refine ⟨haccepted, ?_⟩
  apply ((decoder_coherent_iff newDecoder).2 stereoCookie (stereoFmtp "4096") stereoParsed
    (by decide) haccepted).mpr
  decide +kernel

/-- Merged with parameters for 352 frames it is accepted, and the library is set up for
    4096 while the buffer holds 352. -/
theorem stereoCookie_incoherent :
    (newDecoder.configure (parseAlacFmtpInto (stereoFmtp "352") stereoParsed).2).1 = true ∧
      parseAlacConfig stereoCookie = some stereoParsed ∧
      ¬ ∀ packets, ((newDecoder.configure
        (parseAlacFmtpInto (stereoFmtp "352") stereoParsed).2).2.afterPackets packets).Coherent := by
  have haccepted :
      (newDecoder.configure (parseAlacFmtpInto (stereoFmtp "352") stereoParsed).2).1 = true := by
    decide +kernel
  refine ⟨haccepted, by decide, ?_⟩
  rw [SoftwareAlacDecoder.coherent_configured haccepted]
  intro hdescribes
  have hframe := hdescribes.frameLength
  revert hframe
  decide +kernel

end AirPlay2
