import AirPlay2.Media.Fmtp
import AirPlay2.Media.SdpWritten

/- The attributes `rtpmap` and `fmtp` in their standard form, with a payload type in front
   (`sdp.cpp`, `alac_config.cpp`). Of an `rtpmap` the parser reads the text before the first
   space, which then is the payload type, so the section learns nothing; and the payload
   type of an `fmtp` is read as part of its first key. Where a section and a session have
   what was written nevertheless, they have it from other lines
   (`standard_attributes_iff`). -/
namespace AirPlay2
open Lib

/-! ## What a map without a payload type says -/

/-- What stands in front of the first `/`. -/
def frontOfSlash (word : Bytes) : Bytes := word.takeWhile (· ≠ 47)

/-- What stands behind it. -/
def behindSlash (word : Bytes) : Bytes := (word.dropWhile (· ≠ 47)).tail

/-- The rate and the channels of a map; both are 0 where one of them is no number. -/
def mapNumbers (word : Bytes) : ℤ × Option ℤ :=
  match stoi (frontOfSlash (behindSlash word)) with
  | none => (0, some 0)
  | some rate =>
    if 47 ∈ behindSlash word then
      match stoi (behindSlash (behindSlash word)) with
      | none => (0, some 0)
      | some channels => (rate, some channels)
    else (rate, none)

/-- The first word of an `rtpmap`, if it is a map. -/
def bareMap (text : Bytes) : Option Bytes :=
  if attributeKey text = ascii "rtpmap" ∧ 47 ∈ (getlines 32 (attributeData text)).headD [] then
    some ((getlines 32 (attributeData text)).headD [])
  else none

theorem ne_slash {bytes : Bytes} (h : 47 ∉ bytes) : ∀ c ∈ bytes, decide (c ≠ 47) = true := by
  intro c hc
  rw [decide_eq_true_eq]
  intro heq
  exact h (heq ▸ hc)

theorem frontOfSlash_append {front : Bytes} (h : 47 ∉ front) (back : Bytes) :
    frontOfSlash (front ++ 47 :: back) = front := by
  rw [frontOfSlash, List.takeWhile_append_of_pos (ne_slash h), List.takeWhile_cons_of_neg (by simp),
    List.append_nil]

theorem behindSlash_append {front : Bytes} (h : 47 ∉ front) (back : Bytes) :
    behindSlash (front ++ 47 :: back) = back := by
  rw [behindSlash, List.dropWhile_append_of_pos (ne_slash h), List.dropWhile_cons_of_neg (by simp),
    List.tail_cons]

theorem frontOfSlash_eq_self {word : Bytes} (h : 47 ∉ word) : frontOfSlash word = word :=
  List.takeWhile_eq_self_iff.mpr (ne_slash h)

theorem drop_slash (front back : Bytes) (n : ℕ) :
    (front ++ 47 :: back).drop (front.length + 1 + n) = back.drop n := by
  have hlength : (front ++ [47]).length = front.length + 1 := List.length_append
  rw [List.append_cons, ← hlength, ← List.drop_drop, List.drop_left]

/-- What a map does to a section. -/
def applyMap (media : SdpMedia) (word : Bytes) : SdpMedia :=
  { media with
    codec := word
    clockRate := (mapNumbers word).1
    channels := (mapNumbers word).2.getD media.channels }

/-- The parser finds the slashes of a map by their positions. -/
theorem parseRtpmap_eq (data : Bytes) (media : SdpMedia) :
    parseRtpmap data media =
      if 47 ∈ (getlines 32 data).headD [] then applyMap media ((getlines 32 data).headD [])
      else media := by
  unfold parseRtpmap
  dsimp only
  generalize (getlines 32 data).headD [] = word
  by_cases hslash : 47 ∈ word
  · obtain ⟨front, back, rfl, hfront⟩ := List.eq_append_cons_of_mem hslash
    have hfirst : find (front ++ 47 :: back) [47] 0 = some front.length := by
      rw [find_single_append hfront, find_single_cons]
      rfl
    have hsecond : find (front ++ 47 :: back) [47] (front.length + 1) =
        (find back [47] 0).map (front.length + 1 + ·) := by
      have hlength : (front ++ [47]).length = front.length + 1 := List.length_append
      rw [List.append_cons, ← hlength]
      exact find_append_right (d := 0)
    rw [if_pos hslash, hfirst]
    dsimp only
    rw [hsecond, applyMap, mapNumbers, behindSlash_append hfront]
    by_cases hmore : 47 ∈ back
    · obtain ⟨rate, channels, rfl, hrate⟩ := List.eq_append_cons_of_mem hmore
      have hrateText : substr (front ++ 47 :: (rate ++ 47 :: channels)) (front.length + 1)
          (front.length + 1 + (rate.length + 0) - front.length - 1) = rate := by
        rw [substr, show front.length + 1 + (rate.length + 0) - front.length - 1 = rate.length by omega,
          ← Nat.add_zero (front.length + 1), drop_slash, List.drop_zero, List.take_left]
      have hchannelsText : (front ++ 47 :: (rate ++ 47 :: channels)).drop
          (front.length + 1 + (rate.length + 0) + 1) = channels := by
        rw [Nat.add_zero, Nat.add_assoc (front.length + 1), drop_slash, ← Nat.add_zero (rate.length + 1),
          drop_slash, List.drop_zero]
      rw [find_single_append hrate, find_single_cons, frontOfSlash_append hrate, behindSlash_append hrate]
      dsimp only [Option.map_some]
      rw [hrateText, hchannelsText]
      cases stoi rate with
      | none => rfl
      | some n =>
        dsimp only
        rw [if_pos hmore]
        cases stoi channels <;> rfl
    · have hrateText : (front ++ 47 :: back).drop (front.length + 1) = back := drop_slash front back 0
      rw [find_single_eq_none hmore, frontOfSlash_eq_self hmore]
      dsimp only [Option.map_none]
      rw [hrateText]
      cases stoi back with
      | none => rfl
      | some rate =>
        dsimp only
        rw [if_neg hmore]
        rfl
  · rw [if_neg hslash, find_single_eq_none hslash]

/-- The maps among the attributes. -/
def bareMaps (attributes : List Bytes) : List Bytes := attributes.filterMap bareMap

theorem addAttribute_eq (media : SdpMedia) (text : Bytes) :
    addAttribute media text =
      ((bareMap text).map (applyMap { media with
          attributes := media.attributes.assign (attributeKey text) (attributeData text) })).getD
        { media with
          attributes := media.attributes.assign (attributeKey text) (attributeData text) } := by
  rw [addAttribute, bareMap]
  by_cases hkey : attributeKey text = ascii "rtpmap"
  · rw [if_pos hkey, parseRtpmap_eq]
    by_cases hslash : 47 ∈ (getlines 32 (attributeData text)).headD []
    · rw [if_pos hslash, if_pos ⟨hkey, hslash⟩]
      rfl
    · rw [if_neg hslash, if_neg (fun h => hslash h.2)]
      rfl
  · rw [if_neg hkey, if_neg (fun h => hkey h.1)]
    rfl

/-- **What a section knows of its encoding.** The codec and the rate are from the last map,
    the channels from the last one that says anything about them. -/
theorem foldl_addAttribute_map (attributes : List Bytes) (media : SdpMedia) :
    (attributes.foldl addAttribute media).codec = (bareMaps attributes).getLast?.getD media.codec ∧
      (attributes.foldl addAttribute media).clockRate =
        ((bareMaps attributes).getLast?.map (fun word => (mapNumbers word).1)).getD media.clockRate ∧
      (attributes.foldl addAttribute media).channels =
        ((bareMaps attributes).filterMap (fun word => (mapNumbers word).2)).getLast?.getD
          media.channels := by
  refine ⟨?_, ?_, ?_⟩
  · apply foldl_written SdpMedia.codec
    intro media text
    rw [addAttribute_eq]
    cases bareMap text <;> rfl
  · rw [← List.getLast?_map, bareMaps, List.map_filterMap]
    apply foldl_written SdpMedia.clockRate
    intro media text
    rw [addAttribute_eq]
    cases bareMap text <;> rfl
  · rw [bareMaps, List.filterMap_filterMap]
    apply foldl_written SdpMedia.channels
    intro media text
    rw [addAttribute_eq]
    cases bareMap text <;> rfl

/-! ## The standard form -/

/-- `rtpmap:<payload type> <encoding>/<rate>`, with `/<channels>` or without. -/
structure StandardMap where
  payloadType : SdpNumber
  encoding : SdpWord
  rate : SdpNumber
  channels : Option SdpNumber
  encoding_plain : 47 ∉ encoding.val

/-- `fmtp:<payload type> <list>`. -/
structure StandardFmtp where
  payloadType : SdpNumber
  list : Bytes

def StandardMap.text (m : StandardMap) : Bytes :=
  ascii "rtpmap" ++ 58 :: (m.payloadType.val ++ 32 :: (m.encoding.val ++ 47 :: (m.rate.val ++
    (m.channels.map (fun c => 47 :: c.val)).getD [])))

def StandardFmtp.text (f : StandardFmtp) : Bytes :=
  ascii "fmtp" ++ 58 :: (f.payloadType.val ++ 32 :: f.list)

theorem SdpNumber.notMem (d : SdpNumber) {c : UInt8} (hc : isdigit c = false) : c ∉ d.val := by
  intro h
  rw [d.property.2.1 c h] at hc
  cases hc

/-- The parser takes the payload type for the map, and it is none. -/
theorem bareMap_text (m : StandardMap) : bareMap m.text = none := by
  have hentry : attributeEntry m.text = (ascii "rtpmap", _) :=
    attributeEntry_colon (by decide) (by decide) _
  obtain ⟨-, hdata⟩ := Prod.mk.inj hentry
  rw [bareMap, hdata, getlines_append (SdpNumber.notMem m.payloadType rfl)]
  apply if_neg
  intro h
  exact SdpNumber.notMem m.payloadType rfl h.2

theorem attributeEntry_fmtp (f : StandardFmtp) :
    attributeEntry f.text = (SdpSlot.fmtp.key, f.payloadType.val ++ 32 :: f.list) :=
  attributeEntry_colon (by decide) (by decide) _

/-! ## What reaches the session -/

/-- The section has the encoding, the rate and the channels of the map, and the session has
    format parameters that mean the same as the list. -/
structure Reaches (m : StandardMap) (list : Bytes) (sdp : AirPlaySdp) (media : SdpMedia) : Prop where
  encoding : frontOfSlash media.codec = m.encoding.val
  clockRate : media.clockRate = digitsValue 10 m.rate.val
  channels : ∀ c, m.channels = some c → media.channels = digitsValue 10 c.val
  fmtp : ∀ base, parseAlacFmtpInto sdp.fmtp base = parseAlacFmtpInto list base

/-- The maps without a payload type say the same: the last one names the encoding and the
    rate, and the last one with channels the channels. -/
structure BareMapsSay (words : List Bytes) (m : StandardMap) : Prop where
  last : ∃ word, words.getLast? = some word ∧ frontOfSlash word = m.encoding.val ∧
    (mapNumbers word).1 = digitsValue 10 m.rate.val
  channels : ∀ c, m.channels = some c →
    (words.filterMap (fun word => (mapNumbers word).2)).getLast?.getD 0 = digitsValue 10 c.val

theorem bareMaps_around (before after : List Bytes) (m : StandardMap) :
    bareMaps (before ++ m.text :: after) = bareMaps (before ++ after) := by
  rw [bareMaps, bareMaps, List.filterMap_append, List.filterMap_cons, bareMap_text, List.filterMap_append]

theorem lastMap_iff {words : List Bytes} {m : StandardMap} :
    (frontOfSlash (words.getLast?.getD []) = m.encoding.val ∧
        (words.getLast?.map (fun word => (mapNumbers word).1)).getD 0 = digitsValue 10 m.rate.val) ↔
      ∃ word, words.getLast? = some word ∧ frontOfSlash word = m.encoding.val ∧
        (mapNumbers word).1 = digitsValue 10 m.rate.val := by
  cases words.getLast? with
  | none =>
    refine ⟨?_, ?_⟩
    · intro h
      exact absurd h.1.symm m.encoding.property.1
    · intro h
      obtain ⟨word, hword, -⟩ := h
      cases hword
  | some word => simp

/-- **When standard attributes arrive.** The section knows the encoding exactly where maps
    without a payload type say the same, and the session the format parameters where the
    last `fmtp` of the text means the same as the list. -/
theorem standard_attributes_iff {text : Bytes} {sdp : AirPlaySdp} (h : parseSdp text = some sdp) {i : ℕ}
    {line : Bytes} {before after : List Bytes} {m : StandardMap}
    (hsection : (sdpSections (sdpLines text))[i]? =
      some { line := line, attributes := before ++ m.text :: after })
    {media : SdpMedia} (hmedia : sdp.media[i]? = some media) {f : StandardFmtp}
    (hfmtp : f.text ∈ before ++ m.text :: after) :
    Reaches m f.list sdp media ↔
      BareMapsSay (bareMaps (before ++ after)) m ∧
        ∃ data, lastWritten .fmtp (sdpLines text) = some data ∧
          SameEffect (fmtpEntries (getlines 59 data)) (fmtpEntries (getlines 59 f.list)) := by
  obtain rfl := eq_describe h
  rw [describe, List.getElem?_map, hsection] at hmedia
  obtain rfl := Option.some.inj hmedia
  obtain ⟨hcodec, hrate, hchannels⟩ := foldl_addAttribute_map (before ++ m.text :: after) (parseMedia line)
  rw [bareMaps_around] at hcodec hrate hchannels
  obtain ⟨data, hdata⟩ : ∃ data, lastWritten .fmtp (sdpLines text) = some data := by
    apply exists_lastValue (v := f.payloadType.val ++ 32 :: f.list)
    have hmem : f.text ∈ allAttributes (sdpLines text) := by
      rw [allAttributes_eq]
      apply List.mem_append_right
      exact List.mem_flatMap.mpr ⟨_, List.mem_of_getElem? hsection, hfmtp⟩
    rw [← attributeEntry_fmtp]
    exact List.mem_map_of_mem hmem
  have hsession : (describe (sdpLines text)).fmtp = data := by
    rw [describe, hdata]
    rfl
  refine ⟨?_, ?_⟩
  · intro hreaches
    obtain ⟨hencoding, hclock, hcount, hlist⟩ := hreaches
    refine ⟨⟨?_, ?_⟩, data, hdata, ?_⟩
    · apply lastMap_iff.mp
      exact ⟨(congrArg frontOfSlash hcodec).symm.trans hencoding, hrate.symm.trans hclock⟩
    · intro c hc
      exact hchannels.symm.trans (hcount c hc)
    · rw [hsession] at hlist
      exact (parseAlacFmtpInto_same_iff _ _).mp hlist
  · intro hcondition
    obtain ⟨⟨hlast, hcount⟩, data', hdata', hsame⟩ := hcondition
    obtain rfl := Option.some.inj (hdata.symm.trans hdata')
    obtain ⟨hencoding, hclock⟩ := lastMap_iff.mpr hlast
    refine ⟨(congrArg frontOfSlash hcodec).trans hencoding, hrate.trans hclock, ?_, ?_⟩
    · intro c hc
      exact hchannels.trans (hcount c hc)
    · rw [hsession]
      exact (parseAlacFmtpInto_same_iff _ _).mpr hsame

/-- A map and format parameters in the standard form. -/
def losslessMap : StandardMap where
  payloadType := dynamicPayload
  encoding := ⟨ascii "AppleLossless", by decide +kernel⟩
  rate := ⟨ascii "44100", by decide +kernel⟩
  channels := some ⟨ascii "2", by decide +kernel⟩
  encoding_plain := by decide

def losslessFmtp : StandardFmtp where
  payloadType := dynamicPayload
  list := ascii "sampleRate=44100;channels=2;bitDepth=16;frameLength=4096"

/-- The same list behind an empty parameter. -/
def shiftedFmtp : StandardFmtp where
  payloadType := dynamicPayload
  list := 59 :: losslessFmtp.list

/-- An audio section. -/
def audioSection (attributes : List Bytes) : SdpSection where
  line := ascii "audio 0 RTP/AVP 96"
  attributes := attributes

/-- A description with one audio section. -/
def audioText (attributes : List Bytes) : Bytes :=
  ascii "v=0\nm=audio 0 RTP/AVP 96\n" ++ attributes.flatMap (fun text => ascii "a=" ++ text ++ [10])

/-- The map once more, without the payload type. -/
def repeatedMap : List Bytes := [ascii "rtpmap:AppleLossless/44100/2", shiftedFmtp.text]

/-- With a second map and an empty first parameter everything arrives. -/
theorem standard_attributes_repeated :
    Reaches losslessMap shiftedFmtp.list
      (describe (sdpLines (audioText (losslessMap.text :: repeatedMap))))
      (audioSection (losslessMap.text :: repeatedMap)).media := by
  have hparse : parseSdp (audioText (losslessMap.text :: repeatedMap)) =
      some (describe (sdpLines (audioText (losslessMap.text :: repeatedMap)))) := by decide +kernel
  have hsection : (sdpSections (sdpLines (audioText (losslessMap.text :: repeatedMap))))[0]? =
      some { line := ascii "audio 0 RTP/AVP 96"
             attributes := [] ++ losslessMap.text :: repeatedMap } := by decide +kernel
  have hmedia : (describe (sdpLines (audioText (losslessMap.text :: repeatedMap)))).media[0]? =
      some (audioSection (losslessMap.text :: repeatedMap)).media := by decide +kernel
  have hfmtp : shiftedFmtp.text ∈ [] ++ losslessMap.text :: repeatedMap := by simp [repeatedMap]
  have hsame : fmtpEntries (getlines 59 (ascii "96 " ++ shiftedFmtp.list)) =
      fmtpEntries (getlines 59 shiftedFmtp.list) := by decide +kernel
  apply (standard_attributes_iff hparse hsection hmedia hfmtp).mpr
  refine ⟨⟨⟨ascii "AppleLossless/44100/2", by decide +kernel⟩, ?_⟩,
    ascii "96 " ++ shiftedFmtp.list, by decide +kernel, ?_⟩
  · intro c hc
    obtain rfl := Option.some.inj hc
    decide +kernel
  · rw [hsame]
    exact SameEffect.refl _

/-- Without them the section knows no codec, and the sample rate is lost. -/
theorem standard_attributes_lost :
    ∃ sdp media, parseSdp (audioText [losslessMap.text, losslessFmtp.text]) = some sdp ∧
      sdp.media = [media] ∧ media.type = ascii "audio" ∧
      sdpSections (sdpLines (audioText [losslessMap.text, losslessFmtp.text])) =
        [audioSection [losslessMap.text, losslessFmtp.text]] ∧
      frontOfSlash media.codec ≠ losslessMap.encoding.val ∧ media.clockRate ≠ 44100 ∧
      media.channels ≠ 2 ∧
      parseAlacFmtpInto sdp.fmtp {} ≠ parseAlacFmtpInto losslessFmtp.list {} := by
  refine ⟨describe (sdpLines (audioText [losslessMap.text, losslessFmtp.text])),
    (audioSection [losslessMap.text, losslessFmtp.text]).media, ?_⟩
  decide +kernel

end AirPlay2
