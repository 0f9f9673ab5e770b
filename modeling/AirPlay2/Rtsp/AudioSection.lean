import AirPlay2.Media.StandardAttributes
import AirPlay2.Rtsp.Atomic

/- Where an ANNOUNCE takes the audio format from (`sdp.cpp`, `rtsp.cpp`). Attributes are
   kept with their section, but the format parameters of the session are the last ones of
   the whole text. So the pipeline is configured from the audio section only where these
   come to the same, and the order of the sections decides
   (`audio_configuration_iff`). -/
namespace AirPlay2
open Lib

/-! ## Descriptions in any order -/

/-- The lines of a description in front of its sections. -/
structure SdpHead where
  lines : List SdpLine
  isSession : ∀ l ∈ lines, l.isSession = true
  supported : lastVersion lines = some true

/-- The text has these sections, in this order. -/
def ConsistsOf (text : Bytes) (head : SdpHead) (sections : List SdpSection) : Prop :=
  sdpLines text = linesOf head.lines sections

namespace SdpSection

def isAudio (s : SdpSection) : Bool := (parseMedia s.line).type = ascii "audio"

/-- The last format parameters of the section itself. -/
def fmtp (s : SdpSection) : Bytes :=
  (lastValue SdpSlot.fmtp.key (s.attributes.map attributeEntry)).getD []

theorem media_type (s : SdpSection) : s.media.type = (parseMedia s.line).type := by
  have hadd (m : SdpMedia) (text : Bytes) : (addAttribute m text).type = m.type := by
    rw [addAttribute_eq]
    cases bareMap text <;> rfl
  rw [media]
  induction s.attributes using List.reverseRecOn with
  | nil => rfl
  | append_singleton attributes text ih =>
    rw [List.foldl_append, List.foldl_cons, List.foldl_nil, hadd, ih]

end SdpSection

/-- The last format parameters of a text. -/
def lastFmtp (text : Bytes) : Bytes := (lastWritten .fmtp (sdpLines text)).getD []

/-- A description with an audio section is accepted, and its format parameters are the
    last ones. -/
theorem parseSdp_consistsOf {text : Bytes} {head : SdpHead} {sections : List SdpSection}
    (h : ConsistsOf text head sections) {audio : SdpSection} (hmem : audio ∈ sections)
    (haudio : audio.isAudio = true) :
    ∃ sdp, parseSdp text = some sdp ∧ sdp.hasAudio = true ∧ sdp.fmtp = lastFmtp text := by
  have hsections : sdpSections (sdpLines text) = sections := by
    rw [h]
    exact sdpSections_linesOf head.isSession sections
  have hversion : lastVersion (sdpLines text) = some true := by
    rw [h, lastVersion_linesOf]
    exact head.supported
  have hsome : sections.isEmpty = false := by
    rw [List.isEmpty_eq_false_iff]
    exact List.ne_nil_of_mem hmem
  refine ⟨describe (sdpLines text), ?_, ?_, rfl⟩
  · rw [parseSdp_eq, hversion, hsections, hsome]
    rfl
  · rw [AirPlaySdp.hasAudio, describe, hsections, List.any_map]
    apply List.any_eq_true.mpr
    refine ⟨audio, hmem, ?_⟩
    rw [Function.comp_apply, audio.media_type]
    exact haudio

/-! ## The configuration a pipeline takes -/

/-- The configuration of format parameters, if a pipeline can take it. -/
def takenConfig (fmtp : Bytes) : Option AlacConfig := (parseAlacFmtp fmtp).filter (fun c => c.bitDepth == 16)

namespace AlacAudioPipeline

variable {δ κ : Type*} [AlacDecoder δ] [AudioSink κ]

/-- The pipeline configured from format parameters. -/
def configuredFrom (p : AlacAudioPipeline δ κ) (fmtp : Bytes) : AlacAudioPipeline δ κ :=
  match parseAlacFmtp fmtp with
  | none => p
  | some c => (p.configure c).2

/-- Nothing but a configuration that it can take changes a pipeline. -/
theorem configuredFrom_eq (p : AlacAudioPipeline δ κ) (fmtp : Bytes) :
    p.configuredFrom fmtp =
      match takenConfig fmtp with
      | none => p
      | some c => (p.configure c).2 := by
  rw [configuredFrom, takenConfig]
  cases parseAlacFmtp fmtp with
  | none => rfl
  | some c =>
    by_cases hdepth : (c.bitDepth == 16) = true
    · rw [Option.filter_some, if_pos hdepth]
    · rw [Option.filter_some, if_neg hdepth]
      have htakes : p.pipeline.takes c = false := by simp [AudioPipeline.takes, hdepth]
      simp [configure, AudioPipeline.configure, htakes]

end AlacAudioPipeline

theorem parseAlacFmtp_valid {fmtp : Bytes} {c : AlacConfig} (h : parseAlacFmtp fmtp = some c) :
    c.valid = true := by
  rw [parseAlacFmtp_eq] at h
  by_cases hok : (parseAlacFmtpInto fmtp {}).1 = true
  · rw [if_pos hok] at h
    obtain ⟨-, hvalid, heq⟩ := parseAlacFmtpInto_accepted hok
    rw [heq] at h
    obtain rfl := Option.some.inj h
    exact hvalid
  · rw [if_neg hok] at h
    cases h

/-- The repository's own decoder and sink, not configured yet. -/
def nullPipeline : AlacAudioPipeline NullAlacDecoder NullAudioSink :=
  AlacAudioPipeline.new (some {}) (some {})

/-- The configuration its decoder has. -/
def decoderConfig (p : AlacAudioPipeline NullAlacDecoder NullAudioSink) : Option AlacConfig :=
  (p.pipeline.decoder.filter (·.configured)).map (·.config)

/-- They keep exactly what a pipeline can take. -/
theorem decoderConfig_nullPipeline (fmtp : Bytes) :
    decoderConfig (nullPipeline.configuredFrom fmtp) = takenConfig fmtp := by
  rw [AlacAudioPipeline.configuredFrom_eq]
  cases htaken : takenConfig fmtp with
  | none => rfl
  | some c =>
    rw [takenConfig, Option.filter_eq_some_iff] at htaken
    obtain ⟨hparse, hdepth⟩ := htaken
    have hvalid := parseAlacFmtp_valid hparse
    have htakes : nullPipeline.pipeline.takes c = true := by
      have hparts := hvalid
      simp only [AlacConfig.valid, Bool.and_eq_true] at hparts
      simp [AudioPipeline.takes, nullPipeline, AlacAudioPipeline.new, hvalid, hparts, hdepth]
    have hconfigure : (AlacDecoder.configure (AlacDecoder.reset ({} : NullAlacDecoder)) c) =
        (true, { config := c, configured := true }) := if_neg (by simp [hvalid])
    dsimp only
    rw [AlacAudioPipeline.configure, AudioPipeline.configure, htakes, if_neg (by simp)]
    simp only [nullPipeline, AlacAudioPipeline.new, AudioPipeline.reset, Option.map_some,
      Bool.false_eq_true, if_false, hconfigure]
    rfl

namespace RtspSession

variable {δ κ : Type*} [AlacDecoder δ] [AudioSink κ]

theorem alacConfigOf_eq {sdp : AirPlaySdp} (haudio : sdp.hasAudio = true) :
    alacConfigOf sdp = parseAlacFmtp sdp.fmtp := by
  have hfilter : (parseAlacFmtp sdp.fmtp).filter AlacConfig.valid = parseAlacFmtp sdp.fmtp := by
    cases hparse : parseAlacFmtp sdp.fmtp with
    | none => rfl
    | some c => rw [Option.filter_some, if_pos (parseAlacFmtp_valid hparse)]
  rw [alacConfigOf, hfilter, haudio]
  cases hfmtp : sdp.fmtp with
  | nil => rfl
  | cons c fmtp => rfl

/-- An ANNOUNCE with audio configures the pipeline from the session's format parameters. -/
theorem announce_pipeline (s : RtspSession δ κ) {r : RtspRequest} {sdp : AirPlaySdp}
    (h : parseSdp r.body = some sdp) (haudio : sdp.hasAudio = true) :
    (s.announce r).2.alacAudioPipeline = s.alacAudioPipeline.map (·.configuredFrom sdp.fmtp) := by
  have hcrypto (s : RtspSession δ κ) :
      (s.configureCrypto sdp).2.alacAudioPipeline = s.alacAudioPipeline := by
    unfold configureCrypto
    cases extractCryptoParameters sdp <;> rfl
  have hpipeline (s : RtspSession δ κ) : (s.configurePipeline sdp).2.alacAudioPipeline =
      s.alacAudioPipeline.map (·.configuredFrom sdp.fmtp) := by
    unfold configurePipeline
    rw [alacConfigOf_eq haudio]
    cases hattached : s.alacAudioPipeline with
    | none => exact hattached
    | some p =>
      cases hparse : parseAlacFmtp sdp.fmtp with
      | none =>
        show s.alacAudioPipeline = _
        rw [hattached, Option.map_some, AlacAudioPipeline.configuredFrom, hparse]
      | some c => simp [AlacAudioPipeline.configuredFrom, hparse]
  rw [announce, h]
  dsimp only
  rw [haudio, if_neg (by simp), configureCrypto_ok]
  split
  · exact hpipeline _
  · rw [if_neg (by simp)]
    exact (hcrypto _).trans (hpipeline _)

end RtspSession

/-! ## The audio section and the last parameters -/

/-- Announced on a fresh session, the text leaves every pipeline as the format parameters of
    the audio section itself configure it. -/
def FollowsAudio (text : Bytes) (audio : SdpSection) : Prop :=
  ∀ (δ κ : Type) [AlacDecoder δ] [AudioSink κ] (p : AlacAudioPipeline δ κ) (r : RtspRequest),
    r.body = text →
      (({ alacAudioPipeline := some p } : RtspSession δ κ).announce r).2.alacAudioPipeline =
        some (p.configuredFrom audio.fmtp)

/-- One text: its last format parameters have to mean what the audio section's own do. -/
theorem followsAudio_iff {text : Bytes} {head : SdpHead} {sections : List SdpSection}
    (h : ConsistsOf text head sections) {audio : SdpSection} (hmem : audio ∈ sections)
    (haudio : audio.isAudio = true) :
    FollowsAudio text audio ↔ takenConfig (lastFmtp text) = takenConfig audio.fmtp := by
  obtain ⟨sdp, hparse, hhas, hfmtp⟩ := parseSdp_consistsOf h hmem haudio
  refine ⟨?_, ?_⟩
  · intro hfollows
    have hnull := hfollows NullAlacDecoder NullAudioSink nullPipeline { body := text } rfl
    rw [RtspSession.announce_pipeline _ hparse hhas, hfmtp] at hnull
    have hsame := congrArg decoderConfig (Option.some.inj hnull)
    rw [decoderConfig_nullPipeline, decoderConfig_nullPipeline] at hsame
    exact hsame
  · intro hsame δ κ _ _ p r hbody
    subst hbody
    rw [RtspSession.announce_pipeline _ hparse hhas, Option.map_some, hfmtp,
      AlacAudioPipeline.configuredFrom_eq, AlacAudioPipeline.configuredFrom_eq, hsame]

/-- **When the pipeline follows the audio section.** Two texts of the same lines and
    sections, one of them audio, in any two orders: both configure a pipeline as the audio
    section says exactly where in both the last format parameters of the text mean the same
    to a pipeline as those of the audio section. -/
theorem audio_configuration_iff {head : SdpHead} {sections sections' : List SdpSection}
    {audio : SdpSection} (hone : sections.filter SdpSection.isAudio = [audio])
    (horder : sections.Perm sections') {text text' : Bytes} (h : ConsistsOf text head sections)
    (h' : ConsistsOf text' head sections') :
    (FollowsAudio text audio ∧ FollowsAudio text' audio) ↔
      (takenConfig (lastFmtp text) = takenConfig audio.fmtp ∧
        takenConfig (lastFmtp text') = takenConfig audio.fmtp) := by
  obtain ⟨hmem, haudio⟩ : audio ∈ sections ∧ audio.isAudio = true := by
    apply List.mem_filter.mp
    rw [hone]
    exact List.mem_singleton_self audio
  rw [followsAudio_iff h hmem haudio, followsAudio_iff h' (horder.mem_iff.mp hmem) haudio]

/-! ## Mirroring -/

def versionHead : SdpHead where
  lines := [.version true]
  isSession := by decide
  supported := rfl

def losslessAudio : SdpSection where
  line := ascii "audio 0 RTP/AVP 96"
  attributes := [ascii "fmtp:sampleRate=44100;channels=2;bitDepth=16;frameLength=4096"]

def screenVideo (attributes : List Bytes) : SdpSection where
  line := ascii "video 0 RTP/AVP 97"
  attributes := attributes

/-- The sections written down behind the version. -/
def mirroringText (sections : List SdpSection) : Bytes :=
  ascii "v=0\n" ++ sections.flatMap fun s =>
    ascii "m=" ++ s.line ++ 10 :: s.attributes.flatMap (fun text => ascii "a=" ++ text ++ [10])

/-- A video section without format parameters may stand on either side. -/
theorem audio_configuration_silent :
    FollowsAudio (mirroringText [losslessAudio, screenVideo []]) losslessAudio ∧
      FollowsAudio (mirroringText [screenVideo [], losslessAudio]) losslessAudio := by
  have hone : [losslessAudio, screenVideo []].filter SdpSection.isAudio = [losslessAudio] := by
    decide +kernel
  have hleft : ConsistsOf (mirroringText [losslessAudio, screenVideo []]) versionHead
      [losslessAudio, screenVideo []] := by unfold ConsistsOf; decide +kernel
  have hright : ConsistsOf (mirroringText [screenVideo [], losslessAudio]) versionHead
      [screenVideo [], losslessAudio] := by unfold ConsistsOf; decide +kernel
  apply (audio_configuration_iff hone (List.Perm.swap _ _ []) hleft hright).mpr
  decide +kernel

/-- With `fmtp` lines in both sections the later one counts: behind the audio section, the
    video section's leave the pipeline closed. -/
theorem video_fmtp_wins :
    [losslessAudio, screenVideo [ascii "fmtp:profile-level-id=42e01e"]].filter SdpSection.isAudio =
        [losslessAudio] ∧
      sdpLines (mirroringText [losslessAudio, screenVideo [ascii "fmtp:profile-level-id=42e01e"]]) =
        linesOf versionHead.lines [losslessAudio, screenVideo [ascii "fmtp:profile-level-id=42e01e"]] ∧
      sdpLines (mirroringText [screenVideo [ascii "fmtp:profile-level-id=42e01e"], losslessAudio]) =
        linesOf versionHead.lines [screenVideo [ascii "fmtp:profile-level-id=42e01e"], losslessAudio] ∧
      (({ alacAudioPipeline := some nullPipeline } :
          RtspSession NullAlacDecoder NullAudioSink).announce
            { body := mirroringText [losslessAudio,
                screenVideo [ascii "fmtp:profile-level-id=42e01e"]] }).2.alacAudioPipeline =
        some nullPipeline ∧
      (({ alacAudioPipeline := some nullPipeline } :
          RtspSession NullAlacDecoder NullAudioSink).announce
            { body := mirroringText [screenVideo [ascii "fmtp:profile-level-id=42e01e"],
                losslessAudio] }).2.alacAudioPipeline =
        some (nullPipeline.configuredFrom losslessAudio.fmtp) ∧
      nullPipeline.configuredFrom losslessAudio.fmtp ≠ nullPipeline := by
  decide +kernel

end AirPlay2
