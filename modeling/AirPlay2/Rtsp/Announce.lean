import AirPlay2.Rtsp.Atomic

/- What an accepted ANNOUNCE replaces. The description is always taken over; the key
   material only if the description carries usable one, and the format of the audio
   pipeline only if it carries a usable audio format. What it does not carry stays
   from before (`announce_accepted`), so two sessions that accept one ANNOUNCE come out
   different exactly when they went in with different leftovers
   (`announce_replaces_iff`). -/
namespace AirPlay2
open Lib

/-- What an ANNOUNCE is to establish: `sdp()`, `crypto()` and, of an attached audio
    pipeline, whether it is configured and its PCM format. -/
structure Announced where
  sdp : AirPlaySdp
  crypto : CryptoSession
  pipeline : Option (Bool × PcmFormat)
  deriving DecidableEq

/-- The format a config asks the sink for. -/
def AlacConfig.pcmFormat (c : AlacConfig) : PcmFormat :=
  { sampleRate := c.sampleRate, channels := c.numChannels.toUInt16, bitsPerSample := c.bitDepth }

/-- The body describes a session with usable key material. -/
def RtspRequest.carriesCrypto (r : RtspRequest) : Bool :=
  ((parseSdp r.body).bind extractCryptoParameters).isSome

/-- The body describes a session with a usable audio format. -/
def RtspRequest.carriesFormat (r : RtspRequest) : Bool :=
  ((parseSdp r.body).bind RtspSession.alacConfigOf).isSome

namespace RtspSession

variable {δ κ : Type*}

def announced (s : RtspSession δ κ) : Announced :=
  { sdp := s.sdp
    crypto := s.crypto
    pipeline := s.alacAudioPipeline.map fun p => (p.configured, p.pipeline.format) }

variable [AlacDecoder δ] [AudioSink κ]

/-! ## One accepted ANNOUNCE -/

/-- Configuring the pipeline, which accepts, and the crypto session from a
    description. -/
theorem announced_configured {s : RtspSession δ κ} {p : AirPlaySdp}
    (h : (s.configurePipeline p).1 = true) :
    ((s.configurePipeline p).2.configureCrypto p).2.announced =
      { sdp := s.sdp
        crypto := match extractCryptoParameters p with
          | none => s.crypto
          | some cp => (s.crypto.configure cp).2
        pipeline := match alacConfigOf p with
          | none => s.announced.pipeline
          | some c => s.alacAudioPipeline.map fun _ => (true, c.pcmFormat) } := by
  unfold configurePipeline configureCrypto announced at *
  cases hpl : s.alacAudioPipeline with
  | none => cases extractCryptoParameters p <;> cases alacConfigOf p <;> simp [hpl]
  | some pipeline =>
    cases hc : alacConfigOf p with
    | none => cases extractCryptoParameters p <;> simp [hpl]
    | some c =>
      simp only [hpl, hc] at h
      obtain ⟨hopen, hformat⟩ := AlacAudioPipeline.configured_of_accepted h
      cases extractCryptoParameters p <;> simp [hopen, hformat, AlacConfig.pcmFormat]

/-- What an accepted ANNOUNCE leaves behind. -/
theorem announce_accepted {s : RtspSession δ κ} {r : RtspRequest} {x : RtspResponse}
    (hx : (s.announce r).1 = .ok x) (h200 : x.status = 200) :
    ∃ p, parseSdp r.body = some p ∧ (s.announce r).2.announced =
      { sdp := p
        crypto := match extractCryptoParameters p with
          | none => s.crypto
          | some cp => (s.crypto.configure cp).2
        pipeline := match alacConfigOf p with
          | none => s.announced.pipeline
          | some c => s.alacAudioPipeline.map fun _ => (true, c.pcmFormat) } := by
  unfold announce at hx ⊢
  cases hp : parseSdp r.body with
  | none =>
    simp only [hp] at hx
    exact absurd h200 (not_accepted (show (400 : ℤ) ≠ 200 by decide) hx)
  | some p =>
    refine ⟨p, rfl, ?_⟩
    simp only [hp, configureCrypto_ok, Bool.not_true, Bool.false_eq_true, if_false] at hx ⊢
    by_cases hmedia : (!p.hasAudio && !p.hasVideo) = true
    · rw [if_pos hmedia] at hx
      exact absurd h200 (not_accepted (show (415 : ℤ) ≠ 200 by decide) hx)
    · rw [if_neg hmedia] at hx ⊢
      cases haccepts :
          (({ s with sdp := p, configured := true } : RtspSession δ κ).configurePipeline p).1 with
      | false =>
        simp only [haccepts, Bool.not_false, if_true] at hx
        exact absurd h200 (not_accepted (show (415 : ℤ) ≠ 200 by decide) hx)
      | true =>
        simp only [Bool.not_true, Bool.false_eq_true, if_false]
        exact announced_configured haccepts

/-! ## Two sessions -/

/-- **When an ANNOUNCE replaces what was there.** Two sessions, whatever happened to them,
    both with an audio pipeline of one kind or both without, accept one ANNOUNCE. They
    come out with the same description, crypto session and pipeline state if and only if
    the description carries usable key material or they had the same crypto session
    before, and it carries a usable audio format or they had pipelines in the same
    state. -/
theorem announce_replaces_iff {s s' : RtspSession δ κ}
    (hkind : s.alacAudioPipeline.isSome = s'.alacAudioPipeline.isSome)
    {r : RtspRequest} {e e' : Sockets} {x x' : RtspResponse} (hr : r.verb = .announce)
    (hx : (s.handle e r).1 = .ok x) (h200 : x.status = 200)
    (hx' : (s'.handle e' r).1 = .ok x') (h200' : x'.status = 200) :
    (s.handle e r).2.announced = (s'.handle e' r).2.announced ↔
      (r.carriesCrypto = true ∨ s.crypto = s'.crypto) ∧
        (r.carriesFormat = true ∨ s.announced.pipeline = s'.announced.pipeline) := by
  simp only [handle, hr] at hx hx' ⊢
  obtain ⟨p, hp, hstate⟩ := announce_accepted hx h200
  obtain ⟨p', hp', hstate'⟩ := announce_accepted hx' h200'
  obtain rfl := Option.some.inj (hp.symm.trans hp')
  rw [hstate, hstate']
  simp only [Announced.mk.injEq, true_and, RtspRequest.carriesCrypto, RtspRequest.carriesFormat,
    hp, Option.bind_some]
  apply and_congr
  · cases extractCryptoParameters p with
    | none => simp
    | some cp => simp [CryptoSession.configure, CryptoSession.reset]
  · cases alacConfigOf p with
    | none => simp
    | some c =>
      -- the format is the config's in every pipeline there is
      simp only [Option.isSome_some, true_or, iff_true]
      cases hpl : s.alacAudioPipeline with
      | none =>
        rw [hpl] at hkind
        have hnone : s'.alacAudioPipeline = none := Option.not_isSome_iff_eq_none.mp (by simp [← hkind])
        rw [hnone]
      | some pipeline =>
        rw [hpl] at hkind
        obtain ⟨pipeline', hpl'⟩ := Option.isSome_iff_exists.mp hkind.symm
        rw [hpl']
        rfl

end RtspSession

namespace Process

def announceOf (attributes : String) : RtspRequest :=
  { method := ascii "ANNOUNCE"
    body := ascii "v=0\nm=audio 0 RTP/AVP 96\n" ++ ascii attributes }

/-- An ANNOUNCE takes no socket calls. -/
def noSockets : Sockets :=
  { media := .noSocket, control := .noSocket, timing := .noSocket, event := .failed }

def keyedAnnounce : RtspRequest :=
  announceOf "a=rsaaeskey:AAAA\na=aesiv:000102030405060708090a0b0c0d0e0f\n"

/-- A session with a pipeline, and an ANNOUNCE with key material. -/
def keyedRun : List (SessionEvent NullAlacDecoder NullAudioSink) :=
  [.setAlacAudioPipeline (some (.new (some {}) (some {}))), .request keyedAnnounce noSockets]

/-- A session with a pipeline. -/
def unkeyedRun : List (SessionEvent NullAlacDecoder NullAudioSink) :=
  [.setAlacAudioPipeline (some (.new (some {}) (some {})))]

/-- An ANNOUNCE with key material of its own comes out the same after both. -/
theorem keyedRun_replaced :
    ∃ s s', run step start keyedRun = .ok s ∧ run step start unkeyedRun = .ok s' ∧
      (s.handle noSockets keyedAnnounce).2.announced =
        (s'.handle noSockets keyedAnnounce).2.announced := by
  let accepted : RtspResponse :=
    (baseResponse keyedAnnounce 200 (ascii "OK")).withHeader (ascii "Content-Length") (ascii "0")
  have hruns : ∃ s s', run step start keyedRun = .ok s ∧ run step start unkeyedRun = .ok s' ∧
      s.alacAudioPipeline.isSome = s'.alacAudioPipeline.isSome ∧
      (s.handle noSockets keyedAnnounce).1 = .ok accepted ∧
      (s'.handle noSockets keyedAnnounce).1 = .ok accepted ∧
      s.announced.pipeline = s'.announced.pipeline := by
    refine ⟨_, _, rfl, rfl, ?_⟩
    decide +kernel
  obtain ⟨s, s', hs, hs', hkind, hx, hx', hpipeline⟩ := hruns
  have hcarries : keyedAnnounce.carriesCrypto = true := by decide +kernel
  exact ⟨s, s', hs, hs', (RtspSession.announce_replaces_iff hkind (by decide) hx rfl hx' rfl).mpr
    ⟨Or.inl hcarries, Or.inr hpipeline⟩⟩

/-- After both runs an ANNOUNCE without key material is accepted, and after the first
    the key material of the earlier ANNOUNCE is still there. -/
theorem keyedRun_not_replaced :
    ¬ ∀ (events events' : List (SessionEvent NullAlacDecoder NullAudioSink)) s s' r e e' x x',
      run step start events = .ok s → run step start events' = .ok s' →
      s.alacAudioPipeline.isSome = s'.alacAudioPipeline.isSome → r.verb = .announce →
      (s.handle e r).1 = .ok x → x.status = 200 → (s'.handle e' r).1 = .ok x' → x'.status = 200 →
      (s.handle e r).2.announced = (s'.handle e' r).2.announced := by
  intro h
  let accepted : RtspResponse :=
    (baseResponse (announceOf "") 200 (ascii "OK")).withHeader (ascii "Content-Length") (ascii "0")
  have hruns : ∃ s s', run step start keyedRun = .ok s ∧ run step start unkeyedRun = .ok s' ∧
      s.alacAudioPipeline.isSome = s'.alacAudioPipeline.isSome ∧
      (s.handle noSockets (announceOf "")).1 = .ok accepted ∧
      (s'.handle noSockets (announceOf "")).1 = .ok accepted ∧
      (s.handle noSockets (announceOf "")).2.crypto.configured = true ∧
      (s'.handle noSockets (announceOf "")).2.crypto.configured = false := by
    refine ⟨_, _, rfl, rfl, ?_⟩
    decide +kernel
  obtain ⟨s, s', hs, hs', hkind, hx, hx', hkey, hno⟩ := hruns
  have hsame := h _ _ s s' (announceOf "") noSockets noSockets accepted accepted hs hs' hkind
    (by decide) hx rfl hx' rfl
  have hcrypto : true = false := by
    rw [← hkey, ← hno]
    exact congrArg (fun a => a.crypto.configured) hsame
  cases hcrypto

end Process
end AirPlay2
