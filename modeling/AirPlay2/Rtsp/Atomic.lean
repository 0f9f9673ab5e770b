import AirPlay2.Rtsp.Run

/- Whether a refused request leaves the protocol state alone. Most refusals come before
   anything is assigned, or after changes to receivers and ports only. Two do not: a
   first binary SETUP sets its two flags before it binds a socket, and an ANNOUNCE
   takes the description over before it offers it to the audio pipeline
   (`failsAtomically_iff`). The refusal by the crypto session cannot happen, since
   parameters that could be extracted are valid. -/
namespace AirPlay2
open Lib

namespace RtspSession

variable {δ κ : Type*} [AlacDecoder δ] [AudioSink κ]

/-- If the request is refused, the protocol state is as before. -/
def FailsAtomically (s : RtspSession δ κ) (e : Sockets) (r : RtspRequest) : Prop :=
  ∀ x, (s.handle e r).1 = .ok x → 400 ≤ x.status →
    (s.handle e r).2.protocolState = s.protocolState

/-- The request is a first binary SETUP one of whose socket calls fails. -/
def InfoFails (s : RtspSession δ κ) (e : Sockets) (r : RtspRequest) : Prop :=
  r.verb = .setup ∧ s.setupInfoComplete = false ∧ isBinaryPlist r.body = true ∧
    s.infoBinds e (usesPtp r.body) = false

/-- The request is an ANNOUNCE of `p` whose config `c` the pipeline refuses. -/
def PipelineRefuses (s : RtspSession δ κ) (r : RtspRequest) (p : AirPlaySdp) (c : AlacConfig)
    (pipeline : AlacAudioPipeline δ κ) : Prop :=
  r.verb = .announce ∧ parseSdp r.body = some p ∧ alacConfigOf p = some c ∧
    s.alacAudioPipeline = some pipeline ∧ (pipeline.configure c).1 = false

/-- No first binary SETUP fails on a socket call; and where the pipeline refuses an
    ANNOUNCE, the session was configured with that description already and an open
    pipeline is not closed. -/
structure AtomicWhen (s : RtspSession δ κ) (e : Sockets) (r : RtspRequest) : Prop where
  info : ¬ InfoFails s e r
  announce : ∀ p c pipeline, PipelineRefuses s r p c pipeline →
    s.configured = true ∧ s.sdp = p ∧
      (pipeline.configured = true → pipeline.pipeline.takes c = false)

/-! ## SETUP -/

omit [AlacDecoder δ] [AudioSink κ] in
theorem setupTransport_protocolState (s : RtspSession δ κ) (e : Sockets) (r : RtspRequest) :
    (s.setupTransport e r).2.protocolState = s.protocolState := by
  obtain ⟨control, timing, t, h⟩ := setupTransport_eq s e r
  rw [h]
  rfl

theorem setup_failsAtomically_iff {s : RtspSession δ κ} {e : Sockets} {r : RtspRequest}
    (hv : r.verb = .setup) : FailsAtomically s e r ↔ ¬ InfoFails s e r := by
  have hh : s.handle e r = s.setup e r := by rw [handle, hv]
  unfold FailsAtomically InfoFails
  rw [hh]
  unfold setup
  by_cases hinfo : s.setupInfoComplete = false ∧ isBinaryPlist r.body = true
  · obtain ⟨hi, hb⟩ := hinfo
    simp only [hv, hi, hb, Bool.not_false, Bool.and_self, if_true, true_and]
    rcases setupInfo_response s e r with ⟨hbind, h⟩ | ⟨hbind, -, -, what, h⟩ | ⟨hbind, -, x, h, hx⟩
    · -- the flags are set before the socket calls
      refine iff_of_false ?_ (fun hn => hn hbind)
      intro hsame
      have hstate := hsame _ h (show (400 : ℤ) ≤ 500 by decide)
      have hflag : (s.setupInfo e r).2.setupInfoComplete = s.setupInfoComplete :=
        congrArg ProtocolState.setupInfoComplete hstate
      rw [(setupInfo_state s e r).2.2.1, hi] at hflag
      cases hflag
    · -- an exception is no response
      apply iff_of_true _ (by simp [hbind])
      intro x hx
      simp [h] at hx
    · refine iff_of_true ?_ (by simp [hbind])
      intro y hy hstatus
      rw [h] at hy
      obtain rfl := Except.ok.inj hy
      rw [hx] at hstatus
      exact absurd hstatus (by decide)
  · -- every other refusal of a SETUP leaves these fields alone
    have hnot : ¬ (r.verb = .setup ∧ s.setupInfoComplete = false ∧ isBinaryPlist r.body = true ∧
        s.infoBinds e (usesPtp r.body) = false) := by
      intro hfails
      obtain ⟨-, hi, hb, -⟩ := hfails
      exact hinfo ⟨hi, hb⟩
    refine iff_of_true ?_ hnot
    have hcond : (!s.setupInfoComplete && isBinaryPlist r.body) = false := by
      cases hi : s.setupInfoComplete <;> cases hb : isBinaryPlist r.body <;> simp_all
    rw [hcond]
    simp only [Bool.false_eq_true, if_false]
    intro x _ _
    split
    · rfl
    · split
      · rfl
      · exact setupTransport_protocolState s e r

/-! ## ANNOUNCE -/

omit [AlacDecoder δ] [AudioSink κ] in
/-- The crypto session never refuses an ANNOUNCE. -/
theorem configureCrypto_ok (s : RtspSession δ κ) (p : AirPlaySdp) :
    (s.configureCrypto p).1 = true := by
  unfold configureCrypto
  cases h : extractCryptoParameters p with
  | none => rfl
  | some cp => exact CryptoSession.configure_extracted h s.crypto

omit [AlacDecoder δ] [AudioSink κ] in
theorem hasAudio_of_config {p : AirPlaySdp} {c : AlacConfig} (h : alacConfigOf p = some c) :
    p.hasAudio = true := by
  unfold alacConfigOf at h
  split at h
  · rename_i ha
    simp only [Bool.and_eq_true] at ha
    exact ha.1
  · simp at h

/-- What an ANNOUNCE answers, and that it is refused before it changes anything, by the
    pipeline, or not at all. -/
theorem announce_cases (s : RtspSession δ κ) (r : RtspRequest) :
    ((s.announce r).2 = s ∧
        ∀ p, parseSdp r.body = some p → alacConfigOf p = none) ∨
      (∃ p c pipeline, parseSdp r.body = some p ∧ alacConfigOf p = some c ∧
        s.alacAudioPipeline = some pipeline ∧ (pipeline.configure c).1 = false ∧
        (s.announce r).1 = .ok (baseResponse r 415 (ascii "Unsupported Media Type")) ∧
        (s.announce r).2 = { s with
          sdp := p
          configured := true
          alacAudioPipeline := some (pipeline.configure c).2 }) ∨
      ((∃ x, (s.announce r).1 = .ok x ∧ x.status = 200) ∧
        ∀ p c pipeline, parseSdp r.body = some p → alacConfigOf p = some c →
          s.alacAudioPipeline = some pipeline → (pipeline.configure c).1 = true) := by
  unfold announce
  cases hp : parseSdp r.body with
  | none => exact Or.inl ⟨rfl, by simp⟩
  | some p =>
    simp only [Option.some.injEq, forall_eq']
    by_cases hmedia : (!p.hasAudio && !p.hasVideo) = true
    · rw [if_pos hmedia]
      refine Or.inl ⟨rfl, ?_⟩
      cases hc : alacConfigOf p with
      | none => rfl
      | some c => simp [hasAudio_of_config hc] at hmedia
    · rw [if_neg hmedia]
      right
      simp only [configureCrypto_ok, Bool.not_true, Bool.false_eq_true, if_false]
      unfold configurePipeline
      cases hpl : s.alacAudioPipeline with
      | none => exact Or.inr ⟨⟨_, rfl, rfl⟩, by simp⟩
      | some pipeline =>
        cases hc : alacConfigOf p with
        | none =>
          refine Or.inr ⟨⟨_, rfl, rfl⟩, ?_⟩
          intro q c' _ hq hc'
          obtain rfl := hq
          simp [hc] at hc'
        | some c =>
          cases hok : (pipeline.configure c).1 with
          | true =>
            refine Or.inr ⟨⟨_, rfl, rfl⟩, ?_⟩
            intro q c' q' hq hc' hq'
            obtain rfl := hq
            obtain rfl := Option.some.inj (hc.symm.trans hc')
            obtain rfl := Option.some.inj hq'
            exact hok
          | false =>
            exact Or.inl ⟨p, c, pipeline, rfl, hc, rfl, hok, rfl, rfl⟩

theorem announce_failsAtomically_iff {s : RtspSession δ κ} {e : Sockets} {r : RtspRequest}
    (hv : r.verb = .announce) :
    FailsAtomically s e r ↔ ∀ p c pipeline, PipelineRefuses s r p c pipeline →
      s.configured = true ∧ s.sdp = p ∧
        (pipeline.configured = true → pipeline.pipeline.takes c = false) := by
  have hh : s.handle e r = s.announce r := by rw [handle, hv]
  unfold FailsAtomically
  rw [hh]
  obtain ⟨hsame, hnone⟩ | ⟨p, c, pipeline, hp, hc, hpl, hrefused, hx, hs⟩ |
    ⟨⟨x, hx, hstatus⟩, hok⟩ := announce_cases s r
  · apply iff_of_true
    · intro _ _ _
      rw [hsame]
    · intro p c pipeline hbad
      obtain ⟨-, hp, hc, -, -⟩ := hbad
      rw [hnone p hp] at hc
      cases hc
  · -- Refused by the pipeline: the description is taken over, the pipeline closed.
    have hopen := AlacAudioPipeline.configured_of_refused hrefused
    rw [hx, hs]
    refine ⟨?_, ?_⟩
    · intro h q c' pipeline' hbad
      obtain ⟨-, hq, hc', hpl', -⟩ := hbad
      obtain rfl := Option.some.inj (hp.symm.trans hq)
      obtain rfl := Option.some.inj (hc.symm.trans hc')
      obtain rfl := Option.some.inj (hpl.symm.trans hpl')
      have hstate := h _ rfl (show (400 : ℤ) ≤ 415 by decide)
      simp only [protocolState, audioPipelineConfigured, hpl, ProtocolState.mk.injEq, true_and,
        hopen] at hstate
      obtain ⟨hconf, hsdp, hpipe⟩ := hstate
      refine ⟨hconf.symm, hsdp.symm, ?_⟩
      intro hconfigured
      simpa [hconfigured] using hpipe
    · intro h _ _ _
      obtain ⟨hconf, hsdp, hpipe⟩ := h p c pipeline ⟨hv, hp, hc, hpl, hrefused⟩
      simp only [protocolState, audioPipelineConfigured, hpl, ProtocolState.mk.injEq, true_and,
        hopen]
      refine ⟨hconf.symm, hsdp.symm, ?_⟩
      cases hconfigured : pipeline.configured with
      | false => rfl
      | true => simp [hpipe hconfigured]
  · refine iff_of_true ?_ ?_
    · intro y hy hge
      rw [hx] at hy
      obtain rfl := Except.ok.inj hy
      rw [hstatus] at hge
      exact absurd hge (by decide)
    · intro p c pipeline hbad
      obtain ⟨-, hp, hc, hpl, hrefused⟩ := hbad
      rw [hok p c pipeline hp hc hpl] at hrefused
      cases hrefused

/-! ## Every request -/

/-- The other methods are never refused after a change. -/
theorem failsAtomically_of_other {s : RtspSession δ κ} {e : Sockets} {r : RtspRequest}
    (h1 : r.verb ≠ .setup) (h2 : r.verb ≠ .announce) : FailsAtomically s e r := by
  intro x hx hstatus
  unfold handle at hx ⊢
  cases hv : r.verb with
  | setup => exact absurd hv h1
  | announce => exact absurd hv h2
  | record =>
    simp only [hv, record] at hx ⊢
    split
    · rfl
    · rename_i hyes
      rw [if_neg hyes] at hx
      obtain rfl := Except.ok.inj hx
      exact absurd hstatus (show ¬ (400 : ℤ) ≤ 200 by decide)
  | pause =>
    simp only [hv, pause] at hx
    obtain rfl := Except.ok.inj hx
    exact absurd hstatus (show ¬ (400 : ℤ) ≤ 200 by decide)
  | teardown =>
    simp only [hv, teardown] at hx
    obtain rfl := Except.ok.inj hx
    exact absurd hstatus (show ¬ (400 : ℤ) ≤ 200 by decide)
  | flush => rfl
  | options => rfl
  | getParameter => rfl
  | setParameter => rfl
  | unknown => rfl

/-- A request fails atomically under this condition on it and the state, and under no
    weaker one. -/
theorem failsAtomically_iff (s : RtspSession δ κ) (e : Sockets) (r : RtspRequest) :
    FailsAtomically s e r ↔ AtomicWhen s e r := by
  by_cases hsetup : r.verb = .setup
  · rw [setup_failsAtomically_iff hsetup]
    refine ⟨fun h => ⟨h, ?_⟩, AtomicWhen.info⟩
    intro p c pipeline hbad
    obtain ⟨hv, -⟩ := hbad
    rw [hsetup] at hv
    cases hv
  · have hinfo : ¬ InfoFails s e r := fun h => hsetup h.1
    by_cases hannounce : r.verb = .announce
    · rw [announce_failsAtomically_iff hannounce]
      exact ⟨fun h => ⟨hinfo, h⟩, AtomicWhen.announce⟩
    · refine iff_of_true (failsAtomically_of_other hsetup hannounce) ⟨hinfo, ?_⟩
      intro p c pipeline hbad
      obtain ⟨hv, -⟩ := hbad
      exact absurd hv hannounce

end RtspSession

namespace Process

variable {δ κ : Type*} [AlacDecoder δ] [AudioSink κ]

/-- A request of a session still alive, if refused, leaves the protocol state alone. -/
def FailsAtomically (p : Process δ κ) (event : SessionEvent δ κ) : Prop :=
  ∀ s r e, p = .ok s → event = .request r e → s.FailsAtomically e r

def AtomicWhen (p : Process δ κ) (event : SessionEvent δ κ) : Prop :=
  ∀ s r e, p = .ok s → event = .request r e → s.AtomicWhen e r

/-- **When refusals are atomic.** In every run of a session, whatever the socket calls
    and the pipeline return, each refused request leaves the protocol state as it was if
    and only if no first binary SETUP fails on a socket call, and the pipeline refuses
    an ANNOUNCE only of the description the session is configured with and without
    being closed by it. -/
theorem run_failsAtomically_iff (events : List (SessionEvent δ κ)) :
    Each step FailsAtomically start events ↔ Each step AtomicWhen start events := by
  refine each_congr (I := fun _ => True) (fun _ _ _ => trivial) ?_ trivial events
  intro p event _
  simp only [FailsAtomically, AtomicWhen, RtspSession.failsAtomically_iff]

/-- A first binary SETUP with no socket to be had. -/
def noSocketRequest : RtspRequest := { method := ascii "SETUP", body := ascii "bplist00" }

/-- It is refused with a 500 and the session is configured all the same. -/
theorem noSocketRequest_not_atomic :
    ¬ Each step FailsAtomically (start : Process NullAlacDecoder NullAudioSink)
      [.request noSocketRequest
        { media := .noSocket, control := .noSocket, timing := .noSocket, event := .failed }] := by
  intro h
  have hfail := h [] _ (List.prefix_refl _) {} _ _ rfl rfl _ rfl (by decide)
  have hflag := congrArg ProtocolState.configured hfail
  revert hflag
  decide

end Process
end AirPlay2
