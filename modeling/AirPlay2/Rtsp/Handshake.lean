import AirPlay2.Rtsp.AudioSection
import AirPlay2.Rtsp.Renew

/- The requests of a client that is about to stream: TEARDOWN of what was there before, ANNOUNCE
   of an audio description, SETUP with a Transport header, RECORD. Whatever a session went
   through before, all four are answered with 200 if the sockets of the SETUP are bound and the
   attached pipeline takes the announced format, and then the session is cued: it records, its
   receive loop has the packet handler, the jitter buffer is empty and the pipeline is open with
   that format (`run_cued`). -/
namespace AirPlay2
open Lib

/-- The four requests, and what the socket calls of the SETUP return. -/
structure StreamRequests where
  teardown : RtspRequest
  announce : RtspRequest
  setup : RtspRequest
  record : RtspRequest
  sockets : Sockets
  teardown_verb : teardown.verb = .teardown
  announce_verb : announce.verb = .announce
  setup_verb : setup.verb = .setup
  record_verb : record.verb = .record
  setup_plain : isBinaryPlist setup.body = false
  media_bound : sockets.media.isBound = true
  control_bound : sockets.control.isBound = true
  timing_bound : sockets.timing.isBound = true

/-- The requests as events of a session. Only the SETUP makes socket calls; `e` stands for
    those of the others. -/
def StreamRequests.events {δ κ : Type*} (q : StreamRequests) (e : Sockets) :
    List (SessionEvent δ κ) :=
  [.request q.teardown e, .request q.announce e, .request q.setup q.sockets, .request q.record e]

namespace RtspSession

variable {δ κ : Type*} [AlacDecoder δ] [AudioSink κ]

/-- Ready for the first packet of a stream that goes to this pipeline. -/
structure Cued (pipeline : AlacAudioPipeline δ κ) (s : RtspSession δ κ) : Prop where
  recording : s.recording = true
  live : s.media.live = true
  buffer : s.jitterBuffer = .new 128
  pipeline : s.alacAudioPipeline = some pipeline

/-! ## Request by request -/

/-- The pipeline is asked before the keys are looked at, and keys that were found are taken. -/
theorem announce_takes {s : RtspSession δ κ} {r : RtspRequest} {sdp : AirPlaySdp}
    {c : AlacConfig} {p : AlacAudioPipeline δ κ} (hsdp : parseSdp r.body = some sdp)
    (hc : alacConfigOf sdp = some c) (hp : s.alacAudioPipeline = some p)
    (htakes : (p.configure c).1 = true) :
    ∃ x crypto, s.announce r = (.ok x, { s with
        sdp := sdp
        configured := true
        alacAudioPipeline := some (p.configure c).2
        crypto := crypto }) ∧ x.status = 200 := by
  unfold announce
  simp only [hsdp, hasAudio_of_config hc, Bool.not_true, Bool.false_and, Bool.false_eq_true,
    if_false, configurePipeline, hp, hc, htakes]
  unfold configureCrypto
  cases hcp : extractCryptoParameters sdp with
  | none => exact ⟨_, _, rfl, rfl⟩
  | some cp =>
    have htaken := CryptoSession.configure_extracted hcp s.crypto
    simp only [htaken, Bool.not_true, Bool.false_eq_true, if_false]
    exact ⟨_, _, rfl, rfl⟩

omit [AlacDecoder δ] [AudioSink κ] in
/-- A Transport SETUP that gets its sockets is accepted. -/
theorem setupTransport_bound {s : RtspSession δ κ} {e : Sockets} (r : RtspRequest)
    (hmedia : e.media.isBound = true) (hcontrol : e.control.isBound = true)
    (htiming : e.timing.isBound = true) : ∃ x, (s.setupTransport e r).1 = .ok x ∧ x.status = 200 := by
  have hbinds : s.transportBinds e = true := by
    simp [transportBinds, RtpReceiver.binds, hmedia, hcontrol, htiming]
  rw [setupTransport_answer, if_pos hbinds]
  exact ⟨_, rfl, rfl⟩

omit [AlacDecoder δ] [AudioSink κ] in
/-- The media receiver of a session after a Transport SETUP that could bind it. -/
theorem setupTransport_live {s : RtspSession δ κ} {e : Sockets} (r : RtspRequest)
    (hmedia : e.media.isBound = true) : (s.setupTransport e r).2.media.live = true := by
  have hbinds : s.media.binds e.media = true := by
    rw [RtpReceiver.binds, hmedia, Bool.or_true]
  obtain ⟨control, timing, t, hstate⟩ := setupTransport_eq s e r
  rw [hstate, if_pos hbinds]
  exact RtpReceiver.live_setPacketHandler (RtpReceiver.bind_running hbinds)

end RtspSession

namespace Process

variable {δ κ : Type*} [AlacDecoder δ] [AudioSink κ]

/-- The statuses of the answers to these events. -/
def statuses (p : Process δ κ) (events : List (SessionEvent δ κ)) : List (Option ℤ) :=
  (observations step observe p events).map (·.bind Observation.status)

theorem statuses_request {s s' : RtspSession δ κ} {r : RtspRequest} {e : Sockets}
    {x : RtspResponse} (h : s.handle e r = (.ok x, s')) (events : List (SessionEvent δ κ)) :
    statuses (.ok s) (.request r e :: events) = some x.status :: statuses (.ok s') events := by
  have hstep : step (.ok s) (.request r e) = .ok s' := RtspSession.step_request.mpr ⟨x, h⟩
  have hanswer : (observe (.ok s) (.request r e)).bind Observation.status = some x.status := by
    have hobserved : (s.observe (.request r e)).answer = some (r, .ok x) :=
      congrArg (fun a : Except StdException RtspResponse × RtspSession δ κ => some (r, a.1)) h
    show (s.observe (.request r e)).status = some x.status
    rw [Observation.status, hobserved]
    rfl
  rw [statuses, observations, List.map_cons, hanswer, hstep]
  rfl

/-- The four requests, whatever the socket calls of those that make none would return. -/
theorem stream_handled {s : RtspSession δ κ} (hcapacity : s.jitterBuffer.capacity = 128)
    {p : AlacAudioPipeline δ κ} (hp : s.alacAudioPipeline = some p) (q : StreamRequests)
    {sdp : AirPlaySdp} (hsdp : parseSdp q.announce.body = some sdp) {c : AlacConfig}
    (hc : RtspSession.alacConfigOf sdp = some c) (htakes : (p.reset.configure c).1 = true)
    (e₀ e₁ e₃ : Sockets) :
    ∃ x₀ s₀ x₁ s₁ x₂ s₂ x₃ s₃, s.handle e₀ q.teardown = (.ok x₀, s₀) ∧
      s₀.handle e₁ q.announce = (.ok x₁, s₁) ∧ s₁.handle q.sockets q.setup = (.ok x₂, s₂) ∧
      s₂.handle e₃ q.record = (.ok x₃, s₃) ∧
      [x₀, x₁, x₂, x₃].map RtspResponse.status = [200, 200, 200, 200] ∧
      s₀.recording = false ∧ s₁.recording = false ∧ s₂.recording = false ∧
      s₃.Cued (p.reset.configure c).2 := by
  have hbuffer := reset_eq_new hcapacity
  -- TEARDOWN
  have htear : s.handle e₀ q.teardown = (.ok (sessionResponse q.teardown), s.reset) := by
    rw [RtspSession.handle, q.teardown_verb]
    rfl
  have hpipeline : s.reset.alacAudioPipeline = some p.reset := by
    show s.alacAudioPipeline.map AlacAudioPipeline.reset = _
    rw [hp]
    rfl
  -- ANNOUNCE
  obtain ⟨x, crypto, hannounce, hx⟩ := RtspSession.announce_takes hsdp hc hpipeline htakes
  generalize hdescribed : ({ s.reset with
    sdp := sdp
    configured := true
    alacAudioPipeline := some (p.reset.configure c).2
    crypto := crypto } : RtspSession δ κ) = described at hannounce
  have hannounced : s.reset.handle e₁ q.announce = (.ok x, described) := by
    rw [RtspSession.handle, q.announce_verb]
    exact hannounce
  -- SETUP
  have hconfigured : described.configured = true := by rw [← hdescribed]
  have hsetup : described.setup q.sockets q.setup =
      described.setupTransport q.sockets q.setup := by
    rw [RtspSession.setup, q.setup_plain, hconfigured]
    simp
  obtain ⟨y, hy, hystatus⟩ := RtspSession.setupTransport_bound (s := described) q.setup
    q.media_bound q.control_bound q.timing_bound
  have hlive := RtspSession.setupTransport_live (s := described) q.setup q.media_bound
  obtain ⟨control, timing, t, hstate⟩ := RtspSession.setupTransport_eq described q.sockets q.setup
  generalize hbound : (described.setupTransport q.sockets q.setup).2 = bound at hlive hstate
  have hset : described.handle q.sockets q.setup = (.ok y, bound) := by
    rw [RtspSession.handle, q.setup_verb]
    show described.setup q.sockets q.setup = _
    rw [hsetup, ← hy, ← hbound]
  -- RECORD
  have hready : bound.configured = true ∧ bound.media.running = true := by
    refine ⟨by rw [hstate]; exact hconfigured, ?_⟩
    simp only [RtpReceiver.live, Bool.and_eq_true] at hlive
    exact hlive.1.1
  have hrecord : bound.handle e₃ q.record =
      (.ok (sessionResponse q.record), { bound with recording := true }) := by
    rw [RtspSession.handle, q.record_verb]
    show bound.record q.record = _
    rw [RtspSession.record, hready.1, hready.2]
    rfl
  have hsilent : described.recording = false := by
    rw [← hdescribed]
    rfl
  refine ⟨_, _, _, _, _, _, _, _, htear, hannounced, hset, hrecord, ?_, rfl, hsilent, ?_, ?_⟩
  · rw [List.map_cons, List.map_cons, List.map_cons, hx, hystatus]
    rfl
  · rw [hstate]
    exact hsilent
  · refine ⟨rfl, hlive, ?_, ?_⟩
    · show bound.jitterBuffer = _
      rw [hstate, ← hdescribed]
      exact hbuffer
    · show bound.alacAudioPipeline = _
      rw [hstate, ← hdescribed]

/-- **A client can always begin to stream.** From every state a session can get into, with any
    pipeline attached: a TEARDOWN, an ANNOUNCE of a format that the pipeline takes, a SETUP whose
    sockets are bound and a RECORD are all accepted, and the session is cued. -/
theorem run_cued {past : List (SessionEvent δ κ)} {s : RtspSession δ κ}
    (hs : run step start past = .ok s) {p : AlacAudioPipeline δ κ}
    (hp : s.alacAudioPipeline = some p) (q : StreamRequests) {sdp : AirPlaySdp}
    (hsdp : parseSdp q.announce.body = some sdp) {c : AlacConfig}
    (hc : RtspSession.alacConfigOf sdp = some c) (htakes : (p.reset.configure c).1 = true)
    (e : Sockets) :
    statuses (run step start past) (q.events e) = [some 200, some 200, some 200, some 200] ∧
      ∃ s', run step start (past ++ q.events e) = .ok s' ∧ s'.Cued (p.reset.configure c).2 := by
  obtain ⟨x₀, s₀, x₁, s₁, x₂, s₂, x₃, s₃, htear, hannounce, hset, hrecord, hstatus, -, -, -, hcued⟩ :=
    stream_handled (run_capacity hs) hp q hsdp hc htakes e e e
  simp only [List.map_cons, List.map_nil, List.cons.injEq, and_true] at hstatus
  obtain ⟨h₀, h₁, h₂, h₃⟩ := hstatus
  refine ⟨?_, s₃, ?_, hcued⟩
  · rw [hs, StreamRequests.events, statuses_request htear, statuses_request hannounce,
      statuses_request hset, statuses_request hrecord, h₀, h₁, h₂, h₃]
    rfl
  · rw [run_append, hs]
    have hstep : ∀ {t t' : RtspSession δ κ} {r : RtspRequest} {calls : Sockets} {z : RtspResponse},
        t.handle calls r = (.ok z, t') → step (.ok t) (.request r calls) = .ok t' :=
      fun h => RtspSession.step_request.mpr ⟨_, h⟩
    rw [StreamRequests.events, run_cons, run_cons, run_cons, run_cons, hstep htear,
      hstep hannounce, hstep hset, hstep hrecord]
    rfl

/-! ## A song -/

/-- Sockets for all who ask for one. -/
def allBound : Sockets :=
  { media := .bound (some 6000), control := .bound (some 6001), timing := .bound (some 6002)
    event := .listening (some 7001) }

/-- The requests for a lossless song. -/
def songRequests : StreamRequests where
  teardown := { method := ascii "TEARDOWN" }
  announce := { method := ascii "ANNOUNCE", body := mirroringText [losslessAudio] }
  setup := { method := ascii "SETUP" }
  record := { method := ascii "RECORD" }
  sockets := allBound
  teardown_verb := by decide
  announce_verb := by decide
  setup_verb := by decide
  record_verb := by decide
  setup_plain := by decide
  media_bound := rfl
  control_bound := rfl
  timing_bound := rfl

/-- What the pipeline is asked for. -/
def songConfig : AlacConfig :=
  { frameLength := 4096, numChannels := 2, sampleRate := 44100, bitDepth := 16 }

theorem parse_songRequests : ∃ sdp, parseSdp songRequests.announce.body = some sdp ∧
    RtspSession.alacConfigOf sdp = some songConfig := by
  apply Option.bind_eq_some_iff.mp
  decide +kernel

theorem run_cued_song :
    statuses (run step start [.setAlacAudioPipeline (some nullPipeline)])
        (songRequests.events allBound) = [some 200, some 200, some 200, some 200] ∧
      ∃ s', run step start ([.setAlacAudioPipeline (some nullPipeline)] ++
          songRequests.events allBound) = .ok s' ∧
        s'.Cued (nullPipeline.reset.configure songConfig).2 := by
  obtain ⟨sdp, hsdp, hc⟩ := parse_songRequests
  exact run_cued (s := { alacAudioPipeline := some nullPipeline }) rfl rfl songRequests hsdp hc
    (by decide) allBound

end Process
end AirPlay2
