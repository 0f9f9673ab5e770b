import AirPlay2.Lib.Runs
import AirPlay2.Rtsp.Session

/- Runs of a session: requests, datagrams on the data port and the calls of the
   embedding program, from construction on. Nothing catches an exception on its way
   up, so a request that throws ends the process and nothing happens after it.

   What a method does to the fields the later modules are about is said
   once here, field group by field group: `protocolState` is what a client can rely
   on between requests, `media` the receiver of the data port. -/
namespace AirPlay2
open Lib

/-- What can happen to a session. -/
inductive SessionEvent (δ κ : Type*) where
  | request (r : RtspRequest) (e : Sockets)
  | datagram (bytes : Bytes)
  | setMediaPacketHandler (installed : Bool)
  | setAlacAudioPipeline (pipeline : Option (AlacAudioPipeline δ κ))

/-- A session, or the exception its process died of. -/
abbrev Process (δ κ : Type*) := Except StdException (RtspSession δ κ)

/-- The protocol state of a session. -/
structure ProtocolState where
  configured : Bool
  recording : Bool
  setupInfoComplete : Bool
  sdp : AirPlaySdp
  crypto : CryptoSession
  audioPipelineConfigured : Bool
  deriving DecidableEq

namespace RtspSession

variable {δ κ : Type*} [AlacDecoder δ] [AudioSink κ]

def protocolState (s : RtspSession δ κ) : ProtocolState :=
  { configured := s.configured
    recording := s.recording
    setupInfoComplete := s.setupInfoComplete
    sdp := s.sdp
    crypto := s.crypto
    audioPipelineConfigured := s.audioPipelineConfigured }

/-- A datagram on the data port: a valid packet goes to `handle_media_packet` if the
    receive loop runs and has its handler. -/
def deliver (s : RtspSession δ κ) (bytes : Bytes) : RtspSession δ κ :=
  if s.media.live then
    match receive bytes with
    | none => s
    | some p => (s.handleMediaPacket p).2
  else s

def step (s : RtspSession δ κ) : SessionEvent δ κ → Process δ κ
  | .request r e =>
    match s.handle e r with
    | (.error what, _) => .error what
    | (.ok _, s) => .ok s
  | .datagram bytes => .ok (s.deliver bytes)
  | .setMediaPacketHandler installed => .ok { s with mediaPacketHandler := installed }
  | .setAlacAudioPipeline pipeline => .ok (s.setAlacAudioPipeline pipeline)

end RtspSession

namespace Process

variable {δ κ : Type*} [AlacDecoder δ] [AudioSink κ]

def step (p : Process δ κ) (event : SessionEvent δ κ) : Process δ κ :=
  match p with
  | .error what => .error what
  | .ok s => s.step event

/-- A constructed session. -/
def start : Process δ κ := .ok {}

end Process

namespace RtspSession

variable {δ κ : Type*} [AlacDecoder δ] [AudioSink κ]

theorem step_request {s s' : RtspSession δ κ} {r : RtspRequest} {e : Sockets} :
    s.step (.request r e) = .ok s' ↔ ∃ x, s.handle e r = (.ok x, s') := by
  simp only [step]
  cases s.handle e r with
  | mk x t => cases x <;> simp

/-- The state after a request that returns is the one its handler leaves. -/
theorem step_handle {s s' : RtspSession δ κ} {r : RtspRequest} {e : Sockets}
    (h : s.step (.request r e) = .ok s') : s' = (s.handle e r).2 := by
  obtain ⟨x, hx⟩ := step_request.mp h
  rw [hx]

theorem step_setup {s s' : RtspSession δ κ} {r : RtspRequest} {e : Sockets}
    (hv : r.verb = .setup) (h : s.step (.request r e) = .ok s') : s' = (s.setup e r).2 := by
  rw [step_handle h, handle, hv]

omit [AlacDecoder δ] [AudioSink κ] in
/-- A response with another status is not the one of an accepted request. -/
theorem not_accepted {x y : RtspResponse} (hy : y.status ≠ 200)
    (hx : (.ok y : Except StdException RtspResponse) = .ok x) : x.status ≠ 200 := by
  rw [← Except.ok.inj hx]
  exact hy

/-! ## A first binary SETUP -/

section Sockets

omit [AlacDecoder δ] [AudioSink κ]

theorem startEventChannel_ok (s : RtspSession δ κ) (outcome : EventOutcome) :
    (s.startEventChannel outcome).1 = s.startsEvent outcome := by
  unfold startEventChannel startsEvent
  split
  · rfl
  · cases outcome with
    | failed => rfl
    | listening port =>
      simp only [EventServer.start, Bool.false_eq_true, if_false, Bool.not_true]
      split
      · rename_i h
        simp [h]
      · rename_i h
        simp [h]

/-- Starting the event channel touches the event server and its port only. -/
theorem startEventChannel_eq (s : RtspSession δ κ) (outcome : EventOutcome) :
    ∃ server port, (s.startEventChannel outcome).2 = s.setEvent server port := by
  unfold startEventChannel
  split
  · exact ⟨_, _, rfl⟩
  · dsimp only
    split
    · exact ⟨_, _, rfl⟩
    · split <;> exact ⟨_, _, rfl⟩

/-- Every socket call of a first binary SETUP succeeds. -/
def infoBinds (s : RtspSession δ κ) (e : Sockets) (ptp : Bool) : Bool :=
  s.media.binds e.media && s.control.binds e.control && (ptp || s.timing.binds e.timing) &&
    s.startsEvent e.event

theorem bindInfo_ok (s : RtspSession δ κ) (e : Sockets) (ptp : Bool) :
    (s.bindInfo e ptp).1 = s.infoBinds e ptp := by
  have hm : (s.bindMedia e.media).1 = s.media.binds e.media := RtpReceiver.bind_ok _ _
  have hc : ((s.bindMedia e.media).2.bindControl e.control).1 = s.control.binds e.control :=
    RtpReceiver.bind_ok _ _
  unfold bindInfo infoBinds
  simp only
  generalize hcs : (s.bindMedia e.media).2.bindControl e.control = control at hc
  have ht : (control.2.bindTimingUnless ptp e.timing).1 = (ptp || s.timing.binds e.timing) := by
    subst hcs
    cases ptp
    · exact RtpReceiver.bind_ok _ _
    · rfl
  have hev : ((control.2.bindTimingUnless ptp e.timing).2.startEventChannel e.event).1
      = s.startsEvent e.event := by
    subst hcs
    rw [startEventChannel_ok]
    cases ptp <;> rfl
  -- Which of the four calls succeed decides both sides.
  cases hmb : s.media.binds e.media <;> cases hcb : s.control.binds e.control <;>
    cases htb : (ptp || s.timing.binds e.timing) <;> simp [hm, hc, ht, hev, hmb, hcb, htb]

theorem bindTimingUnless_eq (s : RtspSession δ κ) (ptp : Bool) (outcome : BindOutcome) :
    ∃ timing, (s.bindTimingUnless ptp outcome).2 = { s with timingReceiver := timing } := by
  cases ptp <;> exact ⟨_, rfl⟩

/-- The socket calls change the receivers and the event channel and nothing else. -/
theorem bindInfo_eq (s : RtspSession δ κ) (e : Sockets) (ptp : Bool) :
    ∃ control timing server port, (s.bindInfo e ptp).2 =
      { s with
        mediaReceiver := some (s.media.bind e.media).2
        controlReceiver := control
        timingReceiver := timing
        eventServer := server
        transport := { s.transport with eventPort := port } } := by
  unfold bindInfo
  dsimp only
  split
  · exact ⟨_, _, _, _, rfl⟩
  · split
    · exact ⟨_, _, _, _, rfl⟩
    · obtain ⟨timing, ht⟩ := bindTimingUnless_eq
        ((s.bindMedia e.media).2.bindControl e.control).2 ptp e.timing
      split
      · rw [ht]
        exact ⟨_, _, _, _, rfl⟩
      · obtain ⟨server, port, hev⟩ := startEventChannel_eq
          (((s.bindMedia e.media).2.bindControl e.control).2.bindTimingUnless ptp e.timing).2 e.event
        rw [hev, ht]
        exact ⟨_, _, _, _, rfl⟩

end Sockets

omit [AlacDecoder δ] [AudioSink κ] in
/-- What a first binary SETUP changes, whatever it answers. -/
theorem setupInfo_state (s : RtspSession δ κ) (e : Sockets) (r : RtspRequest) :
    (s.setupInfo e r).2.media = (s.media.bind e.media).2 ∧
      (s.setupInfo e r).2.configured = true ∧ (s.setupInfo e r).2.setupInfoComplete = true ∧
      (s.setupInfo e r).2.recording = s.recording := by
  unfold setupInfo
  dsimp only
  generalize hs : ({ s with
    setupInfoComplete := true
    configured := true
    mediaReceiver := some s.media
    controlReceiver := some s.control } : RtspSession δ κ) = started
  obtain ⟨control, timing, server, port, h⟩ := bindInfo_eq started e (usesPtp r.body)
  subst hs
  split
  · rw [h]
    exact ⟨rfl, rfl, rfl, rfl⟩
  · split <;> (rw [h]; exact ⟨rfl, rfl, rfl, rfl⟩)

omit [AlacDecoder δ] [AudioSink κ] in
/-- What a first binary SETUP answers: 500 if a socket call fails, else 200, unless
    the PTP property list throws on a long host. -/
theorem setupInfo_response (s : RtspSession δ κ) (e : Sockets) (r : RtspRequest) :
    (s.infoBinds e (usesPtp r.body) = false ∧ (s.setupInfo e r).1 = .ok (serverError r)) ∨
      (s.infoBinds e (usesPtp r.body) = true ∧ usesPtp r.body = true ∧
        15 ≤ (uriHost r.uri).length ∧ ∃ what, (s.setupInfo e r).1 = .error what) ∨
      (s.infoBinds e (usesPtp r.body) = true ∧
        (usesPtp r.body = false ∨ (uriHost r.uri).length < 15) ∧
        ∃ x, (s.setupInfo e r).1 = .ok x ∧ x.status = 200) := by
  unfold setupInfo
  dsimp only
  generalize hs : ({ s with
    setupInfoComplete := true
    configured := true
    mediaReceiver := some s.media
    controlReceiver := some s.control } : RtspSession δ κ) = started
  have hok : (started.bindInfo e (usesPtp r.body)).1 = s.infoBinds e (usesPtp r.body) := by
    rw [bindInfo_ok]
    subst hs
    rfl
  rw [hok]
  cases hb : s.infoBinds e (usesPtp r.body) with
  | false => exact Or.inl ⟨rfl, rfl⟩
  | true =>
    right
    simp only [Bool.not_true, Bool.false_eq_true, if_false]
    cases hp : usesPtp r.body with
    | false =>
      simp only [Bool.false_eq_true, if_false]
      exact Or.inr ⟨trivial, Or.inl trivial, _, rfl, rfl⟩
    | true =>
      simp only [if_true]
      have hthrows := setupPtpResponsePlist_throws_iff
        (started.bindInfo e true).2.transport.eventPort (uriHost r.uri)
      cases hbody : setupPtpResponsePlist (started.bindInfo e true).2.transport.eventPort
          (uriHost r.uri) with
      | error what =>
        rw [hbody] at hthrows
        exact Or.inl ⟨trivial, trivial, hthrows.mp ⟨what, rfl⟩, what, rfl⟩
      | ok body =>
        have hshort : (uriHost r.uri).length < 15 := by
          by_contra hlong
          obtain ⟨what, hw⟩ := hthrows.mpr (not_lt.mp hlong)
          rw [hbody] at hw
          cases hw
        exact Or.inr ⟨trivial, Or.inr hshort, _, rfl, rfl⟩

/-! ## The other methods -/

section Transport

omit [AlacDecoder δ] [AudioSink κ]

theorem setupControl_eq (s : RtspSession δ κ) (outcome : BindOutcome) :
    ∃ control t, (s.setupControl outcome).2 =
      { s with controlReceiver := control, transport := t } := by
  unfold setupControl
  split
  · exact ⟨_, _, rfl⟩
  · dsimp only
    split <;> exact ⟨_, _, rfl⟩

theorem setupTiming_eq (s : RtspSession δ κ) (outcome : BindOutcome) :
    ∃ timing t, (s.setupTiming outcome).2 =
      { s with timingReceiver := timing, transport := t } := by
  unfold setupTiming
  split
  · exact ⟨_, _, rfl⟩
  · dsimp only
    split <;> exact ⟨_, _, rfl⟩

/-- A Transport SETUP changes the receivers and the ports and nothing else. -/
theorem setupTransport_eq (s : RtspSession δ κ) (e : Sockets) (r : RtspRequest) :
    ∃ control timing t, (s.setupTransport e r).2 =
      { s with
        mediaReceiver := some
          (if s.media.binds e.media then (s.media.bind e.media).2.setPacketHandler
            else (s.media.bind e.media).2)
        controlReceiver := control
        timingReceiver := timing
        transport := t } := by
  unfold setupTransport
  dsimp only
  generalize hs : ({ s with transport := { s.transport with
    clientControlPort := parsePort (headerValue r.headers (ascii "Transport"))
      (ascii "control_port=")
    clientTimingPort := parsePort (headerValue r.headers (ascii "Transport"))
      (ascii "timing_port=") } } : RtspSession δ κ) = started
  have hm : (started.bindMedia e.media).1 = s.media.binds e.media := by
    subst hs
    exact RtpReceiver.bind_ok _ _
  rw [hm]
  cases s.media.binds e.media with
  | false =>
    subst hs
    exact ⟨_, _, _, rfl⟩
  | true =>
    simp only [Bool.not_true, Bool.false_eq_true, if_false, if_true]
    -- the handler is installed before the other receivers are bound
    generalize hb : ({ (started.bindMedia e.media).2 with
      mediaReceiver := some (started.bindMedia e.media).2.media.setPacketHandler
      transport := { (started.bindMedia e.media).2.transport with
        serverDataPort := (started.bindMedia e.media).2.media.port } } : RtspSession δ κ) = bound
    obtain ⟨control, t, hc⟩ := setupControl_eq bound e.control
    obtain ⟨timing, t', ht⟩ := setupTiming_eq (bound.setupControl e.control).2 e.timing
    subst hb hs
    split
    · rw [hc]
      exact ⟨_, _, _, rfl⟩
    · split <;> (rw [ht, hc]; exact ⟨_, _, _, rfl⟩)

theorem setupTransport_returns (s : RtspSession δ κ) (e : Sockets) (r : RtspRequest) :
    ∃ x, (s.setupTransport e r).1 = .ok x := by
  unfold setupTransport
  dsimp only
  split
  · exact ⟨_, rfl⟩
  · split
    · exact ⟨_, rfl⟩
    · split <;> exact ⟨_, rfl⟩

end Transport

/-- Offering a description to the pipeline changes the pipeline only. -/
theorem configurePipeline_eq (s : RtspSession δ κ) (p : AirPlaySdp) :
    ∃ pipeline, (s.configurePipeline p).2 = { s with alacAudioPipeline := pipeline } := by
  unfold configurePipeline
  split <;> exact ⟨_, rfl⟩

/-- An ANNOUNCE changes the description, the crypto session and the pipeline and
    nothing else, and at most configures the session. -/
theorem announce_eq (s : RtspSession δ κ) (r : RtspRequest) :
    ∃ sdp configured crypto pipeline, (s.announce r).2 =
        { s with
          sdp := sdp
          configured := configured
          crypto := crypto
          alacAudioPipeline := pipeline } ∧
      (s.configured = true → configured = true) := by
  unfold announce
  split
  · exact ⟨_, _, _, _, rfl, id⟩
  · rename_i p hp
    split
    · exact ⟨_, _, _, _, rfl, id⟩
    · obtain ⟨pipeline, ha⟩ :=
        configurePipeline_eq ({ s with sdp := p, configured := true } : RtspSession δ κ) p
      dsimp only
      rw [ha]
      split
      · exact ⟨_, _, _, _, rfl, fun _ => rfl⟩
      · unfold configureCrypto
        split
        · exact ⟨_, _, _, _, rfl, fun _ => rfl⟩
        · split <;> exact ⟨_, _, _, _, rfl, fun _ => rfl⟩

/-- A packet changes the jitter buffer, the pipeline and the counters and nothing
    else. -/
theorem handleMediaPacket_eq (s : RtspSession δ κ) (p : RtpPacket) :
    ∃ buffer packets bytes pipeline, (s.handleMediaPacket p).2 =
      { s with
        jitterBuffer := buffer
        receivedPackets := packets
        receivedBytes := bytes
        alacAudioPipeline := pipeline } := by
  unfold handleMediaPacket
  split
  · exact ⟨_, _, _, _, rfl⟩
  · split <;> exact ⟨_, _, _, _, rfl⟩

theorem deliver_eq (s : RtspSession δ κ) (bytes : Bytes) :
    ∃ buffer packets count pipeline, s.deliver bytes =
      { s with
        jitterBuffer := buffer
        receivedPackets := packets
        receivedBytes := count
        alacAudioPipeline := pipeline } := by
  unfold deliver
  split
  · split
    · exact ⟨_, _, _, _, rfl⟩
    · exact handleMediaPacket_eq s _
  · exact ⟨_, _, _, _, rfl⟩

/-- Attaching a pipeline changes the pipeline only. -/
theorem setAlacAudioPipeline_eq (s : RtspSession δ κ)
    (pipeline : Option (AlacAudioPipeline δ κ)) :
    ∃ attached, s.setAlacAudioPipeline pipeline = { s with alacAudioPipeline := attached } := by
  unfold setAlacAudioPipeline
  dsimp only
  split
  · obtain ⟨attached, h⟩ :=
      configurePipeline_eq ({ s with alacAudioPipeline := pipeline } : RtspSession δ κ) s.sdp
    exact ⟨attached, h⟩
  · exact ⟨_, rfl⟩

/-- What a step can do: handle a request, or change what plays and who is told. -/
theorem step_cases {s s' : RtspSession δ κ} {event : SessionEvent δ κ}
    (h : s.step event = .ok s') :
    (∃ r e, event = .request r e ∧ s' = (s.handle e r).2) ∨
      ((∀ r e, event ≠ .request r e) ∧ ∃ buffer packets count handler pipeline, s' =
        { s with
          jitterBuffer := buffer
          receivedPackets := packets
          receivedBytes := count
          mediaPacketHandler := handler
          alacAudioPipeline := pipeline }) := by
  cases event with
  | request r e => exact Or.inl ⟨r, e, rfl, step_handle h⟩
  | datagram bytes =>
    obtain rfl := Except.ok.inj h
    obtain ⟨buffer, packets, count, pipeline, hstate⟩ := deliver_eq s bytes
    exact Or.inr ⟨by simp, buffer, packets, count, _, pipeline, hstate⟩
  | setMediaPacketHandler installed =>
    obtain rfl := Except.ok.inj h
    exact Or.inr ⟨by simp, _, _, _, installed, _, rfl⟩
  | setAlacAudioPipeline pipeline =>
    obtain rfl := Except.ok.inj h
    obtain ⟨attached, hstate⟩ := setAlacAudioPipeline_eq s pipeline
    exact Or.inr ⟨by simp, _, _, _, _, attached, hstate⟩

/-- An ANNOUNCE returns, and leaves the receivers and the recording flag alone. -/
theorem announce_frame (s : RtspSession δ κ) (r : RtspRequest) :
    (∃ x, (s.announce r).1 = .ok x) ∧ (s.announce r).2.media = s.media ∧
      (s.announce r).2.recording = s.recording := by
  obtain ⟨sdp, configured, crypto, pipeline, h, -⟩ := announce_eq s r
  refine ⟨?_, by rw [h]; rfl, by rw [h]⟩
  unfold announce
  split
  · exact ⟨_, rfl⟩
  · split
    · exact ⟨_, rfl⟩
    · dsimp only
      split
      · exact ⟨_, rfl⟩
      · split <;> exact ⟨_, rfl⟩

end RtspSession
end AirPlay2
