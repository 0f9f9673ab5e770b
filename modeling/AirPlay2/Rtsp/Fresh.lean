import AirPlay2.Media.Restore
import AirPlay2.Rtsp.Answers
import AirPlay2.Rtsp.Atomic
import AirPlay2.Rtsp.Flow

/- Alike sessions. Two sessions are alike if a client cannot tell them apart but by the
   port numbers it is given: all fields agree but ports, an event server that was kept,
   the format of a closed pipeline, and what no call can tell of a decoder and a sink.
   Alike sessions answer a request alike and stay alike as long as their socket calls
   succeed (`like_handle`), and a packet or a call of the embedding program keeps them
   alike (`like_deliver`, `like_setAlacAudioPipeline`). -/
namespace AirPlay2
open Lib

/-! ## Socket calls that succeed -/

def BindOutcome.succeeds : BindOutcome → Bool
  | .bound (some port) => port != 0
  | _ => false

def EventOutcome.succeeds : EventOutcome → Bool
  | .listening (some port) => port != 0
  | _ => false

/-- Every socket call gets its socket and a port. -/
def Sockets.succeed (e : Sockets) : Bool :=
  e.media.succeeds && e.control.succeeds && e.timing.succeeds && e.event.succeeds

/-! ## Alike receivers -/

/-- The same but for the port, and with a port each if they run. -/
structure RtpReceiver.Like (r r' : RtpReceiver) : Prop where
  running : r.running = r'.running
  handler : r.handler = r'.handler
  workerRunning : r.workerRunning = r'.workerRunning
  ports : r.running = true → r.port ≠ 0 ∧ r'.port ≠ 0

namespace RtpReceiver

theorem Like.new : Like {} {} := ⟨rfl, rfl, rfl, fun h => by cases h⟩

theorem binds_of_succeeds {r : RtpReceiver} {outcome : BindOutcome}
    (h : outcome.succeeds = true) : r.binds outcome = true := by
  cases outcome with
  | noSocket => cases h
  | refused => cases h
  | bound port => simp [binds, BindOutcome.isBound]

theorem Like.bind {r r' : RtpReceiver} (h : Like r r') {outcome outcome' : BindOutcome}
    (ho : outcome.succeeds = true) (ho' : outcome'.succeeds = true) :
    Like (r.bind outcome).2 (r'.bind outcome').2 := by
  cases hr : r.running with
  | true =>
    rw [bind_of_running hr, bind_of_running (h.running ▸ hr)]
    exact h
  | false =>
    have hr' : r'.running = false := h.running ▸ hr
    obtain ⟨hrun, hhandler, hworker, -⟩ := h
    cases outcome with
    | noSocket => cases ho
    | refused => cases ho
    | bound port =>
      cases port with
      | none => cases ho
      | some port =>
        cases outcome' with
        | noSocket => cases ho'
        | refused => cases ho'
        | bound port' =>
          cases port' with
          | none => cases ho'
          | some port' =>
            have hne : port ≠ 0 := by simpa [BindOutcome.succeeds] using ho
            have hne' : port' ≠ 0 := by simpa [BindOutcome.succeeds] using ho'
            simp only [RtpReceiver.bind, hr, hr', Bool.false_eq_true, if_false, Option.getD_some]
            cases hh : r.handler <;> (rw [hhandler] at hh; rw [hh])
            · exact ⟨rfl, by simp, hworker, fun _ => ⟨hne, hne'⟩⟩
            · exact ⟨rfl, by simp, rfl, fun _ => ⟨hne, hne'⟩⟩

theorem Like.setPacketHandler {r r' : RtpReceiver} (h : Like r r') :
    Like r.setPacketHandler r'.setPacketHandler := by
  obtain ⟨hrun, hhandler, hworker, hports⟩ := h
  unfold RtpReceiver.setPacketHandler
  dsimp only
  rw [← hrun]
  split
  · rename_i hr
    exact ⟨rfl, rfl, rfl, fun _ => hports hr⟩
  · rename_i hr
    exact ⟨rfl, rfl, hworker, fun h => absurd h hr⟩

theorem Like.live {r r' : RtpReceiver} (h : Like r r') : r.live = r'.live := by
  unfold RtpReceiver.live
  rw [h.running, h.handler, h.workerRunning]

end RtpReceiver

/-! ## Alike pipelines -/

/-- The same but for the format while closed, with decoders and sinks that no calls tell
    apart. -/
structure AlacAudioPipeline.Like {δ κ : Type*} [AlacDecoder δ] [AudioSink κ]
    (p p' : AlacAudioPipeline δ κ) : Prop where
  decoder : Option.Rel AlacDecoder.Same p.pipeline.decoder p'.pipeline.decoder
  sink : Option.Rel AudioSink.Same p.pipeline.sink p'.pipeline.sink
  opened : p.pipeline.opened = p'.pipeline.opened
  format : p.pipeline.opened = true → p.pipeline.format = p'.pipeline.format

namespace AlacAudioPipeline

variable {δ κ : Type*} [AlacDecoder δ] [AudioSink κ]

theorem Like.refl (p : AlacAudioPipeline δ κ) : Like p p :=
  ⟨rel_refl .refl _, rel_refl .refl _, rfl, fun _ => rfl⟩

theorem Like.reset {p p' : AlacAudioPipeline δ κ} (h : Like p p') : Like p.reset p'.reset := by
  refine ⟨rel_map (fun _ _ hd => hd.reset) h.decoder, ?_, rfl, fun h => by cases h⟩
  unfold AlacAudioPipeline.reset AudioPipeline.reset
  dsimp only
  rw [← h.opened]
  split
  · exact rel_map (fun _ _ hk => hk.closeSink) h.sink
  · exact h.sink

theorem Like.takes {p p' : AlacAudioPipeline δ κ} (h : Like p p') (c : AlacConfig) :
    p.pipeline.takes c = p'.pipeline.takes c := by
  rw [AudioPipeline.takes, AudioPipeline.takes, rel_isSome h.decoder, rel_isSome h.sink]

theorem Like.configure {p p' : AlacAudioPipeline δ κ} (h : Like p p') (c : AlacConfig) :
    (p.configure c).1 = (p'.configure c).1 ∧ Like (p.configure c).2 (p'.configure c).2 := by
  have hreset := h.reset
  unfold AlacAudioPipeline.configure AudioPipeline.configure
  rw [h.takes c]
  split
  · exact ⟨rfl, h⟩
  · -- both start from their reset
    unfold AlacAudioPipeline.reset at hreset
    generalize p.pipeline.reset = q at hreset
    generalize p'.pipeline.reset = q' at hreset
    obtain ⟨decoder, sink, format, opened⟩ := q
    obtain ⟨decoder', sink', format', opened'⟩ := q'
    obtain ⟨hd, hk, ho, hf⟩ := hreset
    dsimp only at hd hk ho hf
    cases hd with
    | none => exact ⟨rfl, .none, hk, ho, hf⟩
    | some hd =>
      cases hk with
      | none => exact ⟨rfl, .some hd, .none, ho, hf⟩
      | some hk =>
        obtain ⟨hconfigured, hd⟩ := hd.configure c
        obtain ⟨hopened, hopen⟩ := hk.openSink ⟨c.sampleRate, c.numChannels.toUInt16, c.bitDepth⟩
        dsimp only
        rw [← hconfigured]
        split
        · exact ⟨rfl, .some hd, .some hk, ho, hf⟩
        · rw [← hopened]
          split
          · exact ⟨rfl, .some hd.reset, .some hopen, ho, hf⟩
          · exact ⟨rfl, .some hd, .some hopen, rfl, fun _ => rfl⟩

theorem Like.push {p p' : AlacAudioPipeline δ κ} (h : Like p p') (packet : RtpPacket) :
    Like (p.push packet).2 (p'.push packet).2 := by
  unfold AlacAudioPipeline.push
  split
  · exact h
  · obtain ⟨⟨decoder, sink, format, opened⟩⟩ := p
    obtain ⟨⟨decoder', sink', format', opened'⟩⟩ := p'
    obtain ⟨hd, hk, ho, hf⟩ := h
    dsimp only at hd hk ho hf
    subst ho
    unfold AudioPipeline.push
    cases hd with
    | none => exact ⟨.none, hk, rfl, hf⟩
    | some hd =>
      cases hk with
      | none => exact ⟨.some hd, .none, rfl, hf⟩
      | some hk =>
        obtain ⟨hdecoded, hnext⟩ := hd.decode packet.payload
        dsimp only
        split
        · exact ⟨.some hd, .some hk, rfl, hf⟩
        · rename_i hready
          have hopened : opened = true := by
            simp only [Bool.or_eq_true, Bool.not_eq_true', not_or, Bool.not_eq_false] at hready
            exact hready.1
          -- an open pipeline checks the frame against the format both have
          obtain rfl := hf hopened
          rw [← hdecoded]
          split
          · exact ⟨.some hnext, .some hk, rfl, fun _ => rfl⟩
          · rename_i pcm _
            split
            · exact ⟨.some hnext, .some hk, rfl, fun _ => rfl⟩
            · split
              · exact ⟨.some hnext, .some hk, rfl, fun _ => rfl⟩
              · exact ⟨.some hnext, .some (hk.write pcm.samples pcm.frames.toNat), rfl,
                  fun _ => rfl⟩

end AlacAudioPipeline

/-! ## Alike answers -/

/-- The same answer with other port numbers, zero in the same places. -/
def SetupAnswer.Like : SetupAnswer → SetupAnswer → Prop
  | .info event timing host, .info event' timing' host' =>
    (event = 0 ↔ event' = 0) ∧ (timing = 0 ↔ timing' = 0) ∧ host = host'
  | .stream data control type, .stream data' control' type' =>
    (data = 0 ↔ data' = 0) ∧ (control = 0 ↔ control' = 0) ∧ type = type'
  | .transport t, .transport t' =>
    (t.serverDataPort = 0 ↔ t'.serverDataPort = 0) ∧
      (t.serverControlPort = 0 ↔ t'.serverControlPort = 0) ∧
      (t.serverTimingPort = 0 ↔ t'.serverTimingPort = 0)
  | _, _ => False

/-- The same result, or renderings of one SETUP answer with ports of their own. -/
def LikeResults (r : RtspRequest) (x x' : Except StdException RtspResponse) : Prop :=
  x = x' ∨ ∃ a a' : SetupAnswer, a.Like a' ∧ x = a.render r ∧ x' = a'.render r

/-- The PTP property list is built for both ports or for neither. -/
theorem setupPtpResponsePlist_like (port port' : UInt16) (host : Bytes) :
    (∃ what, setupPtpResponsePlist port host = .error what ∧
        setupPtpResponsePlist port' host = .error what) ∨
      ∃ body body', setupPtpResponsePlist port host = .ok body ∧
        setupPtpResponsePlist port' host = .ok body' := by
  have hthrows := setupPtpResponsePlist_throws_iff port host
  have hthrows' := setupPtpResponsePlist_throws_iff port' host
  by_cases hlong : 15 ≤ host.length
  · have hne : host ≠ [] := by
      intro hnil
      simp [hnil] at hlong
    have hwhat : ∀ port, setupPtpResponsePlist port host =
        .error (.runtimeError "receiver IPv4 address too long for compact PTP plist") := by
      intro port
      simp [setupPtpResponsePlist, hne, hlong]
    exact Or.inl ⟨_, hwhat port, hwhat port'⟩
  · right
    cases hx : setupPtpResponsePlist port host with
    | error what => exact absurd (hthrows.mp ⟨what, hx⟩) hlong
    | ok body =>
      cases hx' : setupPtpResponsePlist port' host with
      | error what => exact absurd (hthrows'.mp ⟨what, hx'⟩) hlong
      | ok body' => exact ⟨body, body', rfl, rfl⟩

/-- Alike results are both responses or the same exception. -/
theorem LikeResults.cases {r : RtspRequest} {x x' : Except StdException RtspResponse}
    (h : LikeResults r x x') :
    (∃ what, x = .error what ∧ x' = .error what) ∨ ∃ y y', x = .ok y ∧ x' = .ok y' := by
  obtain rfl | ⟨a, a', hlike, rfl, rfl⟩ := h
  · cases x with
    | error what => exact Or.inl ⟨what, rfl, rfl⟩
    | ok y => exact Or.inr ⟨y, y, rfl, rfl⟩
  · -- only the property list of a PTP answer can throw
    cases a with
    | info event timing host =>
      cases a' with
      | info event' timing' host' =>
        obtain ⟨-, -, rfl⟩ := hlike
        cases host with
        | none => exact Or.inr ⟨_, _, rfl, rfl⟩
        | some host =>
          simp only [SetupAnswer.render]
          obtain ⟨what, hx, hx'⟩ | ⟨body, body', hx, hx'⟩ :=
            setupPtpResponsePlist_like event event' host
          · rw [hx, hx']
            exact Or.inl ⟨what, rfl, rfl⟩
          · rw [hx, hx']
            exact Or.inr ⟨_, _, rfl, rfl⟩
      | stream data control type => exact hlike.elim
      | transport t => exact hlike.elim
    | stream data control type =>
      cases a' with
      | stream data' control' type' => exact Or.inr ⟨_, _, rfl, rfl⟩
      | info event' timing' host' => exact hlike.elim
      | transport t => exact hlike.elim
    | transport t =>
      cases a' with
      | transport t' => exact Or.inr ⟨_, _, rfl, rfl⟩
      | info event' timing' host' => exact hlike.elim
      | stream data' control' type' => exact hlike.elim

namespace RtspSession

variable {δ κ : Type*}

/-- An event server there is runs and has a port. -/
def EventReady (s : RtspSession δ κ) : Prop :=
  ∀ server, s.eventServer = some server → server.running = true ∧ server.port ≠ 0

/-- A client cannot tell the sessions apart but by port numbers. -/
structure Like [AlacDecoder δ] [AudioSink κ] (s t : RtspSession δ κ) : Prop where
  configured : s.configured = t.configured
  setupInfoComplete : s.setupInfoComplete = t.setupInfoComplete
  recording : s.recording = t.recording
  sdp : s.sdp = t.sdp
  crypto : s.crypto = t.crypto
  jitterBuffer : s.jitterBuffer = t.jitterBuffer
  mediaPacketHandler : s.mediaPacketHandler = t.mediaPacketHandler
  receivedPackets : s.receivedPackets = t.receivedPackets
  receivedBytes : s.receivedBytes = t.receivedBytes
  dataPort : s.transport.serverDataPort = 0 ↔ t.transport.serverDataPort = 0
  controlPort : s.transport.serverControlPort = 0 ↔ t.transport.serverControlPort = 0
  timingPort : s.transport.serverTimingPort = 0 ↔ t.transport.serverTimingPort = 0
  media : s.media.Like t.media
  control : s.control.Like t.control
  timing : s.timing.Like t.timing
  event : s.EventReady ∧ t.EventReady
  pipeline : Option.Rel AlacAudioPipeline.Like s.alacAudioPipeline t.alacAudioPipeline

/-! ## SETUP when the sockets succeed -/

theorem startEventChannel_of_starts {s : RtspSession δ κ} {outcome : EventOutcome}
    (h : s.startsEvent outcome = true) :
    ∃ server : EventServer, server.running = true ∧ server.port ≠ 0 ∧
      (s.startEventChannel outcome).2 = s.setEvent (some server) server.port := by
  unfold startsEvent at h
  unfold startEventChannel
  split
  · rename_i server hserver
    simp only [hserver, bne_iff_ne] at h
    obtain ⟨hs, hr⟩ := Option.filter_eq_some_iff.mp hserver
    exact ⟨server, hr, h, by rw [hs]⟩
  · rename_i hnone
    simp only [hnone] at h
    cases outcome with
    | failed => cases h
    | listening port =>
      have hne : port.getD 0 ≠ 0 := by simpa using h
      simp only [EventServer.start, Bool.false_eq_true, if_false, Bool.not_true, if_neg hne]
      exact ⟨_, rfl, hne, rfl⟩

theorem startsEvent_of_succeeds {s : RtspSession δ κ} (h : s.EventReady) {outcome : EventOutcome}
    (ho : outcome.succeeds = true) : s.startsEvent outcome = true := by
  unfold startsEvent
  split
  · rename_i server hserver
    obtain ⟨hs, -⟩ := Option.filter_eq_some_iff.mp hserver
    simpa using (h server hs).2
  · cases outcome with
    | failed => cases ho
    | listening port =>
      cases port with
      | none => cases ho
      | some port => simpa [EventOutcome.succeeds] using ho

/-- A first binary SETUP whose socket calls all succeed. -/
theorem bindInfo_of_binds {s : RtspSession δ κ} {e : Sockets} {ptp : Bool}
    (h : s.infoBinds e ptp = true) :
    ∃ server : EventServer, server.running = true ∧ server.port ≠ 0 ∧ (s.bindInfo e ptp).2 =
      { s with
        mediaReceiver := some (s.media.bind e.media).2
        controlReceiver := some (s.control.bind e.control).2
        timingReceiver := if ptp then s.timingReceiver else some (s.timing.bind e.timing).2
        eventServer := some server
        transport := { s.transport with eventPort := server.port } } := by
  simp only [infoBinds, Bool.and_eq_true, Bool.or_eq_true] at h
  obtain ⟨⟨⟨hm, hc⟩, ht⟩, hev⟩ := h
  have hmok : (s.bindMedia e.media).1 = true := (RtpReceiver.bind_ok _ _).trans hm
  have hcok : ((s.bindMedia e.media).2.bindControl e.control).1 = true :=
    (RtpReceiver.bind_ok _ _).trans hc
  have htok : (((s.bindMedia e.media).2.bindControl e.control).2.bindTimingUnless ptp
      e.timing).1 = true := by
    cases ptp with
    | true => rfl
    | false =>
      have ht : s.timing.binds e.timing = true := by simpa using ht
      exact (RtpReceiver.bind_ok _ _).trans ht
  unfold bindInfo
  simp only [hmok, hcok, htok, Bool.not_true, Bool.false_eq_true, if_false]
  have hstarts : (((s.bindMedia e.media).2.bindControl e.control).2.bindTimingUnless ptp
      e.timing).2.startsEvent e.event = true := by
    cases ptp <;> exact hev
  obtain ⟨server, hr, hp, hs⟩ := startEventChannel_of_starts hstarts
  refine ⟨server, hr, hp, ?_⟩
  rw [hs]
  cases ptp <;> rfl

theorem succeed_parts {e : Sockets} (h : e.succeed = true) :
    e.media.succeeds = true ∧ e.control.succeeds = true ∧ e.timing.succeeds = true ∧
      e.event.succeeds = true := by
  simpa [Sockets.succeed, and_assoc] using h

/-- A port copied from a receiver bound on either side is not zero. -/
theorem bound_ports {r r' : RtpReceiver} (h : r.Like r') {outcome outcome' : BindOutcome}
    (ho : outcome.succeeds = true) (ho' : outcome'.succeeds = true) :
    (r.bind outcome).2.port ≠ 0 ∧ (r'.bind outcome').2.port ≠ 0 :=
  (h.bind ho ho').ports (RtpReceiver.bind_running (RtpReceiver.binds_of_succeeds ho))

theorem infoBinds_of_succeed {s : RtspSession δ κ} (h : s.EventReady) {e : Sockets}
    (he : e.succeed = true) (ptp : Bool) : s.infoBinds e ptp = true := by
  obtain ⟨hm, hc, ht, hev⟩ := succeed_parts he
  simp [infoBinds, RtpReceiver.binds_of_succeeds hm, RtpReceiver.binds_of_succeeds hc,
    RtpReceiver.binds_of_succeeds ht, startsEvent_of_succeeds h hev]

variable [AlacDecoder δ] [AudioSink κ]

theorem like_setupInfo {s t : RtspSession δ κ} (h : Like s t) {e e' : Sockets}
    (he : e.succeed = true) (he' : e'.succeed = true) (r : RtspRequest) :
    LikeResults r (s.setupInfo e r).1 (t.setupInfo e' r).1 ∧
      Like (s.setupInfo e r).2 (t.setupInfo e' r).2 := by
  obtain ⟨hm, hc, ht, -⟩ := succeed_parts he
  obtain ⟨hm', hc', ht', -⟩ := succeed_parts he'
  have hbinds := infoBinds_of_succeed h.event.1 he (usesPtp r.body)
  have hbinds' := infoBinds_of_succeed h.event.2 he' (usesPtp r.body)
  obtain ⟨server, hrun, hport, hs⟩ := bindInfo_of_binds (s := s.beginInfo) hbinds
  obtain ⟨server', hrun', hport', hs'⟩ := bindInfo_of_binds (s := t.beginInfo) hbinds'
  have hok : (s.beginInfo.bindInfo e (usesPtp r.body)).1 = true :=
    (bindInfo_ok _ _ _).trans hbinds
  have hok' : (t.beginInfo.bindInfo e' (usesPtp r.body)).1 = true :=
    (bindInfo_ok _ _ _).trans hbinds'
  have hdata := bound_ports h.media hm hm'
  have hcontrol := bound_ports h.control hc hc'
  have htiming := bound_ports h.timing ht ht'
  rw [setupInfo_answer hbinds, setupInfo_answer hbinds', setupInfo_after, setupInfo_after,
    if_pos hok, if_pos hok', hs, hs']
  have hready : ∀ (s : RtspSession δ κ) server, server.running = true → server.port ≠ 0 →
      s.eventServer = some server → s.EventReady := by
    intro s server hr hp hs k hk
    obtain rfl := Option.some.inj (hs.symm.trans hk)
    exact ⟨hr, hp⟩
  cases hptp : usesPtp r.body with
  | true =>
    refine ⟨Or.inr ⟨_, _, ?_, rfl, rfl⟩, ?_⟩
    · exact ⟨iff_of_false hport hport', Iff.rfl, rfl⟩
    · exact { h with
        configured := rfl
        setupInfoComplete := rfl
        dataPort := iff_of_false hdata.1 hdata.2
        controlPort := iff_of_false hcontrol.1 hcontrol.2
        timingPort := Iff.rfl
        media := h.media.bind hm hm'
        control := h.control.bind hc hc'
        event := ⟨hready _ server hrun hport rfl, hready _ server' hrun' hport' rfl⟩ }
  | false =>
    refine ⟨Or.inr ⟨_, _, ?_, rfl, rfl⟩, ?_⟩
    · exact ⟨iff_of_false hport hport', iff_of_false htiming.1 htiming.2, rfl⟩
    · exact { h with
        configured := rfl
        setupInfoComplete := rfl
        dataPort := iff_of_false hdata.1 hdata.2
        controlPort := iff_of_false hcontrol.1 hcontrol.2
        timingPort := iff_of_false htiming.1 htiming.2
        media := h.media.bind hm hm'
        control := h.control.bind hc hc'
        timing := h.timing.bind ht ht'
        event := ⟨hready _ server hrun hport rfl, hready _ server' hrun' hport' rfl⟩ }

theorem like_setupControl {s t : RtspSession δ κ} (h : Like s t) {o o' : BindOutcome}
    (ho : o.succeeds = true) (ho' : o'.succeeds = true) :
    Like (s.setupControl o).2 (t.setupControl o').2 := by
  have hok : (s.bindControl o).1 = true :=
    (RtpReceiver.bind_ok _ _).trans (RtpReceiver.binds_of_succeeds ho)
  have hok' : (t.bindControl o').1 = true :=
    (RtpReceiver.bind_ok _ _).trans (RtpReceiver.binds_of_succeeds ho')
  have hports := bound_ports h.control ho ho'
  unfold setupControl
  simp only [ne_eq, h.controlPort]
  split
  · exact h
  · simp only [hok, hok', Bool.not_true, Bool.false_eq_true, if_false]
    exact { h with
      controlPort := iff_of_false hports.1 hports.2
      control := h.control.bind ho ho' }

theorem like_setupTiming {s t : RtspSession δ κ} (h : Like s t) {o o' : BindOutcome}
    (ho : o.succeeds = true) (ho' : o'.succeeds = true) :
    Like (s.setupTiming o).2 (t.setupTiming o').2 := by
  have hok : (s.bindTiming o).1 = true :=
    (RtpReceiver.bind_ok _ _).trans (RtpReceiver.binds_of_succeeds ho)
  have hok' : (t.bindTiming o').1 = true :=
    (RtpReceiver.bind_ok _ _).trans (RtpReceiver.binds_of_succeeds ho')
  have hports := bound_ports h.timing ho ho'
  unfold setupTiming
  simp only [ne_eq, h.timingPort]
  split
  · exact h
  · simp only [hok, hok', Bool.not_true, Bool.false_eq_true, if_false]
    exact { h with
      timingPort := iff_of_false hports.1 hports.2
      timing := h.timing.bind ho ho' }

theorem like_setupTransport {s t : RtspSession δ κ} (h : Like s t) {e e' : Sockets}
    (he : e.succeed = true) (he' : e'.succeed = true) (r : RtspRequest) :
    LikeResults r (s.setupTransport e r).1 (t.setupTransport e' r).1 ∧
      Like (s.setupTransport e r).2 (t.setupTransport e' r).2 := by
  obtain ⟨hm, hc, ht, -⟩ := succeed_parts he
  obtain ⟨hm', hc', ht', -⟩ := succeed_parts he'
  have hbinds : ∀ (s : RtspSession δ κ) {e : Sockets}, e.media.succeeds = true →
      e.control.succeeds = true → e.timing.succeeds = true → s.transportBinds e = true := by
    intro s e hm hc ht
    simp [transportBinds, RtpReceiver.binds_of_succeeds hm, RtpReceiver.binds_of_succeeds hc,
      RtpReceiver.binds_of_succeeds ht]
  have hports := bound_ports h.media hm hm'
  have hoffer : Like ((s.beginTransport r).offerMedia e.media)
      ((t.beginTransport r).offerMedia e'.media) :=
    { h with
      dataPort := iff_of_false hports.1 hports.2
      media := (h.media.bind hm hm').setPacketHandler }
  have hcontrol := like_setupControl hoffer hc hc'
  have htiming := like_setupTiming hcontrol ht ht'
  have hcok : ∀ (s : RtspSession δ κ) {o : BindOutcome}, o.succeeds = true →
      (s.setupControl o).1 = true := by
    intro s o ho
    simp [setupControl_ok, RtpReceiver.binds_of_succeeds ho]
  have hlike : Like (s.setupTransport e r).2 (t.setupTransport e' r).2 := by
    rw [setupTransport_after, setupTransport_after, if_pos (RtpReceiver.binds_of_succeeds hm),
      if_pos (RtpReceiver.binds_of_succeeds hm')]
    simp only [hcok _ hc, hcok _ hc', if_true]
    exact htiming
  refine ⟨?_, hlike⟩
  rw [setupTransport_answer, setupTransport_answer, if_pos (hbinds s hm hc ht),
    if_pos (hbinds t hm' hc' ht')]
  refine Or.inr ⟨.transport _, .transport _, ?_, rfl, rfl⟩
  exact ⟨hlike.dataPort, hlike.controlPort, hlike.timingPort⟩

theorem like_setup {s t : RtspSession δ κ} (h : Like s t) {e e' : Sockets}
    (he : e.succeed = true) (he' : e'.succeed = true) (r : RtspRequest) :
    LikeResults r (s.setup e r).1 (t.setup e' r).1 ∧ Like (s.setup e r).2 (t.setup e' r).2 := by
  unfold setup
  rw [h.setupInfoComplete, h.configured]
  split
  · exact like_setupInfo h he he' r
  · split
    · exact ⟨Or.inl rfl, h⟩
    · split
      · refine ⟨Or.inr ⟨.stream _ _ _, .stream _ _ _, ?_, rfl, rfl⟩, h⟩
        exact ⟨h.dataPort, h.controlPort, rfl⟩
      · exact like_setupTransport h he he' r

/-! ## The other events -/

theorem like_configurePipeline {s t : RtspSession δ κ} (h : Like s t) (p : AirPlaySdp) :
    (s.configurePipeline p).1 = (t.configurePipeline p).1 ∧
      Like (s.configurePipeline p).2 (t.configurePipeline p).2 := by
  have hpipeline := h.pipeline
  unfold configurePipeline
  cases hs : s.alacAudioPipeline with
  | none =>
    rw [hs] at hpipeline
    cases ht : t.alacAudioPipeline with
    | none => exact ⟨rfl, h⟩
    | some q => rw [ht] at hpipeline; cases hpipeline
  | some q =>
    rw [hs] at hpipeline
    cases ht : t.alacAudioPipeline with
    | none => rw [ht] at hpipeline; cases hpipeline
    | some q' =>
      rw [ht] at hpipeline
      cases hpipeline with
      | some hq =>
        cases alacConfigOf p with
        | none => exact ⟨rfl, h⟩
        | some c =>
          obtain ⟨hok, hlike⟩ := hq.configure c
          exact ⟨hok, { h with pipeline := .some hlike }⟩

theorem like_announce {s t : RtspSession δ κ} (h : Like s t) (r : RtspRequest) :
    (s.announce r).1 = (t.announce r).1 ∧ Like (s.announce r).2 (t.announce r).2 := by
  unfold announce
  split
  · exact ⟨rfl, h⟩
  · rename_i p hp
    split
    · exact ⟨rfl, h⟩
    · have hnew : Like ({ s with sdp := p, configured := true } : RtspSession δ κ)
          { t with sdp := p, configured := true } := { h with sdp := rfl, configured := rfl }
      obtain ⟨hok, hlike⟩ := like_configurePipeline hnew p
      simp only [configureCrypto_ok, Bool.not_true, Bool.false_eq_true, if_false, hok]
      split
      · exact ⟨rfl, hlike⟩
      · refine ⟨rfl, ?_⟩
        unfold configureCrypto
        split
        · exact hlike
        · rw [hlike.crypto]
          exact { hlike with crypto := rfl }

theorem like_map_reset {s t : RtspSession δ κ} (h : Like s t) :
    Option.Rel AlacAudioPipeline.Like (s.alacAudioPipeline.map AlacAudioPipeline.reset)
      (t.alacAudioPipeline.map AlacAudioPipeline.reset) :=
  rel_map (fun _ _ hq => hq.reset) h.pipeline

theorem like_reset {s t : RtspSession δ κ} (h : Like s t) : Like s.reset t.reset :=
  { h with
    configured := rfl
    setupInfoComplete := rfl
    recording := rfl
    sdp := rfl
    crypto := rfl
    jitterBuffer := congrArg RtpJitterBuffer.reset h.jitterBuffer
    mediaPacketHandler := rfl
    receivedPackets := rfl
    receivedBytes := rfl
    dataPort := Iff.rfl
    controlPort := Iff.rfl
    timingPort := Iff.rfl
    media := .new
    control := .new
    timing := .new
    pipeline := like_map_reset h }

theorem like_handle {s t : RtspSession δ κ} (h : Like s t) {e e' : Sockets}
    (he : e.succeed = true) (he' : e'.succeed = true) (r : RtspRequest) :
    LikeResults r (s.handle e r).1 (t.handle e' r).1 ∧
      Like (s.handle e r).2 (t.handle e' r).2 := by
  unfold handle
  cases r.verb with
  | setup => exact like_setup h he he' r
  | announce =>
    obtain ⟨hx, hlike⟩ := like_announce h r
    exact ⟨Or.inl hx, hlike⟩
  | record =>
    simp only [record, h.configured, h.media.running]
    split
    · exact ⟨Or.inl rfl, h⟩
    · exact ⟨Or.inl rfl, { h with recording := rfl, configured := rfl }⟩
  | pause => exact ⟨Or.inl rfl, { h with recording := rfl, pipeline := like_map_reset h }⟩
  | flush =>
    exact ⟨Or.inl rfl, { h with jitterBuffer := congrArg RtpJitterBuffer.reset h.jitterBuffer }⟩
  | teardown => exact ⟨Or.inl rfl, like_reset h⟩
  | options => exact ⟨Or.inl rfl, h⟩
  | getParameter => exact ⟨Or.inl rfl, h⟩
  | setParameter => exact ⟨Or.inl rfl, h⟩
  | unknown => exact ⟨Or.inl rfl, h⟩

theorem like_handleMediaPacket {s t : RtspSession δ κ} (h : Like s t) (p : RtpPacket) :
    (s.handleMediaPacket p).1 = (t.handleMediaPacket p).1 ∧
      Like (s.handleMediaPacket p).2 (t.handleMediaPacket p).2 := by
  have hpushes : ∀ (ordered : List RtpPacket) (q q' : AlacAudioPipeline δ κ), q.Like q' →
      (ordered.foldl (fun pipeline packet => (pipeline.push packet).2) q).Like
        (ordered.foldl (fun pipeline packet => (pipeline.push packet).2) q') := by
    intro ordered
    induction ordered with
    | nil => exact fun _ _ hq => hq
    | cons packet rest ih => exact fun q q' hq => ih _ _ (hq.push packet)
  unfold handleMediaPacket
  rw [h.recording, h.jitterBuffer]
  split
  · exact ⟨rfl, h⟩
  · split
    · exact ⟨rfl, { h with recording := rfl, jitterBuffer := rfl }⟩
    · rename_i ordered buffer hover
      rw [h.mediaPacketHandler, h.receivedPackets, h.receivedBytes]
      have hpushed : Option.Rel AlacAudioPipeline.Like
          (s.alacAudioPipeline.map
            (ordered.foldl (fun pipeline packet => (pipeline.push packet).2)))
          (t.alacAudioPipeline.map
            (ordered.foldl (fun pipeline packet => (pipeline.push packet).2))) :=
        rel_map (hpushes ordered) h.pipeline
      exact ⟨rfl, { h with
        recording := rfl
        jitterBuffer := rfl
        mediaPacketHandler := rfl
        receivedPackets := rfl
        receivedBytes := rfl
        pipeline := hpushed }⟩

theorem like_deliver {s t : RtspSession δ κ} (h : Like s t) (bytes : Bytes) :
    Like (s.deliver bytes) (t.deliver bytes) := by
  unfold deliver
  rw [h.media.live]
  split
  · split
    · exact h
    · exact (like_handleMediaPacket h _).2
  · exact h

theorem like_setAlacAudioPipeline {s t : RtspSession δ κ} (h : Like s t)
    (pipeline : Option (AlacAudioPipeline δ κ)) :
    Like (s.setAlacAudioPipeline pipeline) (t.setAlacAudioPipeline pipeline) := by
  have hnew : Like ({ s with alacAudioPipeline := pipeline } : RtspSession δ κ)
      { t with alacAudioPipeline := pipeline } := by
    exact { h with pipeline := rel_refl AlacAudioPipeline.Like.refl pipeline }
  have hconfigured : ∀ p, p = t.sdp →
      Like (({ s with alacAudioPipeline := pipeline } : RtspSession δ κ).configurePipeline p).2
        (({ t with alacAudioPipeline := pipeline } : RtspSession δ κ).configurePipeline t.sdp).2 := by
    intro p hp
    subst hp
    exact (like_configurePipeline hnew t.sdp).2
  unfold setAlacAudioPipeline
  dsimp only
  by_cases hc : s.configured = true
  · rw [if_pos hc, if_pos (h.configured ▸ hc)]
    exact hconfigured s.sdp h.sdp
  · rw [if_neg hc, if_neg (h.configured ▸ hc)]
    exact hnew

end RtspSession
end AirPlay2
