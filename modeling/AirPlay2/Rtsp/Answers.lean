import AirPlay2.Rtsp.Ports

/- What a SETUP advertises. Its three forms answer with ports of the transport, in a
   property list or in the Transport header (`SetupAnswer`), and a port that is not
   zero is live (`run_ports_live_stable`). So a SETUP advertises a dead port only if
   a port it answers with is still zero. The first binary SETUP and the Transport SETUP
   bind what they advertise; the later binary SETUP only reads, and it is taken for a
   later one as soon as a first one was tried (`run_setup_live_iff`). -/
namespace AirPlay2
open Lib RtpReceiver

inductive PortKind where
  | data
  | control
  | event
  deriving DecidableEq

/-- What an accepted SETUP answers with: the arguments of the property list it sends,
    the host only for PTP, or the ports of the Transport header. -/
inductive SetupAnswer where
  | info (eventPort timingPort : UInt16) (ptpHost : Option Bytes)
  | stream (dataPort controlPort : UInt16) (type : ℤ)
  | transport (t : RtpTransport)

namespace SetupAnswer

/-- The data, control and event ports; the timing port is zero by design with PTP. -/
def ports : SetupAnswer → List (PortKind × UInt16)
  | info eventPort _ _ => [(.event, eventPort)]
  | stream dataPort controlPort _ => [(.data, dataPort), (.control, controlPort)]
  | transport t => [(.data, t.serverDataPort), (.control, t.serverControlPort)]

/-- A 200 with a property list. -/
def plistResponse (r : RtspRequest) (body : Bytes) : RtspResponse :=
  (({ baseResponse r 200 (ascii "OK") with body := body } : RtspResponse)
    |>.withHeader (ascii "Content-Length") (toDecimal body.length)
    |>.withHeader (ascii "Content-Type") (ascii "application/x-apple-binary-plist"))

def render (r : RtspRequest) : SetupAnswer → Except StdException RtspResponse
  | info eventPort timingPort none =>
    .ok (plistResponse r (setupEventResponsePlist eventPort timingPort))
  | info eventPort _ (some host) =>
    match setupPtpResponsePlist eventPort host with
    | .error what => .error what
    | .ok body => .ok (plistResponse r body)
  | stream dataPort controlPort type =>
    let body := setupStreamResponsePlist dataPort controlPort type
    .ok (({ baseResponse r 200 (ascii "OK") with body := body } : RtspResponse)
      |>.withHeader (ascii "Content-Type") (ascii "application/x-apple-binary-plist")
      |>.withHeader (ascii "Content-Length") (toDecimal body.length))
  | transport t =>
    .ok (((baseResponse r 200 (ascii "OK")).withHeader (ascii "Session") (ascii "GWL-AIRPLAY-1"))
      |>.withHeader (ascii "Transport") (RtspSession.transportHeader t)
      |>.withHeader (ascii "Content-Length") (ascii "0"))

end SetupAnswer

/-- What the sockets report of a receiver that binds is a port. -/
def BindOutcome.reportsPort : BindOutcome → Bool
  | .bound port => port.getD 0 != 0
  | _ => true

def Sockets.reportPorts (e : Sockets) : Bool := e.media.reportsPort && e.control.reportsPort

theorem RtpReceiver.Touched.port_ne_zero {outcome : BindOutcome} {r r' : RtpReceiver}
    (h : Touched outcome r r') (ho : outcome.reportsPort = true)
    (hr : r.running = true → r.port ≠ 0) : r'.running = true → r'.port ≠ 0 := by
  have hbind : (r.bind outcome).2.running = true → (r.bind outcome).2.port ≠ 0 := by
    unfold RtpReceiver.bind
    split
    · exact hr
    · rename_i hrun
      cases outcome with
      | noSocket => exact hr
      | refused => simp [RtpReceiver.close]
      | bound port =>
        intro _
        cases port with
        | none => simp [BindOutcome.reportsPort] at ho
        | some port =>
          have hne : port ≠ 0 := by simpa [BindOutcome.reportsPort] using ho
          dsimp only
          split <;> exact hne
  obtain rfl | rfl | rfl := h
  · exact hr
  · exact hbind
  · rw [setPacketHandler_running, setPacketHandler_port]
    exact hbind

namespace RtspSession

variable {δ κ : Type*}

/-! ## The answer of a SETUP -/

/-- Which form of SETUP a request is, and its answer if it is accepted and leaves the
    transport `t`. -/
def setupAnswer (s : RtspSession δ κ) (r : RtspRequest) (t : RtpTransport) :
    Option SetupAnswer :=
  if !s.setupInfoComplete && isBinaryPlist r.body then
    some (.info t.eventPort t.serverTimingPort
      (if usesPtp r.body then some (uriHost r.uri) else none))
  else if !s.configured then none
  else if isBinaryPlist r.body then
    some (.stream t.serverDataPort t.serverControlPort (if setsUpAudio r.body then 96 else 110))
  else some (.transport t)

theorem setupInfo_answer {s : RtspSession δ κ} {e : Sockets} {r : RtspRequest}
    (h : s.infoBinds e (usesPtp r.body) = true) :
    (s.setupInfo e r).1 = SetupAnswer.render r
      (.info (s.setupInfo e r).2.transport.eventPort (s.setupInfo e r).2.transport.serverTimingPort
        (if usesPtp r.body then some (uriHost r.uri) else none)) := by
  have hok : (s.beginInfo.bindInfo e (usesPtp r.body)).1 = true := by
    rw [bindInfo_ok]
    exact h
  rw [setupInfo_after, if_pos hok]
  unfold setupInfo
  dsimp only
  show (if !(s.beginInfo.bindInfo e (usesPtp r.body)).1 then _ else _ : Handled δ κ).1 = _
  rw [hok]
  cases hp : usesPtp r.body with
  | false => rfl
  | true =>
    simp only [Bool.not_true, Bool.false_eq_true, if_false, if_true, SetupAnswer.render]
    -- the property list is built from the port the event channel left
    show (match setupPtpResponsePlist (s.beginInfo.bindInfo e true).2.transport.eventPort
        (uriHost r.uri) with
      | .error what => (.error what, _)
      | .ok body => (.ok (SetupAnswer.plistResponse r body), _) : Handled δ κ).1 =
      match setupPtpResponsePlist (s.beginInfo.bindInfo e true).2.transport.eventPort
        (uriHost r.uri) with
      | .error what => .error what
      | .ok body => .ok (SetupAnswer.plistResponse r body)
    cases setupPtpResponsePlist (s.beginInfo.bindInfo e true).2.transport.eventPort
        (uriHost r.uri) <;> rfl

theorem setupControl_ok (s : RtspSession δ κ) (outcome : BindOutcome) :
    (s.setupControl outcome).1 =
      (s.transport.serverControlPort != 0 || s.control.binds outcome) := by
  have hok : (s.bindControl outcome).1 = s.control.binds outcome := RtpReceiver.bind_ok _ _
  unfold setupControl
  by_cases hport : s.transport.serverControlPort = 0
  · simp only [hport, ne_eq, not_true_eq_false, if_false, hok, bne_self_eq_false, Bool.false_or]
    cases hb : s.control.binds outcome <;> simp [hok, hb]
  · simp [hport]

theorem setupTiming_ok (s : RtspSession δ κ) (outcome : BindOutcome) :
    (s.setupTiming outcome).1 =
      (s.transport.serverTimingPort != 0 || s.timing.binds outcome) := by
  have hok : (s.bindTiming outcome).1 = s.timing.binds outcome := RtpReceiver.bind_ok _ _
  unfold setupTiming
  by_cases hport : s.transport.serverTimingPort = 0
  · simp only [hport, ne_eq, not_true_eq_false, if_false, hok, bne_self_eq_false, Bool.false_or]
    cases hb : s.timing.binds outcome <;> simp [hok, hb]
  · simp [hport]

/-- Every socket call of a Transport SETUP succeeds. -/
def transportBinds (s : RtspSession δ κ) (e : Sockets) : Bool :=
  s.media.binds e.media &&
    (s.transport.serverControlPort != 0 || s.control.binds e.control) &&
    (s.transport.serverTimingPort != 0 || s.timing.binds e.timing)

theorem setupTransport_answer (s : RtspSession δ κ) (e : Sockets) (r : RtspRequest) :
    (s.setupTransport e r).1 =
      if s.transportBinds e then
        SetupAnswer.render r (.transport (s.setupTransport e r).2.transport)
      else .ok (serverError r) := by
  have hm : ((s.beginTransport r).bindMedia e.media).1 = s.media.binds e.media :=
    RtpReceiver.bind_ok _ _
  have hc : (((s.beginTransport r).offerMedia e.media).setupControl e.control).1 =
      (s.transport.serverControlPort != 0 || s.control.binds e.control) := setupControl_ok _ _
  have ht : ((((s.beginTransport r).offerMedia e.media).setupControl e.control).2.setupTiming
      e.timing).1 = (s.transport.serverTimingPort != 0 || s.timing.binds e.timing) := by
    obtain ⟨control, port, h, -⟩ :=
      setupControl_copies ((s.beginTransport r).offerMedia e.media) e.control
    rw [setupTiming_ok, h]
    rfl
  rw [setupTransport_after]
  unfold setupTransport transportBinds
  dsimp only
  show (if !((s.beginTransport r).bindMedia e.media).1 then _ else _ : Handled δ κ).1 = _
  rw [hm]
  cases s.media.binds e.media with
  | false => rfl
  | true =>
    simp only [Bool.not_true, Bool.false_eq_true, if_false, if_true, Bool.true_and]
    show (if !(((s.beginTransport r).offerMedia e.media).setupControl e.control).1
      then _ else _ : Handled δ κ).1 = _
    rw [hc]
    cases (s.transport.serverControlPort != 0 || s.control.binds e.control) with
    | false => rfl
    | true =>
      simp only [Bool.not_true, Bool.false_eq_true, if_false, if_true, Bool.true_and]
      show (if !((((s.beginTransport r).offerMedia e.media).setupControl e.control).2.setupTiming
        e.timing).1 then _ else _ : Handled δ κ).1 = _
      rw [ht]
      cases (s.transport.serverTimingPort != 0 || s.timing.binds e.timing) <;> rfl

/-- An accepted first binary SETUP got all its sockets. -/
theorem infoBinds_of_accepted {s : RtspSession δ κ} {e : Sockets} {r : RtspRequest}
    {x : RtspResponse} (hx : (s.setupInfo e r).1 = .ok x) (h200 : x.status = 200) :
    s.infoBinds e (usesPtp r.body) = true := by
  obtain ⟨-, h500⟩ | ⟨hbinds, -⟩ | ⟨hbinds, -⟩ := setupInfo_response s e r
  · rw [h500] at hx
    exact absurd h200 (not_accepted (show (500 : ℤ) ≠ 200 by decide) hx)
  · exact hbinds
  · exact hbinds

/-- An accepted Transport SETUP got all its sockets. -/
theorem transportBinds_of_accepted {s : RtspSession δ κ} {e : Sockets} {r : RtspRequest}
    {x : RtspResponse} (hx : (s.setupTransport e r).1 = .ok x) (h200 : x.status = 200) :
    s.transportBinds e = true := by
  by_contra hno
  rw [setupTransport_answer, if_neg hno] at hx
  exact absurd h200 (not_accepted (show (500 : ℤ) ≠ 200 by decide) hx)

/-! ## Ports that are there -/

/-- The port is not zero and is that of a receiver or event server running. -/
def LivePort (s : RtspSession δ κ) : PortKind → UInt16 → Prop
  | .data, port => port ≠ 0 ∧ s.media.running = true ∧ s.media.port = port
  | .control, port => port ≠ 0 ∧ s.control.running = true ∧ s.control.port = port
  | .event, port => port ≠ 0 ∧
      ∃ server, s.eventServer = some server ∧ server.running = true ∧ server.port = port

/-- Receivers that run have a port, and a control port is not advertised alone. -/
structure PortsReported (s : RtspSession δ κ) : Prop where
  media : s.media.running = true → s.media.port ≠ 0
  control : s.control.running = true → s.control.port ≠ 0
  order : s.transport.serverControlPort ≠ 0 → s.transport.serverDataPort ≠ 0

/-- The event is a SETUP with a property list that is taken for a later one. -/
def StreamSetup (s : RtspSession δ κ) (event : SessionEvent δ κ) : Prop :=
  ∃ r e, event = .request r e ∧ r.verb = .setup ∧ s.setupInfoComplete = true ∧
    s.configured = true ∧ isBinaryPlist r.body = true

/-- The event is a first binary SETUP whose socket calls all succeed, or a Transport
    SETUP that gets its media and control receivers. -/
def OpensPorts (s : RtspSession δ κ) (event : SessionEvent δ κ) : Prop :=
  ∃ r e, event = .request r e ∧ r.verb = .setup ∧
    ((s.setupInfoComplete = false ∧ isBinaryPlist r.body = true ∧
        s.infoBinds e (usesPtp r.body) = true) ∨
      (s.configured = true ∧ isBinaryPlist r.body = false ∧ s.media.binds e.media = true ∧
        s.control.binds e.control = true))

theorem PortsReported.portStep {e : Sockets} {s s' : RtspSession δ κ} (h : PortsReported s)
    (hl : PortsLive s) (he : e.reportPorts = true) (hstep : PortStep e s s') :
    PortsReported s' := by
  simp only [Sockets.reportPorts, Bool.and_eq_true] at he
  have hmedia := hstep.media.port_ne_zero he.1 h.media
  refine ⟨hmedia, hstep.control.port_ne_zero he.2 h.control, ?_⟩
  intro hne
  obtain hsame | ⟨hrun, hport⟩ := hstep.together
  · rw [hsame] at hne
    have hdata := h.order hne
    rw [((hl.portStep hstep).2.data hdata).1]
    exact hdata
  · rw [hport]
    exact hmedia hrun

theorem portsReported_reset [AlacDecoder δ] [AudioSink κ] (s : RtspSession δ κ) :
    PortsReported s.reset :=
  ⟨fun h => by simp [reset, media] at h, fun h => by simp [reset, control] at h,
    fun h => absurd rfl h⟩

/-- The control port after its part of a Transport SETUP. -/
theorem setupControl_port {s : RtspSession δ κ} {outcome : BindOutcome}
    (h : s.control.running = true → s.control.port ≠ 0) (ho : outcome.reportsPort = true) :
    (s.setupControl outcome).2.transport.serverControlPort ≠ 0 ↔
      s.control.binds outcome = true ∨ s.transport.serverControlPort ≠ 0 := by
  have hok : (s.bindControl outcome).1 = s.control.binds outcome := RtpReceiver.bind_ok _ _
  unfold setupControl
  by_cases hport : s.transport.serverControlPort = 0
  · simp only [hport, ne_eq, not_true_eq_false, if_false, or_false, hok]
    cases hb : s.control.binds outcome with
    | false =>
      simp only [Bool.not_false, if_true, Bool.false_eq_true, iff_false, not_not]
      exact hport
    | true =>
      have hbound : (s.control.bind outcome).2.port ≠ 0 :=
        Touched.port_ne_zero (Or.inr (Or.inl rfl)) ho h (RtpReceiver.bind_running hb)
      simp only [Bool.not_true, Bool.false_eq_true, if_false, iff_true]
      exact hbound
  · simp [hport]

/-- The control port after a first binary SETUP. -/
theorem setupInfo_controlPort {s : RtspSession δ κ} {e : Sockets} {r : RtspRequest}
    (h : s.control.running = true → s.control.port ≠ 0) (ho : e.control.reportsPort = true) :
    (s.setupInfo e r).2.transport.serverControlPort ≠ 0 ↔
      s.infoBinds e (usesPtp r.body) = true ∨ s.transport.serverControlPort ≠ 0 := by
  have hbound := bindInfo_bound s.beginInfo e (usesPtp r.body)
  have hok : (s.beginInfo.bindInfo e (usesPtp r.body)).1 = s.infoBinds e (usesPtp r.body) :=
    bindInfo_ok _ _ _
  rw [setupInfo_after, hok]
  cases hbinds : s.infoBinds e (usesPtp r.body) with
  | false =>
    simp only [Bool.false_eq_true, if_false, false_or]
    rw [hbound.controlPort]
    rfl
  | true =>
    rw [hbinds] at hok
    simp only [if_true, true_or, iff_true]
    exact hbound.control.port_ne_zero ho h (hbound.running hok).2

/-- The control port after a Transport SETUP. -/
theorem setupTransport_controlPort {s : RtspSession δ κ} {e : Sockets} {r : RtspRequest}
    (h : s.control.running = true → s.control.port ≠ 0) (ho : e.control.reportsPort = true) :
    (s.setupTransport e r).2.transport.serverControlPort ≠ 0 ↔
      (s.media.binds e.media = true ∧ s.control.binds e.control = true) ∨
        s.transport.serverControlPort ≠ 0 := by
  rw [setupTransport_after]
  cases s.media.binds e.media with
  | false => simp [beginTransport, bindMedia]
  | true =>
    have hport : (((s.beginTransport r).offerMedia e.media).setupControl
        e.control).2.transport.serverControlPort ≠ 0 ↔
        s.control.binds e.control = true ∨ s.transport.serverControlPort ≠ 0 :=
      setupControl_port h ho
    simp only [if_true, true_and]
    split
    · -- the timing part leaves the control port alone
      obtain ⟨timing, port, ht⟩ := setupTiming_copies
        (((s.beginTransport r).offerMedia e.media).setupControl e.control).2 e.timing
      rw [ht]
      exact hport
    · exact hport

theorem opensPorts_iff {s : RtspSession δ κ} {e : Sockets} {r : RtspRequest}
    (hv : r.verb = .setup) :
    OpensPorts s (.request r e) ↔
      (s.setupInfoComplete = false ∧ isBinaryPlist r.body = true ∧
          s.infoBinds e (usesPtp r.body) = true) ∨
        (s.configured = true ∧ isBinaryPlist r.body = false ∧ s.media.binds e.media = true ∧
          s.control.binds e.control = true) := by
  simp [OpensPorts, hv]

/-- The control port after a SETUP. -/
theorem setup_controlPort {s : RtspSession δ κ} {e : Sockets} {r : RtspRequest}
    (hv : r.verb = .setup) (h : PortsReported s) (he : e.reportPorts = true) :
    (s.setup e r).2.transport.serverControlPort ≠ 0 ↔
      OpensPorts s (.request r e) ∨ s.transport.serverControlPort ≠ 0 := by
  have hec : e.control.reportsPort = true := by
    simp only [Sockets.reportPorts, Bool.and_eq_true] at he
    exact he.2
  rw [opensPorts_iff hv]
  unfold setup
  by_cases hinfo : s.setupInfoComplete = false ∧ isBinaryPlist r.body = true
  · obtain ⟨hi, hb⟩ := hinfo
    simp only [hi, hb, Bool.not_false, Bool.and_self, if_true, true_and, Bool.true_eq_false,
      false_and, and_false, or_false]
    exact setupInfo_controlPort h.control hec
  · have hcond : (!s.setupInfoComplete && isBinaryPlist r.body) = false := by
      cases hi : s.setupInfoComplete <;> cases hb : isBinaryPlist r.body <;> simp_all
    rw [hcond]
    cases hc : s.configured with
    | false =>
      simp only [Bool.false_eq_true, if_false, Bool.not_false, if_true, false_and, or_false]
      simp only [← and_assoc, hinfo, false_and, false_or]
    | true =>
      cases hb : isBinaryPlist r.body with
      | true =>
        simp only [hb, and_true] at hinfo
        simp [hinfo, setupStream]
      | false =>
        simp only [Bool.false_eq_true, if_false, Bool.not_true, false_and, and_false, true_and,
          false_or]
        exact setupTransport_controlPort h.control hec

variable [AlacDecoder δ] [AudioSink κ]

/-- If the request is a SETUP and accepted, the response is the rendering of an answer whose
    ports are live. -/
def AdvertisesLive (s : RtspSession δ κ) (e : Sockets) (r : RtspRequest) : Prop :=
  r.verb = .setup → ∀ x, (s.handle e r).1 = .ok x → x.status = 200 →
    ∃ a, s.setupAnswer r (s.handle e r).2.transport = some a ∧ a.render r = .ok x ∧
      ∀ q ∈ a.ports, (s.handle e r).2.LivePort q.1 q.2

/-- An accepted SETUP is answered with the rendering of its answer. -/
theorem setup_renders {s : RtspSession δ κ} {e : Sockets} {r : RtspRequest} {x : RtspResponse}
    (hv : r.verb = .setup) (hx : (s.handle e r).1 = .ok x) (h200 : x.status = 200) :
    ∃ a, s.setupAnswer r (s.handle e r).2.transport = some a ∧ a.render r = .ok x := by
  simp only [handle, hv] at hx ⊢
  unfold setup at hx ⊢
  unfold setupAnswer
  split
  · rename_i hinfo
    rw [if_pos hinfo] at hx
    refine ⟨_, rfl, ?_⟩
    rw [← setupInfo_answer (infoBinds_of_accepted hx h200), hx]
  · rename_i hinfo
    rw [if_neg hinfo] at hx
    split
    · rename_i hconf
      rw [if_pos hconf] at hx
      exact absurd h200 (not_accepted (show (455 : ℤ) ≠ 200 by decide) hx)
    · rename_i hconf
      rw [if_neg hconf] at hx
      split
      · rename_i hbin
        rw [if_pos hbin] at hx
        exact ⟨_, rfl, hx⟩
      · rename_i hbin
        rw [if_neg hbin] at hx
        refine ⟨_, rfl, ?_⟩
        rw [← hx, setupTransport_answer, if_pos (transportBinds_of_accepted hx h200)]

/-- So only the ports are to be looked at. -/
theorem advertisesLive_iff_ports {s : RtspSession δ κ} {e : Sockets} {r : RtspRequest}
    (hv : r.verb = .setup) :
    AdvertisesLive s e r ↔ ∀ x a, (s.handle e r).1 = .ok x → x.status = 200 →
      s.setupAnswer r (s.handle e r).2.transport = some a →
        ∀ q ∈ a.ports, (s.handle e r).2.LivePort q.1 q.2 := by
  refine ⟨?_, ?_⟩
  · intro hlive x a hx h200 ha
    obtain ⟨a', ha', -, hports⟩ := hlive hv x hx h200
    obtain rfl := Option.some.inj (ha.symm.trans ha')
    exact hports
  · intro hports _ x hx h200
    obtain ⟨a, ha, hrender⟩ := setup_renders hv hx h200
    exact ⟨a, ha, hrender, hports x a hx h200 ha⟩

omit [AlacDecoder δ] [AudioSink κ] in
/-- What is not zero is live. -/
theorem PortsLive.livePort {s : RtspSession δ κ} (h : PortsLive s) :
    (s.transport.serverDataPort ≠ 0 → s.LivePort .data s.transport.serverDataPort) ∧
      (s.transport.serverControlPort ≠ 0 → s.LivePort .control s.transport.serverControlPort) ∧
      (s.transport.eventPort ≠ 0 → s.LivePort .event s.transport.eventPort) :=
  ⟨fun hne => ⟨hne, h.data hne⟩, fun hne => ⟨hne, h.control hne⟩, fun hne => ⟨hne, h.event hne⟩⟩

omit [AlacDecoder δ] [AudioSink κ] in
/-- With a control port both ports of a stream are live. -/
theorem PortsReported.livePorts {s : RtspSession δ κ} (h : PortsReported s) (hl : PortsLive s)
    (hne : s.transport.serverControlPort ≠ 0) {q : PortKind × UInt16}
    (hq : q ∈ [(.data, s.transport.serverDataPort), (.control, s.transport.serverControlPort)]) :
    s.LivePort q.1 q.2 := by
  obtain ⟨hdata, hcontrol, -⟩ := hl.livePort
  obtain rfl | hq := List.mem_cons.mp hq
  · exact hdata (h.order hne)
  · obtain rfl := List.mem_singleton.mp hq
    exact hcontrol hne

omit [AlacDecoder δ] [AudioSink κ] in
/-- A first binary SETUP that is accepted has an event port. -/
theorem setupInfo_eventPort {s : RtspSession δ κ} {e : Sockets} {r : RtspRequest}
    {x : RtspResponse} (hx : (s.setupInfo e r).1 = .ok x) (h200 : x.status = 200) :
    (s.setupInfo e r).2.transport.eventPort ≠ 0 := by
  have hok : (s.beginInfo.bindInfo e (usesPtp r.body)).1 = true := by
    rw [bindInfo_ok]
    exact infoBinds_of_accepted hx h200
  rw [setupInfo_after, if_pos hok]
  exact ((bindInfo_bound s.beginInfo e (usesPtp r.body)).eventPort hok).2

omit [AlacDecoder δ] [AudioSink κ] in
/-- A Transport SETUP that is accepted leaves a control port. -/
theorem setupTransport_accepted {s : RtspSession δ κ} {e : Sockets} {r : RtspRequest}
    (h : PortsReported s) (ho : e.control.reportsPort = true) {x : RtspResponse}
    (hx : (s.setupTransport e r).1 = .ok x) (h200 : x.status = 200) :
    (s.setupTransport e r).2.transport.serverControlPort ≠ 0 := by
  have hbinds := transportBinds_of_accepted hx h200
  simp only [transportBinds, Bool.and_eq_true, Bool.or_eq_true, bne_iff_ne] at hbinds
  obtain ⟨⟨hmedia, hcontrol⟩, -⟩ := hbinds
  rw [setupTransport_controlPort h.control ho]
  obtain hport | hbinds := hcontrol
  · exact Or.inr hport
  · exact Or.inl ⟨hmedia, hbinds⟩

/-- A SETUP advertises live ports, but for a later binary one before there are any. -/
theorem advertisesLive_iff {s : RtspSession δ κ} {e : Sockets} {r : RtspRequest}
    (hl : PortsLive s) (h : PortsReported s) (he : e.reportPorts = true) :
    AdvertisesLive s e r ↔
      (StreamSetup s (.request r e) → s.transport.serverControlPort ≠ 0) := by
  by_cases hv : r.verb = .setup
  · have hlive := (hl.portStep (setup_portStep s e r)).1
    have hreported := h.portStep hl he (setup_portStep s e r)
    have hstream : StreamSetup s (.request r e) ↔
        s.setupInfoComplete = true ∧ s.configured = true ∧ isBinaryPlist r.body = true := by
      simp [StreamSetup, hv]
    rw [hstream, advertisesLive_iff_ports hv]
    simp only [hv, handle]
    unfold setupAnswer
    by_cases hinfo : (!s.setupInfoComplete && isBinaryPlist r.body) = true
    · -- the event port is bound by the request itself
      have hset : s.setup e r = s.setupInfo e r := if_pos hinfo
      simp only [if_pos hinfo]
      simp only [Bool.and_eq_true, Bool.not_eq_true'] at hinfo
      refine iff_of_true ?_ (by simp [hinfo.1])
      intro x a hx h200 ha q hq
      rw [hset] at hx ha hlive ⊢
      obtain rfl := Option.some.inj ha
      obtain rfl := List.mem_singleton.mp hq
      exact hlive.livePort.2.2 (setupInfo_eventPort hx h200)
    · have hset : s.setup e r =
          if !s.configured then (.ok (methodNotValid r), s)
          else if isBinaryPlist r.body then s.setupStream r else s.setupTransport e r :=
        if_neg hinfo
      simp only [if_neg hinfo]
      cases hc : s.configured with
      | false => simp
      | true =>
        rw [hc] at hset
        cases hb : isBinaryPlist r.body with
        | true =>
          -- the ports are those of before
          have hi : s.setupInfoComplete = true := by simpa [hb] using hinfo
          simp only [hb, Bool.not_true, Bool.false_eq_true, if_false, if_true] at hset ⊢
          rw [hset]
          simp only [hi, true_implies, and_self]
          refine ⟨?_, ?_⟩
          · intro hall
            exact (hall _ _ rfl rfl rfl (.control, s.transport.serverControlPort) (by
              simp [SetupAnswer.ports, setupStream])).1
          · intro hne x a _ _ ha q hq
            obtain rfl := Option.some.inj ha
            exact h.livePorts hl hne hq
        | false =>
          -- the ports are bound by the request itself
          simp only [hb, Bool.not_true, Bool.false_eq_true, if_false] at hset ⊢
          rw [hset] at hlive hreported ⊢
          refine iff_of_true ?_ (by simp)
          intro x a hx h200 ha q hq
          obtain rfl := Option.some.inj ha
          simp only [Sockets.reportPorts, Bool.and_eq_true] at he
          exact hreported.livePorts hlive (setupTransport_accepted h he.2 hx h200) hq
  · refine iff_of_true (fun h => absurd h hv) ?_
    intro hstream
    obtain ⟨r', e', hevent, hv', -⟩ := hstream
    obtain ⟨rfl, rfl⟩ := SessionEvent.request.inj hevent
    exact absurd hv' hv

/-- The control port is advertised from an event that opens it to the next TEARDOWN. -/
theorem controlPort_step_iff {s s' : RtspSession δ κ} {event : SessionEvent δ κ}
    (h : PortsReported s) (he : event.sockets.reportPorts = true) (hstep : s.step event = .ok s') :
    s'.transport.serverControlPort ≠ 0 ↔
      OpensPorts s event ∨ (s.transport.serverControlPort ≠ 0 ∧ ¬ TearsDown event) := by
  obtain ⟨hport, hdown⟩ := step_portStep hstep
  by_cases ht : TearsDown event
  · rw [hdown ht]
    apply iff_of_false (fun hne => hne rfl)
    intro hor
    obtain ⟨r, e, hevent, hv, -⟩ | ⟨-, hn⟩ := hor
    · obtain ⟨r', e', hevent', hv'⟩ := ht
      obtain ⟨rfl, rfl⟩ := SessionEvent.request.inj (hevent.symm.trans hevent')
      rw [hv'] at hv
      cases hv
    · exact hn ht
  · simp only [ht, not_false_eq_true, and_true]
    by_cases hsetup : SetsUp event
    · obtain ⟨r, e, rfl, hv⟩ := hsetup
      rw [step_setup hv hstep]
      exact setup_controlPort hv h he
    · -- no other event touches a port
      have hno : ¬ OpensPorts s event := by
        intro hopens
        obtain ⟨r, e, hevent, hv, -⟩ := hopens
        exact hsetup ⟨r, e, hevent, hv⟩
      rw [(step_portsSame hstep hsetup ht).transport]
      simp [hno]

theorem PortsReported.step {s s' : RtspSession δ κ} {event : SessionEvent δ κ}
    (h : PortsReported s) (hl : PortsLive s) (he : event.sockets.reportPorts = true)
    (hstep : s.step event = .ok s') : PortsReported s' := by
  obtain ⟨hport, hdown⟩ := step_portStep hstep
  by_cases ht : TearsDown event
  · rw [hdown ht]
    exact portsReported_reset s
  · exact h.portStep hl he (hport ht)

end RtspSession

namespace Process

variable {δ κ : Type*} [AlacDecoder δ] [AudioSink κ]

/-- A SETUP of a session still alive advertises live ports. -/
def AdvertisesLive (p : Process δ κ) (event : SessionEvent δ κ) : Prop :=
  ∀ s r e, p = .ok s → event = .request r e → s.AdvertisesLive e r

def StreamSetup (p : Process δ κ) (event : SessionEvent δ κ) : Prop :=
  ∃ s, p = .ok s ∧ s.StreamSetup event

def OpensPorts (p : Process δ κ) (event : SessionEvent δ κ) : Prop :=
  ∃ s, p = .ok s ∧ s.OpensPorts event

def HasControlPort (p : Process δ κ) : Prop :=
  ∃ s, p = .ok s ∧ s.transport.serverControlPort ≠ 0

def PortsReported (p : Process δ κ) : Prop := ∀ s, p = .ok s → s.PortsLive ∧ s.PortsReported

theorem portsReported_run {events : List (SessionEvent δ κ)}
    (hports : ∀ event ∈ events, event.sockets.reportPorts = true) :
    PortsReported (run step start events) := by
  apply run_induction_along
  · intro s hs
    refine ⟨portsLive_run [] s hs, ?_⟩
    obtain rfl := Except.ok.inj hs
    refine ⟨?_, ?_, fun h => absurd rfl h⟩ <;> (intro h; cases h)
  · intro p event hmem hp s' hs'
    obtain ⟨s, hs, hstep⟩ := step_eq_ok.mp hs'
    obtain ⟨hl, hr⟩ := hp s hs
    exact ⟨(hl.step hstep).1, hr.step hl (hports event hmem) hstep⟩

/-- A session has a control port if one was opened after the last TEARDOWN. -/
theorem hasControlPort_iff_since {events : List (SessionEvent δ κ)}
    (hports : ∀ event ∈ events, event.sockets.reportPorts = true)
    (halive : ∃ s, run step start events = .ok s) :
    HasControlPort (run step start events) ↔
      Since step OpensPorts RtspSession.TearsDown start events := by
  apply holds_iff_since_along
  · intro hhas
    obtain ⟨s, hs, hne⟩ := hhas
    obtain rfl := Except.ok.inj hs
    exact hne rfl
  · intro before event hp
    obtain ⟨rest, hrest⟩ := hp
    obtain ⟨last, hlast⟩ := halive
    rw [← hrest] at hlast
    obtain ⟨s', hs'⟩ := run_ok_prefix hlast
    rw [run_snoc] at hs'
    obtain ⟨s, hs, hstep⟩ := step_eq_ok.mp hs'
    have hmem : ∀ e, e ∈ before ++ [event] → e.sockets.reportPorts = true := by
      intro e he
      apply hports e
      rw [← hrest]
      exact List.mem_append_left rest he
    obtain ⟨-, hr⟩ := portsReported_run (fun e he => hmem e (List.mem_append_left _ he)) s hs
    have hport := RtspSession.controlPort_step_iff hr (hmem event (by simp)) hstep
    rw [hs] at hs' ⊢
    simpa [HasControlPort, OpensPorts, hs'] using hport

/-- **When SETUP advertises live ports.** In every run of a session, whatever the socket
    calls return as long as a receiver that binds gets a port, each accepted SETUP is
    answered with ports that are not zero and live, if and only if each SETUP that is
    taken for a later binary one comes after a first binary SETUP that got all its
    sockets or a Transport SETUP that got its media and control receivers, with no
    TEARDOWN between. -/
theorem run_setup_live_iff (events : List (SessionEvent δ κ))
    (hports : ∀ event ∈ events, event.sockets.reportPorts = true) :
    Each step AdvertisesLive start events ↔
      ∀ before event, before ++ [event] <+: events →
        StreamSetup (run step start before) event →
          Since step OpensPorts RtspSession.TearsDown start before := by
  have hone : ∀ before event, before ++ [event] <+: events →
      (AdvertisesLive (run step start before) event ↔
        (StreamSetup (run step start before) event →
          Since step OpensPorts RtspSession.TearsDown start before)) := by
    intro before event hp
    have hmem : ∀ e, e ∈ before ++ [event] → e.sockets.reportPorts = true := by
      intro e he
      exact hports e (hp.subset he)
    have hbefore : ∀ e, e ∈ before → e.sockets.reportPorts = true :=
      fun e he => hmem e (List.mem_append_left _ he)
    cases hrun : run step start before with
    | error what => simp [AdvertisesLive, StreamSetup]
    | ok s =>
      obtain ⟨hl, hr⟩ := portsReported_run hbefore s hrun
      rw [← hasControlPort_iff_since hbefore ⟨s, hrun⟩, hrun]
      simp only [AdvertisesLive, StreamSetup, HasControlPort, Except.ok.injEq, exists_eq_left']
      cases event with
      | request r e =>
        have hiff := RtspSession.advertisesLive_iff (e := e) (r := r) hl hr (hmem (.request r e) (by simp))
        simpa using hiff
      | datagram bytes => simp [RtspSession.StreamSetup]
      | setMediaPacketHandler installed => simp [RtspSession.StreamSetup]
      | setAlacAudioPipeline pipeline => simp [RtspSession.StreamSetup]
  refine ⟨?_, ?_⟩
  · intro h before event hp
    exact (hone before event hp).mp (h before event hp)
  · intro h before event hp
    exact (hone before event hp).mpr (h before event hp)

def plistSetup : RtspRequest := { method := ascii "SETUP", body := ascii "bplist00" }

def someSockets : Sockets :=
  { media := .bound (some 6000), control := .bound (some 6001), timing := .bound (some 6002)
    event := .listening (some 7001) }

/-- A first binary SETUP with its sockets and a later one advertise live ports. -/
theorem setupTwice_live :
    Each step AdvertisesLive (start : Process NullAlacDecoder NullAudioSink)
      [.request plistSetup someSockets, .request plistSetup someSockets] := by
  apply (run_setup_live_iff _ (by simp [SessionEvent.sockets, someSockets, Sockets.reportPorts,
    BindOutcome.reportsPort])).mpr
  intro before event hp hstream
  have hopens : OpensPorts (start : Process NullAlacDecoder NullAudioSink)
      (.request plistSetup someSockets) :=
    ⟨_, rfl, _, _, rfl, by decide, Or.inl (by decide)⟩
  cases before with
  | nil =>
    obtain ⟨s, hs, r, e, -, -, hinfo, -⟩ := hstream
    obtain rfl := Except.ok.inj hs
    cases hinfo
  | cons first rest =>
    obtain ⟨rfl, hrest⟩ := List.cons_prefix_cons.mp hp
    cases rest with
    | nil => exact ⟨[], _, [], rfl, hopens, by simp⟩
    | cons second rest =>
      have hlen := hrest.length_le
      simp at hlen

/-- A first binary SETUP fails on its media socket. The same SETUP sent again is taken
    for a later one and answered with ports zero. -/
theorem setupRetry_dead :
    ¬ Each step AdvertisesLive (start : Process NullAlacDecoder NullAudioSink)
      [.request plistSetup { someSockets with media := .noSocket },
        .request plistSetup someSockets] := by
  intro h
  obtain ⟨a, ha, -, hlive⟩ := h [.request plistSetup { someSockets with media := .noSocket }] _
    (List.prefix_refl _) _ _ _ rfl rfl (by decide) _ rfl rfl
  obtain rfl := Option.some.inj ha
  exact (hlive (.data, 0) (by decide)).1 rfl

end Process
end AirPlay2
