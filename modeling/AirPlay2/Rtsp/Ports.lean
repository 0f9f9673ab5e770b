import AirPlay2.Rtsp.Consumer

/- The ports a session advertises. `transport()` holds copies of the ports of its
   receivers and event server, taken at other places than where these are bound, so
   what a step can do to both is said once (`PortStep`): a receiver is bound or given
   its handler, never closed, and a port is left alone or copied from a receiver that
   runs. Binding a running receiver does nothing. From this alone an advertised port
   is live in every reachable state, and between two TEARDOWNs it does not change
   (`run_ports_live`, `run_ports_stable`). -/
namespace AirPlay2
open Lib

namespace RtpReceiver

/-- `r'` is `r`, or `r` after a bind with the outcome and perhaps a handler. -/
def Touched (outcome : BindOutcome) (r r' : RtpReceiver) : Prop :=
  r' = r ∨ r' = (r.bind outcome).2 ∨ r' = (r.bind outcome).2.setPacketHandler

/-- The socket of `r` is open in `r'` and was not closed: at most the handler is new. -/
def Held (r r' : RtpReceiver) : Prop :=
  r'.running = true ∧ (r' = r ∨ r' = r.setPacketHandler)

@[simp] theorem setPacketHandler_running (r : RtpReceiver) :
    r.setPacketHandler.running = r.running := by
  unfold setPacketHandler
  dsimp only
  split <;> rfl

@[simp] theorem setPacketHandler_port (r : RtpReceiver) : r.setPacketHandler.port = r.port := by
  unfold setPacketHandler
  dsimp only
  split <;> rfl

@[simp] theorem setPacketHandler_idem (r : RtpReceiver) :
    r.setPacketHandler.setPacketHandler = r.setPacketHandler := by
  unfold setPacketHandler
  cases h : r.running <;> simp

theorem Held.refl {r : RtpReceiver} (h : r.running = true) : Held r r := ⟨h, Or.inl rfl⟩

theorem Held.port {r r' : RtpReceiver} (h : Held r r') : r'.port = r.port := by
  obtain ⟨-, rfl | rfl⟩ := h
  · rfl
  · exact setPacketHandler_port r

theorem Held.trans {r r' r'' : RtpReceiver} (h : Held r r') (h' : Held r' r'') : Held r r'' := by
  obtain ⟨-, rfl | rfl⟩ := h
  · exact h'
  · obtain ⟨hr, rfl | rfl⟩ := h'
    · exact ⟨hr, Or.inr rfl⟩
    · exact ⟨hr, Or.inr (setPacketHandler_idem r)⟩

/-- A running receiver keeps its socket when touched. -/
theorem Touched.held {outcome : BindOutcome} {r r' : RtpReceiver} (h : Touched outcome r r')
    (hr : r.running = true) : Held r r' := by
  obtain rfl | rfl | rfl := h
  · exact Held.refl hr
  · rw [bind_of_running hr]
    exact Held.refl hr
  · rw [bind_of_running hr]
    exact ⟨by rw [setPacketHandler_running, hr], Or.inr rfl⟩

end RtpReceiver

open RtpReceiver

/-- A nonzero port is the port of the receiver, which runs. -/
def Backed (port : UInt16) (r : RtpReceiver) : Prop :=
  port ≠ 0 → r.running = true ∧ r.port = port

/-- The port is left alone, or copied from the receiver, which runs. -/
def Copied (port port' : UInt16) (r' : RtpReceiver) : Prop :=
  port' = port ∨ (r'.running = true ∧ port' = r'.port)

/-- A port backed by a receiver stays so, and if it is not zero it stays what it is
    and the socket stays open. -/
theorem Backed.step {port port' : UInt16} {outcome : BindOutcome} {r r' : RtpReceiver}
    (h : Backed port r) (ht : Touched outcome r r') (hc : Copied port port' r') :
    Backed port' r' ∧ (port ≠ 0 → port' = port ∧ Held r r') := by
  have hkept : port ≠ 0 → port' = port ∧ Held r r' := by
    intro hne
    obtain ⟨hr, hport⟩ := h hne
    have hheld := ht.held hr
    obtain rfl | ⟨-, rfl⟩ := hc
    · exact ⟨rfl, hheld⟩
    · exact ⟨hheld.port.trans hport, hheld⟩
  refine ⟨?_, hkept⟩
  intro hne
  obtain rfl | ⟨hr, rfl⟩ := hc
  · obtain ⟨-, hheld⟩ := hkept hne
    exact ⟨hheld.1, hheld.port.trans (h hne).2⟩
  · exact ⟨hr, rfl⟩

/-- What the socket calls made for an event return; one that makes none is as good as
    one that gets no socket. -/
def SessionEvent.sockets {δ κ : Type*} : SessionEvent δ κ → Sockets
  | .request _ e => e
  | _ => { media := .noSocket, control := .noSocket, timing := .noSocket, event := .failed }

namespace RtspSession

variable {δ κ : Type*}

/-- The event server listens on the port. -/
def EventBacked (s : RtspSession δ κ) : Prop :=
  s.transport.eventPort ≠ 0 →
    ∃ server, s.eventServer = some server ∧ server.running = true ∧
      server.port = s.transport.eventPort

/-- What a step that is no TEARDOWN does to the ports and what backs them. -/
structure PortStep (e : Sockets) (s s' : RtspSession δ κ) : Prop where
  media : Touched e.media s.media s'.media
  control : Touched e.control s.control s'.control
  data : Copied s.transport.serverDataPort s'.transport.serverDataPort s'.media
  controlPort : Copied s.transport.serverControlPort s'.transport.serverControlPort s'.control
  info : s.setupInfoComplete = true → s'.setupInfoComplete = true
  /-- a new control port comes with a new data port -/
  together : s'.transport.serverControlPort = s.transport.serverControlPort ∨
    (s'.media.running = true ∧ s'.transport.serverDataPort = s'.media.port)
  /-- the event channel is touched by the first binary SETUP only -/
  event : (s'.eventServer = s.eventServer ∧ s'.transport.eventPort = s.transport.eventPort) ∨
    (s.setupInfoComplete = false ∧ s'.setupInfoComplete = true ∧ s'.EventBacked)

/-! ## One step -/

/-- The step leaves the ports and what backs them alone. -/
structure PortsSame (s s' : RtspSession δ κ) : Prop where
  media : s'.media = s.media
  control : s'.control = s.control
  transport : s'.transport = s.transport
  eventServer : s'.eventServer = s.eventServer
  info : s'.setupInfoComplete = s.setupInfoComplete

/-- The event is a SETUP. -/
def SetsUp (event : SessionEvent δ κ) : Prop :=
  ∃ r e, event = .request r e ∧ r.verb = .setup

theorem PortsSame.refl (s : RtspSession δ κ) : PortsSame s s := ⟨rfl, rfl, rfl, rfl, rfl⟩

theorem PortsSame.portStep {s s' : RtspSession δ κ} (h : PortsSame s s') (e : Sockets) :
    PortStep e s s' := by
  obtain ⟨hm, hc, ht, hs, hi⟩ := h
  exact ⟨Or.inl hm, Or.inl hc, Or.inl (by rw [ht]), Or.inl (by rw [ht]), by rw [hi]; exact id,
    Or.inl (by rw [ht]), Or.inl ⟨hs, by rw [ht]⟩⟩

/-! ## SETUP -/

/-- Starting the event channel leaves a port that is backed, and one that is not zero
    if it succeeds. -/
theorem startEventChannel_backed (s : RtspSession δ κ) (outcome : EventOutcome) :
    (s.startEventChannel outcome).2.EventBacked ∧
      ((s.startEventChannel outcome).1 = true →
        (s.startEventChannel outcome).2.transport.eventPort ≠ 0) := by
  unfold startEventChannel EventBacked
  split
  · rename_i server hserver
    obtain ⟨hs, hr⟩ := Option.filter_eq_some_iff.mp hserver
    refine ⟨?_, ?_⟩
    · intro _
      exact ⟨server, hs, hr, rfl⟩
    · intro h
      simpa [setEvent] using h
  · cases outcome with
    | failed => simp [EventServer.start, setEvent]
    | listening port =>
      simp only [EventServer.start, Bool.false_eq_true, if_false, Bool.not_true]
      split
      · simp [setEvent]
      · rename_i hne
        refine ⟨?_, ?_⟩
        · intro _
          exact ⟨_, rfl, rfl, rfl⟩
        · intro _
          exact hne

/-- What the socket calls of a first binary SETUP leave, and what they leave if all
    succeed. -/
structure BoundInfo (e : Sockets) (s s' : RtspSession δ κ) (ok : Bool) : Prop where
  media : Touched e.media s.media s'.media
  control : Touched e.control s.control s'.control
  data : s'.transport.serverDataPort = s.transport.serverDataPort
  controlPort : s'.transport.serverControlPort = s.transport.serverControlPort
  info : s'.setupInfoComplete = s.setupInfoComplete
  event : (s'.eventServer = s.eventServer ∧ s'.transport.eventPort = s.transport.eventPort) ∨
    s'.EventBacked
  running : ok = true → s'.media.running = true ∧ s'.control.running = true
  eventPort : ok = true → s'.EventBacked ∧ s'.transport.eventPort ≠ 0

theorem bindInfo_bound (s : RtspSession δ κ) (e : Sockets) (ptp : Bool) :
    BoundInfo e s (s.bindInfo e ptp).2 (s.bindInfo e ptp).1 := by
  have hm : (s.bindMedia e.media).1 = s.media.binds e.media := RtpReceiver.bind_ok _ _
  have hc : ((s.bindMedia e.media).2.bindControl e.control).1 = s.control.binds e.control :=
    RtpReceiver.bind_ok _ _
  have hmt : Touched e.media s.media (s.media.bind e.media).2 := Or.inr (Or.inl rfl)
  have hct : Touched e.control s.control (s.control.bind e.control).2 := Or.inr (Or.inl rfl)
  unfold bindInfo
  dsimp only
  -- by the first call that fails
  split
  · rename_i hfail
    refine ⟨hmt, Or.inl rfl, rfl, rfl, rfl, Or.inl ⟨rfl, rfl⟩, ?_, ?_⟩ <;>
      (intro h; rw [h] at hfail; cases hfail)
  · split
    · rename_i hfail
      refine ⟨hmt, hct, rfl, rfl, rfl, Or.inl ⟨rfl, rfl⟩, ?_, ?_⟩ <;>
        (intro h; rw [h] at hfail; cases hfail)
    · rename_i hmok hcok
      rw [hm, Bool.not_eq_true, Bool.not_eq_false'] at hmok
      rw [hc, Bool.not_eq_true, Bool.not_eq_false'] at hcok
      have hmr : (s.media.bind e.media).2.running = true := RtpReceiver.bind_running hmok
      have hcr : (s.control.bind e.control).2.running = true := RtpReceiver.bind_running hcok
      obtain ⟨timing, ht⟩ := bindTimingUnless_eq
        ((s.bindMedia e.media).2.bindControl e.control).2 ptp e.timing
      split
      · rename_i hfail
        rw [ht]
        refine ⟨hmt, hct, rfl, rfl, rfl, Or.inl ⟨rfl, rfl⟩, ?_, ?_⟩ <;>
          (intro h; rw [h] at hfail; cases hfail)
      · generalize hbound :
          (((s.bindMedia e.media).2.bindControl e.control).2.bindTimingUnless ptp e.timing).2 = bound
        obtain ⟨hbacked, hport⟩ := startEventChannel_backed bound e.event
        obtain ⟨server, port, hev⟩ := startEventChannel_eq bound e.event
        rw [ht] at hbound
        subst hbound
        refine ⟨?_, ?_, ?_, ?_, ?_, Or.inr hbacked, ?_, ?_⟩
        · rw [hev]; exact hmt
        · rw [hev]; exact hct
        · rw [hev]; rfl
        · rw [hev]; rfl
        · rw [hev]; rfl
        · intro _
          rw [hev]
          exact ⟨hmr, hcr⟩
        · intro h
          exact ⟨hbacked, hport h⟩

/-- The ports a first binary SETUP advertises once its socket calls have succeeded. -/
def advertise (s : RtspSession δ κ) (ptp : Bool) : RtspSession δ κ :=
  { s with
    transport := { s.transport with
      serverDataPort := s.media.port
      serverControlPort := s.control.port
      serverTimingPort := if ptp then 0 else s.timing.port } }

/-- The state a first binary SETUP starts from. -/
def beginInfo (s : RtspSession δ κ) : RtspSession δ κ :=
  { s with
    setupInfoComplete := true
    configured := true
    mediaReceiver := some s.media
    controlReceiver := some s.control }

theorem setupInfo_after (s : RtspSession δ κ) (e : Sockets) (r : RtspRequest) :
    (s.setupInfo e r).2 =
      if (s.beginInfo.bindInfo e (usesPtp r.body)).1 then
        (s.beginInfo.bindInfo e (usesPtp r.body)).2.advertise (usesPtp r.body)
      else (s.beginInfo.bindInfo e (usesPtp r.body)).2 := by
  unfold setupInfo
  dsimp only
  show (if !(s.beginInfo.bindInfo e (usesPtp r.body)).1 then _ else _ : Handled δ κ).2 = _
  cases (s.beginInfo.bindInfo e (usesPtp r.body)).1 with
  | false => rfl
  | true =>
    simp only [Bool.not_true, Bool.false_eq_true, if_false, if_true]
    split <;> rfl

theorem setupInfo_portStep {s : RtspSession δ κ} (hi : s.setupInfoComplete = false) (e : Sockets)
    (r : RtspRequest) : PortStep e s (s.setupInfo e r).2 := by
  have hb := bindInfo_bound s.beginInfo e (usesPtp r.body)
  rw [setupInfo_after]
  have hevent : ∀ s' : RtspSession δ κ, s'.setupInfoComplete = true →
      s'.eventServer = (s.beginInfo.bindInfo e (usesPtp r.body)).2.eventServer →
      s'.transport.eventPort =
        (s.beginInfo.bindInfo e (usesPtp r.body)).2.transport.eventPort →
      (s'.eventServer = s.eventServer ∧ s'.transport.eventPort = s.transport.eventPort) ∨
        (s.setupInfoComplete = false ∧ s'.setupInfoComplete = true ∧ s'.EventBacked) := by
    intro s' hinfo hserver hport
    obtain ⟨h1, h2⟩ | h := hb.event
    · exact Or.inl ⟨hserver.trans h1, hport.trans h2⟩
    · refine Or.inr ⟨hi, hinfo, ?_⟩
      unfold EventBacked at h ⊢
      rw [hserver, hport]
      exact h
  split
  · rename_i hok
    obtain ⟨hmr, hcr⟩ := hb.running hok
    refine ⟨hb.media, hb.control, Or.inr ⟨hmr, rfl⟩, Or.inr ⟨hcr, rfl⟩, fun _ => hb.info,
      Or.inr ⟨hmr, rfl⟩, ?_⟩
    exact hevent _ hb.info rfl rfl
  · refine ⟨hb.media, hb.control, Or.inl hb.data, Or.inl hb.controlPort, fun _ => hb.info,
      Or.inl hb.controlPort, ?_⟩
    exact hevent _ hb.info rfl rfl

theorem setupControl_copies (s : RtspSession δ κ) (outcome : BindOutcome) :
    ∃ control port, (s.setupControl outcome).2 =
        { s with
          controlReceiver := control
          transport := { s.transport with serverControlPort := port } } ∧
      Touched outcome s.control (s.setupControl outcome).2.control ∧
      Copied s.transport.serverControlPort port (s.setupControl outcome).2.control := by
  have hok : (s.bindControl outcome).1 = s.control.binds outcome := RtpReceiver.bind_ok _ _
  unfold setupControl
  split
  · exact ⟨s.controlReceiver, s.transport.serverControlPort, rfl, Or.inl rfl, Or.inl rfl⟩
  · dsimp only
    split
    · exact ⟨_, s.transport.serverControlPort, rfl, Or.inr (Or.inl rfl), Or.inl rfl⟩
    · rename_i hbound
      rw [hok, Bool.not_eq_true, Bool.not_eq_false'] at hbound
      exact ⟨_, _, rfl, Or.inr (Or.inl rfl), Or.inr ⟨RtpReceiver.bind_running hbound, rfl⟩⟩

theorem setupTiming_copies (s : RtspSession δ κ) (outcome : BindOutcome) :
    ∃ timing port, (s.setupTiming outcome).2 =
      { s with
        timingReceiver := timing
        transport := { s.transport with serverTimingPort := port } } := by
  unfold setupTiming
  split
  · exact ⟨s.timingReceiver, s.transport.serverTimingPort, rfl⟩
  · dsimp only
    split
    · exact ⟨_, s.transport.serverTimingPort, rfl⟩
    · exact ⟨_, _, rfl⟩

/-- A Transport SETUP from where it has its media receiver: the handler installed and
    the data port copied. -/
def offerMedia (s : RtspSession δ κ) (outcome : BindOutcome) : RtspSession δ κ :=
  { s with
    mediaReceiver := some (s.media.bind outcome).2.setPacketHandler
    transport := { s.transport with serverDataPort := (s.media.bind outcome).2.port } }

/-- The client's ports, read from the Transport header. -/
def beginTransport (s : RtspSession δ κ) (r : RtspRequest) : RtspSession δ κ :=
  { s with transport := { s.transport with
      clientControlPort := parsePort (headerValue r.headers (ascii "Transport"))
        (ascii "control_port=")
      clientTimingPort := parsePort (headerValue r.headers (ascii "Transport"))
        (ascii "timing_port=") } }

theorem setupTransport_after (s : RtspSession δ κ) (e : Sockets) (r : RtspRequest) :
    (s.setupTransport e r).2 =
      if s.media.binds e.media then
        let control := ((s.beginTransport r).offerMedia e.media).setupControl e.control
        if control.1 then (control.2.setupTiming e.timing).2 else control.2
      else ((s.beginTransport r).bindMedia e.media).2 := by
  have hok : ((s.beginTransport r).bindMedia e.media).1 = s.media.binds e.media :=
    RtpReceiver.bind_ok _ _
  unfold setupTransport
  dsimp only
  show (if !((s.beginTransport r).bindMedia e.media).1 then _ else _ : Handled δ κ).2 = _
  rw [hok]
  cases s.media.binds e.media with
  | false => rfl
  | true =>
    simp only [Bool.not_true, Bool.false_eq_true, if_false, if_true]
    show (if !(((s.beginTransport r).offerMedia e.media).setupControl e.control).1
      then _ else _ : Handled δ κ).2 = _
    cases (((s.beginTransport r).offerMedia e.media).setupControl e.control).1 with
    | false => rfl
    | true =>
      simp only [Bool.not_true, Bool.false_eq_true, if_false, if_true]
      split <;> rfl

theorem setupTransport_portStep (s : RtspSession δ κ) (e : Sockets) (r : RtspRequest) :
    PortStep e s (s.setupTransport e r).2 := by
  rw [setupTransport_after]
  split
  · rename_i hbinds
    have hrun : (s.media.bind e.media).2.setPacketHandler.running = true := by
      rw [setPacketHandler_running]
      exact RtpReceiver.bind_running hbinds
    have hport : (s.media.bind e.media).2.port = (s.media.bind e.media).2.setPacketHandler.port :=
      (setPacketHandler_port _).symm
    have hdata : Copied s.transport.serverDataPort (s.media.bind e.media).2.port
        (s.media.bind e.media).2.setPacketHandler :=
      Or.inr ⟨hrun, hport⟩
    obtain ⟨control, port, hc, htouch, hcopy⟩ :=
      setupControl_copies ((s.beginTransport r).offerMedia e.media) e.control
    dsimp only
    split
    · obtain ⟨timing, tport, ht⟩ := setupTiming_copies
        (((s.beginTransport r).offerMedia e.media).setupControl e.control).2 e.timing
      rw [ht]
      rw [hc] at htouch hcopy ⊢
      exact ⟨Or.inr (Or.inr rfl), htouch, hdata, hcopy, id, Or.inr ⟨hrun, hport⟩,
        Or.inl ⟨rfl, rfl⟩⟩
    · rw [hc] at htouch hcopy ⊢
      exact ⟨Or.inr (Or.inr rfl), htouch, hdata, hcopy, id, Or.inr ⟨hrun, hport⟩,
        Or.inl ⟨rfl, rfl⟩⟩
  · exact ⟨Or.inr (Or.inl rfl), Or.inl rfl, Or.inl rfl, Or.inl rfl, id, Or.inl rfl,
      Or.inl ⟨rfl, rfl⟩⟩

theorem setup_portStep (s : RtspSession δ κ) (e : Sockets) (r : RtspRequest) :
    PortStep e s (s.setup e r).2 := by
  unfold setup
  split
  · rename_i hinfo
    simp only [Bool.and_eq_true, Bool.not_eq_true'] at hinfo
    exact setupInfo_portStep hinfo.1 e r
  · split
    · exact (PortsSame.refl s).portStep e
    · split
      · exact (PortsSame.refl s).portStep e
      · exact setupTransport_portStep s e r

/-! ## The other events -/

variable [AlacDecoder δ] [AudioSink κ]

theorem handle_portsSame {s : RtspSession δ κ} {e : Sockets} {r : RtspRequest}
    (hset : r.verb ≠ .setup) (hdown : r.verb ≠ .teardown) : PortsSame s (s.handle e r).2 := by
  unfold handle
  cases hv : r.verb with
  | setup => exact absurd hv hset
  | teardown => exact absurd hv hdown
  | announce =>
    obtain ⟨sdp, configured, crypto, pipeline, h, -⟩ := announce_eq s r
    simp only [h]
    exact ⟨rfl, rfl, rfl, rfl, rfl⟩
  | record =>
    simp only [record]
    split <;> exact ⟨rfl, rfl, rfl, rfl, rfl⟩
  | pause => exact ⟨rfl, rfl, rfl, rfl, rfl⟩
  | flush => exact ⟨rfl, rfl, rfl, rfl, rfl⟩
  | options => exact PortsSame.refl s
  | getParameter => exact PortsSame.refl s
  | setParameter => exact PortsSame.refl s
  | unknown => exact PortsSame.refl s

/-- Only SETUP and TEARDOWN are about the ports. -/
theorem step_portsSame {s s' : RtspSession δ κ} {event : SessionEvent δ κ}
    (h : s.step event = .ok s') (hset : ¬ SetsUp event) (hdown : ¬ TearsDown event) :
    PortsSame s s' := by
  obtain ⟨r, e, rfl, rfl⟩ | ⟨-, buffer, packets, count, handler, pipeline, rfl⟩ := step_cases h
  · apply handle_portsSame
    · intro hv
      exact hset ⟨r, e, rfl, hv⟩
    · intro hv
      exact hdown ⟨r, e, rfl, hv⟩
  · exact ⟨rfl, rfl, rfl, rfl, rfl⟩

theorem step_portStep {s s' : RtspSession δ κ} {event : SessionEvent δ κ}
    (h : s.step event = .ok s') :
    (¬ TearsDown event → PortStep event.sockets s s') ∧ (TearsDown event → s' = s.reset) := by
  refine ⟨?_, ?_⟩
  · intro hdown
    by_cases hset : SetsUp event
    · obtain ⟨r, e, rfl, hv⟩ := hset
      rw [step_setup hv h]
      exact setup_portStep s e r
    · exact (step_portsSame h hset hdown).portStep _
  · intro hdown
    obtain ⟨r, e, rfl, hv⟩ := hdown
    rw [step_handle h, handle, hv]
    rfl

/-! ## What the steps keep -/

/-- Each advertised port is the port of something that runs. -/
structure PortsLive (s : RtspSession δ κ) : Prop where
  data : Backed s.transport.serverDataPort s.media
  control : Backed s.transport.serverControlPort s.control
  event : s.EventBacked
  /-- the event channel is not touched again while there is a port for it -/
  info : s.transport.eventPort ≠ 0 → s.setupInfoComplete = true

/-- An advertised port is the same in `s'`, and its socket is open and was not
    closed. -/
structure PortsKept (s s' : RtspSession δ κ) : Prop where
  data : s.transport.serverDataPort ≠ 0 →
    s'.transport.serverDataPort = s.transport.serverDataPort ∧ Held s.media s'.media
  control : s.transport.serverControlPort ≠ 0 →
    s'.transport.serverControlPort = s.transport.serverControlPort ∧ Held s.control s'.control
  event : s.transport.eventPort ≠ 0 →
    s'.transport.eventPort = s.transport.eventPort ∧ s'.eventServer = s.eventServer

omit [AlacDecoder δ] [AudioSink κ] in
theorem PortsLive.portStep {e : Sockets} {s s' : RtspSession δ κ} (h : PortsLive s)
    (hstep : PortStep e s s') :
    PortsLive s' ∧ PortsKept s s' := by
  obtain ⟨hdata, hdkept⟩ := h.data.step hstep.media hstep.data
  obtain ⟨hcontrol, hckept⟩ := h.control.step hstep.control hstep.controlPort
  obtain ⟨hserver, hport⟩ | ⟨hbefore, hafter, hbacked⟩ := hstep.event
  · refine ⟨⟨hdata, hcontrol, ?_, ?_⟩, ⟨hdkept, hckept, fun _ => ⟨hport, hserver⟩⟩⟩
    · unfold EventBacked
      rw [hserver, hport]
      exact h.event
    · rw [hport]
      intro hne
      exact hstep.info (h.info hne)
  · refine ⟨⟨hdata, hcontrol, hbacked, fun _ => hafter⟩, ⟨hdkept, hckept, ?_⟩⟩
    intro hne
    rw [h.info hne] at hbefore
    cases hbefore

theorem portsLive_reset (s : RtspSession δ κ) : PortsLive s.reset :=
  ⟨fun h => absurd rfl h, fun h => absurd rfl h, fun h => absurd rfl h, fun h => absurd rfl h⟩

theorem PortsLive.step {s s' : RtspSession δ κ} (hl : PortsLive s) {event : SessionEvent δ κ}
    (h : s.step event = .ok s') :
    PortsLive s' ∧ (¬ TearsDown event → PortsKept s s') := by
  obtain ⟨hstep, hdown⟩ := step_portStep h
  by_cases ht : TearsDown event
  · rw [hdown ht]
    exact ⟨portsLive_reset s, fun hn => absurd ht hn⟩
  · obtain ⟨hlive, hkept⟩ := hl.portStep (hstep ht)
    exact ⟨hlive, fun _ => hkept⟩

omit [AlacDecoder δ] [AudioSink κ] in
theorem PortsKept.refl {s : RtspSession δ κ} (hl : PortsLive s) : PortsKept s s :=
  ⟨fun h => ⟨rfl, Held.refl (hl.data h).1⟩, fun h => ⟨rfl, Held.refl (hl.control h).1⟩,
    fun _ => ⟨rfl, rfl⟩⟩

omit [AlacDecoder δ] [AudioSink κ] in
theorem PortsKept.trans {s s' s'' : RtspSession δ κ} (h : PortsKept s s') (h' : PortsKept s' s'') :
    PortsKept s s'' := by
  refine ⟨?_, ?_, ?_⟩
  · intro hne
    obtain ⟨hport, hheld⟩ := h.data hne
    obtain ⟨hport', hheld'⟩ := h'.data (by rwa [hport])
    exact ⟨hport'.trans hport, hheld.trans hheld'⟩
  · intro hne
    obtain ⟨hport, hheld⟩ := h.control hne
    obtain ⟨hport', hheld'⟩ := h'.control (by rwa [hport])
    exact ⟨hport'.trans hport, hheld.trans hheld'⟩
  · intro hne
    obtain ⟨hport, hserver⟩ := h.event hne
    obtain ⟨hport', hserver'⟩ := h'.event (by rwa [hport])
    exact ⟨hport'.trans hport, hserver'.trans hserver⟩

end RtspSession

namespace Process

variable {δ κ : Type*} [AlacDecoder δ] [AudioSink κ]

def PortsLive (p : Process δ κ) : Prop := ∀ s, p = .ok s → s.PortsLive

theorem portsLive_run (events : List (SessionEvent δ κ)) : PortsLive (run step start events) := by
  apply run_induction
  · intro p event h s' hs'
    obtain ⟨s, hs, hstep⟩ := step_eq_ok.mp hs'
    exact ((h s hs).step hstep).1
  · intro s hs
    obtain rfl := Except.ok.inj hs
    exact ⟨fun h => absurd rfl h, fun h => absurd rfl h, fun h => absurd rfl h,
      fun h => absurd rfl h⟩

/-- A session that is alive was alive before. -/
theorem run_ok_prefix {before after : List (SessionEvent δ κ)} {s' : RtspSession δ κ}
    (h : run step start (before ++ after) = .ok s') : ∃ s, run step start before = .ok s := by
  induction after using List.reverseRecOn generalizing s' with
  | nil => exact ⟨s', by simpa using h⟩
  | append_singleton after event ih =>
    rw [← List.append_assoc, run_snoc] at h
    obtain ⟨s, hs, -⟩ := step_eq_ok.mp h
    exact ih hs

/-- **Advertised ports stay live and stable.** In every run of a session, whatever the
    socket calls return, each data, control and event port of the transport that is not
    zero is that of a receiver or event server running; and from there to the next
    TEARDOWN the port is the same and its socket is not closed, not even to be opened
    again, since every later socket call may fail. -/
theorem run_ports_live_stable (before after : List (SessionEvent δ κ)) {s s' : RtspSession δ κ}
    (hs : run step start before = .ok s) (hs' : run step start (before ++ after) = .ok s')
    (hno : ∀ event ∈ after, ¬ RtspSession.TearsDown event) :
    s.PortsLive ∧ RtspSession.PortsKept s s' := by
  have hlive := portsLive_run before s hs
  refine ⟨hlive, ?_⟩
  -- By the last event, which keeps what the events before it have kept.
  induction after using List.reverseRecOn generalizing s' with
  | nil =>
    rw [List.append_nil, hs] at hs'
    obtain rfl := Except.ok.inj hs'
    exact RtspSession.PortsKept.refl hlive
  | append_singleton after event ih =>
    rw [← List.append_assoc, run_snoc] at hs'
    obtain ⟨t, ht, hstep⟩ := step_eq_ok.mp hs'
    have hkept := ih ht (fun k hk => hno k (List.mem_append_left _ hk))
    have hone := (portsLive_run _ t ht).step hstep
    exact hkept.trans (hone.2 (hno event (by simp)))

/-- A first binary SETUP with its sockets, and after it a RECORD with none. -/
theorem binarySetupRun_ports : ∃ s s' : RtspSession NullAlacDecoder NullAudioSink,
    run step start (binarySetupRun.take 1) = .ok s ∧ run step start binarySetupRun = .ok s' ∧
      s.transport.serverDataPort = 6000 ∧ s.PortsLive ∧ RtspSession.PortsKept s s' := by
  refine ⟨_, _, rfl, rfl, rfl, ?_⟩
  apply run_ports_live_stable (binarySetupRun.take 1) (binarySetupRun.drop 1) rfl rfl
  intro event hmem hdown
  obtain rfl := List.mem_singleton.mp hmem
  obtain ⟨r, e, hevent, hv⟩ := hdown
  obtain ⟨rfl, rfl⟩ := SessionEvent.request.inj hevent
  revert hv
  decide

end Process
end AirPlay2
