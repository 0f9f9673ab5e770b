import AirPlay2.Http.ServerCalls
import AirPlay2.Receiver.Identity
import AirPlay2.Receiver.Objects

/- The receiver with both of its services (`AirPlayReceiver::start` and `stop`). The HTTP server and
   the announcement come and go together: whatever is started and stopped, and whichever socket calls
   fail, the two are there exactly while the receiver runs, the handlers are made for the
   configuration it runs with, and a start that fails leaves nothing behind that answers anybody
   (`run_inStep`). -/
namespace AirPlay2
open Lib

/-! ## The receiver and its services -/

/-- `AirPlayReceiver::Impl` with its server. -/
structure ReceiverDevice (σ : Type*) where
  receiver : AirPlayReceiver := {}
  server : HttpServer σ := {}

/-- What a start gets from outside. -/
structure DeviceCalls where
  drawn : Bytes
  listen : ListenOutcome
  mdnsSockets : Option (Option UInt32)

inductive DeviceCall where
  | start (config : ReceiverConfig) (e : DeviceCalls)
  | stop

/-- The objects of a new connection; the session has the pipeline over the sink of the embedding
    program, if there is one. -/
def Connection.made {δ κ : Type*} [AlacDecoder δ] [AudioSink κ]
    (pipeline : Option (AlacAudioPipeline δ κ)) : Connection δ κ :=
  match pipeline with
  | none => {}
  | some pipeline => { rtsp := ({} : RtspSession δ κ).setAlacAudioPipeline (some pipeline) }

/-- The lambda `factory` of a start. The turns of one connection follow those of the one before. -/
def connectionFactory {δ κ : Type*} [AlacDecoder δ] [AudioSink κ] (b : SrpBackend) (c : HkpBackend)
    (pipeline : Option (AlacAudioPipeline δ κ)) (config : ReceiverConfig) :
    HttpHandlerFactory (Connection δ κ × (ℕ → Turn δ κ)) := fun s =>
  (some (Connection.serving b c config), (Connection.made pipeline, s.2))

/-- What the sockets of a start are documented to find: a port, and the one asked for if one was. -/
def ListenOutcome.Documented (port : UInt16) : ListenOutcome → Prop
  | .noSocket | .refused => True
  | .listening actual => actual.getD port ≠ 0 ∧ (port ≠ 0 → actual.getD port = port)

/-- The sockets of a call do as documented. -/
def DeviceCall.Documented : DeviceCall → Prop
  | .start config e => e.listen.Documented config.port
  | .stop => True

/-- A socket was bound and listens. -/
def ListenOutcome.binds : ListenOutcome → Bool
  | .noSocket | .refused => false
  | .listening _ => true

/-- The call as the receiver without its server has it. -/
def DeviceCall.receiverCall : DeviceCall → AirPlayReceiver.ReceiverCall
  | .start config e =>
    .start config { drawn := e.drawn, serverBinds := e.listen.binds, mdnsSockets := e.mdnsSockets }
  | .stop => .stop

namespace ReceiverDevice

variable {σ : Type*} (factory : ReceiverConfig → HttpHandlerFactory σ)

def start (d : ReceiverDevice σ) (config : ReceiverConfig) (e : DeviceCalls) :
    Bool × ReceiverDevice σ :=
  if d.receiver.running then (false, d)
  else
    let port := config.port
    let config := if config.deviceId = [] then { config with deviceId := e.drawn } else config
    let receiver :=
      { d.receiver with config := config, protocolIdentity := makePi config.deviceId }
    let bound := d.server.startPerConnection port (some (factory config)) e.listen
    if !bound.1 then (false, { receiver := receiver, server := bound.2 })
    else
      let published := receiver.mdns.publish config.deviceName config.port
        (AirPlayReceiver.txtRecords config.deviceId receiver.protocolIdentity) e.mdnsSockets
      -- without an announcement the server is stopped again
      if !published.1 then
        (false, { receiver := { receiver with mdns := published.2.2 }, server := bound.2.stop })
      else
        (true, {
          receiver := { receiver with mdns := published.2.2, running := true }
          server := bound.2 })

def stop (d : ReceiverDevice σ) : ReceiverDevice σ :=
  { receiver := d.receiver.stop, server := d.server.stop }

def step (d : ReceiverDevice σ) : DeviceCall → ReceiverDevice σ
  | .start config e => (d.start factory config e).2
  | .stop => d.stop

/-! ## In step -/

/-- The services are those of a receiver that runs with its configuration. -/
structure Serves (d : ReceiverDevice σ) : Prop where
  factory : d.server.factory = some (factory d.receiver.config)
  port : d.receiver.mdns.port = d.receiver.config.port
  name : d.receiver.mdns.instanceName = d.receiver.config.deviceName
  records : d.receiver.mdns.records =
    AirPlayReceiver.txtRecords d.receiver.config.deviceId (makePi d.receiver.config.deviceId)

/-- Both services are there exactly while the receiver runs. -/
structure InStep (d : ReceiverDevice σ) : Prop where
  server : d.server.running = d.receiver.running
  mdns : d.receiver.mdns.active = d.receiver.running
  target : d.receiver.mdns.target = ascii "gwl-airplay.local"
  serves : d.receiver.running = true → d.Serves factory

variable {factory} {d : ReceiverDevice σ}

/-- A start is accepted or refused. What was refused to a receiver that runs leaves it alone; else
    there is nothing behind it. -/
theorem start_cases (h : d.InStep factory) (config : ReceiverConfig) (e : DeviceCalls) :
    ((d.start factory config e).1 = true ∧ (d.start factory config e).2.InStep factory ∧
        (d.start factory config e).2.receiver.running = true ∧
        ∃ actual, e.listen = .listening actual ∧
          (d.start factory config e).2.server.boundPort = actual.getD config.port ∧
          (d.start factory config e).2.receiver.config.port = config.port) ∨
      ((d.start factory config e).1 = false ∧ (d.start factory config e).2.InStep factory ∧
        (d.start factory config e).2.receiver.running = d.receiver.running ∧
        (d.receiver.running = true → (d.start factory config e).2 = d)) := by
  cases hrunning : d.receiver.running with
  | true =>
    have hsame : d.start factory config e = (false, d) := if_pos hrunning
    rw [hsame]
    exact Or.inr ⟨rfl, h, hrunning, fun _ => rfl⟩
  | false =>
    have hserver : d.server.running = false := h.server.trans hrunning
    have hmdns : d.receiver.mdns.active = false := h.mdns.trans hrunning
    -- a start that fails has taken over the configuration, and no more
    have hrefused : ∀ d' : ReceiverDevice σ, d'.receiver.running = false → d'.server.running = false →
        d'.receiver.mdns = d.receiver.mdns → d'.InStep factory := by
      intro d' hrunning' hserver' hmdns'
      refine ⟨hserver'.trans hrunning'.symm, ?_, ?_, ?_⟩
      · rw [hmdns', hmdns, hrunning']
      · rw [hmdns']
        exact h.target
      · rw [hrunning']
        nofun
    unfold start
    simp only [hrunning, HttpServer.startPerConnection, hserver, Bool.false_eq_true, if_false]
    cases hlisten : e.listen with
    | noSocket => exact Or.inr ⟨rfl, hrefused _ rfl rfl rfl, rfl, nofun⟩
    | refused => exact Or.inr ⟨rfl, hrefused _ rfl rfl rfl, rfl, nofun⟩
    | listening actual =>
      simp only [HttpServer.listen, MdnsService.publish, hmdns, Bool.not_true, Bool.false_eq_true, if_false]
      cases hsockets : e.mdnsSockets with
      | none => exact Or.inr ⟨rfl, hrefused _ rfl rfl rfl, rfl, nofun⟩
      | some probe =>
        refine Or.inl ⟨rfl, ⟨rfl, rfl, h.target, fun _ => ⟨rfl, rfl, rfl, rfl⟩⟩, rfl, actual, rfl, rfl, ?_⟩
        show (if config.deviceId = [] then { config with deviceId := e.drawn } else config).port = _
        split <;> rfl

theorem stop_inStep (h : d.InStep factory) : d.stop.InStep factory := by
  have hserver : d.server.stop.running = false := by
    unfold HttpServer.stop
    split
    · rfl
    · rename_i hno
      exact Bool.not_eq_true _ |>.mp hno
  exact ⟨hserver, rfl, h.target, nofun⟩

theorem step_inStep (d : ReceiverDevice σ) (call : DeviceCall) (h : d.InStep factory) :
    (d.step factory call).InStep factory := by
  cases call with
  | start config e =>
    obtain ⟨-, hstep, -⟩ | ⟨-, hstep, -⟩ := start_cases h config e
    · exact hstep
    · exact hstep
  | stop => exact stop_inStep h

theorem inStep_run (calls : List DeviceCall) : (run (step factory) {} calls).InStep factory :=
  run_induction step_inStep ⟨rfl, rfl, rfl, fun hrunning => Bool.noConfusion hrunning⟩ calls

/-! ## The port -/

/-- The server is bound, and to the port of the configuration if that names one. -/
def Bound (d : ReceiverDevice σ) : Prop :=
  d.receiver.running = true → d.server.boundPort ≠ 0 ∧
    (d.receiver.config.port ≠ 0 → d.server.boundPort = d.receiver.config.port)

theorem step_bound (h : d.InStep factory) (hbound : d.Bound) {call : DeviceCall}
    (hcall : call.Documented) : (d.step factory call).Bound := by
  cases call with
  | start config e =>
    have hstep : d.step factory (.start config e) = (d.start factory config e).2 := rfl
    rw [hstep]
    obtain ⟨-, -, -, actual, hlisten, hport, hconfig⟩ | ⟨-, -, hrunning, hsame⟩ :=
      start_cases h config e
    · have hdocumented : (ListenOutcome.listening actual).Documented config.port := hlisten ▸ hcall
      intro _
      rw [hport, hconfig]
      exact hdocumented
    · intro hrunning'
      have hrunning'' : d.receiver.running = true := hrunning.symm.trans hrunning'
      rw [hsame hrunning'']
      exact hbound hrunning''
  | stop => exact nofun

theorem bound_run {calls : List DeviceCall} (hcalls : ∀ call ∈ calls, call.Documented) :
    (run (step factory) {} calls).Bound := by
  induction calls using List.reverseRecOn with
  | nil => exact nofun
  | append_singleton calls call ih =>
    rw [run_snoc]
    exact step_bound (inStep_run calls) (ih (fun k hk => hcalls k (List.mem_append_left _ hk)))
      (hcalls call (by simp))

/-! ## Whole runs -/

/-- The receiver does not see more of its server than whether that binds. -/
theorem start_receiver (h : d.InStep factory) (config : ReceiverConfig) (e : DeviceCalls) :
    (d.start factory config e).2.receiver = (d.receiver.start config
      { drawn := e.drawn, serverBinds := e.listen.binds, mdnsSockets := e.mdnsSockets }).2 := by
  obtain ⟨⟨running, config', identity, mdns⟩, ⟨listening, port, made⟩⟩ := d
  obtain rfl : listening = running := h.server
  cases listening with
  | true => rfl
  | false =>
    simp only [start, AirPlayReceiver.start, HttpServer.startPerConnection, Bool.false_eq_true, if_false]
    cases e.listen with
    | noSocket => rfl
    | refused => rfl
    | listening actual =>
      simp only [HttpServer.listen, ListenOutcome.binds, Bool.not_true, Bool.false_eq_true, if_false]
      -- by the identifier that is drawn or not, and the announcement
      split <;> split <;> rfl

theorem run_receiver (calls : List DeviceCall) :
    (run (step factory) {} calls).receiver =
      run AirPlayReceiver.step {} (calls.map DeviceCall.receiverCall) := by
  induction calls using List.reverseRecOn with
  | nil => rfl
  | append_singleton calls call ih =>
    rw [run_snoc, List.map_append, List.map_singleton, run_snoc, ← ih]
    cases call with
    | start config e => exact start_receiver (inStep_run calls) config e
    | stop => rfl

/-- **The services come and go with the receiver.** After any starts and stops, whichever socket
    calls failed: the receiver is the one modelled without its server; there is a server and an
    announcement exactly while it runs, for the configuration it runs with; and where the sockets
    do as documented, the port announced is the port of the server exactly if the configuration
    names one. -/
theorem run_inStep (calls : List DeviceCall) :
    let d := run (step factory) {} calls
    d.receiver = run AirPlayReceiver.step {} (calls.map DeviceCall.receiverCall) ∧
      d.InStep factory ∧
      ((∀ call ∈ calls, call.Documented) → d.receiver.running = true → d.server.boundPort ≠ 0 ∧
        (d.receiver.mdns.port = d.server.boundPort ↔ d.receiver.config.port ≠ 0)) := by
  intro d
  have hstep : d.InStep factory := inStep_run calls
  refine ⟨run_receiver calls, hstep, ?_⟩
  intro hcalls hrunning
  have hbound : d.Bound := bound_run hcalls
  obtain ⟨hport, hnamed⟩ := hbound hrunning
  refine ⟨hport, ?_⟩
  rw [(hstep.serves hrunning).port]
  refine ⟨?_, fun hne => (hnamed hne).symm⟩
  intro heq hzero
  exact hport (heq.symm.trans hzero)

end ReceiverDevice

/-- A start on any free port, after one that found no socket for the announcement. -/
def secondAttempt : List DeviceCall :=
  [.start { deviceId := ascii "AA:BB:CC:DD:EE:FF" } ⟨[], .listening (some 7000), none⟩,
    .start { deviceId := ascii "AA:BB:CC:DD:EE:FF", port := 0 } ⟨[], .listening (some 49152), some none⟩]

theorem secondAttempt_documented : ∀ call ∈ secondAttempt, call.Documented := by
  intro call hcall
  simp only [secondAttempt, List.mem_cons, List.not_mem_nil, or_false] at hcall
  obtain rfl | rfl := hcall
  · exact ⟨by decide, fun _ => rfl⟩
  · exact ⟨by decide, fun hno => absurd rfl hno⟩

/-- A receiver with no handlers. -/
def silent : ReceiverConfig → HttpHandlerFactory Unit := fun _ s => (none, s)

/-- It runs, and announces port 0. -/
theorem run_inStep_secondAttempt :
    let d := run (ReceiverDevice.step silent) {} secondAttempt
    d.receiver.running = true ∧ d.receiver.mdns.port = 0 ∧
      (d.receiver.mdns.port = d.server.boundPort ↔ d.receiver.config.port ≠ 0) :=
  ⟨by decide +kernel, by decide +kernel,
    ((ReceiverDevice.run_inStep secondAttempt).2.2 secondAttempt_documented (by decide +kernel)).2⟩

end AirPlay2
