import AirPlay2.Receiver.Conversation
import AirPlay2.Receiver.Lifecycle
import AirPlay2.Rtsp.Handshake

/- A client that is about to stream, at the other end of a connection: TEARDOWN, ANNOUNCE, SETUP and
   RECORD as it writes them, one behind the other or each when the one before it is answered. Whatever
   was sent on the connection before, and whatever datagrams arrive on the ports of the session
   meanwhile, it reads 200 four times and the session is cued (`stream_over_wire`). -/
namespace AirPlay2
open Lib

/-- The requests of a client that is about to stream, as it writes them. -/
structure WireStream where
  teardown : WireRequest
  announce : WireRequest
  setup : WireRequest
  record : WireRequest
  teardown_method : teardown.method = ascii "TEARDOWN"
  announce_method : announce.method = ascii "ANNOUNCE"
  setup_method : setup.method = ascii "SETUP"
  record_method : record.method = ascii "RECORD"
  setup_plain : isBinaryPlist setup.body = false
  /-- No target is a path of the receiver, and no header ends the connection. -/
  plain : ∀ r ∈ [teardown, announce, setup, record], r.request.route = .session ∧
    asksToClose r.request.headers = false

/-- The method of a request decides what it is. -/
theorem RtspRequest.verb_of_method {r : RtspRequest} {method : Bytes} (h : r.method = method) :
    r.verb = RtspRequest.verb { method := method } := by
  rw [verb, h]
  rfl

namespace WireStream

def requests (q : WireStream) : List WireRequest := [q.teardown, q.announce, q.setup, q.record]

/-- What the session gets of them, with the sockets of the SETUP. -/
def streamRequests (q : WireStream) (e : Sockets) (hmedia : e.media.isBound = true)
    (hcontrol : e.control.isBound = true) (htiming : e.timing.isBound = true) : StreamRequests where
  teardown := rtspRequest q.teardown.request
  announce := rtspRequest q.announce.request
  setup := rtspRequest q.setup.request
  record := rtspRequest q.record.request
  sockets := e
  teardown_verb := (RtspRequest.verb_of_method q.teardown_method).trans (by decide)
  announce_verb := (RtspRequest.verb_of_method q.announce_method).trans (by decide)
  setup_verb := (RtspRequest.verb_of_method q.setup_method).trans (by decide)
  record_verb := (RtspRequest.verb_of_method q.record_method).trans (by decide)
  setup_plain := q.setup_plain
  media_bound := hmedia
  control_bound := hcontrol
  timing_bound := htiming

end WireStream

/-! ## Between the requests -/

section Datagrams

variable {δ κ : Type*} [AlacDecoder δ] [AudioSink κ]

/-- A datagram on the data port of the session. -/
def SessionEvent.isDatagram : SessionEvent δ κ → Bool
  | .datagram _ => true
  | _ => false

/-- A session that does not record takes no notice of datagrams. -/
theorem run_datagrams {s : RtspSession δ κ} (hsilent : s.recording = false)
    {events : List (SessionEvent δ κ)} (hevents : ∀ event ∈ events, event.isDatagram = true) :
    run Process.step (.ok s) events = .ok s := by
  induction events with
  | nil => rfl
  | cons event events ih =>
    have hevent := hevents event List.mem_cons_self
    cases event with
    | datagram bytes =>
      have hdeliver : s.deliver bytes = s := by
        unfold RtspSession.deliver
        split
        · split
          · rfl
          · rw [RtspSession.handleMediaPacket, hsilent]
            rfl
        · rfl
      have hstep : Process.step (.ok s) (.datagram bytes) = .ok s := congrArg Except.ok hdeliver
      rw [run_cons, hstep]
      exact ih fun k hk => hevents k (List.mem_cons_of_mem _ hk)
    | _ => cases hevent

end Datagrams

/-! ## The conversation -/

section Streaming

variable {δ κ : Type*} [AlacDecoder δ] [AudioSink κ] {b : SrpBackend} {c : HkpBackend}
variable {config : ReceiverConfig}

open Connection

theorem reachesRtsp_of_route {request : HttpRequest} (h : request.route = .session) :
    reachesRtsp request = true := by
  unfold HttpRequest.route at h
  unfold reachesRtsp
  split at h
  · cases h
  · rename_i hinfo
    split at h
    · split at h
      · cases h
      · split at h <;> cases h
    · rename_i hsetup
      split at h
      · split at h <;> cases h
      · rename_i hverify
        split at h
        · split at h <;> cases h
        · rename_i hfp
          split at h
          · rename_i hmedia
            simp only [not_or] at hinfo
            simp [hinfo.1, hinfo.2, hsetup, hverify, hfp, hmedia]
          · cases h

/-- The state after a turn in which the session has come to this. -/
def afterSession (s : Connection δ κ × (ℕ → Turn δ κ)) (rtsp : RtspSession δ κ) :
    Connection δ κ × (ℕ → Turn δ κ) :=
  ({ s.1 with rtsp := rtsp }, fun n => s.2 (n + 1))

theorem serving_session {s : Connection δ κ × (ℕ → Turn δ κ)} {rtsp rtsp' : RtspSession δ κ}
    (hmeanwhile : run Process.step (.ok s.1.rtsp) (s.2 0).meanwhile = .ok rtsp)
    {request : HttpRequest} (hroute : request.route = .session) {x : RtspResponse}
    (hx : rtsp.handle (s.2 0).calls.sockets (rtspRequest request) = (.ok x, rtsp')) :
    serving b c config s request =
      .ok (httpResponse (ascii "RTSP/1.0") x, afterSession s rtsp') := by
  refine (serving_ok b c config).mpr ⟨rtsp, hmeanwhile, ?_, rfl⟩
  rw [handleRequest_rtsp b c (reachesRtsp_of_route hroute)]
  dsimp only
  rw [hx]
  rfl

/-- The client has been answered four times, and its stream may come. -/
structure StreamReady (pipeline : AlacAudioPipeline δ κ) (answers : List Answer)
    (s : Connection δ κ × (ℕ → Turn δ κ)) : Prop where
  accepted : answers.map Answer.status =
    [ascii "200", ascii "200", ascii "200", ascii "200"]
  cued : s.1.rtsp.Cued pipeline

theorem stream_called {s : Connection δ κ × (ℕ → Turn δ κ)} {rtsp : RtspSession δ κ}
    (h₀ : run Process.step (.ok s.1.rtsp) (s.2 0).meanwhile = .ok rtsp)
    (hlater : ∀ n ∈ [1, 2, 3], ∀ event ∈ (s.2 n).meanwhile, event.isDatagram = true)
    (hcapacity : rtsp.jitterBuffer.capacity = 128) {p : AlacAudioPipeline δ κ}
    (hp : rtsp.alacAudioPipeline = some p) (q : WireStream)
    (hmedia : (s.2 2).calls.sockets.media.isBound = true)
    (hcontrol : (s.2 2).calls.sockets.control.isBound = true)
    (htiming : (s.2 2).calls.sockets.timing.isBound = true) {sdp : AirPlaySdp}
    (hsdp : parseSdp q.announce.body = some sdp) {a : AlacConfig}
    (ha : RtspSession.alacConfigOf sdp = some a) (htakes : (p.reset.configure a).1 = true) :
    ∃ responses s', callAll (serving b c config) s (q.requests.map WireRequest.request) =
        .ok (responses, s') ∧
      StreamReady (p.reset.configure a).2
        (List.zipWith answerOf (q.requests.map WireRequest.request) responses) s' := by
  obtain ⟨x₀, s₀, x₁, s₁, x₂, s₂, x₃, s₃, htear, hannounce, hset, hrecord, hstatus, hsilent₀, hsilent₁,
      hsilent₂, hcued⟩ :=
    Process.stream_handled hcapacity hp (q.streamRequests _ hmedia hcontrol htiming) hsdp ha htakes
      (s.2 0).calls.sockets (s.2 1).calls.sockets (s.2 3).calls.sockets
  have hroute : ∀ r ∈ q.requests, r.request.route = .session := fun r hr => (q.plain r hr).1
  have hcall₀ : serving b c config s q.teardown.request = .ok (_, afterSession s s₀) :=
    serving_session h₀ (hroute _ (by simp [WireStream.requests])) htear
  have hcall₁ : serving b c config (afterSession s s₀) q.announce.request =
      .ok (_, afterSession (afterSession s s₀) s₁) :=
    serving_session (run_datagrams hsilent₀ (hlater 1 (by simp)))
      (hroute _ (by simp [WireStream.requests])) hannounce
  have hcall₂ : serving b c config (afterSession (afterSession s s₀) s₁) q.setup.request =
      .ok (_, afterSession (afterSession (afterSession s s₀) s₁) s₂) :=
    serving_session (run_datagrams hsilent₁ (hlater 2 (by simp)))
      (hroute _ (by simp [WireStream.requests])) hset
  have hcall₃ : serving b c config (afterSession (afterSession (afterSession s s₀) s₁) s₂)
      q.record.request =
        .ok (_, afterSession (afterSession (afterSession (afterSession s s₀) s₁) s₂) s₃) :=
    serving_session (run_datagrams hsilent₂ (hlater 3 (by simp)))
      (hroute _ (by simp [WireStream.requests])) hrecord
  have hcalls : callAll (serving b c config) s (q.requests.map WireRequest.request) = .ok (_, _) :=
    callAll_cons.mpr ⟨_, _, _, hcall₀, callAll_cons.mpr ⟨_, _, _, hcall₁, callAll_cons.mpr ⟨_, _, _,
      hcall₂, callAll_cons.mpr ⟨_, _, [], hcall₃, rfl, rfl⟩, rfl⟩, rfl⟩, rfl⟩
  simp only [List.map_cons, List.map_nil, List.cons.injEq, and_true] at hstatus
  obtain ⟨hx₀, hx₁, hx₂, hx₃⟩ := hstatus
  refine ⟨_, _, hcalls, ?_, hcued⟩
  show [statusText x₀.status, statusText x₁.status, statusText x₂.status, statusText x₃.status] = _
  rw [hx₀, hx₁, hx₂, hx₃]
  decide

/-- The session of a new connection is one that may have been given a pipeline. -/
theorem made_reached (pipeline : Option (AlacAudioPipeline δ κ)) :
    ∃ events, run Process.step Process.start events = .ok (Connection.made pipeline).rtsp := by
  cases pipeline with
  | none => exact ⟨[], rfl⟩
  | some pipeline => exact ⟨[.setAlacAudioPipeline (some pipeline)], rfl⟩

/-- Whatever was sent to a new connection, its session is one that requests, datagrams and calls of the
    embedding program lead to. -/
theorem waiting_reached (made : Option (AlacAudioPipeline δ κ)) {turns : ℕ → Turn δ κ}
    {earlier : List Bytes} {s : Connection δ κ × (ℕ → Turn δ κ)}
    (hwaiting : (serveClient (some (serving b c config)) (Connection.made made, turns) []
      earlier).ending = .waiting s []) {rtsp : RtspSession δ κ}
    (h₀ : run Process.step (.ok s.1.rtsp) (s.2 0).meanwhile = .ok rtsp) :
    ∃ events, run Process.step Process.start events = .ok rtsp := by
  obtain ⟨events, hmade⟩ := made_reached made
  obtain ⟨responses, hcalls⟩ := serveClient_calls hwaiting
  have hown : ∃ own, run Process.step (.ok (Connection.made made).rtsp) own = .ok s.1.rtsp :=
    ⟨_, (took_callAll b c config hcalls).session⟩
  obtain ⟨own, htook⟩ := hown
  refine ⟨events ++ own ++ (s.2 0).meanwhile, ?_⟩
  rw [run_append, run_append, hmade, htook, h₀]

/-- **Streaming over the wire.** Behind any bytes that leave a new connection waiting with nothing
    unread, and with any pipeline attached by then, a client that describes a format the pipeline
    takes and whose SETUP gets its sockets reads 200 four times, however its requests are cut, and
    the session is cued. -/
theorem stream_over_wire (made : Option (AlacAudioPipeline δ κ)) {turns : ℕ → Turn δ κ}
    {earlier : List Bytes} (hne : ∀ chunk ∈ earlier, chunk ≠ [])
    {s : Connection δ κ × (ℕ → Turn δ κ)}
    (hwaiting : (serveClient (some (serving b c config)) (Connection.made made, turns) []
      earlier).ending = .waiting s []) {rtsp : RtspSession δ κ}
    (h₀ : run Process.step (.ok s.1.rtsp) (s.2 0).meanwhile = .ok rtsp)
    (hlater : ∀ n ∈ [1, 2, 3], ∀ event ∈ (s.2 n).meanwhile, event.isDatagram = true)
    {p : AlacAudioPipeline δ κ} (hp : rtsp.alacAudioPipeline = some p) (q : WireStream)
    (hmedia : (s.2 2).calls.sockets.media.isBound = true)
    (hcontrol : (s.2 2).calls.sockets.control.isBound = true)
    (htiming : (s.2 2).calls.sockets.timing.isBound = true) {sdp : AirPlaySdp}
    (hsdp : parseSdp q.announce.body = some sdp) {a : AlacConfig}
    (ha : RtspSession.alacConfigOf sdp = some a) (htakes : (p.reset.configure a).1 = true)
    {chunks : List Bytes} (hchunks : ∀ chunk ∈ chunks, chunk ≠ [])
    (hwhole : chunks.flatten = WireRequest.pipeline q.requests)
    (hsize : (WireRequest.pipeline q.requests).length ≤ maxSize) :
    ∃ answers s', (serveClient (some (serving b c config)) (Connection.made made, turns) []
        (earlier ++ chunks)).ending = .waiting s' [] ∧
      answersTo (serving b c config) s chunks = some answers ∧
      StreamReady (p.reset.configure a).2 answers s' := by
  obtain ⟨events, hreached⟩ := waiting_reached made hwaiting h₀
  have hcapacity : rtsp.jitterBuffer.capacity = 128 := Process.run_capacity hreached
  have hcalled : ∃ responses s', callAll (serving b c config) s (q.requests.map WireRequest.request) =
        .ok (responses, s') ∧
      StreamReady (p.reset.configure a).2
        (List.zipWith answerOf (q.requests.map WireRequest.request) responses) s' :=
    stream_called h₀ hlater hcapacity hp q hmedia hcontrol htiming hsdp ha htakes
  obtain ⟨responses, s', hcalls, hready⟩ := hcalled
  have hopen : ∀ r ∈ q.requests, asksToClose r.request.headers = false := fun r hr => (q.plain r hr).2
  obtain ⟨hending, hanswers⟩ := answersTo_wire (serving_answers b c config) hcalls hopen hsize hchunks
    hwhole
  refine ⟨_, s', ?_, hanswers, hready⟩
  rw [serveClient_append _ _ _ hne]
  unfold Served.andThen
  rw [hwaiting]
  exact hending

end Streaming
/-! ## A song -/

/-- A request that the session gets. -/
def WireRequest.sessionRequest (method : Bytes) (hmethod : IsWord method) (body : Bytes) : WireRequest :=
  .asking method hmethod (ascii "rtsp://") (by decide) body

/-- The requests for a lossless song. -/
def songStream : WireStream where
  teardown := .sessionRequest (ascii "TEARDOWN") (by decide) []
  announce := .sessionRequest (ascii "ANNOUNCE") (by decide) (mirroringText [losslessAudio])
  setup := .sessionRequest (ascii "SETUP") (by decide) []
  record := .sessionRequest (ascii "RECORD") (by decide) []
  teardown_method := rfl
  announce_method := rfl
  setup_method := rfl
  record_method := rfl
  setup_plain := by decide
  plain r hr := by
    simp only [List.mem_cons, List.not_mem_nil, or_false] at hr
    rcases hr with rfl | rfl | rfl | rfl <;> exact ⟨by decide +kernel, WireRequest.asking_stays⟩

/-- Every request finds its sockets. -/
def songTurn : Turn NullAlacDecoder NullAudioSink :=
  { calls := { idleCalls with sockets := Process.allBound } }

/-- They arrive together, on a connection on which the audio pipeline was attached. -/
theorem stream_over_wire_song :
    ∃ answers, ∃ s' : IdleState,
      answersTo idleServing (Connection.made (some nullPipeline), fun _ => songTurn)
          [WireRequest.pipeline songStream.requests] = some answers ∧
        StreamReady (nullPipeline.reset.configure Process.songConfig).2 answers s' := by
  obtain ⟨sdp, hsdp, ha⟩ := Process.parse_songRequests
  have hwaiting : (serveClient (some idleServing)
      (Connection.made (some nullPipeline), fun _ => songTurn) [] []).ending =
        .waiting (Connection.made (some nullPipeline), fun _ => songTurn) [] := rfl
  have hchunks : ∀ chunk ∈ [WireRequest.pipeline songStream.requests], chunk ≠ [] := by decide +kernel
  obtain ⟨answers, s', -, hanswers, hready⟩ :=
    stream_over_wire (some nullPipeline) (List.forall_mem_nil _) hwaiting rfl
      (fun _ _ => List.forall_mem_nil _) rfl songStream rfl rfl rfl hsdp ha (by decide) hchunks List.flatten_singleton (by decide +kernel)
  exact ⟨answers, s', hanswers, hready⟩

end AirPlay2
