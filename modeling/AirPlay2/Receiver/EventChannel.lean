import AirPlay2.Http.Shared
import AirPlay2.Receiver.Objects

/- The event channel of a session. Its server has one handler for all connections, which hands what
   it reads to the session that started it, and while it is served the session has its other callers
   besides: the connection of the session itself and the threads of its receivers. In every
   interleaving of the server's threads the session has come to what the requests answered make of
   it, of all connections and in their order, and each of them was answered by the session that the
   ones before it had left (`run_eventChannel`). Unlike the connections of the receiver
   (`run_isolated`), those of the event channel see each other. -/
namespace AirPlay2
open Lib

namespace RtspSession

variable {δ κ : Type*} [AlacDecoder δ] [AudioSink κ]

/-- The handler of `make_event_handler`, whose requests are handled one in each turn, on whatever
    connection they come. -/
def eventServing : HttpHandler (RtspSession δ κ × (ℕ → Turn δ κ)) := fun s request =>
  match run Process.step (.ok s.1) (s.2 0).meanwhile with
  | .error e => .error e
  | .ok rtsp =>
    match rtsp.eventHandler (s.2 0).calls.sockets request with
    | (.ok response, rtsp) => .ok (response, (rtsp, fun n => s.2 (n + 1)))
    | (.error e, _) => .error e

theorem eventServing_ok {s s' : RtspSession δ κ × (ℕ → Turn δ κ)} {request : HttpRequest}
    {response : HttpResponse} : eventServing s request = .ok (response, s') ↔
      ∃ rtsp, run Process.step (.ok s.1) (s.2 0).meanwhile = .ok rtsp ∧
        rtsp.eventHandler (s.2 0).calls.sockets request = (.ok response, s'.1) ∧
        s'.2 = fun n => s.2 (n + 1) := by
  obtain ⟨t', turns⟩ := s'
  unfold eventServing
  refine ⟨?_, ?_⟩
  · intro h
    split at h
    · cases h
    · rename_i rtsp hmeanwhile
      split at h
      · rename_i x t heq
        obtain ⟨rfl, ht⟩ := Prod.mk.inj (Except.ok.inj h)
        obtain ⟨rfl, rfl⟩ := Prod.mk.inj ht
        exact ⟨rtsp, hmeanwhile, heq, rfl⟩
      · cases h
  · intro h
    obtain ⟨rtsp, hmeanwhile, hcall, rfl⟩ := h
    rw [hmeanwhile]
    dsimp only
    rw [hcall]

/-- What the session gets in a turn of its event channel. -/
def channelEvents (x : HttpRequest × Turn δ κ) : List (SessionEvent δ κ) :=
  x.2.meanwhile ++ [.request (rtspRequest x.1) x.2.calls.sockets]

theorem eventHandler_step {s s' : RtspSession δ κ} {e : Sockets} {request : HttpRequest}
    {response : HttpResponse} (h : s.eventHandler e request = (.ok response, s')) :
    Process.step (.ok s) (.request (rtspRequest request) e) = .ok s' := by
  obtain ⟨hresponse, hs'⟩ := Prod.mk.inj h
  cases hanswer : (s.handle e (rtspRequest request)).1 with
  | error what =>
    rw [hanswer] at hresponse
    cases hresponse
  | ok x => exact step_request.mpr ⟨x, Prod.ext hanswer hs'⟩

/-- Requests of the event channel are requests to the session. -/
theorem run_callAll {s s' : RtspSession δ κ × (ℕ → Turn δ κ)} {requests : List HttpRequest}
    {responses : List HttpResponse} (h : callAll eventServing s requests = .ok (responses, s')) :
    run Process.step (.ok s.1) ((withTurns s.2 requests).flatMap channelEvents) = .ok s'.1 := by
  induction requests generalizing s responses with
  | nil =>
    obtain ⟨-, rfl⟩ := Prod.mk.inj (Except.ok.inj h)
    rfl
  | cons request requests ih =>
    obtain ⟨response, t, rest, hcall, hrest, -⟩ := callAll_cons.mp h
    obtain ⟨rtsp, hmeanwhile, hanswer, hturns⟩ := eventServing_ok.mp hcall
    have hrun := ih hrest
    rw [hturns] at hrun
    rw [withTurns, List.flatMap_cons, run_append, channelEvents, run_snoc, hmeanwhile,
      eventHandler_step hanswer]
    exact hrun

/-- Each of them takes a turn. -/
theorem turns_callAll {s s' : RtspSession δ κ × (ℕ → Turn δ κ)} {requests : List HttpRequest}
    {responses : List HttpResponse} (h : callAll eventServing s requests = .ok (responses, s')) :
    s'.2 0 = s.2 requests.length := by
  suffices hall : ∀ n, s'.2 n = s.2 (n + requests.length) by
    rw [hall, Nat.zero_add]
  induction requests generalizing s responses with
  | nil =>
    obtain ⟨-, rfl⟩ := Prod.mk.inj (Except.ok.inj h)
    exact fun n => rfl
  | cons request requests ih =>
    obtain ⟨response, t, rest, hcall, hrest, -⟩ := callAll_cons.mp h
    obtain ⟨-, -, -, hturns⟩ := eventServing_ok.mp hcall
    intro n
    rw [ih hrest, hturns]
    rfl

/-- **The connections of an event channel share its session.** Whatever the threads of its server do
    in between, the session has come to what the requests answered make of it, on one connection after
    the other, and each of them was answered by the session that the requests before it and its other
    callers had left. -/
theorem run_eventChannel (s : RtspSession δ κ) (turns : ℕ → Turn δ κ) (outcome : ListenOutcome)
    {events : List (ServerEvent (RtspSession δ κ × (ℕ → Turn δ κ)))}
    (hevents : ∀ event ∈ events, HttpThreads.StartsNot event) :
    let t := run HttpThreads.step { state := (s, turns) }
      (.call (.start 0 (some (sharedFactory (some eventServing))) outcome) :: events)
    run Process.step (.ok s) ((withTurns turns (t.exchanged.map Exchange.request)).flatMap
        channelEvents) = .ok t.now.1 ∧
      ∀ before x after, t.exchanged = before ++ x :: after →
        ∃ found rtsp response answered,
          run Process.step (.ok s) ((withTurns turns (before.map Exchange.request)).flatMap
            channelEvents) = .ok found ∧
          run Process.step (.ok found) (turns before.length).meanwhile = .ok rtsp ∧
          rtsp.eventHandler (turns before.length).calls.sockets x.request =
            (.ok response, answered) ∧
          x = exchangeOf x.request response := by
  intro t
  have hline : HttpThreads.InOneLine (some eventServing) (s, turns) t.exchanged t.now :=
    HttpThreads.run_shared _ _ 0 outcome hevents
  refine ⟨?_, ?_⟩
  · obtain ⟨responses, hcalls, -⟩ := hline
    exact run_callAll hcalls
  · intro before x after hsplit
    rw [hsplit] at hline
    obtain ⟨u, response, u', ⟨responses, hbefore, -⟩, hcall, hx⟩ := hline.split
    obtain ⟨rtsp, hmeanwhile, hanswer, -⟩ := eventServing_ok.mp hcall
    rw [turns_callAll hbefore, List.length_map] at hmeanwhile hanswer
    exact ⟨u.1, rtsp, response, u'.1, run_callAll hbefore, hmeanwhile, hanswer, hx⟩

/-! ## Two connections -/

def teardownChunk : Chunk where
  bytes := ascii "TEARDOWN rtsp://10.0.0.2/1 RTSP/1.0" ++ crlf ++ ascii "CSeq: 1" ++ blankLine
  nonempty := by decide +kernel
  fits := by decide +kernel

def recordChunk : Chunk where
  bytes := ascii "RECORD rtsp://10.0.0.2/1 RTSP/1.0" ++ crlf ++ ascii "CSeq: 2" ++ blankLine
  nonempty := by decide +kernel
  fits := by decide +kernel

/-- A session to compute with, which has its media port open. -/
abbrev IdleSession := RtspSession NullAlacDecoder NullAudioSink × (ℕ → Turn NullAlacDecoder NullAudioSink)

def setUpSession : IdleSession :=
  ({ configured := true, mediaReceiver := some { running := true, port := 6000 } }, fun _ => idleTurn)

/-- A client ends the session and goes, and another one asks to record. -/
def teardownThenRecord : List (ServerEvent IdleSession) :=
  [.owner, .owner, .owner, .owner, .serve {}, .serve {}, .serve { accepts := true }, .serve {},
    .serve { received := some teardownChunk }, .serve {}, .serve { sent := 1000 }, .serve {}, .serve {},
    .serve {}, .serve {}, .serve {}, .serve {}, .serve { accepts := true }, .serve {},
    .serve { received := some recordChunk }, .serve {}, .serve { sent := 1000 }]

def channelServed : HttpThreads IdleSession :=
  run HttpThreads.step { state := setUpSession }
    (.call (.start 0 (some (sharedFactory (some eventServing))) (.listening (some 7001))) ::
      teardownThenRecord)

/-- The session is over for the second one too. -/
theorem run_eventChannel_teardown :
    channelServed.exchanged.map (fun x => x.response.take 12) =
        [ascii "RTSP/1.0 200", ascii "RTSP/1.0 455"] ∧
      run Process.step (.ok setUpSession.1)
          ((withTurns setUpSession.2 (channelServed.exchanged.map Exchange.request)).flatMap
            channelEvents) = .ok channelServed.now.1 :=
  have hnone : ∀ event ∈ teardownThenRecord, HttpThreads.StartsNot event := by
    simp [teardownThenRecord, HttpThreads.StartsNot]
  ⟨by decide +kernel, (run_eventChannel setUpSession.1 setUpSession.2 _ hnone).1⟩

end RtspSession
end AirPlay2
