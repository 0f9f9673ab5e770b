import AirPlay2.Http.Calls
import AirPlay2.Pairing.Verified
import AirPlay2.Receiver.Readable
import AirPlay2.Rtsp.Run

/- The objects behind a connection. A request is for one of them at most, by its path and its method;
   the session has other callers besides, the threads of its receivers and of its event channel, which
   are heard between two requests. Each object comes to what its own calls make of it, whatever the
   others are asked in between: of any bytes a peer sends, in any chunks, a session, an HKP pairing, a
   transient pairing and the FairPlay key see the requests answered that are theirs, in order
   (`serveClient_objects`). So what is proved of runs of one of them holds behind a connection. -/
namespace AirPlay2
open Lib

/-- What the session gets from its other callers before a request, and what the calls made for the
    request return. -/
structure Turn (δ κ : Type*) where
  meanwhile : List (SessionEvent δ κ) := []
  calls : ConnectionCalls

/-- Requests, each with its turn. -/
def withTurns {δ κ : Type*} : (ℕ → Turn δ κ) → List HttpRequest → List (HttpRequest × Turn δ κ)
  | _, [] => []
  | turns, request :: requests =>
    (request, turns 0) :: withTurns (fun n => turns (n + 1)) requests

/-! ## Whom a request is for -/

/-- The object a request is for, if there is one. -/
inductive Route where
  | nobody
  | session
  | hkpSetup
  | hkpVerify
  | transient
  | fairplay
  deriving DecidableEq

/-- The path comes before the method, and of a /pair-setup the length decides. -/
def HttpRequest.route (request : HttpRequest) : Route :=
  if request.target = ascii "/info" ∨ request.target = ascii "/info/" then .nobody
  else if request.target = ascii "/pair-setup" then
    if request.method ≠ ascii "POST" then .nobody
    else if request.body.length = 32 then .hkpSetup
    else .transient
  else if request.target = ascii "/pair-verify" then
    if request.method ≠ ascii "POST" then .nobody else .hkpVerify
  else if request.target = ascii "/fp-setup" then
    if request.method ≠ ascii "POST" then .nobody else .fairplay
  else if isRtspMediaRequest request then .session
  else .nobody

section Routes

variable {δ κ : Type*}

/-- What the session gets in a turn. -/
def sessionEvents (x : HttpRequest × Turn δ κ) : List (SessionEvent δ κ) :=
  x.2.meanwhile ++
    if x.1.route = .session then [.request (rtspRequest x.1) x.2.calls.sockets] else []

def hkpCalls (x : HttpRequest × Turn δ κ) : List HkpCall :=
  if x.1.route = .hkpSetup then [.pairSetup x.1.body x.2.calls.hkp]
  else if x.1.route = .hkpVerify then [.pairVerify x.1.body x.2.calls.hkp]
  else []

def transientMessages (x : HttpRequest × Turn δ κ) : List (Bytes × OpenSsl) :=
  if x.1.route = .transient then [(x.1.body, x.2.calls.transient)] else []

/-- The bodies that FairPlay keeps: a phase 3 of version 3.1, 164 bytes long. -/
def isKeyMessage (body : Bytes) : Bool :=
  body.length = 164 && body.take 4 = ascii "FPLY" && body.getD 4 0 = 3 && body.getD 5 0 = 1 &&
    body.getD 6 0 = 3

def keyMessages (x : HttpRequest × Turn δ κ) : List Bytes :=
  if x.1.route = .fairplay ∧ isKeyMessage x.1.body = true then [x.1.body] else []

end Routes

/-- A message of the transient pairing. -/
def AirPlayTransientPairing.take (b : SrpBackend) (s : AirPlayTransientPairing)
    (m : Bytes × OpenSsl) : AirPlayTransientPairing := (s.handle b m.2 m.1).2

/-- FairPlay keeps a key message and nothing else. -/
theorem handleFairplaySetup_kept (body keyMessage : Bytes) :
    (handleFairplaySetup body keyMessage).2 = if isKeyMessage body then body else keyMessage := by
  cases hkey : isKeyMessage body with
  | true =>
    simp only [isKeyMessage, Bool.and_eq_true, decide_eq_true_eq] at hkey
    obtain ⟨⟨⟨⟨hlen, hmagic⟩, hversion⟩, hminor⟩, hphase⟩ := hkey
    simp only [handleFairplaySetup, hlen, hmagic, hversion, hminor, hphase]
    rfl
  | false =>
    unfold handleFairplaySetup
    split
    · rfl
    · rename_i hheader
      split
      · rfl
      · rename_i hversion
        split
        · split <;> rfl
        · split
          · rename_i hphase
            split
            · rfl
            · rename_i hlen
              simp only [Bool.or_eq_true, decide_eq_true_eq, not_or, not_not] at hheader hversion hlen
              have hkept : isKeyMessage body = true := by
                simp only [isKeyMessage, hlen, hheader.2, hversion.1, hversion.2, hphase]
                rfl
              cases hkey.symm.trans hkept
          · rfl

theorem Process.run_error {δ κ : Type*} [AlacDecoder δ] [AudioSink κ] (what : StdException)
    (events : List (SessionEvent δ κ)) : run Process.step (.error what) events = .error what := by
  induction events with
  | nil => rfl
  | cons event events ih => exact ih

/-- A session that is alive was alive at any point before. -/
theorem Process.run_split {δ κ : Type*} [AlacDecoder δ] [AudioSink κ] {p : Process δ κ}
    {before after : List (SessionEvent δ κ)} {s' : RtspSession δ κ}
    (h : run Process.step p (before ++ after) = .ok s') :
    ∃ s, run Process.step p before = .ok s ∧ run Process.step (.ok s) after = .ok s' := by
  rw [run_append] at h
  cases hbefore : run Process.step p before with
  | error what =>
    rw [hbefore, run_error] at h
    cases h
  | ok s =>
    rw [hbefore] at h
    exact ⟨s, rfl, h⟩

namespace Connection

variable {δ κ : Type*} [AlacDecoder δ] [AudioSink κ] (b : SrpBackend) (c : HkpBackend)
variable (config : ReceiverConfig)

/-- The handler of a connection, whose first request is handled in the first turn, its second in the
    second and so on. The process ends where nothing is returned. -/
def serving : HttpHandler (Connection δ κ × (ℕ → Turn δ κ)) := fun s request =>
  match run Process.step (.ok s.1.rtsp) (s.2 0).meanwhile with
  | .error e => .error e
  | .ok rtsp =>
    match handleRequest b c config { s.1 with rtsp := rtsp } (s.2 0).calls request with
    | some (.ok response, t) => .ok (response, (t, fun n => s.2 (n + 1)))
    | some (.error e, _) => .error e
    | none => .error .lengthError

theorem serving_ok {s s' : Connection δ κ × (ℕ → Turn δ κ)} {request : HttpRequest}
    {response : HttpResponse} : serving b c config s request = .ok (response, s') ↔
      ∃ rtsp, run Process.step (.ok s.1.rtsp) (s.2 0).meanwhile = .ok rtsp ∧
        handleRequest b c config { s.1 with rtsp := rtsp } (s.2 0).calls request =
          some (.ok response, s'.1) ∧ s'.2 = fun n => s.2 (n + 1) := by
  obtain ⟨t', turns⟩ := s'
  unfold serving
  refine ⟨?_, ?_⟩
  · intro h
    split at h
    · cases h
    · rename_i rtsp hmeanwhile
      split at h
      · rename_i x t heq
        obtain ⟨rfl, ht⟩ := Prod.mk.inj (Except.ok.inj h)
        obtain ⟨rfl, rfl⟩ := Prod.mk.inj ht
        exact ⟨rtsp, hmeanwhile, heq, rfl⟩
      · cases h
      · cases h
  · intro h
    obtain ⟨rtsp, hmeanwhile, hcall, rfl⟩ := h
    rw [hmeanwhile]
    dsimp only
    rw [hcall]

theorem serving_answers : AnswersAsReceiver δ κ b c (serving (δ := δ) (κ := κ) b c config) := by
  intro s request response s' h
  obtain ⟨rtsp, -, hcall, -⟩ := (serving_ok b c config).mp h
  exact Or.inl ⟨config, { s.1 with rtsp := rtsp }, s'.1, (s.2 0).calls, hcall⟩

/-! ## Each object sees its own -/

/-- What a request that is answered does to the objects. -/
inductive Handled (s : Connection δ κ) (e : ConnectionCalls) (request : HttpRequest) :
    Connection δ κ → Prop where
  | nobody (h : request.route = .nobody) : Handled s e request s
  | session (h : request.route = .session) {x : RtspResponse} {t : RtspSession δ κ}
      (hx : s.rtsp.handle e.sockets (rtspRequest request) = (.ok x, t)) :
      Handled s e request { s with rtsp := t }
  | hkpSetup (h : request.route = .hkpSetup) :
      Handled s e request { s with hkp := (s.hkp.handlePairSetup c e.hkp request.body).2 }
  | hkpVerify (h : request.route = .hkpVerify) {reply : PairingReply × AirPlayHkpPairing}
      (hreply : s.hkp.handlePairVerify c e.hkp request.body = some reply) :
      Handled s e request { s with hkp := reply.2 }
  | transient (h : request.route = .transient) :
      Handled s e request { s with transient := s.transient.take b (request.body, e.transient) }
  | fairplay (h : request.route = .fairplay) :
      Handled s e request
        { s with fairplayKeyMessage := (handleFairplaySetup request.body s.fairplayKeyMessage).2 }

theorem handleRequest_handled {s s' : Connection δ κ} {e : ConnectionCalls} {request : HttpRequest}
    {response : HttpResponse}
    (h : handleRequest b c config s e request = some (.ok response, s')) :
    Handled b c s e request s' := by
  have hroute : request.route = request.route := rfl
  conv_rhs at hroute => unfold HttpRequest.route
  unfold handleRequest at h
  -- the route makes the tests of the handler, in their order
  by_cases hinfo : request.target = ascii "/info" ∨ request.target = ascii "/info/"
  · rw [if_pos hinfo] at h hroute
    split at h
    · obtain rfl := congrArg Prod.snd (Option.some.inj h)
      exact .nobody hroute
    · obtain rfl := congrArg Prod.snd (Option.some.inj h)
      exact .nobody hroute
  · rw [if_neg hinfo] at h hroute
    by_cases hsetup : request.target = ascii "/pair-setup"
    · rw [if_pos hsetup] at h hroute
      split at h
      · rename_i hmethod
        rw [if_pos hmethod] at hroute
        obtain rfl := congrArg Prod.snd (Option.some.inj h)
        exact .nobody hroute
      · rename_i hmethod
        rw [if_neg hmethod] at hroute
        split at h
        · rename_i hlen
          rw [if_pos hlen] at hroute
          obtain rfl := congrArg Prod.snd (Option.some.inj h)
          exact .hkpSetup hroute
        · rename_i hlen
          rw [if_neg hlen] at hroute
          obtain rfl := congrArg Prod.snd (Option.some.inj h)
          exact .transient hroute
    · rw [if_neg hsetup] at h hroute
      by_cases hverify : request.target = ascii "/pair-verify"
      · rw [if_pos hverify] at h hroute
        split at h
        · rename_i hmethod
          rw [if_pos hmethod] at hroute
          obtain rfl := congrArg Prod.snd (Option.some.inj h)
          exact .nobody hroute
        · rename_i hmethod
          rw [if_neg hmethod] at hroute
          obtain ⟨reply, hreply, hs⟩ := Option.map_eq_some_iff.mp h
          obtain rfl := congrArg Prod.snd hs
          exact .hkpVerify hroute hreply
      · rw [if_neg hverify] at h hroute
        by_cases hfp : request.target = ascii "/fp-setup"
        · rw [if_pos hfp] at h hroute
          split at h
          · rename_i hmethod
            rw [if_pos hmethod] at hroute
            obtain rfl := congrArg Prod.snd (Option.some.inj h)
            exact .nobody hroute
          · rename_i hmethod
            rw [if_neg hmethod] at hroute
            obtain rfl := congrArg Prod.snd (Option.some.inj h)
            exact .fairplay hroute
        · rw [if_neg hfp] at h hroute
          split at h
          · rename_i hmedia
            rw [if_pos hmedia] at hroute
            obtain ⟨hx, rfl⟩ := Prod.mk.inj (Option.some.inj h)
            cases hanswer : (s.rtsp.handle e.sockets (rtspRequest request)).1 with
            | error what =>
              rw [hanswer] at hx
              cases hx
            | ok x =>
              exact .session hroute (Prod.ext hanswer rfl)
          · rename_i hmedia
            rw [if_neg hmedia] at hroute
            obtain rfl := congrArg Prod.snd (Option.some.inj h)
            exact .nobody hroute

/-- The objects of `s'` are those of `s` after the calls that are for each of them. -/
structure Took (s : Connection δ κ) (answered : List (HttpRequest × Turn δ κ)) (s' : Connection δ κ) :
    Prop where
  session : run Process.step (.ok s.rtsp) (answered.flatMap sessionEvents) = .ok s'.rtsp
  hkp : run (HkpProcess.step c) (some s.hkp) (answered.flatMap hkpCalls) = some s'.hkp
  transient : run (AirPlayTransientPairing.take b) s.transient (answered.flatMap transientMessages) =
    s'.transient
  fairplay : s'.fairplayKeyMessage =
    (answered.flatMap keyMessages).getLast?.getD s.fairplayKeyMessage

theorem Took.trans {s t s' : Connection δ κ} {xs ys : List (HttpRequest × Turn δ κ)}
    (hx : Took b c s xs t) (hy : Took b c t ys s') : Took b c s (xs ++ ys) s' := by
  refine ⟨?_, ?_, ?_, ?_⟩
  · rw [List.flatMap_append, run_append, hx.session, hy.session]
  · rw [List.flatMap_append, run_append, hx.hkp, hy.hkp]
  · rw [List.flatMap_append, run_append, hx.transient, hy.transient]
  · rw [List.flatMap_append, List.getLast?_append, hy.fairplay, hx.fairplay]
    cases (ys.flatMap keyMessages).getLast? with
    | none => rfl
    | some body => rfl

theorem Took.nil (s : Connection δ κ) : Took b c s [] s := ⟨rfl, rfl, rfl, rfl⟩

omit [AlacDecoder δ] [AudioSink κ] in
theorem sessionEvents_other {request : HttpRequest} {turn : Turn δ κ} (h : request.route ≠ .session) :
    sessionEvents (request, turn) = turn.meanwhile := by
  rw [sessionEvents, if_neg h, List.append_nil]

/-- A request that is answered in its turn. -/
theorem Handled.took {s s' : Connection δ κ} {request : HttpRequest} {turn : Turn δ κ}
    {rtsp : RtspSession δ κ}
    (hmeanwhile : run Process.step (.ok s.rtsp) turn.meanwhile = .ok rtsp)
    (h : Handled b c { s with rtsp := rtsp } turn.calls request s') :
    Took b c s [(request, turn)] s' := by
  have hother : request.route ≠ .session → run Process.step (.ok s.rtsp)
      ([(request, turn)].flatMap sessionEvents) = .ok rtsp := by
    intro hroute
    rw [List.flatMap_singleton, sessionEvents_other hroute, hmeanwhile]
  cases h with
  | nobody hroute =>
    refine ⟨hother (by rw [hroute]; decide), ?_, ?_, ?_⟩
    · simp [hkpCalls, hroute]
    · simp [transientMessages, hroute]
    · simp [keyMessages, hroute]
  | session hroute hx =>
    refine ⟨?_, ?_, ?_, ?_⟩
    · rw [List.flatMap_singleton, sessionEvents, if_pos hroute, run_snoc, hmeanwhile]
      exact RtspSession.step_request.mpr ⟨_, hx⟩
    · simp [hkpCalls, hroute]
    · simp [transientMessages, hroute]
    · simp [keyMessages, hroute]
  | hkpSetup hroute =>
    refine ⟨hother (by rw [hroute]; decide), ?_, ?_, ?_⟩
    · simp only [List.flatMap_singleton, hkpCalls, hroute, if_true]
      rfl
    · simp [transientMessages, hroute]
    · simp [keyMessages, hroute]
  | hkpVerify hroute hreply =>
    refine ⟨hother (by rw [hroute]; decide), ?_, ?_, ?_⟩
    · simp only [List.flatMap_singleton, hkpCalls, hroute, reduceCtorEq, if_false, if_true, run_cons,
        run_nil, HkpProcess.step, Option.bind_some, AirPlayHkpPairing.step]
      rw [hreply]
      rfl
    · simp [transientMessages, hroute]
    · simp [keyMessages, hroute]
  | transient hroute =>
    refine ⟨hother (by rw [hroute]; decide), ?_, ?_, ?_⟩
    · simp [hkpCalls, hroute]
    · simp only [List.flatMap_singleton, transientMessages, hroute, if_true, run_cons, run_nil]
    · simp [keyMessages, hroute]
  | fairplay hroute =>
    refine ⟨hother (by rw [hroute]; decide), ?_, ?_, ?_⟩
    · simp [hkpCalls, hroute]
    · simp [transientMessages, hroute]
    · rw [List.flatMap_singleton, keyMessages, hroute]
      dsimp only
      rw [handleFairplaySetup_kept]
      cases isKeyMessage request.body <;> rfl

theorem took_callAll {s s' : Connection δ κ × (ℕ → Turn δ κ)} {requests : List HttpRequest}
    {responses : List HttpResponse}
    (h : callAll (serving b c config) s requests = .ok (responses, s')) :
    Took b c s.1 (withTurns s.2 requests) s'.1 := by
  induction requests generalizing s responses with
  | nil =>
    obtain ⟨-, rfl⟩ := Prod.mk.inj (Except.ok.inj h)
    exact Took.nil b c s.1
  | cons request requests ih =>
    obtain ⟨response, t, rest, hcall, hrest, -⟩ := callAll_cons.mp h
    obtain ⟨rtsp, hmeanwhile, hanswer, hturns⟩ := (serving_ok b c config).mp hcall
    have hone : Took b c s.1 [(request, s.2 0)] t.1 :=
      (handleRequest_handled b c config hanswer).took b c hmeanwhile
    have htook := ih hrest
    rw [hturns] at htook
    exact hone.trans b c htook

/-- **Each object sees its own requests.** Whatever bytes a peer sends, in whatever chunks, the
    session, the HKP pairing and the transient pairing have come to what the requests answered that
    are theirs make of them, in order, and the FairPlay key is the latest key message there was. -/
theorem serveClient_objects {s s' : Connection δ κ × (ℕ → Turn δ κ)} {chunks : List Bytes}
    {rest : Bytes}
    (h : (serveClient (some (serving b c config)) s [] chunks).ending = .waiting s' rest) :
    Took b c s.1 (withTurns s.2
      ((serveClient (some (serving b c config)) s [] chunks).exchanges.map Exchange.request)) s'.1 := by
  obtain ⟨responses, hcalls⟩ := serveClient_calls h
  exact took_callAll b c config hcalls

end Connection

/-- A turn of a connection whose session hears of nobody else. -/
def idleTurn : Turn NullAlacDecoder NullAudioSink := { calls := idleCalls }

/-- A connection to compute with. -/
abbrev IdleState := Connection NullAlacDecoder NullAudioSink × (ℕ → Turn NullAlacDecoder NullAudioSink)

abbrev idleServing : HttpHandler IdleState :=
  Connection.serving AirPlayTransientPairing.zeroTail xorBackend {}

/-- It answers two FairPlay messages, the first of which is kept. -/
def fairplayExchange : Served IdleState :=
  serveClient (some idleServing) ({}, fun _ => idleTurn) []
    [ascii "POST /fp-setup RTSP/1.0" ++ crlf ++ ascii "Content-Length: 164" ++ blankLine ++
        ascii "FPLY" ++ [3, 1, 3] ++ List.replicate 157 9,
      ascii "POST /fp-setup RTSP/1.0" ++ crlf ++ ascii "Content-Length: 16" ++ blankLine ++
        ascii "FPLY" ++ [3, 1, 1] ++ List.replicate 9 0]

theorem serveClient_objects_fairplay :
    ∃ s' rest, fairplayExchange.ending = .waiting s' rest ∧
      s'.1.fairplayKeyMessage = ascii "FPLY" ++ [3, 1, 3] ++ List.replicate 157 9 ∧
      Connection.Took AirPlayTransientPairing.zeroTail xorBackend {}
        (withTurns (fun _ => idleTurn) (fairplayExchange.exchanges.map Exchange.request)) s'.1 := by
  have hkept : fairplayExchange.ending.waits.map (fun w => w.1.1.fairplayKeyMessage) =
      some (ascii "FPLY" ++ [3, 1, 3] ++ List.replicate 157 9) := by decide +kernel
  obtain ⟨⟨s', rest⟩, hwaits, hkey⟩ := Option.map_eq_some_iff.mp hkept
  have hending := Ending.waits_eq_some.mp hwaits
  exact ⟨s', rest, hending, hkey, Connection.serveClient_objects _ _ _ hending⟩

end AirPlay2
