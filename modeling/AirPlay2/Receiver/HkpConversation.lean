import AirPlay2.Pairing.Honest
import AirPlay2.Receiver.Conversation
import AirPlay2.Receiver.Objects

/- HKP pairing as it takes place: a client at the other end of a connection POSTs to /pair-setup and
   twice to /pair-verify, and makes its third request of what it was answered to the second. Whatever
   was sent on the connection before, a client that keeps to the protocol is verified, and has made
   sure of the receiver (`pairing_over_wire`). -/
namespace AirPlay2
open Lib

/-! ## Requests with a body -/

/-- A POST over RTSP. -/
def WireRequest.post (target : Bytes) (htarget : IsWord target) (body : Bytes) : WireRequest :=
  .asking (ascii "POST") (by decide) target htarget body

namespace WireRequest

variable {target : Bytes} {htarget : IsWord target} {body : Bytes}

theorem length_wire_post :
    (post target htarget body).wire.length =
      target.length + (toDecimal body.length).length + body.length + 36 := by
  simp [wire, firstLine, post, asking, textLines, headerText, crlf, ascii, contentLengthName]
  omega

end WireRequest

/-! ## The handler -/

namespace Connection

variable {δ κ : Type*} [AlacDecoder δ] [AudioSink κ] (b : SrpBackend) (c : HkpBackend)
variable (config : ReceiverConfig)

/-- The HKP object is sound, and no call of OpenSSL will fail. -/
def HkpSound (s : Connection δ κ × (ℕ → Turn δ κ)) : Prop :=
  AirPlayHkpPairing.Sound c s.1.hkp ∧ ∀ n, (s.2 n).calls.hkp.succeed = true

theorem serving_hkpSound {s s' : Connection δ κ × (ℕ → Turn δ κ)} {request : HttpRequest}
    {response : HttpResponse} (hs : HkpSound c s)
    (h : serving b c config s request = .ok (response, s')) : HkpSound c s' := by
  obtain ⟨hsound, hsucceed⟩ := hs
  obtain ⟨rtsp, -, hcall, hturns⟩ := (serving_ok b c config).mp h
  have hstep : ∀ (call : HkpCall) (t : AirPlayHkpPairing), call.succeeds = true →
      s.1.hkp.step c call = some t → AirPlayHkpPairing.Sound c t := by
    intro call t hcall ht
    obtain ⟨t', ht', hsound'⟩ := hsound.step c hcall
    obtain rfl := Option.some.inj (ht.symm.trans ht')
    exact hsound'
  refine ⟨?_, by rw [hturns]; exact fun n => hsucceed (n + 1)⟩
  have hhandled := handleRequest_handled b c config hcall
  generalize s'.1 = t at hhandled
  cases hhandled with
  | nobody hroute => exact hsound
  | session hroute hx => exact hsound
  | hkpSetup hroute => exact hstep (.pairSetup request.body (s.2 0).calls.hkp) _ (hsucceed 0) rfl
  | hkpVerify hroute hreply =>
    refine hstep (.pairVerify request.body (s.2 0).calls.hkp) _ (hsucceed 0) ?_
    exact congrArg (Option.map Prod.snd) hreply
  | transient hroute => exact hsound
  | fairplay hroute => exact hsound

/-- The state after a turn in which the HKP object has come to this. -/
def afterHkp (s : Connection δ κ × (ℕ → Turn δ κ)) (rtsp : RtspSession δ κ) (hkp : AirPlayHkpPairing) :
    Connection δ κ × (ℕ → Turn δ κ) :=
  ({ s.1 with rtsp := rtsp, hkp := hkp }, fun n => s.2 (n + 1))

theorem serving_pairSetup {s : Connection δ κ × (ℕ → Turn δ κ)} {rtsp : RtspSession δ κ}
    (hmeanwhile : run Process.step (.ok s.1.rtsp) (s.2 0).meanwhile = .ok rtsp)
    {request : HttpRequest} (htarget : request.target = ascii "/pair-setup")
    (hmethod : request.method = ascii "POST") (hlen : request.body.length = 32)
    {reply : PairingReply × AirPlayHkpPairing}
    (hreply : s.1.hkp.handlePairSetup c (s.2 0).calls.hkp request.body = reply)
    (hok : reply.1.ok = true) :
    serving b c config s request =
      .ok (octetAnswer request true reply.1.response, afterHkp s rtsp reply.2) := by
  have hinfo : ¬ (request.target = ascii "/info" ∨ request.target = ascii "/info/") := by
    rw [htarget]
    decide
  refine (serving_ok b c config).mpr ⟨rtsp, hmeanwhile, ?_, rfl⟩
  rw [handleRequest, if_neg hinfo, if_pos htarget, if_neg (not_not_intro hmethod), if_pos hlen,
    ← hok, ← hreply]
  rfl

theorem serving_pairVerify {s : Connection δ κ × (ℕ → Turn δ κ)} {rtsp : RtspSession δ κ}
    (hmeanwhile : run Process.step (.ok s.1.rtsp) (s.2 0).meanwhile = .ok rtsp)
    {request : HttpRequest} (htarget : request.target = ascii "/pair-verify")
    (hmethod : request.method = ascii "POST") {reply : PairingReply × AirPlayHkpPairing}
    (hreply : s.1.hkp.handlePairVerify c (s.2 0).calls.hkp request.body = some reply)
    (hok : reply.1.ok = true) :
    serving b c config s request =
      .ok (octetAnswer request true reply.1.response, afterHkp s rtsp reply.2) := by
  have hinfo : ¬ (request.target = ascii "/info" ∨ request.target = ascii "/info/") := by
    rw [htarget]
    decide
  have hsetup : ¬ request.target = ascii "/pair-setup" := by
    rw [htarget]
    decide
  refine (serving_ok b c config).mpr ⟨rtsp, hmeanwhile, ?_, rfl⟩
  rw [handleRequest, if_neg hinfo, if_neg hsetup, if_pos htarget, if_neg (not_not_intro hmethod),
    ← hok]
  exact congrArg (Option.map _) hreply

end Connection

/-! ## The client -/

/-- A client that pairs: its keys, and the bytes of its messages that mean nothing. -/
structure PairingClient extends HkpClient where
  hello : { d : Bytes // d.length = 32 }
  startHeader : { d : Bytes // d.length = 3 }
  finishHeader : { d : Bytes // d.length = 3 }

namespace PairingClient

variable (c : HkpBackend) (p : PairingClient)

def setupRequest : WireRequest := .post (ascii "/pair-setup") (by decide) p.hello.1

def startRequest : WireRequest :=
  .post (ascii "/pair-verify") (by decide) (p.startMessage c p.startHeader.1)

def finishRequest (answer : Bytes) : WireRequest :=
  .post (ascii "/pair-verify") (by decide) (p.finishMessage c p.finishHeader.1 answer)

/-- Its third request is made of the answer to its second. -/
def next : List Answer → Option WireRequest
  | [] => some p.setupRequest
  | [_] => some (p.startRequest c)
  | [_, start] => some (p.finishRequest c start.body)
  | _ => none

/-- The client, its requests cut like this. -/
def cutBy (cutting : Cutting) : WireClient where
  toCutting := cutting
  next := p.next c
  stays answers r := by
    intro h
    unfold next at h
    split at h
    · obtain rfl := Option.some.inj h
      exact WireRequest.asking_stays
    · obtain rfl := Option.some.inj h
      exact WireRequest.asking_stays
    · obtain rfl := Option.some.inj h
      exact WireRequest.asking_stays
    · cases h

end PairingClient

/-! ## The conversation -/

/-- The answer of the pairing paths, as the client reads it. -/
theorem answerOf_octetAnswer (request : HttpRequest) (body : Bytes) :
    (answerOf request (octetAnswer request true body)).status = ascii "200" ∧
      (answerOf request (octetAnswer request true body)).body = body := by
  have hstatus : (withDefaults request (octetAnswer request true body)).status = 200 := rfl
  refine ⟨?_, rfl⟩
  rw [answerOf, Answer.of, hstatus]
  exact (by decide : statusText 200 = ascii "200")

section Paired

variable {δ κ : Type*} [AlacDecoder δ] [AudioSink κ] {b : SrpBackend} {c : HkpBackend}
variable {config : ReceiverConfig}

open Connection

/-- What a client that pairs comes to know, and what it leaves behind. -/
structure Paired (c : HkpBackend) (p : PairingClient) (answers : List Answer)
    (s : Connection δ κ × (ℕ → Turn δ κ)) : Prop where
  accepted : ∀ answer ∈ answers, answer.status = ascii "200"
  receiver : ∃ setup start finish, answers = [setup, start, finish] ∧ start.body.length = 96 ∧
    p.checks c setup.body start.body = true
  verified : s.1.hkp.verified = true

theorem talk_paired (hc : c.Lawful) (p : PairingClient) (cutting : Cutting)
    {s : Connection δ κ × (ℕ → Turn δ κ)} (hs : HkpSound c s) {r₀ r₁ r₂ : RtspSession δ κ}
    (h₀ : run Process.step (.ok s.1.rtsp) (s.2 0).meanwhile = .ok r₀)
    (h₁ : run Process.step (.ok r₀) (s.2 1).meanwhile = .ok r₁)
    (h₂ : run Process.step (.ok r₁) (s.2 2).meanwhile = .ok r₂) :
    ∃ answers s', talk (serving b c config) (p.cutBy c cutting) 3 s [] = .ok (answers, s') ∧
      Paired c p answers s' ∧ s'.1.rtsp = r₂ := by
  obtain ⟨hsound, hsucceed⟩ := hs
  obtain ⟨hsetup, first, hfirst, hstarted, hlength, hchecks, last, hlast, hfinished, hverified⟩ :=
    HkpProcess.sound_honestExchange hc hsound p.toHkpClient (hsucceed 0) (hsucceed 1) (hsucceed 2)
      p.hello.2 p.startHeader.2 p.finishHeader.2
  generalize hreply : s.1.hkp.handlePairSetup c (s.2 0).calls.hkp p.hello.1 = setup at *
  let client := p.cutBy c cutting
  -- the state behind each answer, and the answer as it is read
  let s₁ := afterHkp s r₀ setup.2
  let s₂ := afterHkp s₁ r₁ first.2
  let a₀ := answerOf p.setupRequest.request (octetAnswer p.setupRequest.request true setup.1.response)
  let a₁ := answerOf (p.startRequest c).request
    (octetAnswer (p.startRequest c).request true first.1.response)
  let r := p.finishRequest c first.1.response
  let a₂ := answerOf r.request (octetAnswer r.request true last.1.response)
  have hcall₀ : serving b c config s p.setupRequest.request =
      .ok (octetAnswer p.setupRequest.request true setup.1.response, s₁) :=
    serving_pairSetup b c config h₀ rfl rfl p.hello.2 hreply hsetup
  have hcall₁ : serving b c config s₁ (p.startRequest c).request =
      .ok (octetAnswer (p.startRequest c).request true first.1.response, s₂) :=
    serving_pairVerify b c config h₁ rfl rfl hfirst hstarted
  have hcall₂ : serving b c config s₂ r.request =
      .ok (octetAnswer r.request true last.1.response, afterHkp s₂ r₂ last.2) :=
    serving_pairVerify b c config h₂ rfl rfl hlast hfinished
  have htalk : talk (serving b c config) client 3 s [] = .ok ([a₀, a₁, a₂], afterHkp s₂ r₂ last.2) := by
    rw [talk_succ rfl hcall₀, talk_succ rfl hcall₁, talk_succ rfl hcall₂]
    rfl
  refine ⟨_, _, htalk, ⟨?_, ⟨a₀, a₁, a₂, rfl, hlength, hchecks⟩, hverified⟩, rfl⟩
  intro answer hanswer
  simp only [List.mem_cons, List.not_mem_nil, or_false] at hanswer
  obtain rfl | rfl | rfl := hanswer
  · exact (answerOf_octetAnswer _ _).1
  · exact (answerOf_octetAnswer _ _).1
  · exact (answerOf_octetAnswer _ _).1

theorem HkpClient.length_finishMessage (hc : c.Lawful) (client : HkpClient) {header : Bytes}
    (hheader : header.length = 3) (answer : Bytes) :
    (client.finishMessage c header answer).length = 68 := by
  have hsigned : (xorAt (client.stream c answer) 64
      (c.edSign client.ed25519 (c.xPublic client.x25519 ++ answer.take 32))).length = 64 := by
    rw [length_xorAt, hc.edSign_length]
  exact length_verifyMessage hheader hsigned

theorem HkpClient.length_startMessage (hc : c.Lawful) (client : HkpClient) {header : Bytes}
    (hheader : header.length = 3) : (client.startMessage c header).length = 68 := by
  have hkeys : (c.xPublic client.x25519 ++ c.edPublic client.ed25519).length = 64 := by
    rw [List.length_append, hc.xPublic_length, hc.edPublic_length]
  exact length_verifyMessage hheader hkeys

/-- The three requests are short. -/
theorem PairingClient.length_next (hc : c.Lawful) (p : PairingClient) {answers : List Answer}
    {r : WireRequest} (h : p.next c answers = some r) : r.wire.length ≤ 200 := by
  unfold PairingClient.next at h
  split at h
  · obtain rfl := Option.some.inj h
    rw [setupRequest, WireRequest.length_wire_post, p.hello.2]
    decide
  · obtain rfl := Option.some.inj h
    rw [startRequest, WireRequest.length_wire_post,
      HkpClient.length_startMessage hc p.toHkpClient p.startHeader.2]
    decide
  · obtain rfl := Option.some.inj h
    rw [finishRequest, WireRequest.length_wire_post,
      HkpClient.length_finishMessage hc p.toHkpClient p.finishHeader.2]
    decide
  · cases h

/-- **Pairing over the wire.** Behind any bytes that leave a connection waiting with nothing unread,
    a client that keeps to the protocol is verified however its bytes arrive: every answer it reads
    is a 200, in the second it finds the signature of the identity in the first, and the session is
    what its other callers have made of it. -/
theorem pairing_over_wire (hc : c.Lawful) (p : PairingClient) (cutting : Cutting)
    {turns : ℕ → Turn δ κ} (hturns : ∀ n, (turns n).calls.hkp.succeed = true) {earlier : List Bytes}
    (hne : ∀ chunk ∈ earlier, chunk ≠ []) {s : Connection δ κ × (ℕ → Turn δ κ)}
    (hwaiting : (serveClient (some (serving b c config)) ({}, turns) [] earlier).ending =
      .waiting s []) {rtsp : RtspSession δ κ}
    (hmeanwhile : run Process.step (.ok s.1.rtsp)
      ((s.2 0).meanwhile ++ (s.2 1).meanwhile ++ (s.2 2).meanwhile) = .ok rtsp) :
    let chunks := talkOverWire (serving b c config) (p.cutBy c cutting) s 3 []
    ∃ answers s', (serveClient (some (serving b c config)) ({}, turns) [] (earlier ++ chunks)).ending =
        .waiting s' [] ∧
      answersTo (serving b c config) s chunks = some answers ∧ Paired c p answers s' ∧
      s'.1.rtsp = rtsp := by
  intro chunks
  have hstart : HkpSound c ((({} : Connection δ κ), turns)) :=
    ⟨⟨nofun, fun hshared => absurd rfl hshared⟩, hturns⟩
  have hsound : HkpSound c s := by
    obtain ⟨responses, hcalls⟩ := serveClient_calls hwaiting
    exact callAll_keeps (fun t request response t' => serving_hkpSound b c config) hstart hcalls
  -- what the session hears before each of the three requests
  obtain ⟨r₁, hfirst, h₂⟩ := Process.run_split hmeanwhile
  obtain ⟨r₀, h₀, h₁⟩ := Process.run_split hfirst
  obtain ⟨answers, s', htalk, hpaired, hrtsp⟩ := talk_paired hc p cutting hsound h₀ h₁ h₂
  have hlimit : ∀ answers r, (p.cutBy c cutting).next answers = some r → r.wire.length ≤ 200 :=
    fun _ _ hnext => p.length_next hc hnext
  have hsize : chunks.flatten.length ≤ maxSize :=
    (length_talkOverWire hlimit s 3 []).trans (by decide)
  have hnone : callAll (serving b c config) s (([] : List WireRequest).map WireRequest.request) =
      .ok ([], s) := rfl
  obtain ⟨hending, hanswers⟩ := talk_from (serving_answers b c config) (p.cutBy c cutting) hnone nofun
    (List.forall_mem_nil _) rfl hsize htalk
  refine ⟨answers, s', ?_, hanswers, hpaired, hrtsp⟩
  rw [serveClient_append _ _ _ hne]
  unfold Served.andThen
  rw [hwaiting]
  exact hending

end Paired

/-- Keys and bytes to fill the messages with. -/
def filledPairing : PairingClient where
  toHkpClient := filledClient 3 4
  hello := filled 9
  startHeader := ⟨[0, 0, 0], rfl⟩
  finishHeader := ⟨[0, 0, 0], rfl⟩

/-- A connection on which there was a request for nothing. -/
def afterBare : Served IdleState :=
  serveClient (some idleServing) ({}, fun _ => idleTurn) [] [WireRequest.bare.wire]

theorem pairing_over_wire_after :
    ∃ s, afterBare.ending = .waiting s [] ∧ ∃ answers, ∃ s' : IdleState,
      answersTo idleServing s (talkOverWire idleServing (filledPairing.cutBy xorBackend .bytes) s 3 []) =
        some answers ∧ Paired xorBackend filledPairing answers s' := by
  have hwaits : afterBare.ending.waits.map (fun w =>
      ((w.1.2 0).meanwhile.length, (w.1.2 1).meanwhile.length, (w.1.2 2).meanwhile.length, w.2)) =
        some (0, 0, 0, []) := by decide +kernel
  obtain ⟨⟨s, rest⟩, hwaits, hparts⟩ := Option.map_eq_some_iff.mp hwaits
  simp only [Prod.mk.injEq, List.length_eq_zero_iff] at hparts
  obtain ⟨h₀, h₁, h₂, rfl⟩ := hparts
  have hwaiting := Ending.waits_eq_some.mp hwaits
  have hmeanwhile : run Process.step (.ok s.1.rtsp)
      ((s.2 0).meanwhile ++ (s.2 1).meanwhile ++ (s.2 2).meanwhile) = .ok s.1.rtsp := by
    rw [h₀, h₁, h₂]
    rfl
  obtain ⟨answers, s', -, hanswers, hpaired, -⟩ :=
    pairing_over_wire xorBackend_lawful filledPairing .bytes (fun _ => by decide) (by decide) hwaiting
      hmeanwhile
  exact ⟨s, hwaiting, answers, s', hanswers, hpaired⟩

end AirPlay2
