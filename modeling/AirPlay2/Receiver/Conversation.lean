import AirPlay2.Http.Calls
import AirPlay2.Receiver.Readable

/- Conversations with the receiver. A client reads the answers it has got and writes its next
   request, which arrives in some chunks. `talk` is the conversation by calls of the handler;
   `talkOverWire` the one that takes place, in which both sides see bytes only. They come to the
   same (`talk_over_wire`), so what is known of the objects behind a connection holds of a client
   at the other end of it. -/
namespace AirPlay2
open Lib

/-- The answer as the client reads it. -/
def answerOf (request : HttpRequest) (response : HttpResponse) : Answer :=
  Answer.of (withDefaults request response)

/-- What the client gets. -/
def Served.sent {σ : Type*} (served : Served σ) : Bytes := served.exchanges.flatMap Exchange.response

/-- How the bytes of a request arrive. -/
structure Cutting where
  cut : WireRequest → List Bytes
  cut_nonempty : ∀ r, ∀ chunk ∈ cut r, chunk ≠ []
  cut_whole : ∀ r, (cut r).flatten = r.wire

/-- A client: what it writes when it has read these answers. It does not ask to close the
    connection. -/
structure WireClient extends Cutting where
  next : List Answer → Option WireRequest
  stays : ∀ answers r, next answers = some r → asksToClose r.request.headers = false

section Talk

variable {σ : Type*}

/-- The conversation by calls, of so many rounds at most. -/
def talk (handler : HttpHandler σ) (client : WireClient) :
    ℕ → σ → List Answer → Except StdException (List Answer × σ)
  | 0, s, answers => .ok (answers, s)
  | rounds + 1, s, answers =>
    match client.next answers with
    | none => .ok (answers, s)
    | some r =>
      match handler s r.request with
      | .error e => .error e
      | .ok (response, s) => talk handler client rounds s (answers ++ [answerOf r.request response])

theorem talk_succ {handler : HttpHandler σ} {client : WireClient} {rounds : ℕ} {s s' : σ}
    {answers : List Answer} {r : WireRequest} {response : HttpResponse}
    (hnext : client.next answers = some r) (hcall : handler s r.request = .ok (response, s')) :
    talk handler client (rounds + 1) s answers =
      talk handler client rounds s' (answers ++ [answerOf r.request response]) := by
  rw [talk, hnext]
  dsimp only
  rw [hcall]

/-- The answers the client can read when these chunks have arrived. -/
def answersTo (handler : HttpHandler σ) (s : σ) (chunks : List Bytes) : Option (List Answer) :=
  let sent := (serveClient (some handler) s [] chunks).sent
  readAnswers (sent.length + 1) sent

/-- The chunks of the conversation that takes place, of so many rounds at most: the client reads
    what it has got so far, and writes its next request. -/
def talkOverWire (handler : HttpHandler σ) (client : WireClient) (s : σ) : ℕ → List Bytes → List Bytes
  | 0, chunks => chunks
  | rounds + 1, chunks =>
    match (answersTo handler s chunks).bind client.next with
    | none => chunks
    | some r => talkOverWire handler client s rounds (chunks ++ client.cut r)

theorem talkOverWire_grows (handler : HttpHandler σ) (client : WireClient) (s : σ) (rounds : ℕ)
    (chunks : List Bytes) :
    chunks.flatten.length ≤ (talkOverWire handler client s rounds chunks).flatten.length := by
  induction rounds generalizing chunks with
  | zero => exact le_refl _
  | succ rounds ih =>
    rw [talkOverWire]
    split
    · exact le_refl _
    · refine le_trans ?_ (ih _)
      rw [List.flatten_append, List.length_append]
      exact Nat.le_add_right _ _

theorem length_talkOverWire {handler : HttpHandler σ} {client : WireClient} {limit : ℕ}
    (hlimit : ∀ answers r, client.next answers = some r → r.wire.length ≤ limit) (s : σ)
    (rounds : ℕ) (chunks : List Bytes) :
    (talkOverWire handler client s rounds chunks).flatten.length ≤
      chunks.flatten.length + rounds * limit := by
  induction rounds generalizing chunks with
  | zero => exact Nat.le_add_right _ _
  | succ rounds ih =>
    rw [talkOverWire, Nat.succ_mul]
    split
    · omega
    · rename_i r hnext
      obtain ⟨answers, -, hnext⟩ := Option.bind_eq_some_iff.mp hnext
      have hrest := ih (chunks ++ client.cut r)
      rw [List.flatten_append, List.length_append, client.cut_whole] at hrest
      have hr := hlimit answers r hnext
      omega

end Talk

/-! ## From bytes to bytes -/

section Wire

variable {δ κ : Type*} [AlacDecoder δ] [AudioSink κ] {b : SrpBackend} {c : HkpBackend}
variable {σ : Type*} {handler : HttpHandler σ}

/-- What is returned for requests whose protocol is a word is read back. -/
theorem AnswersAsReceiver.readable_callAll (h : AnswersAsReceiver δ κ b c handler) {s s' : σ}
    {requests : List HttpRequest} (hwords : ∀ r ∈ requests, IsWord r.protocol)
    {responses : List HttpResponse} (hcalls : callAll handler s requests = .ok (responses, s')) :
    (∀ x ∈ responses, asksToClose x.headers = false) ∧
      ∀ x ∈ List.zipWith withDefaults requests responses, Readable x := by
  induction requests generalizing s responses with
  | nil =>
    obtain ⟨rfl, -⟩ := Prod.mk.inj (Except.ok.inj hcalls)
    exact ⟨nofun, nofun⟩
  | cons request requests ih =>
    obtain ⟨response, t, rest, hcall, hrest, rfl⟩ := callAll_cons.mp hcalls
    obtain ⟨hopen, hreadable⟩ := ih (fun r hr => hwords r (List.mem_cons_of_mem request hr)) hrest
    have hanswer : ReceiverAnswer δ κ request response := h.answer hcall
    refine ⟨?_, ?_⟩
    · intro x hx
      obtain rfl | hx := List.mem_cons.mp hx
      · exact hanswer.leaves_open
      · exact hopen x hx
    · intro x hx
      obtain rfl | hx := List.mem_cons.mp hx
      · exact readable_withDefaults (hanswer.readable (hwords request List.mem_cons_self))
      · exact hreadable x hx

/-- The bytes of the exchanges are those of the responses. -/
theorem sent_zipWith (requests : List HttpRequest) (responses : List HttpResponse) :
    (List.zipWith exchangeOf requests responses).flatMap Exchange.response =
      (List.zipWith withDefaults requests responses).flatMap responseBytes := by
  induction requests generalizing responses with
  | nil => rfl
  | cons request requests ih =>
    cases responses with
    | nil => rfl
    | cons response responses =>
      rw [List.zipWith_cons_cons, List.zipWith_cons_cons, List.flatMap_cons, List.flatMap_cons, ih]
      rfl

theorem length_le_flatMap_responseBytes (responses : List HttpResponse) :
    responses.length ≤ (responses.flatMap responseBytes).length := by
  induction responses with
  | nil => exact Nat.zero_le _
  | cons r rs ih =>
    have hpos := responseBytes_pos r
    rw [List.flatMap_cons, List.length_append, List.length_cons]
    omega

/-- The client reads what the handler returns for each of its requests. -/
theorem answersTo_wire (h : AnswersAsReceiver δ κ b c handler) {s s' : σ}
    {rs : List WireRequest} {responses : List HttpResponse}
    (hcalls : callAll handler s (rs.map WireRequest.request) = .ok (responses, s'))
    (hopen : ∀ r ∈ rs, asksToClose r.request.headers = false)
    (hsize : (WireRequest.pipeline rs).length ≤ maxSize) {chunks : List Bytes}
    (hne : ∀ chunk ∈ chunks, chunk ≠ []) (hwhole : chunks.flatten = WireRequest.pipeline rs) :
    (serveClient (some handler) s [] chunks).ending = .waiting s' [] ∧
      answersTo handler s chunks =
        some (List.zipWith answerOf (rs.map WireRequest.request) responses) := by
  have hwords : ∀ r ∈ rs.map WireRequest.request, IsWord r.protocol := by
    intro request hrequest
    obtain ⟨r, -, rfl⟩ := List.mem_map.mp hrequest
    exact r.protocol_word
  obtain ⟨hstays, hreadable⟩ := h.readable_callAll hwords hcalls
  have hserved := serveClient_wire hcalls hopen hstays hsize hne hwhole
  have hsent : (serveClient (some handler) s [] chunks).sent =
      (List.zipWith withDefaults (rs.map WireRequest.request) responses).flatMap responseBytes := by
    rw [Served.sent, hserved, sent_zipWith]
  refine ⟨by rw [hserved], ?_⟩
  rw [answersTo, hsent, readAnswers_responses hreadable
    (Nat.lt_succ_of_le (length_le_flatMap_responseBytes _)), List.map_zipWith]
  rfl

/-- The two conversations, from a point that both have come to. -/
theorem talk_from (h : AnswersAsReceiver δ κ b c handler) (client : WireClient) {s t s' : σ}
    {rs : List WireRequest} {responses : List HttpResponse}
    (hcalls : callAll handler s (rs.map WireRequest.request) = .ok (responses, t))
    (hopen : ∀ r ∈ rs, asksToClose r.request.headers = false) {chunks : List Bytes}
    (hne : ∀ chunk ∈ chunks, chunk ≠ []) (hwhole : chunks.flatten = WireRequest.pipeline rs)
    {rounds : ℕ} {answers : List Answer}
    (hsize : (talkOverWire handler client s rounds chunks).flatten.length ≤ maxSize)
    (htalk : talk handler client rounds t
      (List.zipWith answerOf (rs.map WireRequest.request) responses) = .ok (answers, s')) :
    (serveClient (some handler) s [] (talkOverWire handler client s rounds chunks)).ending =
        .waiting s' [] ∧
      answersTo handler s (talkOverWire handler client s rounds chunks) = some answers := by
  -- both have come to the answers to `rs`; a round adds a request on each side
  induction rounds generalizing t rs responses chunks with
  | zero =>
    obtain ⟨rfl, rfl⟩ := Prod.mk.inj (Except.ok.inj htalk)
    exact answersTo_wire h hcalls hopen (hwhole ▸ hsize) hne hwhole
  | succ rounds ih =>
    have hgrown : (WireRequest.pipeline rs).length ≤ maxSize := by
      rw [← hwhole]
      exact (talkOverWire_grows handler client s (rounds + 1) chunks).trans hsize
    have hread := answersTo_wire h hcalls hopen hgrown hne hwhole
    rw [talk] at htalk
    rw [talkOverWire, hread.2, Option.bind_some] at hsize ⊢
    cases hnext : client.next (List.zipWith answerOf (rs.map WireRequest.request) responses) with
    | none =>
      rw [hnext] at htalk
      obtain ⟨rfl, rfl⟩ := Prod.mk.inj (Except.ok.inj htalk)
      exact hread
    | some r =>
      rw [hnext] at htalk hsize
      dsimp only at htalk hsize ⊢
      cases hcall : handler t r.request with
      | error e =>
        rw [hcall] at htalk
        cases htalk
      | ok answered =>
        obtain ⟨response, t'⟩ := answered
        rw [hcall] at htalk
        dsimp only at htalk
        have hone : callAll handler t [r.request] = .ok ([response], t') :=
          callAll_cons.mpr ⟨response, t', [], hcall, rfl, rfl⟩
        have hsnoc := callAll_append.mpr ⟨responses, t, [response], hcalls, hone, rfl⟩
        rw [← List.map_singleton, ← List.map_append] at hsnoc
        have hanswers : List.zipWith answerOf ((rs ++ [r]).map WireRequest.request)
            (responses ++ [response]) =
              List.zipWith answerOf (rs.map WireRequest.request) responses ++
                [answerOf r.request response] := by
          have hlength := length_callAll hcalls
          rw [List.map_append, List.zipWith_append hlength.symm]
          rfl
        refine ih hsnoc ?_ ?_ ?_ hsize (hanswers ▸ htalk)
        · intro k hk
          obtain hk | hk := List.mem_append.mp hk
          · exact hopen k hk
          · obtain rfl := List.mem_singleton.mp hk
            exact client.stays _ _ hnext
        · intro chunk hchunk
          obtain hchunk | hchunk := List.mem_append.mp hchunk
          · exact hne chunk hchunk
          · exact client.cut_nonempty r chunk hchunk
        · rw [List.flatten_append, hwhole, client.cut_whole, WireRequest.pipeline,
            WireRequest.pipeline, List.flatMap_append, List.flatMap_singleton]

/-- **A conversation over the wire is one of calls.** Whatever the client makes of the answers, and
    however its requests are cut into chunks: it reads what the handler returned for each of them,
    and the connection waits for it in the state the last call left. -/
theorem talk_over_wire (h : AnswersAsReceiver δ κ b c handler) (client : WireClient) {s s' : σ}
    {rounds : ℕ} {answers : List Answer}
    (hsize : (talkOverWire handler client s rounds []).flatten.length ≤ maxSize)
    (htalk : talk handler client rounds s [] = .ok (answers, s')) :
    (serveClient (some handler) s [] (talkOverWire handler client s rounds [])).ending =
        .waiting s' [] ∧
      answersTo handler s (talkOverWire handler client s rounds []) = some answers := by
  have hnone : callAll handler s (([] : List WireRequest).map WireRequest.request) = .ok ([], s) := rfl
  exact talk_from h client hnone nofun (List.forall_mem_nil _) rfl hsize htalk

end Wire

/-! ## Requests with a body -/

/-- A request over RTSP that has a body. -/
def WireRequest.asking (method : Bytes) (hmethod : IsWord method) (target : Bytes)
    (htarget : IsWord target) (body : Bytes) : WireRequest where
  method := method
  target := target
  protocol := ascii "RTSP/1.0"
  headers := [(contentLengthName, toDecimal body.length)]
  body := body
  method_word := hmethod
  target_word := htarget
  protocol_word := by decide
  names_distinct := List.pairwise_singleton _ _
  name_line := by
    have hname : OneLine contentLengthName ∧ 58 ∉ contentLengthName ∧ Trimmed contentLengthName :=
      ⟨oneLine_iff_all.mpr (by decide), by decide, by decide⟩
    intro h hmem
    obtain rfl := List.mem_singleton.mp hmem
    exact hname
  value_line := by
    intro h hmem
    obtain rfl := List.mem_singleton.mp hmem
    exact plain_of_forall (not_isspace_toDecimal body.length)
  length_value := by
    intro h hmem _
    obtain rfl := List.mem_singleton.mp hmem
    obtain ⟨hne, hdigits, hvalue⟩ := toDecimal_spec body.length
    exact ⟨⟨hne, hdigits⟩, hvalue⟩
  length_missing := by
    have hname : sameName contentLengthName contentLengthName = true := by decide
    intro hnone
    exact absurd (hnone _ List.mem_cons_self) (by rw [hname]; decide)

theorem WireRequest.asking_stays {method : Bytes} {hmethod : IsWord method} {target : Bytes}
    {htarget : IsWord target} {body : Bytes} :
    asksToClose (asking method hmethod target htarget body).request.headers = false := by
  have hother : sameName contentLengthName (ascii "Connection") = false := by decide
  have hentries : (asking method hmethod target htarget body).request.headers.entries =
      [(contentLengthName, toDecimal body.length)] := rfl
  rw [asksToClose, headerValue, headerField, hentries, List.find?_cons_of_neg (by rw [hother]; decide)]
  decide

/-! ## A client that asks twice -/

/-- A byte at a time. -/
def Cutting.bytes : Cutting where
  cut r := r.wire.map ([·])
  cut_nonempty r := by
    intro chunk hchunk
    obtain ⟨byte, -, rfl⟩ := List.mem_map.mp hchunk
    exact List.cons_ne_nil _ _
  cut_whole r := by
    induction r.wire with
    | nil => rfl
    | cons byte bytes ih => rw [List.map_cons, List.flatten_cons, ih]; rfl

/-- Asks until an answer has a body, at most twice. -/
def askingTwice : WireClient where
  toCutting := .bytes
  next answers := if answers.length < 2 ∧ answers.all (·.body = []) then some WireRequest.bare else none
  stays answers r := by
    intro h
    split at h
    · obtain rfl := Option.some.inj h
      rfl
    · cases h

/-- It is told twice that there is nothing. -/
theorem talk_over_wire_twice :
    ∃ answers s', talk idleHandler askingTwice 3 freshConnection [] = .ok (answers, s') ∧
      answers.map Answer.status = [ascii "404", ascii "404"] ∧
      (serveClient (some idleHandler) freshConnection []
          (talkOverWire idleHandler askingTwice freshConnection 3 [])).ending = .waiting s' [] ∧
        answersTo idleHandler freshConnection
          (talkOverWire idleHandler askingTwice freshConnection 3 []) = some answers :=
  ⟨_, _, rfl, by decide +kernel,
    talk_over_wire idleHandler_answers askingTwice (by decide +kernel) rfl⟩

end AirPlay2
