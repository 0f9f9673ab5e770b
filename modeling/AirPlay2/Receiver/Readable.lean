import AirPlay2.Receiver.Client

/- The answers of the receiver are read back. Each is made of constants, numbers and, of the
   request, its protocol, which is a word of the request line, and where a handler gives a length
   it is that of the body (`ReceiverAnswer.readable`). So whatever bytes a peer sends, in whatever
   chunks, a client finds on the stream one answer for each request that was answered
   (`serveClient_reads`): no request can make the stream of the answers mean anything else. -/
namespace AirPlay2
open Lib WireRequest

/-! ## Headers -/

/-- Headers of a response whose body has this length. -/
def PlainHeaders (length : ℕ) (headers : OrdMap Bytes Bytes) : Prop :=
  ∀ h ∈ headers.entries, ReadableHeader length h

theorem PlainHeaders.assign {length : ℕ} {headers : OrdMap Bytes Bytes} (h : PlainHeaders length headers)
    {name value : Bytes} (hheader : ReadableHeader length (name, value)) :
    PlainHeaders length (headers.assign name value) := by
  intro e he
  obtain rfl | he := OrdMap.mem_of_mem_assign he
  · exact hheader
  · exact h e he

theorem plainHeaders_empty (length : ℕ) : PlainHeaders length .empty := by
  intro h hmem
  cases hmem

/-- The name is read back as it is. -/
def plainName (name : Bytes) : Bool := name.all (fun c => c != 13 && c != 10) && !name.contains 58

theorem readableHeader_of {length : ℕ} {name value : Bytes} (hname : plainName name = true)
    (hvalue : OneLine value ∧ Trimmed value)
    (hlength : sameName name contentLengthName = true → value = toDecimal length) :
    ReadableHeader length (name, value) := by
  simp only [plainName, Bool.and_eq_true, Bool.not_eq_true'] at hname
  exact ⟨⟨oneLine_iff_all.mpr hname.1, by simpa using hname.2⟩, hvalue, hlength⟩

/-- A header that can be read off the source. -/
theorem readableHeader_constant (length : ℕ) {name value : Bytes}
    (h : (plainName name && value.all (fun c => c != 13 && c != 10) && decide (Trimmed value) &&
      !sameName name contentLengthName) = true) : ReadableHeader length (name, value) := by
  simp only [Bool.and_eq_true, Bool.not_eq_true', decide_eq_true_eq] at h
  obtain ⟨⟨⟨hname, hvalue⟩, htrimmed⟩, hlength⟩ := h
  apply readableHeader_of hname ⟨oneLine_iff_all.mpr hvalue, htrimmed⟩
  intro hno
  rw [hlength] at hno
  cases hno

/-- Text without whitespace needs no trimming and is on one line. -/
theorem plain_of_forall {s : Bytes} (h : ∀ c ∈ s, isspace c = false) : OneLine s ∧ Trimmed s := by
  refine ⟨?_, trimmed_of_forall h⟩
  intro c hc
  refine ⟨?_, ?_⟩ <;> rintro rfl <;> exact absurd (h _ hc) (by decide)

theorem not_isspace_toDecimal (n : ℕ) : ∀ c ∈ toDecimal n, isspace c = false := by
  obtain ⟨-, hdigits, -⟩ := toDecimal_spec n
  exact fun c hc => not_isspace_of_isdigit (hdigits c hc)

theorem readableHeader_length (length : ℕ) :
    ReadableHeader length (ascii "Content-Length", toDecimal length) :=
  readableHeader_of (by decide) (plain_of_forall (not_isspace_toDecimal length)) (fun _ => rfl)

/-! ## Answers of a session -/

/-- An answer that a client reads back. -/
structure PlainAnswer (x : RtspResponse) : Prop where
  reason : OneLine x.reason
  headers : PlainHeaders x.body.length x.headers

theorem plainHeaders_base (r : RtspRequest) (status : ℤ) (reason : Bytes) (length : ℕ) :
    PlainHeaders length (baseResponse r status reason).headers := by
  have hserver : ReadableHeader length (ascii "Server", ascii "GWL-AirPlay2/0.1") :=
    readableHeader_constant length (by decide)
  unfold baseResponse
  apply PlainHeaders.assign _ hserver
  split
  · apply (plainHeaders_empty length).assign
    exact readableHeader_of (by decide) (plain_of_forall (not_isspace_toDecimal _))
      (fun hno => absurd hno (by decide))
  · exact plainHeaders_empty length

theorem plain_base (r : RtspRequest) (status : ℤ) {reason : Bytes}
    (h : reason.all (fun c => c != 13 && c != 10) = true) : PlainAnswer (baseResponse r status reason) :=
  ⟨oneLine_iff_all.mpr h, plainHeaders_base r status reason _⟩

theorem PlainAnswer.withHeader {x : RtspResponse} (h : PlainAnswer x) {name value : Bytes}
    (hheader : ReadableHeader x.body.length (name, value)) : PlainAnswer (x.withHeader name value) :=
  ⟨h.reason, h.headers.assign hheader⟩

theorem plain_session (r : RtspRequest) : PlainAnswer (sessionResponse r) :=
  ((plain_base r 200 (by decide)).withHeader (readableHeader_constant _ (by decide))).withHeader
    (readableHeader_length 0)

theorem readableHeader_transport (length : ℕ) (t : RtpTransport) :
    ReadableHeader length (ascii "Transport", RtspSession.transportHeader t) := by
  have hconstant : ∀ s : Bytes, s.all (!isspace ·) = true → ∀ c ∈ s, isspace c = false := by
    intro s hs c hc
    simpa using List.all_eq_true.mp hs c hc
  refine readableHeader_of (by decide) (plain_of_forall ?_) ?_
  · have hparts : ∀ a b : Bytes, (∀ c ∈ a, isspace c = false) → (∀ c ∈ b, isspace c = false) →
        ∀ c ∈ a ++ b, isspace c = false := by
      intro a b ha hb c hc
      obtain hc | hc := List.mem_append.mp hc
      · exact ha c hc
      · exact hb c hc
    unfold RtspSession.transportHeader
    refine hparts _ _ (hparts _ _ (hparts _ _ (hparts _ _ (hparts _ _ ?_ ?_) ?_) ?_) ?_) ?_
    · exact hconstant _ (by decide)
    · exact not_isspace_toDecimal _
    · exact hconstant _ (by decide)
    · exact not_isspace_toDecimal _
    · exact hconstant _ (by decide)
    · exact not_isspace_toDecimal _
  · intro hno
    exact absurd hno (by decide)

theorem plain_render {r : RtspRequest} {a : SetupAnswer} {x : RtspResponse} (h : a.render r = .ok x) :
    PlainAnswer x := by
  have hok : OneLine (ascii "OK") := oneLine_iff_all.mpr (by decide)
  have hplist : ∀ body, PlainAnswer (SetupAnswer.plistResponse r body) := fun body =>
    ⟨hok, ((plainHeaders_base r 200 (ascii "OK") body.length).assign
      (readableHeader_length body.length)).assign (readableHeader_constant _ (by decide))⟩
  cases a with
  | info eventPort timingPort ptpHost =>
    cases ptpHost with
    | none =>
      obtain rfl := Except.ok.inj h
      exact hplist _
    | some host =>
      simp only [SetupAnswer.render] at h
      split at h
      · cases h
      · obtain rfl := Except.ok.inj h
        exact hplist _
  | stream dataPort controlPort type =>
    obtain rfl := Except.ok.inj h
    exact ⟨hok, ((plainHeaders_base r 200 (ascii "OK") _).assign
      (readableHeader_constant _ (by decide))).assign (readableHeader_length _)⟩
  | transport t =>
    obtain rfl := Except.ok.inj h
    exact ⟨hok, (((plainHeaders_base r 200 (ascii "OK") _).assign
      (readableHeader_constant _ (by decide))).assign (readableHeader_transport _ t)).assign
      (readableHeader_length 0)⟩

namespace RtspSession

variable {δ κ : Type*} [AlacDecoder δ] [AudioSink κ]

theorem announce_plain {s : RtspSession δ κ} {r : RtspRequest} {x : RtspResponse}
    (h : (s.announce r).1 = .ok x) : PlainAnswer x := by
  unfold announce at h
  cases hp : parseSdp r.body with
  | none =>
    rw [hp] at h
    obtain rfl := Except.ok.inj h
    exact plain_base r 400 (by decide)
  | some p =>
    simp only [hp, configureCrypto_ok, Bool.not_true, Bool.false_eq_true, if_false] at h
    split at h
    · obtain rfl := Except.ok.inj h
      exact plain_base r 415 (by decide)
    · split at h
      · obtain rfl := Except.ok.inj h
        exact plain_base r 415 (by decide)
      · obtain rfl := Except.ok.inj h
        exact (plain_base r 200 (by decide)).withHeader (readableHeader_length 0)

omit [AlacDecoder δ] [AudioSink κ] in
theorem setup_plain {s : RtspSession δ κ} {e : Sockets} {r : RtspRequest} {x : RtspResponse}
    (h : (s.setup e r).1 = .ok x) : PlainAnswer x := by
  have herror : PlainAnswer (serverError r) := plain_base r 500 (by decide)
  have hinvalid : PlainAnswer (methodNotValid r) := plain_base r 455 (by decide)
  unfold setup at h
  split at h
  · cases hbinds : s.infoBinds e (usesPtp r.body) with
    | true =>
      rw [setupInfo_answer hbinds] at h
      exact plain_render h
    | false =>
      obtain ⟨-, hrefused⟩ | ⟨hno, -⟩ | ⟨hno, -⟩ := setupInfo_response s e r
      · rw [hrefused] at h
        obtain rfl := Except.ok.inj h
        exact herror
      · rw [hbinds] at hno
        cases hno
      · rw [hbinds] at hno
        cases hno
  · split at h
    · obtain rfl := Except.ok.inj h
      exact hinvalid
    · split at h
      · exact plain_render (a := .stream _ _ _) h
      · rw [setupTransport_answer] at h
        split at h
        · exact plain_render h
        · obtain rfl := Except.ok.inj h
          exact herror

/-- Every answer of a session is read back. -/
theorem handle_plain {s : RtspSession δ κ} {e : Sockets} {r : RtspRequest} {x : RtspResponse}
    (h : (s.handle e r).1 = .ok x) : PlainAnswer x := by
  have hinvalid : PlainAnswer (methodNotValid r) := plain_base r 455 (by decide)
  unfold handle at h
  cases hv : r.verb with
  | options =>
    rw [hv] at h
    obtain rfl := Except.ok.inj h
    exact ((plain_base r 200 (by decide)).withHeader (readableHeader_constant _ (by decide +kernel))).withHeader
      (readableHeader_constant _ (by decide +kernel))
  | announce =>
    rw [hv] at h
    exact announce_plain h
  | setup =>
    rw [hv] at h
    exact setup_plain h
  | record =>
    rw [hv] at h
    simp only [record] at h
    split at h
    · obtain rfl := Except.ok.inj h
      exact hinvalid
    · obtain rfl := Except.ok.inj h
      exact plain_session r
  | pause | flush | getParameter | setParameter | teardown =>
    rw [hv] at h
    obtain rfl := Except.ok.inj h
    exact plain_session r
  | unknown =>
    rw [hv] at h
    obtain rfl := Except.ok.inj h
    exact plain_base r 405 (by decide)

end RtspSession

/-! ## Answers of the receiver -/

theorem readable_httpResponse {x : RtspResponse} (h : PlainAnswer x) {protocol : Bytes}
    (hprotocol : IsWord protocol) : Readable (httpResponse protocol x) := by
  refine ⟨hprotocol, h.reason, ?_⟩
  intro header hheader
  obtain hno | hheader := List.mem_append.mp hheader
  · cases hno
  · obtain rfl | hheader := List.mem_cons.mp hheader
    · exact readableHeader_length x.body.length
    · exact h.headers header hheader

theorem readable_responseFor (status : ℤ) {reason : Bytes} (hreason : OneLine reason)
    {request : HttpRequest} (hprotocol : IsWord (protocolOf request)) :
    Readable (responseFor status reason request) := by
  refine ⟨hprotocol, hreason, ?_⟩
  intro header hheader
  obtain rfl := List.mem_singleton.mp hheader
  exact readableHeader_length 0

theorem readable_bodyResponse {protocol contentType : Bytes} (hprotocol : IsWord protocol)
    (htype : (contentType.all (fun c => c != 13 && c != 10) && decide (Trimmed contentType)) = true)
    (body : Bytes) : Readable (bodyResponse protocol contentType body) := by
  have hok : OneLine (ascii "OK") := oneLine_iff_all.mpr (by decide)
  have hcontentType : ReadableHeader body.length (ascii "Content-Type", contentType) := by
    rw [Bool.and_eq_true, decide_eq_true_eq] at htype
    exact readableHeader_of (by decide) ⟨oneLine_iff_all.mpr htype.1, htype.2⟩
      (fun hno => absurd hno (by decide))
  have hheaders : PlainHeaders body.length ((OrdMap.empty.assign (ascii "Content-Type") contentType).assign
      (ascii "Content-Length") (toDecimal body.length)) :=
    ((plainHeaders_empty _).assign hcontentType).assign (readableHeader_length _)
  refine ⟨hprotocol, hok, ?_⟩
  intro header hheader
  obtain hdefault | hheader := List.mem_append.mp hheader
  · -- the content type at its default
    obtain rfl := List.mem_singleton.mp hdefault
    show ReadableHeader body.length (ascii "Content-Type", ascii "text/plain")
    exact readableHeader_constant _ (by decide)
  · obtain rfl | hheader := List.mem_cons.mp hheader
    · exact readableHeader_length body.length
    · exact hheaders header hheader

theorem isWord_protocolOf {request : HttpRequest} (h : IsWord request.protocol) :
    IsWord (protocolOf request) := by
  rw [protocolOf, if_neg h.1]
  exact h

/-- The forms the answers of the receiver have: refusals, bodies of its own, and what a session
    returns. -/
inductive ReceiverAnswer (δ κ : Type*) [AlacDecoder δ] [AudioSink κ] (request : HttpRequest) :
    HttpResponse → Prop where
  | refusal (status : ℤ) {reason : Bytes}
      (hreason : reason ∈ [ascii "Method Not Allowed", ascii "Bad Request", ascii "Not Found"]) :
      ReceiverAnswer δ κ request (responseFor status reason request)
  | info (body : Bytes) :
      ReceiverAnswer δ κ request
        (bodyResponse (protocolOf request) (ascii "application/x-apple-binary-plist") body)
  | octets (body : Bytes) :
      ReceiverAnswer δ κ request
        (bodyResponse (ascii "RTSP/1.0") (ascii "application/octet-stream") body)
  | rtsp {protocol : Bytes} (hprotocol : protocol = ascii "RTSP/1.0" ∨ protocol = protocolOf request)
      {s : RtspSession δ κ} {e : Sockets} {r : RtspRequest} {x : RtspResponse}
      (hx : (s.handle e r).1 = .ok x) : ReceiverAnswer δ κ request (httpResponse protocol x)

section Forms

variable {δ κ : Type*} [AlacDecoder δ] [AudioSink κ] {request : HttpRequest} {response : HttpResponse}

/-- Every answer of the receiver is read back. -/
theorem ReceiverAnswer.readable (h : ReceiverAnswer δ κ request response)
    (hword : IsWord request.protocol) : Readable response := by
  have hprotocol := isWord_protocolOf hword
  cases h with
  | refusal status hreason =>
    have hreasons : ∀ reason ∈ [ascii "Method Not Allowed", ascii "Bad Request", ascii "Not Found"],
        OneLine reason := by
      intro reason hreason
      simp only [List.mem_cons, List.not_mem_nil, or_false] at hreason
      obtain rfl | rfl | rfl := hreason <;> exact oneLine_iff_all.mpr (by decide)
    exact readable_responseFor status (hreasons _ hreason) hprotocol
  | info body => exact readable_bodyResponse hprotocol (by decide) body
  | octets body => exact readable_bodyResponse (by decide) (by decide) body
  | rtsp hprotocol' hx =>
    apply readable_httpResponse (RtspSession.handle_plain hx)
    obtain rfl | rfl := hprotocol'
    · decide
    · exact hprotocol

/-- No answer of the receiver ends the connection. -/
theorem ReceiverAnswer.leaves_open (h : ReceiverAnswer δ κ request response) :
    asksToClose response.headers = false := by
  have hother : ∀ headers : OrdMap Bytes Bytes, (∀ name ∈ headers.keys, name ∈ answerNames) →
      asksToClose headers = false := by
    intro headers hnames
    have hconnection : answerNames.all (fun name => !sameName name (ascii "Connection")) = true := by
      decide +kernel
    have hnone : headers.entries.find? (fun item => sameName item.1 (ascii "Connection")) = none := by
      apply List.find?_eq_none.mpr
      intro item hitem
      simpa using List.all_eq_true.mp hconnection item.1
        (hnames item.1 (OrdMap.mem_keys_of_mem hitem))
    rw [asksToClose, headerValue, headerField, hnone]
    decide
  have hbody : ∀ protocol contentType body : Bytes,
      ∀ name ∈ (bodyResponse protocol contentType body).headers.keys, name ∈ answerNames := by
    intro protocol contentType body name hname
    obtain rfl | hname := OrdMap.mem_keys_assign.mp hname
    · decide
    · obtain rfl | hno := OrdMap.mem_keys_assign.mp hname
      · decide
      · cases hno
  apply hother
  cases h with
  | refusal status hreason =>
    intro name hname
    cases hname
  | info body => exact hbody _ _ body
  | octets body => exact hbody _ _ body
  | rtsp hprotocol hx => exact (RtspSession.handle_answered hx).names

theorem receiverAnswer_octetAnswer (ok : Bool) (body : Bytes) :
    ReceiverAnswer δ κ request (octetAnswer request ok body) := by
  cases ok with
  | false => exact .refusal 400 (by simp)
  | true => exact .octets body

theorem receiverAnswer_of_handle {s : RtspSession δ κ} {e : Sockets} {r : RtspRequest}
    {protocol : Bytes} (hprotocol : protocol = ascii "RTSP/1.0" ∨ protocol = protocolOf request)
    (h : (s.handle e r).1.map (httpResponse protocol) = .ok response) :
    ReceiverAnswer δ κ request response := by
  cases hx : (s.handle e r).1 with
  | error e =>
    rw [hx] at h
    cases h
  | ok x =>
    rw [hx] at h
    obtain rfl := Except.ok.inj h
    exact .rtsp hprotocol hx

end Forms

namespace Connection

variable {δ κ : Type*} [AlacDecoder δ] [AudioSink κ]
variable (b : SrpBackend) (c : HkpBackend)

theorem posted_answer {request : HttpRequest} {s s₁ s' : Connection δ κ} {ok : Bool} {reply : Bytes}
    {response : HttpResponse}
    (h : (if request.method ≠ ascii "POST" then
        some (.ok (responseFor 405 (ascii "Method Not Allowed") request), s)
      else some (.ok (octetAnswer request ok reply), s₁) :
        Option (Except StdException HttpResponse × Connection δ κ)) = some (.ok response, s')) :
    ReceiverAnswer δ κ request response := by
  split at h
  · obtain rfl := Except.ok.inj (congrArg Prod.fst (Option.some.inj h))
    exact .refusal 405 (by simp)
  · obtain rfl := Except.ok.inj (congrArg Prod.fst (Option.some.inj h))
    exact receiverAnswer_octetAnswer ok reply

/-- Every answer of the handler of a connection has one of the forms. -/
theorem handleRequest_answer {config : ReceiverConfig} {s s' : Connection δ κ} {e : ConnectionCalls}
    {request : HttpRequest} {response : HttpResponse}
    (h : handleRequest b c config s e request = some (.ok response, s')) :
    ReceiverAnswer δ κ request response := by
  have hnotAllowed : ReceiverAnswer δ κ request
      (responseFor 405 (ascii "Method Not Allowed") request) := .refusal 405 (by simp)
  unfold handleRequest at h
  by_cases hinfo : request.target = ascii "/info" ∨ request.target = ascii "/info/"
  · rw [if_pos hinfo] at h
    by_cases hmethod : request.method = ascii "GET"
    · rw [if_neg (not_not_intro hmethod)] at h
      obtain rfl := Except.ok.inj (congrArg Prod.fst (Option.some.inj h))
      exact .info _
    · rw [if_pos hmethod] at h
      obtain rfl := Except.ok.inj (congrArg Prod.fst (Option.some.inj h))
      exact hnotAllowed
  · rw [if_neg hinfo] at h
    by_cases hsetup : request.target = ascii "/pair-setup"
    · rw [if_pos hsetup] at h
      by_cases hlen : request.body.length = 32
      · rw [if_pos hlen] at h
        exact posted_answer h
      · rw [if_neg hlen] at h
        exact posted_answer h
    · rw [if_neg hsetup] at h
      by_cases hverify : request.target = ascii "/pair-verify"
      · rw [if_pos hverify] at h
        cases hreply : s.hkp.handlePairVerify c e.hkp request.body with
        | none =>
          rw [hreply] at h
          split at h
          · obtain rfl := Except.ok.inj (congrArg Prod.fst (Option.some.inj h))
            exact hnotAllowed
          · cases h
        | some reply =>
          rw [hreply] at h
          exact posted_answer h
      · rw [if_neg hverify] at h
        by_cases hfp : request.target = ascii "/fp-setup"
        · rw [if_pos hfp] at h
          exact posted_answer h
        · rw [if_neg hfp] at h
          cases hmedia : isRtspMediaRequest request with
          | false =>
            rw [hmedia] at h
            obtain rfl := Except.ok.inj (congrArg Prod.fst (Option.some.inj h))
            exact .refusal 404 (by simp)
          | true =>
            rw [hmedia] at h
            exact receiverAnswer_of_handle (Or.inl rfl) (congrArg Prod.fst (Option.some.inj h))

end Connection

/-! ## The stream of a connection -/

theorem isWord_nextWord {s : Bytes} (h : (nextWord s).1 ≠ []) : IsWord (nextWord s).1 := by
  refine ⟨h, ?_⟩
  intro c hc
  have hnot := List.all_takeWhile (p := (!isspace ·)) (l := s.dropWhile isspace)
  simpa using List.all_eq_true.mp hnot c hc

/-- The protocol of a request taken is the third word of its first line. -/
theorem protocol_of_parseRequest {input rest : Bytes} {request : HttpRequest}
    (h : parseRequest input = .ok (some (request, rest))) : IsWord request.protocol := by
  obtain ⟨headerEnd, head, length, hhead, -, -, -, rfl, -⟩ := parseRequest_eq_some_wrapped.mp h
  obtain ⟨-, firstEnd, -, line, hline, headers, -, rfl⟩ := parseHead_eq_some.mp hhead
  simp only [requestLine] at hline
  split at hline
  · cases hline
  · rename_i hwords
    obtain rfl := Option.some.inj hline
    exact isWord_nextWord (fun hno => hwords (Or.inr (Or.inr hno)))

/-- The defaults the server fills in are read back as well. -/
theorem readable_withDefaults {request : HttpRequest} {response : HttpResponse}
    (h : Readable response) : Readable (withDefaults request response) := by
  refine ⟨?_, ?_, h.headers⟩
  · simp only [withDefaults]
    rw [if_neg h.protocol.1]
    exact h.protocol
  · simp only [withDefaults]
    split
    · split
      · exact oneLine_iff_all.mpr (by decide)
      · exact oneLine_iff_all.mpr (by decide)
    · exact h.reason

/-- What the handler returns is an answer of the receiver: of a connection, or of the event
    channel of a session, in some state and with some results of its calls. -/
def AnswersAsReceiver (δ κ : Type*) [AlacDecoder δ] [AudioSink κ] (b : SrpBackend) (c : HkpBackend)
    {σ : Type*} (handler : HttpHandler σ) : Prop :=
  ∀ s request response s', handler s request = .ok (response, s') →
    (∃ (config : ReceiverConfig) (t t' : Connection δ κ) (e : ConnectionCalls),
      Connection.handleRequest b c config t e request = some (.ok response, t')) ∨
    ∃ (t t' : RtspSession δ κ) (e : Sockets), t.eventHandler e request = (.ok response, t')

section Serve

variable {δ κ : Type*} [AlacDecoder δ] [AudioSink κ] {b : SrpBackend} {c : HkpBackend}
variable {σ : Type*} {handler : HttpHandler σ}

theorem AnswersAsReceiver.answer (h : AnswersAsReceiver δ κ b c handler) {s s' : σ}
    {request : HttpRequest} {response : HttpResponse}
    (hcall : handler s request = .ok (response, s')) : ReceiverAnswer δ κ request response := by
  obtain ⟨config, t, t', e, hanswer⟩ | ⟨t, t', e, hanswer⟩ := h s request response s' hcall
  · exact Connection.handleRequest_answer b c hanswer
  · exact receiverAnswer_of_handle (Or.inr rfl) (congrArg Prod.fst hanswer)

/-- What was sent are responses that can be read back, one for each exchange. -/
def SentReadable (exchanges : List Exchange) (responses : List HttpResponse) : Prop :=
  exchanges.map Exchange.response = responses.map responseBytes ∧ ∀ r ∈ responses, Readable r

theorem SentReadable.append {xs ys : List Exchange} {rs ss : List HttpResponse}
    (hx : SentReadable xs rs) (hy : SentReadable ys ss) : SentReadable (xs ++ ys) (rs ++ ss) := by
  refine ⟨?_, ?_⟩
  · rw [List.map_append, List.map_append, hx.1, hy.1]
  · intro r hr
    obtain hr | hr := List.mem_append.mp hr
    · exact hx.2 r hr
    · exact hy.2 r hr

theorem sentReadable_one {request : HttpRequest} {response : HttpResponse} (h : Readable response) :
    SentReadable [⟨request, responseBytes response⟩] [response] := by
  refine ⟨rfl, ?_⟩
  intro r hr
  obtain rfl := List.mem_singleton.mp hr
  exact h

theorem requestLoop_readable (h : AnswersAsReceiver δ κ b c handler) (fuel : ℕ) (s : σ)
    (input : Bytes) :
    ∃ responses, SentReadable (requestLoop (some handler) fuel s input).exchanges responses := by
  have hnone : SentReadable [] [] := ⟨rfl, nofun⟩
  induction fuel generalizing s input with
  | zero => exact ⟨[], hnone⟩
  | succ fuel ih =>
    rw [requestLoop]
    cases hp : parseRequest input with
    | error e => exact ⟨[], hnone⟩
    | ok taken =>
      cases taken with
      | none => exact ⟨[], hnone⟩
      | some taken =>
        obtain ⟨request, rest⟩ := taken
        have hword := protocol_of_parseRequest hp
        dsimp only
        cases hcall : callHandler (some handler) s request with
        | error e => exact ⟨[], hnone⟩
        | ok answer =>
          obtain ⟨response, s'⟩ := answer
          have hreadable : Readable (withDefaults request response) :=
            readable_withDefaults ((h.answer hcall).readable hword)
          have hone : SentReadable [⟨request, responseBytes (withDefaults request response)⟩]
              [withDefaults request response] := sentReadable_one hreadable
          dsimp only
          split
          · exact ⟨_, hone⟩
          · split
            · exact ⟨_, hone⟩
            · obtain ⟨responses, hrest⟩ := ih s' rest
              exact ⟨_, hone.append hrest⟩

theorem serveClient_readable (h : AnswersAsReceiver δ κ b c handler) (s : σ) (input : Bytes)
    (chunks : List Bytes) :
    ∃ responses, SentReadable (serveClient (some handler) s input chunks).exchanges responses := by
  induction chunks generalizing s input with
  | nil => exact ⟨[], rfl, nofun⟩
  | cons chunk chunks ih =>
    rw [serveClient]
    split
    · exact ⟨[], rfl, nofun⟩
    · obtain ⟨responses, hsent⟩ := requestLoop_readable h ((input ++ chunk).length + 1) s (input ++ chunk)
      unfold Served.andThen drain
      cases hending : (requestLoop (some handler) ((input ++ chunk).length + 1) s
          (input ++ chunk)).ending with
      | waiting s' rest =>
        obtain ⟨others, hothers⟩ := ih s' rest
        exact ⟨_, hsent.append hothers⟩
      | closed => exact ⟨responses, hsent⟩
      | escaped request e => exact ⟨responses, hsent⟩

/-- **The answers can be told apart.** Whatever bytes a peer sends, in whatever chunks, and
    whatever state the receiver is in, the bytes it sends back read as one answer for each
    request that was answered, in order, each with the body that was meant. -/
theorem serveClient_reads (h : AnswersAsReceiver δ κ b c handler) (s : σ) (input : Bytes)
    (chunks : List Bytes) :
    ∃ responses : List HttpResponse,
      (serveClient (some handler) s input chunks).exchanges.map Exchange.response =
          responses.map responseBytes ∧
        readAnswers (responses.length + 1)
            ((serveClient (some handler) s input chunks).exchanges.flatMap Exchange.response) =
          some (responses.map Answer.of) := by
  obtain ⟨responses, hsent, hreadable⟩ := serveClient_readable h s input chunks
  have hbytes : (serveClient (some handler) s input chunks).exchanges.flatMap Exchange.response =
      responses.flatMap responseBytes := by
    rw [List.flatMap_def, hsent, List.flatMap_def]
  refine ⟨responses, hsent, ?_⟩
  rw [hbytes]
  exact readAnswers_responses hreadable (Nat.lt_succ_self _)

end Serve

/-- A connection whose calls all return the same. The process ends where nothing is returned. -/
def idleHandler : HttpHandler (Connection NullAlacDecoder NullAudioSink) := fun s request =>
  match Connection.handleRequest AirPlayTransientPairing.zeroTail xorBackend {} s idleCalls request with
  | some (.ok response, s') => .ok (response, s')
  | some (.error e, _) => .error e
  | none => .error .lengthError

theorem idleHandler_answers :
    AnswersAsReceiver NullAlacDecoder NullAudioSink AirPlayTransientPairing.zeroTail xorBackend
      idleHandler := by
  intro s request response s' h
  refine Or.inl ⟨{}, s, s', idleCalls, ?_⟩
  unfold idleHandler at h
  split at h
  · rename_i r t heq
    obtain ⟨rfl, rfl⟩ := Prod.mk.inj (Except.ok.inj h)
    exact heq
  · cases h
  · cases h

/-- Two requests in three chunks, the second on a path there is not. -/
def twoRequests : List Bytes :=
  [ascii "OPTIONS * RTSP/1.0" ++ crlf ++ ascii "CSeq: 1", blankLine,
    ascii "GET /none HTTP/1.1" ++ blankLine]

theorem serveClient_reads_two :
    (serveClient (some idleHandler) freshConnection [] twoRequests).exchanges.length = 2 ∧
      ∃ responses : List HttpResponse,
        (serveClient (some idleHandler) freshConnection [] twoRequests).exchanges.map
            Exchange.response = responses.map responseBytes ∧
          readAnswers (responses.length + 1)
              ((serveClient (some idleHandler) freshConnection [] twoRequests).exchanges.flatMap
                Exchange.response) =
            some (responses.map Answer.of) :=
  ⟨by decide +kernel, serveClient_reads idleHandler_answers freshConnection [] twoRequests⟩

end AirPlay2
