import AirPlay2.Receiver.CSeq

/- How responses are framed. The server writes a Content-Type line where the response has a
   content type, a Content-Length line always, and then the headers of the handler
   (`writtenHeaders`). Handlers that set a Content-Length of their own make it stand there
   twice, and those that leave the content type at its default and set the header as well make
   two Content-Types. So the responses that are framed once are those with no length of their
   own: refusals, and the answers to OPTIONS (`framedOnce_iff`). -/
namespace AirPlay2
open Lib

/-- The header lines the server writes. -/
def writtenHeaders (response : HttpResponse) : List (Bytes × Bytes) :=
  (if response.contentType = [] then [] else [(ascii "Content-Type", response.contentType)]) ++
    (ascii "Content-Length", toDecimal response.body.length) :: response.headers.entries

/-- The header block is these lines, between the status line and the blank line. -/
theorem responseBytes_eq (response : HttpResponse) :
    responseBytes response =
      response.protocol ++ ascii " " ++ statusText response.status ++ ascii " " ++ response.reason ++
        crlf ++
      (writtenHeaders response).flatMap (fun header => header.1 ++ ascii ": " ++ header.2 ++ crlf) ++
      crlf ++ response.body := by
  have hspace : ascii ": " = [58, 32] := by decide
  have htype : ascii "Content-Type: " = ascii "Content-Type" ++ [58, 32] := by decide
  have hlength : ascii "Content-Length: " = ascii "Content-Length" ++ [58, 32] := by decide
  unfold responseBytes writtenHeaders
  rw [hspace, htype, hlength]
  split <;> simp

/-- No header line has the name of another, up to case, and the length is there, once, and is
    that of the body. -/
structure FramedOnce (response : HttpResponse) : Prop where
  names : (writtenHeaders response).Pairwise (fun a b => sameName a.1 b.1 = false)
  length : (writtenHeaders response).filter (fun header => sameName header.1 (ascii "Content-Length"))
    = [(ascii "Content-Length", toDecimal response.body.length)]

/-! ## With and without a length of its own -/

/-- A length of the handler's stands behind the server's. -/
theorem not_framedOnce {response : HttpResponse}
    (h : ascii "Content-Length" ∈ response.headers.keys) : ¬ FramedOnce response := by
  intro hframed
  obtain ⟨e, he, hname⟩ := List.mem_map.mp h
  have hnames := hframed.names
  unfold writtenHeaders at hnames
  rw [List.pairwise_append] at hnames
  have hdiffer := (List.pairwise_cons.mp hnames.2.1).1 e he
  have hsame : sameName (ascii "Content-Length") (ascii "Content-Length") = true := by decide
  rw [hname] at hdiffer
  exact Bool.noConfusion (hdiffer.symm.trans hsame)

/-- Two names of the list differ in more than case. -/
theorem answerNames_injective {a b : Bytes} (ha : a ∈ answerNames) (hb : b ∈ answerNames)
    (h : sameName a b = true) : a = b := by
  have hall : answerNames.all (fun a => answerNames.all
      (fun b => !sameName a b || a == b)) = true := by decide +kernel
  have hpair := List.all_eq_true.mp (List.all_eq_true.mp hall a ha) b hb
  rw [h] at hpair
  simpa using hpair

theorem framedOnce_of_bare {response : HttpResponse} (htype : response.contentType = [])
    (hnames : ∀ name ∈ response.headers.keys, name ∈ answerNames)
    (hbare : ascii "Content-Length" ∉ response.headers.keys) : FramedOnce response := by
  have hlength : ascii "Content-Length" ∈ answerNames := by decide
  have hwritten : writtenHeaders response =
      (ascii "Content-Length", toDecimal response.body.length) :: response.headers.entries := by
    rw [writtenHeaders, if_pos htype, List.nil_append]
  have hother : ∀ e ∈ response.headers.entries, sameName e.1 (ascii "Content-Length") = false := by
    intro e he
    rw [← Bool.not_eq_true]
    intro hsame
    have hkey := OrdMap.mem_keys_of_mem he
    rw [answerNames_injective (hnames _ hkey) hlength hsame] at hkey
    exact hbare hkey
  refine ⟨?_, ?_⟩
  · rw [hwritten, List.pairwise_cons]
    refine ⟨?_, ?_⟩
    · intro e he
      have hsymm : sameName (ascii "Content-Length") e.1 = sameName e.1 (ascii "Content-Length") :=
        BEq.comm
      exact hsymm.trans (hother e he)
    · -- keys of a map are different, and then not equal up to case
      have hdistinct : response.headers.entries.Pairwise (fun a b => a.1 ≠ b.1) :=
        List.pairwise_map.mp response.headers.keys_nodup
      refine hdistinct.imp_of_mem ?_
      intro a b ha hb hne
      rw [← Bool.not_eq_true]
      intro hsame
      exact hne (answerNames_injective (hnames _ (OrdMap.mem_keys_of_mem ha))
        (hnames _ (OrdMap.mem_keys_of_mem hb)) hsame)
  · have hself : sameName (ascii "Content-Length") (ascii "Content-Length") = true := by decide
    rw [hwritten, List.filter_cons, if_pos hself, List.filter_eq_nil_iff.mpr]
    intro e he
    rw [hother e he]
    decide

theorem framedOnce_responseFor (status : ℤ) (reason : Bytes) (request : HttpRequest) :
    FramedOnce (responseFor status reason request) := by
  apply framedOnce_of_bare rfl
  · intro name hname
    cases hname
  · exact List.not_mem_nil

theorem not_framedOnce_bodyResponse (protocol contentType body : Bytes) :
    ¬ FramedOnce (bodyResponse protocol contentType body) :=
  not_framedOnce (OrdMap.mem_keys_assign.mpr (Or.inl rfl))

theorem framedOnce_octetAnswer (request : HttpRequest) (ok : Bool) (response : Bytes) :
    FramedOnce (octetAnswer request ok response) ↔ ok = false := by
  cases ok with
  | false => exact iff_of_true (framedOnce_responseFor _ _ _) rfl
  | true => exact iff_of_false (not_framedOnce_bodyResponse _ _ _) (by decide)

/-- An answer of a session is framed once if it is bare. -/
theorem framedOnce_httpResponse {r : RtspRequest} {bare : Bool} {x : RtspResponse}
    (h : Answered r bare x) (protocol : Bytes) :
    FramedOnce (httpResponse protocol x) ↔ bare = true := by
  cases bare with
  | false => exact iff_of_false (not_framedOnce (h.length.mpr rfl)) (by decide)
  | true =>
    refine iff_of_true (framedOnce_of_bare rfl h.names ?_) rfl
    intro hlength
    have hno := h.length.mp hlength
    cases hno

/-- The defaults the server fills in are no headers. -/
theorem framedOnce_withDefaults (request : HttpRequest) (response : HttpResponse) :
    FramedOnce (withDefaults request response) ↔ FramedOnce response := by
  have hsame : writtenHeaders (withDefaults request response) = writtenHeaders response := rfl
  refine ⟨fun h => ⟨?_, ?_⟩, fun h => ⟨?_, ?_⟩⟩
  · rw [← hsame]
    exact h.names
  · rw [← hsame]
    exact h.length
  · rw [hsame]
    exact h.names
  · rw [hsame]
    exact h.length

/-! ## The handlers -/

/-- The frame `handle_fairplay_setup` answers: its header, version and phase, and the length
    of the phase. -/
def takesFairplay (body : Bytes) : Bool :=
  body.take 4 == ascii "FPLY" && body.getD 4 0 == 3 && body.getD 5 0 == 1 &&
    (body.getD 6 0 == 1 && body.length == 16 || body.getD 6 0 == 3 && body.length == 164)

theorem handleFairplaySetup_empty (body keyMessage : Bytes) :
    (handleFairplaySetup body keyMessage).1.response.isEmpty = !takesFairplay body := by
  have hphase1 : fairplayV3Phase1Response.isEmpty = false := by decide +kernel
  unfold handleFairplaySetup takesFairplay
  generalize body.length = n, body.take 4 = head, body.getD 4 0 = b4, body.getD 5 0 = b5,
    body.getD 6 0 = b6
  by_cases hhead : n < 16 ∨ head ≠ ascii "FPLY"
  · rw [if_pos (by simpa using hhead)]
    obtain hshort | hother := hhead
    · have h16 : n ≠ 16 := by omega
      have h164 : n ≠ 164 := by omega
      simp [h16, h164]
    · simp [hother]
  · rw [if_neg (by simpa using hhead)]
    obtain ⟨-, hhead⟩ := not_or.mp hhead
    rw [not_not.mp hhead]
    by_cases hversion : b4 = 3 ∧ b5 = 1
    · obtain ⟨rfl, rfl⟩ := hversion
      by_cases h1 : b6 = 1
      · subst h1
        by_cases hn : n = 16 <;> simp [hn, hphase1]
      · by_cases h3 : b6 = 3
        · subst h3
          by_cases hn : n = 164 <;> simp [hn]
        · simp [h1, h3]
    · by_cases h4 : b4 = 3
      · have h5 : b5 ≠ 1 := fun h5 => hversion ⟨h4, h5⟩
        simp [h4, h5]
      · simp [h4]

/-- What a session returns is framed once if it is bare. -/
theorem httpResponse_framedOnce_iff {δ κ : Type*} [AlacDecoder δ] [AudioSink κ]
    {s : RtspSession δ κ} {e : Sockets} {r : RtspRequest} {protocol : Bytes}
    {response : HttpResponse} (h : (s.handle e r).1.map (httpResponse protocol) = .ok response) :
    FramedOnce response ↔ s.answersBare e r = true := by
  obtain ⟨x, hx, rfl⟩ := answered_of_handle h
  exact framedOnce_httpResponse hx protocol

namespace Connection

variable {δ κ : Type*} [AlacDecoder δ] [AudioSink κ]
variable (b : SrpBackend) (c : HkpBackend)

/-- The pairing object takes the message: the HKP one where it has 32 bytes. -/
def takesPairSetup (s : Connection δ κ) (e : ConnectionCalls) (body : Bytes) : Bool :=
  if body.length = 32 then (s.hkp.handlePairSetup c e.hkp body).1.ok
  else (s.transient.handle b e.transient body).1.ok

def takesPairVerify (s : Connection δ κ) (e : ConnectionCalls) (body : Bytes) : Bool :=
  (s.hkp.handlePairVerify c e.hkp body).any (fun reply => reply.1.ok)

/-- The request is refused, or an OPTIONS. -/
def answersBare (s : Connection δ κ) (e : ConnectionCalls) (request : HttpRequest) : Bool :=
  if request.target = ascii "/info" ∨ request.target = ascii "/info/" then
    request.method != ascii "GET"
  else if request.target = ascii "/pair-setup" then
    request.method != ascii "POST" || !s.takesPairSetup b c e request.body
  else if request.target = ascii "/pair-verify" then
    request.method != ascii "POST" || !s.takesPairVerify c e request.body
  else if request.target = ascii "/fp-setup" then
    request.method != ascii "POST" || !takesFairplay request.body
  else if isRtspMediaRequest request then s.rtsp.answersBare e.sockets (rtspRequest request)
  else true

omit [AlacDecoder δ] [AudioSink κ] in
/-- Any method but POST is refused on the paths that are posted to, and then the message may
    be. -/
theorem posted_framedOnce_iff {request : HttpRequest} {s s₁ s' : Connection δ κ} {ok : Bool}
    {reply : Bytes} {response : HttpResponse}
    (h : (if request.method ≠ ascii "POST" then
        some (.ok (responseFor 405 (ascii "Method Not Allowed") request), s)
      else some (.ok (octetAnswer request ok reply), s₁) :
        Option (Except StdException HttpResponse × Connection δ κ)) = some (.ok response, s')) :
    FramedOnce response ↔ (request.method != ascii "POST" || !ok) = true := by
  by_cases hmethod : request.method = ascii "POST"
  · rw [if_neg (not_not_intro hmethod)] at h
    rw [← Except.ok.inj (congrArg Prod.fst (Option.some.inj h)), framedOnce_octetAnswer]
    simp [hmethod]
  · rw [if_pos hmethod] at h
    rw [← Except.ok.inj (congrArg Prod.fst (Option.some.inj h))]
    exact iff_of_true (framedOnce_responseFor _ _ _) (by simp [hmethod])

theorem handleRequest_framedOnce_iff {config : ReceiverConfig} {s s' : Connection δ κ}
    {e : ConnectionCalls} {request : HttpRequest} {response : HttpResponse}
    (h : handleRequest b c config s e request = some (.ok response, s')) :
    FramedOnce response ↔ s.answersBare b c e request = true := by
  unfold handleRequest at h
  unfold answersBare
  by_cases hinfo : request.target = ascii "/info" ∨ request.target = ascii "/info/"
  · rw [if_pos hinfo] at h ⊢
    by_cases hmethod : request.method = ascii "GET"
    · rw [if_neg (not_not_intro hmethod)] at h
      obtain rfl := Except.ok.inj (congrArg Prod.fst (Option.some.inj h))
      exact iff_of_false (not_framedOnce_bodyResponse _ _ _) (by simp [hmethod])
    · rw [if_pos hmethod] at h
      obtain rfl := Except.ok.inj (congrArg Prod.fst (Option.some.inj h))
      exact iff_of_true (framedOnce_responseFor _ _ _) (by simp [hmethod])
  · rw [if_neg hinfo] at h ⊢
    by_cases hsetup : request.target = ascii "/pair-setup"
    · rw [if_pos hsetup] at h ⊢
      unfold takesPairSetup
      by_cases hlen : request.body.length = 32
      · rw [if_pos hlen] at h ⊢
        exact posted_framedOnce_iff h
      · rw [if_neg hlen] at h ⊢
        exact posted_framedOnce_iff h
    · rw [if_neg hsetup] at h ⊢
      by_cases hverify : request.target = ascii "/pair-verify"
      · rw [if_pos hverify] at h ⊢
        unfold takesPairVerify
        cases hreply : s.hkp.handlePairVerify c e.hkp request.body with
        | none =>
          rw [hreply] at h
          split at h
          · rename_i hmethod
            obtain rfl := Except.ok.inj (congrArg Prod.fst (Option.some.inj h))
            exact iff_of_true (framedOnce_responseFor _ _ _) (by simp)
          · cases h
        | some reply =>
          rw [hreply] at h
          exact posted_framedOnce_iff h
      · rw [if_neg hverify] at h ⊢
        by_cases hfp : request.target = ascii "/fp-setup"
        · rw [if_pos hfp] at h ⊢
          rw [posted_framedOnce_iff h, handleFairplaySetup_empty, Bool.not_not]
        · rw [if_neg hfp] at h ⊢
          cases hmedia : isRtspMediaRequest request with
          | false =>
            rw [hmedia] at h
            obtain rfl := Except.ok.inj (congrArg Prod.fst (Option.some.inj h))
            exact iff_of_true (framedOnce_responseFor _ _ _) rfl
          | true =>
            rw [hmedia] at h
            exact httpResponse_framedOnce_iff (congrArg Prod.fst (Option.some.inj h))

end Connection

variable {δ κ : Type*} [AlacDecoder δ] [AudioSink κ]

/-- **Which responses are framed once.** Whatever the state, the request and what the calls
    made for it return, a response of the receiver's handler or of the event channel, as the
    server writes it, has each header once and one Content-Length, that of its body, exactly
    if it refuses the request or answers an OPTIONS. -/
theorem framedOnce_iff (b : SrpBackend) (c : HkpBackend) (config : ReceiverConfig)
    (s : Connection δ κ) (e : ConnectionCalls) (request : HttpRequest) :
    (∀ response s', Connection.handleRequest b c config s e request = some (.ok response, s') →
        (FramedOnce (withDefaults request response) ↔ s.answersBare b c e request = true)) ∧
      ∀ response s', s.rtsp.eventHandler e.sockets request = (.ok response, s') →
        (FramedOnce (withDefaults request response) ↔
          s.rtsp.answersBare e.sockets (rtspRequest request) = true) := by
  refine ⟨?_, ?_⟩
  · intro response s' h
    rw [framedOnce_withDefaults]
    exact Connection.handleRequest_framedOnce_iff b c h
  · intro response s' h
    rw [framedOnce_withDefaults]
    exact httpResponse_framedOnce_iff (congrArg Prod.fst h)

/-- GET /info on a new connection. -/
def infoRequest : HttpRequest :=
  { method := ascii "GET", target := ascii "/info", protocol := ascii "RTSP/1.0" }

/-- The answer has a Content-Length of the server's and one of the handler's, and two
    Content-Types. -/
theorem infoRequest_not_framedOnce :
    ¬ ∀ response s', Connection.handleRequest AirPlayTransientPairing.zeroTail xorBackend {}
        freshConnection idleCalls infoRequest = some (.ok response, s') →
      FramedOnce (withDefaults infoRequest response) := by
  intro hall
  have hframed := hall _ _ rfl
  rw [framedOnce_withDefaults] at hframed
  exact not_framedOnce_bodyResponse _ _ _ hframed

end AirPlay2
