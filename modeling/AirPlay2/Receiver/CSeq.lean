import AirPlay2.Pairing.Honest
import AirPlay2.Receiver.Handler
import AirPlay2.Rtsp.Headers

/- The CSeq of a request in the answer. A session answers with the CSeq it was given, by
   `handle_answered`, so what decides is how the two handlers read it from the headers: by the
   exact name "CSeq", while header names are compared up to case everywhere else, and with 0
   for none. A request that spells the name otherwise, or counts from 0, is answered without
   a CSeq (`cseq_echoed_iff`). -/
namespace AirPlay2
open Lib

/-- The headers named CSeq, in any case, are this one. -/
def CarriesCSeq (request : HttpRequest) (name : Bytes) (n : ℕ) : Prop :=
  request.headers.entries.filter (fun header => sameName header.1 (ascii "CSeq")) =
    [(name, toDecimal n)]

/-- The response has a CSeq header with the number. -/
def HttpResponse.Echoes (response : HttpResponse) (n : ℕ) : Prop :=
  headerField response.headers (ascii "CSeq") = some (toDecimal n)

/-! ## Reading the header -/

theorem CarriesCSeq.find? {request : HttpRequest} {name : Bytes} {n : ℕ}
    (h : CarriesCSeq request name n) :
    request.headers.find? (ascii "CSeq") =
      if name = ascii "CSeq" then some (toDecimal n) else none := by
  have hmem : ∀ value, (ascii "CSeq", value) ∈ request.headers.entries ↔
      (ascii "CSeq", value) = (name, toDecimal n) := by
    intro value
    have hsame : sameName (ascii "CSeq") (ascii "CSeq") = true := by decide
    have hfilter : (ascii "CSeq", value) ∈ request.headers.entries.filter
        (fun header => sameName header.1 (ascii "CSeq")) ↔
          (ascii "CSeq", value) ∈ request.headers.entries := by
      rw [List.mem_filter]
      exact and_iff_left hsame
    rw [← hfilter, h, List.mem_singleton]
  split
  · rename_i hname
    rw [OrdMap.find?_eq_some, hmem, hname]
  · rename_i hname
    rw [OrdMap.find?_eq_none]
    intro hkey
    obtain ⟨⟨k, value⟩, he, hk⟩ := List.mem_map.mp hkey
    simp only at hk
    subst hk
    exact hname (congrArg Prod.fst ((hmem value).mp he)).symm

theorem CarriesCSeq.cseq {request : HttpRequest} {name : Bytes} {n : ℕ}
    (h : CarriesCSeq request name n) (hn : n < 2 ^ 31) :
    (rtspRequest request).cseq = if name = ascii "CSeq" then (n : ℤ) else 0 := by
  show ((request.headers.find? (ascii "CSeq")).bind stoi).getD 0 = _
  rw [h.find?]
  split
  · rw [Option.bind_some, stoi_toDecimal hn, Option.getD_some]
  · rfl

/-- What the session echoes is the number, for the exact name and a number that is not 0. -/
theorem CarriesCSeq.echo_iff {request : HttpRequest} {name : Bytes} {n : ℕ}
    (h : CarriesCSeq request name n) (hn : n < 2 ^ 31) :
    (rtspRequest request).echo = some (toDecimal n) ↔ name = ascii "CSeq" ∧ 0 < n := by
  unfold RtspRequest.echo
  rw [h.cseq hn]
  by_cases hname : name = ascii "CSeq"
  · rw [if_pos hname]
    by_cases hpos : 0 < n
    · rw [if_pos (by exact_mod_cast hpos), Int.toNat_natCast]
      exact iff_of_true rfl ⟨hname, hpos⟩
    · rw [if_neg (by exact_mod_cast hpos)]
      exact iff_of_false (by simp) (fun h => hpos h.2)
  · rw [if_neg hname, if_neg (lt_irrefl 0)]
    exact iff_of_false (by simp) (fun h => hname h.1)

/-! ## The handlers -/

variable {δ κ : Type*} [AlacDecoder δ] [AudioSink κ]

/-- What a handler takes from the session is one of its answers. -/
theorem answered_of_handle {s : RtspSession δ κ} {e : Sockets} {r : RtspRequest} {protocol : Bytes}
    {response : HttpResponse} (h : (s.handle e r).1.map (httpResponse protocol) = .ok response) :
    ∃ x, Answered r (s.answersBare e r) x ∧ response = httpResponse protocol x := by
  cases hs : (s.handle e r).1 with
  | error what =>
    rw [hs] at h
    cases h
  | ok x =>
    rw [hs] at h
    exact ⟨x, RtspSession.handle_answered hs, (Except.ok.inj h).symm⟩

theorem echoes_iff {s : RtspSession δ κ} {e : Sockets} {request : HttpRequest} {name : Bytes}
    {n : ℕ} (h : CarriesCSeq request name n) (hn : n < 2 ^ 31) {protocol : Bytes}
    {response : HttpResponse}
    (hx : (s.handle e (rtspRequest request)).1.map (httpResponse protocol) = .ok response) :
    response.Echoes n ↔ name = ascii "CSeq" ∧ 0 < n := by
  obtain ⟨x, hanswer, rfl⟩ := answered_of_handle hx
  rw [← h.echo_iff hn, ← hanswer.cseq]
  rfl

/-- **When an answer echoes its CSeq.** For a request whose only CSeq header, whatever its
    case, has the number `n`, every response that the receiver's handler takes from the session
    and every response of the event channel has that CSeq exactly if the header is spelled
    "CSeq" and `n` is not 0. -/
theorem cseq_echoed_iff (b : SrpBackend) (c : HkpBackend) (config : ReceiverConfig)
    (s : Connection δ κ) (e : ConnectionCalls) {request : HttpRequest} {name : Bytes} {n : ℕ}
    (hone : CarriesCSeq request name n) (hn : n < 2 ^ 31) :
    (∀ response s', Connection.reachesRtsp request = true →
        Connection.handleRequest b c config s e request = some (.ok response, s') →
        (response.Echoes n ↔ name = ascii "CSeq" ∧ 0 < n)) ∧
      ∀ response s', s.rtsp.eventHandler e.sockets request = (.ok response, s') →
        (response.Echoes n ↔ name = ascii "CSeq" ∧ 0 < n) := by
  refine ⟨?_, ?_⟩
  · intro response s' hreach hx
    rw [Connection.handleRequest_rtsp b c hreach] at hx
    exact echoes_iff hone hn (congrArg Prod.fst (Option.some.inj hx))
  · intro response s' hx
    exact echoes_iff hone hn (congrArg Prod.fst hx)

/-! ## An OPTIONS -/

/-- An OPTIONS whose only header is this one, with the number 1. -/
def countedOptions (name : Bytes) : HttpRequest :=
  { method := ascii "OPTIONS"
    target := ascii "*"
    protocol := ascii "RTSP/1.0"
    headers := OrdMap.empty.assign name (ascii "1") }

theorem countedOptions_carries {name : Bytes} (h : sameName name (ascii "CSeq") = true) :
    CarriesCSeq (countedOptions name) name 1 := by
  have hone : toDecimal 1 = ascii "1" := by decide
  unfold CarriesCSeq
  rw [hone]
  exact List.filter_cons_of_pos h

/-- No socket is to be had, and OpenSSL draws zeros. -/
def idleCalls : ConnectionCalls where
  sockets := { media := .noSocket, control := .noSocket, timing := .noSocket, event := .failed }
  transient := AirPlayTransientPairing.zeroDraws
  hkp := drawing 1 2

/-- The session of a new connection answers it. -/
def freshConnection : Connection NullAlacDecoder NullAudioSink := {}

theorem cseq_echoed_options :
    ∃ response s', freshConnection.rtsp.eventHandler idleCalls.sockets
        (countedOptions (ascii "CSeq")) = (.ok response, s') ∧
      (response.Echoes 1 ↔ ascii "CSeq" = ascii "CSeq" ∧ 0 < 1) :=
  ⟨_, _, rfl, (cseq_echoed_iff AirPlayTransientPairing.zeroTail xorBackend {} freshConnection
    idleCalls (countedOptions_carries (by decide)) (by decide)).2 _ _ rfl⟩

/-- In lower case the number is not echoed. -/
theorem lowerCSeq_not_echoed :
    CarriesCSeq (countedOptions (ascii "cseq")) (ascii "cseq") 1 ∧
      ¬ ∀ response s', freshConnection.rtsp.eventHandler idleCalls.sockets
          (countedOptions (ascii "cseq")) = (.ok response, s') → response.Echoes 1 := by
  refine ⟨countedOptions_carries (by decide), ?_⟩
  intro hall
  have hecho := hall _ _ rfl
  revert hecho
  unfold HttpResponse.Echoes
  decide

end AirPlay2
