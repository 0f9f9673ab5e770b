import AirPlay2.Rtsp.Answers
import AirPlay2.Rtsp.Atomic

/- The headers of a session's answers. Every method builds its answer on `base_response`
   and adds headers of its own; so the CSeq is that of the request in every answer alike, and
   the only difference between answers that matters to a server is whether one brings a
   Content-Length with it (`Answered`). Refusals and OPTIONS do not (`handle_answered`). -/
namespace AirPlay2
open Lib

/-- The names of the headers a session sends. -/
def answerNames : List Bytes := [
  ascii "CSeq", ascii "Server", ascii "Public", ascii "Allow", ascii "Session", ascii "Transport",
  ascii "Content-Length", ascii "Content-Type"]

/-- The CSeq an answer to the request carries. -/
def RtspRequest.echo (r : RtspRequest) : Option Bytes :=
  if 0 < r.cseq then some (toDecimal r.cseq.toNat) else none

/-- The headers of an answer; a bare one has no length. -/
structure Answered (r : RtspRequest) (bare : Bool) (x : RtspResponse) : Prop where
  cseq : headerField x.headers (ascii "CSeq") = r.echo
  names : ∀ name ∈ x.headers.keys, name ∈ answerNames
  length : ascii "Content-Length" ∈ x.headers.keys ↔ bare = false

/-- A header of another name does not get in the way. -/
theorem headerField_assign {headers : OrdMap Bytes Bytes} {k name : Bytes}
    (hk : sameName k name = false) (v : Bytes) :
    headerField (headers.assign k v) name = headerField headers name :=
  congrArg (Option.map Prod.snd) (OrdMap.find?_assign (p := (sameName · name)) hk headers v)

/-! ## The parts of an answer -/

theorem answered_base (r : RtspRequest) (status : ℤ) (reason : Bytes) :
    Answered r true (baseResponse r status reason) := by
  have hserver : sameName (ascii "Server") (ascii "CSeq") = false := by decide
  have hlength : ascii "Content-Length" ∉ [ascii "Server", ascii "CSeq"] := by decide
  unfold baseResponse
  by_cases hpos : 0 < r.cseq
  · refine ⟨?_, ?_, ?_⟩
    · simp only [if_pos hpos, RtspRequest.echo]
      rw [headerField_assign hserver]
      rfl
    · intro name hname
      simp only [if_pos hpos, OrdMap.mem_keys_assign] at hname
      obtain rfl | rfl | hname := hname
      · decide
      · decide
      · cases hname
    · simp only [if_pos hpos, OrdMap.mem_keys_assign]
      simp only [List.mem_cons, not_or] at hlength
      simp [hlength.1, hlength.2.1, OrdMap.keys]
  · refine ⟨?_, ?_, ?_⟩
    · simp only [if_neg hpos, RtspRequest.echo]
      rw [headerField_assign hserver]
      rfl
    · intro name hname
      simp only [if_neg hpos, OrdMap.mem_keys_assign] at hname
      obtain rfl | hname := hname
      · decide
      · cases hname
    · simp only [if_neg hpos, OrdMap.mem_keys_assign]
      simp only [List.mem_cons, not_or] at hlength
      simp [hlength.1, OrdMap.keys]

/-- The body is no header. -/
theorem Answered.withBody {r : RtspRequest} {bare : Bool} {x : RtspResponse} (h : Answered r bare x)
    (body : Bytes) : Answered r bare { x with body := body } :=
  ⟨h.cseq, h.names, h.length⟩

/-- The name is one a session adds, and not the length. -/
def addedName (name : Bytes) : Bool :=
  answerNames.contains name && !sameName name (ascii "CSeq") && name != ascii "Content-Length"

theorem Answered.withHeader {r : RtspRequest} {bare : Bool} {x : RtspResponse} (h : Answered r bare x)
    {name : Bytes} (hname : addedName name = true) (value : Bytes) :
    Answered r bare (x.withHeader name value) := by
  simp only [addedName, Bool.and_eq_true, Bool.not_eq_true', bne_iff_ne, ne_eq,
    List.contains_iff_mem] at hname
  obtain ⟨⟨hmem, hcseq⟩, hne⟩ := hname
  refine ⟨?_, ?_, ?_⟩
  · exact (headerField_assign hcseq value).trans h.cseq
  · intro k hk
    obtain rfl | hk := OrdMap.mem_keys_assign.mp hk
    · exact hmem
    · exact h.names k hk
  · rw [← h.length]
    show ascii "Content-Length" ∈ (x.headers.assign name value).keys ↔ _
    rw [OrdMap.mem_keys_assign]
    exact or_iff_right (Ne.symm hne)

theorem Answered.withLength {r : RtspRequest} {bare : Bool} {x : RtspResponse} (h : Answered r bare x)
    (value : Bytes) : Answered r false (x.withHeader (ascii "Content-Length") value) := by
  have hcseq : sameName (ascii "Content-Length") (ascii "CSeq") = false := by decide
  refine ⟨?_, ?_, ?_⟩
  · exact (headerField_assign hcseq value).trans h.cseq
  · intro k hk
    obtain rfl | hk := OrdMap.mem_keys_assign.mp hk
    · decide
    · exact h.names k hk
  · exact iff_of_true (OrdMap.mem_keys_assign.mpr (Or.inl rfl)) rfl

theorem answered_session (r : RtspRequest) : Answered r false (sessionResponse r) :=
  ((answered_base r 200 _).withHeader (by decide) _).withLength _

theorem answered_render {r : RtspRequest} {a : SetupAnswer} {x : RtspResponse}
    (h : a.render r = .ok x) : Answered r false x := by
  have hplist : ∀ body, Answered r false (SetupAnswer.plistResponse r body) := by
    intro body
    exact (((answered_base r 200 _).withBody body).withLength _).withHeader (by decide) _
  cases a with
  | info eventPort timingPort ptpHost =>
    cases ptpHost with
    | none =>
      obtain rfl := Except.ok.inj h
      exact hplist _
    | some host =>
      simp only [SetupAnswer.render] at h
      split at h
      · cases h
      · obtain rfl := Except.ok.inj h
        exact hplist _
  | stream dataPort controlPort type =>
    obtain rfl := Except.ok.inj h
    exact (((answered_base r 200 _).withBody _).withHeader (by decide) _).withLength _
  | transport t =>
    obtain rfl := Except.ok.inj h
    exact (((answered_base r 200 _).withHeader (by decide) _).withHeader (by decide) _).withLength _

namespace RtspSession

variable {δ κ : Type*} [AlacDecoder δ] [AudioSink κ]

/-! ## Every method -/

/-- An ANNOUNCE with a description of audio or video, whose config the pipeline takes. -/
def takesAnnounce (s : RtspSession δ κ) (r : RtspRequest) : Bool :=
  match parseSdp r.body with
  | none => false
  | some p => (p.hasAudio || p.hasVideo) && (s.configurePipeline p).1

/-- A SETUP that is valid in the state and gets its sockets. -/
def takesSetup (s : RtspSession δ κ) (e : Sockets) (r : RtspRequest) : Bool :=
  if !s.setupInfoComplete && isBinaryPlist r.body then s.infoBinds e (usesPtp r.body)
  else s.configured && (isBinaryPlist r.body || s.transportBinds e)

/-- The request is refused, or an OPTIONS. -/
def answersBare (s : RtspSession δ κ) (e : Sockets) (r : RtspRequest) : Bool :=
  match r.verb with
  | .options => true
  | .announce => !s.takesAnnounce r
  | .setup => !s.takesSetup e r
  | .record => !s.configured || !s.media.running
  | .pause | .flush | .getParameter | .setParameter | .teardown => false
  | .unknown => true

/-- The offer to the pipeline depends on the pipeline only. -/
theorem configurePipeline_congr {s s' : RtspSession δ κ}
    (h : s.alacAudioPipeline = s'.alacAudioPipeline) (p : AirPlaySdp) :
    (s.configurePipeline p).1 = (s'.configurePipeline p).1 := by
  unfold configurePipeline
  rw [h]
  split <;> rfl

theorem announce_answered {s : RtspSession δ κ} {r : RtspRequest} {x : RtspResponse}
    (h : (s.announce r).1 = .ok x) : Answered r (!s.takesAnnounce r) x := by
  unfold announce at h
  cases hp : parseSdp r.body with
  | none =>
    have hno : s.takesAnnounce r = false := by rw [takesAnnounce, hp]
    rw [hp] at h
    obtain rfl := Except.ok.inj h
    rw [hno]
    exact answered_base r _ _
  | some p =>
    have htakes : s.takesAnnounce r = ((p.hasAudio || p.hasVideo) && (s.configurePipeline p).1) := by
      rw [takesAnnounce, hp]
    have hoffer : (({ s with sdp := p, configured := true } : RtspSession δ κ).configurePipeline p).1 =
        (s.configurePipeline p).1 := by
      apply configurePipeline_congr
      rfl
    rw [hp] at h
    simp only [hoffer, configureCrypto_ok, Bool.not_true, Bool.false_eq_true, if_false] at h
    rw [htakes]
    cases hmedia : (p.hasAudio || p.hasVideo) with
    | false =>
      rw [← Bool.not_or, hmedia] at h
      obtain rfl := Except.ok.inj h
      exact answered_base r _ _
    | true =>
      rw [← Bool.not_or, hmedia] at h
      cases htaken : (s.configurePipeline p).1 with
      | false =>
        rw [htaken] at h
        obtain rfl := Except.ok.inj h
        exact answered_base r _ _
      | true =>
        rw [htaken] at h
        obtain rfl := Except.ok.inj h
        exact (answered_base r _ _).withLength _

omit [AlacDecoder δ] [AudioSink κ] in
theorem setupInfo_answered {s : RtspSession δ κ} {e : Sockets} {r : RtspRequest} {x : RtspResponse}
    (h : (s.setupInfo e r).1 = .ok x) : Answered r (!s.infoBinds e (usesPtp r.body)) x := by
  cases hbinds : s.infoBinds e (usesPtp r.body) with
  | true =>
    rw [setupInfo_answer hbinds] at h
    exact answered_render h
  | false =>
    obtain ⟨-, hrefused⟩ | ⟨hno, -⟩ | ⟨hno, -⟩ := setupInfo_response s e r
    · rw [hrefused] at h
      obtain rfl := Except.ok.inj h
      exact answered_base r _ _
    · rw [hbinds] at hno
      cases hno
    · rw [hbinds] at hno
      cases hno

omit [AlacDecoder δ] [AudioSink κ] in
theorem setup_answered {s : RtspSession δ κ} {e : Sockets} {r : RtspRequest} {x : RtspResponse}
    (h : (s.setup e r).1 = .ok x) : Answered r (!s.takesSetup e r) x := by
  unfold setup at h
  unfold takesSetup
  by_cases hinfo : (!s.setupInfoComplete && isBinaryPlist r.body) = true
  · rw [if_pos hinfo] at h ⊢
    exact setupInfo_answered h
  · rw [if_neg hinfo] at h ⊢
    cases hconf : s.configured with
    | false =>
      rw [hconf] at h
      obtain rfl := Except.ok.inj h
      exact answered_base r _ _
    | true =>
      cases hbin : isBinaryPlist r.body with
      | true =>
        simp only [hconf, hbin, Bool.not_true, Bool.false_eq_true, if_false, if_true] at h
        exact answered_render (a := .stream _ _ _) h
      | false =>
        simp only [hconf, hbin, Bool.not_true, Bool.false_eq_true, if_false] at h
        rw [setupTransport_answer] at h
        cases hbinds : s.transportBinds e with
        | true =>
          rw [hbinds, if_pos rfl] at h
          exact answered_render h
        | false =>
          rw [hbinds, if_neg (by decide)] at h
          obtain rfl := Except.ok.inj h
          exact answered_base r _ _

/-- **The headers of every answer.** Whatever the method, the state and what the sockets
    return, an answer carries the CSeq of the request, headers of these names, and a
    Content-Length unless it is a refusal or answers an OPTIONS. -/
theorem handle_answered {s : RtspSession δ κ} {e : Sockets} {r : RtspRequest} {x : RtspResponse}
    (h : (s.handle e r).1 = .ok x) : Answered r (s.answersBare e r) x := by
  unfold handle at h
  unfold answersBare
  cases hv : r.verb with
  | options =>
    rw [hv] at h
    obtain rfl := Except.ok.inj h
    exact ((answered_base r _ _).withHeader (by decide) _).withHeader (by decide) _
  | announce =>
    rw [hv] at h
    exact announce_answered h
  | setup =>
    rw [hv] at h
    exact setup_answered h
  | record =>
    rw [hv] at h
    simp only [record] at h
    cases hrefused : (!s.configured || !s.media.running) with
    | true =>
      rw [hrefused] at h
      obtain rfl := Except.ok.inj h
      exact answered_base r _ _
    | false =>
      rw [hrefused] at h
      obtain rfl := Except.ok.inj h
      exact answered_session r
  | pause | flush | getParameter | setParameter | teardown =>
    rw [hv] at h
    obtain rfl := Except.ok.inj h
    exact answered_session r
  | unknown =>
    rw [hv] at h
    obtain rfl := Except.ok.inj h
    exact answered_base r _ _

end RtspSession
end AirPlay2
