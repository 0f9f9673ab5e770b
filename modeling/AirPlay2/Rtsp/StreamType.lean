import AirPlay2.Lib.BinaryPlist
import AirPlay2.Rtsp.Answers
import AirPlay2.Rtsp.PlistFormat

/- The type of a stream SETUP. The body is a binary property list, and which of the two answers
   it gets is found by searching its bytes: for the text `type`, and for 11 60, a two-byte int
   that begins with 96. Writers put 96 into one byte, as 10 60, so what is searched for is never
   the type itself: the answer is the one for audio exactly if the two bytes stand beside it, in
   a port, a text or the table (`answersAudio_iff`), and another type in the same list makes no
   difference (`answersAudio_congr`). -/
namespace AirPlay2
open Lib Lib.BinaryPlist

/-! ## Lists that name a type -/

/-- The body is a binary property list `{streams: [{type: ..}]}`, with any other keys, whose
    type is an int object of one byte at `place`. What is not on the way to it may be anything. -/
structure NamesType (body : Bytes) (type place : ℕ) : Prop where
  header : isBinaryPlist body = true
  path : ∃ t starts streams stream int, readTrailer body = some t ∧
    readNumbers body t.offsetSize t.numObjects t.tableOffset = some starts ∧
    fieldAt body t.refSize starts t.topObject (ascii "streams") = some streams ∧
    objectAt body t.refSize starts streams = some (.array [stream]) ∧
    fieldAt body t.refSize starts stream (ascii "type") = some int ∧
    starts[int]? = some place ∧ objectAt body t.refSize starts int = some (.int 0 type)

/-- The bytes 11 60 stand beside the type object. -/
def PairBeside (body : Bytes) (place : ℕ) : Prop :=
  ∃ i, i ≠ place ∧ i ≠ place + 1 ∧ body[i]? = some 0x11 ∧ body[i + 1]? = some 0x60

theorem NamesType.bytes {body : Bytes} {type place : ℕ} (h : NamesType body type place) :
    body[place]? = some 0x10 ∧ body[place + 1]? = some (UInt8.ofNat type) := by
  obtain ⟨t, starts, streams, stream, int, -, -, -, -, -, hplace, hint⟩ := h.path
  rw [objectAt, hplace, Option.bind_some] at hint
  obtain ⟨⟨object, next⟩, hread, hobject⟩ := Option.map_eq_some_iff.mp hint
  dsimp only at hobject
  subst hobject
  exact decodeObject_int hread

/-- What the type object itself has is not searched for. -/
theorem NamesType.pair_iff {body : Bytes} {type place : ℕ} (h : NamesType body type place)
    (htype : type = 96 ∨ type = 110) :
    (find body [0x11, 0x60] 0).isSome = true ↔ PairBeside body place := by
  obtain ⟨hmarker, hnumber⟩ := h.bytes
  have hother : UInt8.ofNat type ≠ 0x11 := by
    obtain rfl | rfl := htype <;> decide
  have hpair : ∀ i, [0x11, 0x60] <+: body.drop i ↔
      body[i]? = some 0x11 ∧ body[i + 1]? = some 0x60 := by
    intro i
    rw [cons_prefix_drop, cons_prefix_drop]
    exact and_congr_right fun _ => and_iff_left (List.nil_prefix)
  rw [find_isSome_iff]
  refine ⟨?_, ?_⟩
  · intro hfound
    obtain ⟨i, hi⟩ := hfound
    obtain ⟨hfirst, hsecond⟩ := (hpair i).mp hi
    refine ⟨i, ?_, ?_, hfirst, hsecond⟩
    · rintro rfl
      rw [hmarker] at hfirst
      cases hfirst
    · rintro rfl
      rw [hnumber] at hfirst
      exact hother (Option.some.inj hfirst)
  · intro hbeside
    obtain ⟨i, -, -, hfirst, hsecond⟩ := hbeside
    exact ⟨i, (hpair i).mpr ⟨hfirst, hsecond⟩⟩

/-! ## The answer -/

/-- The two templates differ in size, and so in any case. -/
theorem setupStreamResponsePlist_inj {dataPort controlPort : UInt16} {type : ℤ}
    (h : setupStreamResponsePlist dataPort controlPort type =
      setupStreamResponsePlist dataPort controlPort 96) : type = 96 := by
  by_contra hother
  have hlength := congrArg List.length h
  rw [setupStreamResponsePlist, if_neg hother, setupStreamResponsePlist, if_pos rfl,
    length_patchPort, length_patchPort, length_patchPort] at hlength
  revert hlength
  decide

namespace RtspSession

variable {δ κ : Type*}

/-- The SETUP is answered with the template for audio. -/
def AnswersAudio (s : RtspSession δ κ) (e : Sockets) (r : RtspRequest) : Prop :=
  ∃ x, (s.setup e r).1 = .ok x ∧ x.body =
    setupStreamResponsePlist s.transport.serverDataPort s.transport.serverControlPort 96

/-- A session that has had its first SETUP is configured. -/
def PastSetup (s : RtspSession δ κ) : Prop := s.setupInfoComplete = true → s.configured = true

variable {s : RtspSession δ κ} {e : Sockets} {r : RtspRequest}

/-- **When the answer is the one for audio**: the text `type` is there, and 11 60 beside the
    type. -/
theorem answersAudio_iff (hinfo : s.setupInfoComplete = true) (hconfigured : s.configured = true)
    {type place : ℕ} (hbody : NamesType r.body type place) (htype : type = 96 ∨ type = 110) :
    s.AnswersAudio e r ↔ (∃ i, ascii "type" <+: r.body.drop i) ∧ PairBeside r.body place := by
  have hsetup : s.setup e r = s.setupStream r := by
    rw [setup, hinfo, hconfigured, hbody.header]
    rfl
  rw [← hbody.pair_iff htype, ← find_isSome_iff, ← Bool.and_eq_true]
  show _ ↔ setsUpAudio r.body = true
  unfold AnswersAudio
  rw [hsetup]
  refine ⟨?_, ?_⟩
  · intro hanswer
    obtain ⟨x, hx, hplist⟩ := hanswer
    obtain rfl := Except.ok.inj hx
    have haudio := setupStreamResponsePlist_inj hplist
    split at haudio
    · assumption
    · cases haudio
  · intro haudio
    refine ⟨_, rfl, ?_⟩
    show setupStreamResponsePlist _ _ (if setsUpAudio r.body then 96 else 110) = _
    rw [if_pos haudio]

/-- **The type is not read**: lists that differ in the type alone get the same answer. -/
theorem answersAudio_congr (hinfo : s.setupInfoComplete = true) (hconfigured : s.configured = true)
    {r' : RtspRequest} {type type' place : ℕ} (hbody : NamesType r.body type place)
    (hbody' : NamesType r'.body type' place) (htype : type = 96 ∨ type = 110)
    (htype' : type' = 96 ∨ type' = 110)
    (hsame : ∀ i, i ≠ place + 1 → r.body[i]? = r'.body[i]?) :
    s.AnswersAudio e r ↔ s.AnswersAudio e r' := by
  have hforeign : ∀ t, t = 96 ∨ t = 110 → UInt8.ofNat t ∉ ascii "type" := by
    intro t ht
    obtain rfl | rfl := ht <;> decide
  have hother : ∀ i, i ≠ place + 1 → r'.body[i]? = r.body[i]? := fun i hi => (hsame i hi).symm
  rw [answersAudio_iff hinfo hconfigured hbody htype,
    answersAudio_iff hinfo hconfigured hbody' htype']
  apply and_congr
  · refine ⟨?_, ?_⟩
    · intro hstands
      obtain ⟨i, hi⟩ := hstands
      exact ⟨i, prefix_drop_of_foreign hbody.bytes.2 (hforeign type htype) hsame hi⟩
    · intro hstands
      obtain ⟨i, hi⟩ := hstands
      exact ⟨i, prefix_drop_of_foreign hbody'.bytes.2 (hforeign type' htype') hother hi⟩
  · apply exists_congr
    intro i
    apply and_congr_right
    intro hplace
    apply and_congr_right
    intro hnumber
    rw [hsame i hnumber, hsame (i + 1) (by omega)]

/-! ## Past the first SETUP -/

variable [AlacDecoder δ] [AudioSink κ]

theorem PastSetup.handle (h : s.PastSetup) (e : Sockets) (r : RtspRequest) :
    (s.handle e r).2.PastSetup := by
  unfold RtspSession.handle
  cases r.verb with
  | announce =>
    obtain ⟨sdp, configured, crypto, pipeline, hstate, hkept⟩ := announce_eq s r
    rw [hstate]
    exact fun hinfo => hkept (h hinfo)
  | setup =>
    show (s.setup e r).2.PastSetup
    unfold setup
    split
    · intro _
      exact (setupInfo_state s e r).2.1
    · split
      · exact h
      · split
        · exact h
        · obtain ⟨control, timing, t, hstate⟩ := setupTransport_eq s e r
          rw [hstate]
          exact h
  | record =>
    simp only [record]
    split <;> exact h
  | teardown =>
    intro hinfo
    cases hinfo
  | options | pause | flush | getParameter | setParameter | unknown => exact h

theorem PastSetup.step {s' : RtspSession δ κ} (h : s.PastSetup) {event : SessionEvent δ κ}
    (hstep : s.step event = .ok s') : s'.PastSetup := by
  obtain ⟨r, e, rfl, rfl⟩ | ⟨-, buffer, packets, count, handler, pipeline, rfl⟩ := step_cases hstep
  · exact h.handle e r
  · exact h

end RtspSession

namespace Process

variable {δ κ : Type*} [AlacDecoder δ] [AudioSink κ]

def PastSetup (p : Process δ κ) : Prop := ∀ s, p = .ok s → s.PastSetup

theorem run_pastSetup (events : List (SessionEvent δ κ)) : PastSetup (run step start events) := by
  apply run_induction
  · intro p event h s' hs'
    obtain ⟨s, hs, hstep⟩ := step_eq_ok.mp hs'
    exact (h s hs).step hstep
  · intro s hs
    obtain rfl := Except.ok.inj hs
    intro hinfo
    cases hinfo

/-- **When the answer to a stream SETUP has the type asked for.** In every state of every run
    past the first SETUP, and for every list `{streams: [{type: t}]}` whose type is 96 or 110 in
    one byte, the answer is the one for audio exactly for 96, if and only if that is what the
    bytes beside the type say: the text `type`, and 11 60, for 96 and not for 110. -/
theorem streamType_iff (events : List (SessionEvent δ κ)) {s : RtspSession δ κ}
    (hs : run step start events = .ok s) (hinfo : s.setupInfoComplete = true) (e : Sockets)
    {r : RtspRequest} {type place : ℕ} (hbody : NamesType r.body type place)
    (htype : type = 96 ∨ type = 110) :
    (s.AnswersAudio e r ↔ type = 96) ↔
      (((∃ i, ascii "type" <+: r.body.drop i) ∧ PairBeside r.body place) ↔ type = 96) := by
  rw [RtspSession.answersAudio_iff hinfo (run_pastSetup events s hs hinfo) hbody htype]

/-! ## A list with nothing but the type -/

/-- `{streams: [{type: t}]}`, as a writer lays it out. -/
def typeList (type : UInt8) : Bytes := [
  0x62, 0x70, 0x6c, 0x69, 0x73, 0x74, 0x30, 0x30, 0xd1, 0x01, 0x02, 0x57, 0x73, 0x74, 0x72, 0x65,
  0x61, 0x6d, 0x73, 0xa1, 0x03, 0xd1, 0x04, 0x05, 0x54, 0x74, 0x79, 0x70, 0x65, 0x10, type,
  0x08, 0x0b, 0x13, 0x15, 0x18, 0x1d, 0x00, 0x00, 0x00, 0x00, 0x00, 0x00, 0x01, 0x01,
  0x00, 0x00, 0x00, 0x00, 0x00, 0x00, 0x00, 0x06, 0x00, 0x00, 0x00, 0x00, 0x00, 0x00, 0x00, 0x00,
  0x00, 0x00, 0x00, 0x00, 0x00, 0x00, 0x00, 0x1f]

theorem typeList_names {type : ℕ} (htype : type = 96 ∨ type = 110) :
    NamesType (typeList (UInt8.ofNat type)) type 29 := by
  obtain rfl | rfl := htype
  · refine ⟨by decide, ⟨1, 1, 6, 0, 31⟩, [8, 11, 19, 21, 24, 29], 2, 3, 5, ?_⟩
    decide +kernel
  · refine ⟨by decide, ⟨1, 1, 6, 0, 31⟩, [8, 11, 19, 21, 24, 29], 2, 3, 5, ?_⟩
    decide +kernel

/-- The whole list is read. -/
example : (decode (typeList 96)).isSome = true := by decide +kernel

def typeSetup (type : UInt8) : RtspRequest := { method := ascii "SETUP", body := typeList type }

/-- For 110 the answer is right. -/
theorem streamType_screen :
    ∃ s, run step (start : Process NullAlacDecoder NullAudioSink)
        [.request plistSetup someSockets] = .ok s ∧ s.setupInfoComplete = true ∧
      ((s.AnswersAudio someSockets (typeSetup 110) ↔ 110 = 96) ↔
        (((∃ i, ascii "type" <+: (typeSetup 110).body.drop i) ∧
          PairBeside (typeSetup 110).body 29) ↔ 110 = 96)) :=
  ⟨_, rfl, rfl, streamType_iff [.request plistSetup someSockets] rfl rfl someSockets
    (typeList_names (Or.inr rfl)) (Or.inr rfl)⟩

/-- For 96 it is the one for 110. -/
theorem streamType_audio_missed :
    ∃ s, run step (start : Process NullAlacDecoder NullAudioSink)
        [.request plistSetup someSockets] = .ok s ∧ s.setupInfoComplete = true ∧
      NamesType (typeSetup 96).body 96 29 ∧
      ¬ (s.AnswersAudio someSockets (typeSetup 96) ↔ 96 = 96) := by
  have hnames : NamesType (typeSetup 96).body 96 29 := typeList_names (Or.inl rfl)
  refine ⟨_, rfl, rfl, hnames, ?_⟩
  intro hright
  have haudio := (RtspSession.answersAudio_iff rfl rfl hnames (Or.inl rfl)).mp (hright.mpr rfl)
  have hfound := (hnames.pair_iff (Or.inl rfl)).mpr haudio.2
  revert hfound
  decide +kernel

end Process
end AirPlay2
