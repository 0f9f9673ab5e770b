import AirPlay2.Rtsp.Run

/- Who consumes the media. Three forms of SETUP bind the media receiver and RECORD
   asks only whether it is bound, but one of them, the SETUP with a Transport header,
   gives it the packet handler. So a session records with nobody listening exactly when
   a RECORD is accepted on the strength of the binary SETUPs alone
   (`run_consumed_iff`). -/
namespace AirPlay2
open Lib

namespace RtspSession

variable {δ κ : Type*}

/-- While recording, the media receiver runs and hands valid packets to the session. -/
def Consumed (s : RtspSession δ κ) : Prop := s.recording = true → s.media.live = true

/-- A handler is only ever set on a running receiver, whose worker it starts. -/
def HandlerLive (s : RtspSession δ κ) : Prop := s.media.handler = true → s.media.live = true

/-- The event is a SETUP that reaches the Transport form and has its media receiver. -/
def TransportSetup (s : RtspSession δ κ) (event : SessionEvent δ κ) : Prop :=
  ∃ r e, event = .request r e ∧ r.verb = .setup ∧ s.configured = true ∧
    isBinaryPlist r.body = false ∧ s.media.binds e.media = true

/-- The event is a RECORD in a state that accepts it. -/
def AcceptedRecord (s : RtspSession δ κ) (event : SessionEvent δ κ) : Prop :=
  ∃ r e, event = .request r e ∧ r.verb = .record ∧ s.configured = true ∧ s.media.running = true

/-- The event is a TEARDOWN. -/
def TearsDown (event : SessionEvent δ κ) : Prop :=
  ∃ r e, event = .request r e ∧ r.verb = .teardown

variable [AlacDecoder δ] [AudioSink κ]

/-! ## One step -/

omit [AlacDecoder δ] [AudioSink κ] in
/-- The media receiver after a SETUP: bound by the first binary one, bound and given
    the handler by a Transport one, and else as it was. -/
theorem setup_media (s : RtspSession δ κ) (e : Sockets) (r : RtspRequest) :
    (s.setup e r).2.recording = s.recording ∧
      (s.setup e r).2.media =
        if !s.setupInfoComplete && isBinaryPlist r.body then (s.media.bind e.media).2
        else if s.configured && !isBinaryPlist r.body then
          if s.media.binds e.media then (s.media.bind e.media).2.setPacketHandler
          else (s.media.bind e.media).2
        else s.media := by
  unfold setup
  split
  · obtain ⟨hm, -, -, hr⟩ := setupInfo_state s e r
    exact ⟨hr, hm⟩
  · cases s.configured with
    | false => exact ⟨rfl, rfl⟩
    | true =>
      cases isBinaryPlist r.body with
      | true => exact ⟨rfl, rfl⟩
      | false =>
        obtain ⟨control, timing, t, h⟩ := setupTransport_eq s e r
        simp only [Bool.not_true, Bool.false_eq_true, if_false]
        rw [h]
        exact ⟨rfl, rfl⟩

omit [AlacDecoder δ] [AudioSink κ] in
theorem setup_handler (s : RtspSession δ κ) (e : Sockets) (r : RtspRequest) :
    (s.setup e r).2.media.handler =
      (s.media.handler ||
        (s.configured && !isBinaryPlist r.body && s.media.binds e.media)) := by
  rw [(setup_media s e r).2]
  cases s.configured <;> cases isBinaryPlist r.body <;> cases s.media.binds e.media <;>
    cases s.setupInfoComplete <;> simp

omit [AlacDecoder δ] [AudioSink κ] in
theorem HandlerLive.setup {s : RtspSession δ κ} (h : HandlerLive s) (e : Sockets)
    (r : RtspRequest) : HandlerLive (s.setup e r).2 := by
  have hbind := RtpReceiver.bind_live h e.media
  unfold HandlerLive
  rw [(setup_media s e r).2]
  split
  · exact hbind
  · split
    · split
      · rename_i hb
        intro _
        exact RtpReceiver.live_setPacketHandler (RtpReceiver.bind_running hb)
      · exact hbind
    · exact h

/-- What a step does to the handler and to recording. -/
structure StepSpec (s : RtspSession δ κ) (event : SessionEvent δ κ) (s' : RtspSession δ κ) :
    Prop where
  live : HandlerLive s → HandlerLive s'
  handler : s'.media.handler = true ↔
    TransportSetup s event ∨ (s.media.handler = true ∧ ¬ TearsDown event)
  recording : s'.recording = true →
    AcceptedRecord s event ∨ (s.recording = true ∧ ¬ TearsDown event)
  accepted : AcceptedRecord s event → s'.recording = true ∧ s'.media = s.media

omit [AlacDecoder δ] [AudioSink κ] in
/-- A step that is no request and leaves the receiver and recording alone. -/
theorem stepSpec_of_frame {s s' : RtspSession δ κ} {event : SessionEvent δ κ}
    (hevent : ∀ r e, event ≠ .request r e) (hm : s'.media = s.media)
    (hr : s'.recording = s.recording) : StepSpec s event s' := by
  have hset : ¬ TransportSetup s event := by
    intro hs
    obtain ⟨r, e, h, -⟩ := hs
    exact hevent r e h
  have hrec : ¬ AcceptedRecord s event := by
    intro hs
    obtain ⟨r, e, h, -⟩ := hs
    exact hevent r e h
  have hdown : ¬ TearsDown event := by
    intro hs
    obtain ⟨r, e, h, -⟩ := hs
    exact hevent r e h
  refine ⟨?_, by simp [hm, hset, hdown], by simp [hr, hrec, hdown], ?_⟩
  · intro h
    simpa [HandlerLive, hm] using h
  · intro h
    exact absurd h hrec

omit [AlacDecoder δ] [AudioSink κ] in
/-- The three predicates of a request, by its method. -/
theorem request_predicates (s : RtspSession δ κ) (r : RtspRequest) (e : Sockets) :
    (TransportSetup s (.request r e) ↔ r.verb = .setup ∧ s.configured = true ∧
        isBinaryPlist r.body = false ∧ s.media.binds e.media = true) ∧
      (AcceptedRecord s (.request r e) ↔
        r.verb = .record ∧ s.configured = true ∧ s.media.running = true) ∧
      (TearsDown (.request r e : SessionEvent δ κ) ↔ r.verb = .teardown) := by
  simp [TransportSetup, AcceptedRecord, TearsDown]

theorem handle_stepSpec (s : RtspSession δ κ) (r : RtspRequest) (e : Sockets) :
    StepSpec s (.request r e) (s.handle e r).2 := by
  obtain ⟨hset, hrec, hdown⟩ := request_predicates s r e
  -- a method that is neither SETUP nor RECORD nor TEARDOWN
  have hother : ∀ s' : RtspSession δ κ, r.verb ≠ .setup → r.verb ≠ .record →
      r.verb ≠ .teardown → s'.media = s.media → (s'.recording = true → s.recording = true) →
      StepSpec s (.request r e) s' := by
    intro s' h1 h2 h3 hm hr
    refine ⟨?_, by simp [hset, hdown, h1, h3, hm], by simpa [hrec, hdown, h2, h3] using hr, ?_⟩
    · intro h
      simpa [HandlerLive, hm] using h
    · intro h
      exact absurd (hrec.mp h).1 h2
  unfold handle
  cases hv : r.verb with
  | setup =>
    obtain ⟨hr, -⟩ := setup_media s e r
    refine ⟨?_, ?_, ?_, ?_⟩
    · intro h
      exact h.setup e r
    · simp only [setup_handler, hset, hdown, hv, Bool.or_eq_true, Bool.and_eq_true,
        Bool.not_eq_true', true_and, reduceCtorEq, not_false_eq_true, and_true, and_assoc]
      exact or_comm
    · intro h
      exact Or.inr ⟨hr ▸ h, by simp [hdown, hv]⟩
    · intro h
      simp [hrec, hv] at h
  | record =>
    simp only [record]
    split
    · rename_i hno
      refine ⟨id, by simp [hset, hdown, hv], ?_, ?_⟩
      · intro h
        exact Or.inr ⟨h, by simp [hdown, hv]⟩
      · -- an accepted RECORD does not come here
        intro h
        obtain ⟨-, hc, hm⟩ := hrec.mp h
        simp [hc, hm] at hno
    · rename_i hyes
      simp only [Bool.or_eq_true, Bool.not_eq_true', not_or, Bool.not_eq_false] at hyes
      refine ⟨id, by simp [hset, hdown, hv, media], ?_, ?_⟩
      · intro _
        exact Or.inl (hrec.mpr ⟨hv, hyes⟩)
      · intro _
        exact ⟨rfl, rfl⟩
  | teardown =>
    refine ⟨?_, by simp [teardown, reset, media, hset, hdown, hv], by simp [teardown, reset], ?_⟩
    · intro _ h
      simp [teardown, reset, media] at h
    · intro h
      simp [hrec, hv] at h
  | announce =>
    obtain ⟨-, hm, hr⟩ := announce_frame s r
    exact hother _ (by simp [hv]) (by simp [hv]) (by simp [hv]) hm (by simp [hr])
  | pause => exact hother _ (by simp [hv]) (by simp [hv]) (by simp [hv]) rfl (by simp [pause])
  | options => exact hother _ (by simp [hv]) (by simp [hv]) (by simp [hv]) rfl id
  | flush => exact hother _ (by simp [hv]) (by simp [hv]) (by simp [hv]) rfl id
  | getParameter => exact hother _ (by simp [hv]) (by simp [hv]) (by simp [hv]) rfl id
  | setParameter => exact hother _ (by simp [hv]) (by simp [hv]) (by simp [hv]) rfl id
  | unknown => exact hother _ (by simp [hv]) (by simp [hv]) (by simp [hv]) rfl id

theorem step_stepSpec {s s' : RtspSession δ κ} {event : SessionEvent δ κ}
    (h : s.step event = .ok s') : StepSpec s event s' := by
  obtain ⟨r, e, rfl, rfl⟩ | ⟨hevent, buffer, packets, count, handler, pipeline, rfl⟩ := step_cases h
  · exact handle_stepSpec s r e
  · exact stepSpec_of_frame hevent rfl rfl

end RtspSession

/-! ## Whole runs -/

namespace Process

variable {δ κ : Type*} [AlacDecoder δ] [AudioSink κ]

theorem step_eq_ok {p : Process δ κ} {event : SessionEvent δ κ} {s' : RtspSession δ κ} :
    p.step event = .ok s' ↔ ∃ s, p = .ok s ∧ s.step event = .ok s' := by
  cases p <;> simp [step]

/-- A session still alive consumes what it records. -/
def Consumed (p : Process δ κ) : Prop := ∀ s, p = .ok s → s.Consumed

def HandlerLive (p : Process δ κ) : Prop := ∀ s, p = .ok s → s.HandlerLive

/-- A Transport SETUP of a session still alive. -/
def TransportSetup (p : Process δ κ) (event : SessionEvent δ κ) : Prop :=
  ∃ s, p = .ok s ∧ s.TransportSetup event

/-- An accepted RECORD of a session still alive. -/
def AcceptedRecord (p : Process δ κ) (event : SessionEvent δ κ) : Prop :=
  ∃ s, p = .ok s ∧ s.AcceptedRecord event

def HasHandler (p : Process δ κ) : Prop := ∃ s, p = .ok s ∧ s.media.handler = true

theorem HandlerLive.step {p : Process δ κ} (h : HandlerLive p) (event : SessionEvent δ κ) :
    HandlerLive (p.step event) := by
  intro s' hs'
  obtain ⟨s, hs, hstep⟩ := step_eq_ok.mp hs'
  exact (RtspSession.step_stepSpec hstep).live (h s hs)

/-- A step keeps a session consuming if it is no RECORD accepted without a handler. -/
theorem consumed_step_iff {p : Process δ κ} (hl : HandlerLive p) (hc : Consumed p)
    (event : SessionEvent δ κ) :
    Consumed (p.step event) ↔ (AcceptedRecord p event → HasHandler p) := by
  cases p with
  | error what => simp [Consumed, AcceptedRecord, Process.step]
  | ok s =>
    have hl := hl s rfl
    have hc := hc s rfl
    have hhandler : s.media.live = true → s.media.handler = true := by
      simp only [RtpReceiver.live, Bool.and_eq_true]
      intro h
      exact h.2
    simp only [AcceptedRecord, HasHandler, Except.ok.injEq, exists_eq_left']
    cases hstep : s.step event with
    | error what =>
      apply iff_of_true
      · intro s' hs'
        simp [Process.step, hstep] at hs'
      · -- a RECORD never throws
        intro hacc
        obtain ⟨r, e, rfl, hv, hready⟩ := hacc
        simp only [RtspSession.step, RtspSession.handle, hv, RtspSession.record] at hstep
        split at hstep <;> simp_all
    | ok s' =>
      have hspec := RtspSession.step_stepSpec hstep
      have hcons : Consumed (Process.step (.ok s) event) ↔ s'.Consumed := by
        simp [Consumed, Process.step, hstep]
      rw [hcons]
      refine ⟨?_, ?_⟩
      · intro h hacc
        obtain ⟨hrec, hm⟩ := hspec.accepted hacc
        exact hhandler (hm ▸ h hrec)
      · intro h hrec
        -- Recording starts here, or goes on and the handler with it.
        obtain hacc | ⟨hr, hdown⟩ := hspec.recording hrec
        · rw [(hspec.accepted hacc).2]
          exact hl (h hacc)
        · exact hspec.live hl (hspec.handler.mpr (Or.inr ⟨hhandler (hc hr), hdown⟩))

/-- A session has its handler if a Transport SETUP came after the last TEARDOWN. -/
theorem hasHandler_iff_since (events : List (SessionEvent δ κ)) :
    (∃ s, run step start events = .ok s) →
      (HasHandler (run step start events) ↔
        Since step TransportSetup RtspSession.TearsDown start events) := by
  refine holds_iff_since (G := fun p => ∃ s, p = .ok s) (H := HasHandler) ?_ ?_ ?_ events
  · intro p event halive
    obtain ⟨s', hs'⟩ := halive
    obtain ⟨s, hs, -⟩ := step_eq_ok.mp hs'
    exact ⟨s, hs⟩
  · intro p event halive
    obtain ⟨s', hs'⟩ := halive
    obtain ⟨s, rfl, hstep⟩ := step_eq_ok.mp hs'
    have hspec := RtspSession.step_stepSpec hstep
    simpa [HasHandler, TransportSetup, hs'] using hspec.handler
  · intro hhas
    obtain ⟨s, hs, hh⟩ := hhas
    obtain rfl := Except.ok.inj hs
    simp [RtspSession.media] at hh

/-- **When recording is consumed.** In every run of a session, whatever the socket
    calls return, each state that records has a live media receiver with the packet
    handler, if and only if each RECORD accepted comes after a SETUP in the Transport
    form that got its media receiver, with no TEARDOWN between. -/
theorem run_consumed_iff (events : List (SessionEvent δ κ)) :
    Always step Consumed start events ↔
      ∀ before event, before ++ [event] <+: events →
        AcceptedRecord (run step start before) event →
          Since step TransportSetup RtspSession.TearsDown start before := by
  have hstart : HandlerLive (start : Process δ κ) := by
    intro s hs
    obtain rfl := Except.ok.inj hs
    simp [RtspSession.HandlerLive, RtspSession.media]
  have hconsumed : Consumed (start : Process δ κ) := by
    intro s hs
    obtain rfl := Except.ok.inj hs
    simp [RtspSession.Consumed]
  have hlive : ∀ (p : Process δ κ) event, HandlerLive p → HandlerLive (p.step event) := by
    intro p event h
    exact h.step event
  have hstep : ∀ (p : Process δ κ) event, HandlerLive p → Consumed p →
      (Consumed (p.step event) ↔ (AcceptedRecord p event → HasHandler p)) := by
    intro p event hl hc
    exact consumed_step_iff hl hc event
  rw [always_iff_each hlive hstep hstart hconsumed events]
  have hsince : ∀ (before : List (SessionEvent δ κ)) event,
      AcceptedRecord (run step start before) event →
        (HasHandler (run step start before) ↔
          Since step TransportSetup RtspSession.TearsDown start before) := by
    intro before event hacc
    obtain ⟨s, hs, -⟩ := hacc
    exact hasHandler_iff_since before ⟨s, hs⟩
  refine ⟨?_, ?_⟩
  · intro h before event hp hacc
    exact (hsince before event hacc).mp (h before event hp hacc)
  · intro h before event hp hacc
    exact (hsince before event hacc).mpr (h before event hp hacc)

/-- A first binary SETUP whose socket calls all succeed, and a RECORD. -/
def binarySetupRun : List (SessionEvent NullAlacDecoder NullAudioSink) :=
  [.request { method := ascii "SETUP", body := ascii "bplist00" }
      { media := .bound (some 6000), control := .bound (some 6001), timing := .bound (some 6002)
        event := .listening (some 7001) },
    .request { method := ascii "RECORD" }
      { media := .noSocket, control := .noSocket, timing := .noSocket, event := .failed }]

/-- It records and nothing has the handler. -/
theorem binarySetupRun_not_consumed : ¬ Consumed (run step start binarySetupRun) := by
  intro h
  have hrun : ∃ s, run step start binarySetupRun = .ok s ∧ s.recording = true ∧
      s.media.live = false := ⟨_, rfl, by decide, by decide⟩
  obtain ⟨s, hs, hrec, hlive⟩ := hrun
  have := h s hs hrec
  rw [hlive] at this
  cases this

end Process
end AirPlay2
