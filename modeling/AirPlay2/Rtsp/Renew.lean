import AirPlay2.Rtsp.Observe
import AirPlay2.Rtsp.Release

/- A TEARDOWN makes a session as good as new: after any past and a TEARDOWN, the
   observations of any future are those of a new session to which the pipeline was
   attached as it was constructed, but for port numbers (`run_teardown_fresh`). The
   decoder is reset by every TEARDOWN. The sink is closed only if the pipeline opened
   it, so an open that fails as long as nothing was done to the sink must leave it in its
   initial state; a sink that it does not tells the two sessions apart
   (`flakyRun_not_fresh`). Initial is a state that no calls tell from the one constructed:
   a sink that is closed may still hold the format it was opened with. -/
namespace AirPlay2
open Lib

/-! ## Pipelines that can be restored -/

namespace AlacAudioPipeline

variable {δ κ : Type*} [AlacDecoder δ] [AudioSink κ]

/-- A constructed pipeline, with a decoder whose reset and a sink whose close restore
    their initial states. -/
structure Fresh (q : AlacAudioPipeline δ κ) : Prop where
  new : q = .new q.pipeline.decoder q.pipeline.sink
  decoder : ∀ d₀ ∈ q.pipeline.decoder, AlacDecoder.Restores d₀
  sink : ∀ k₀ ∈ q.pipeline.sink, AudioSink.Restores k₀

/-- The sink is left as it is by an open that fails. -/
def OpensCleanly (q : AlacAudioPipeline δ κ) : Prop :=
  ∀ k₀ ∈ q.pipeline.sink, AudioSink.OpensCleanly k₀

/-- `p` has the decoder and the sink of `q`, whatever was called of them since; as long as
    the sink is closed, no call tells. -/
structure Restorable (q p : AlacAudioPipeline δ κ) : Prop where
  decoder : Option.Rel (Reached AlacDecoder.call) q.pipeline.decoder p.pipeline.decoder
  sink : Option.Rel (Reached AudioSink.call) q.pipeline.sink p.pipeline.sink
  closed : p.pipeline.opened = false → Option.Rel AudioSink.Same p.pipeline.sink q.pipeline.sink

theorem Restorable.refl (q : AlacAudioPipeline δ κ) : Restorable q q :=
  ⟨rel_refl .refl _, rel_refl .refl _, fun _ => (Like.refl q).sink⟩

/-- A reset pipeline is the constructed one, but for its last format. -/
theorem Restorable.like_reset {q p : AlacAudioPipeline δ κ} (hq : q.Fresh)
    (h : Restorable q p) : Like p.reset q := by
  obtain ⟨⟨decoder₀, sink₀, format₀, opened₀⟩⟩ := q
  obtain ⟨⟨decoder, sink, format, opened⟩⟩ := p
  obtain ⟨hnew, hdecoder, hsink⟩ := hq
  obtain ⟨hd, hk, hclosed⟩ := h
  dsimp only at hnew hdecoder hsink hd hk hclosed
  obtain rfl : opened₀ = false := congrArg (·.pipeline.opened) hnew
  refine ⟨?_, ?_, rfl, fun hopen => by cases hopen⟩
  · cases hd with
    | none => exact .none
    | some hd => exact .some (hdecoder _ rfl _ hd)
  · cases opened with
    | false => exact hclosed rfl
    | true =>
      cases hk with
      | none => exact .none
      | some hk => exact .some (hsink _ rfl _ hk)

theorem Restorable.reset {q p : AlacAudioPipeline δ κ} (hq : q.Fresh) (h : Restorable q p) :
    Restorable q p.reset := by
  refine ⟨?_, ?_, fun _ => (h.like_reset hq).sink⟩
  · exact rel_map_right (fun _ _ hd => hd.next .reset) h.decoder
  · unfold AlacAudioPipeline.reset AudioPipeline.reset
    dsimp only
    split
    · exact rel_map_right (fun _ _ hk => hk.next .closeSink) h.sink
    · exact h.sink

theorem Restorable.configure {q p : AlacAudioPipeline δ κ} (hq : q.Fresh) (hopens : q.OpensCleanly)
    (h : Restorable q p) (c : AlacConfig) : Restorable q (p.configure c).2 := by
  have hreset := h.reset hq
  have hclosed : p.pipeline.reset.opened = false := rfl
  unfold AlacAudioPipeline.configure AudioPipeline.configure
  split
  · exact h
  · unfold AlacAudioPipeline.reset at hreset
    generalize p.pipeline.reset = p' at hreset hclosed
    obtain ⟨⟨decoder₀, sink₀, format₀, opened₀⟩⟩ := q
    obtain ⟨decoder, sink, format, opened⟩ := p'
    obtain ⟨hd, hk, hsame⟩ := hreset
    dsimp only at hd hk hsame hclosed
    replace hsame := hsame hclosed
    cases hd with
    | none => exact ⟨.none, hk, fun _ => hsame⟩
    | some hd =>
      cases hk with
      | none => exact ⟨.some hd, .none, fun _ => .none⟩
      | some hk =>
        rename_i k₀ k
        have hsame : AudioSink.Same k k₀ := by
          cases hsame with
          | some hsame => exact hsame
        have hd := hd.next (.configure c)
        obtain ⟨hok, hopened⟩ :=
          hsame.openSink ⟨c.sampleRate, c.numChannels.toUInt16, c.bitDepth⟩
        have hk' := hk.next (.openSink ⟨c.sampleRate, c.numChannels.toUInt16, c.bitDepth⟩)
        dsimp only
        split
        · exact ⟨.some hd, .some hk, fun _ => .some hsame⟩
        · split
          · -- the sink is the constructed one as far as calls tell, and so fails there too
            rename_i hfails
            rw [Bool.not_eq_true', hok] at hfails
            exact ⟨.some (hd.next .reset), .some hk',
              fun _ => .some (hopened.trans (hopens k₀ rfl _ hfails))⟩
          · exact ⟨.some hd, .some hk', fun hopen => by cases hopen⟩

theorem Restorable.push {q p : AlacAudioPipeline δ κ} (h : Restorable q p) (packet : RtpPacket) :
    Restorable q (p.push packet).2 := by
  unfold AlacAudioPipeline.push
  split
  · exact h
  · obtain ⟨⟨decoder₀, sink₀, format₀, opened₀⟩⟩ := q
    obtain ⟨⟨decoder, sink, format, opened⟩⟩ := p
    obtain ⟨hd, hk, hclosed⟩ := h
    dsimp only at hd hk hclosed
    unfold AudioPipeline.push
    cases hd with
    | none => exact ⟨.none, hk, hclosed⟩
    | some hd =>
      cases hk with
      | none => exact ⟨.some hd, .none, hclosed⟩
      | some hk =>
        have hd' := hd.next (.decode packet.payload)
        dsimp only
        split
        · exact ⟨.some hd, .some hk, hclosed⟩
        · split
          · exact ⟨.some hd', .some hk, hclosed⟩
          · rename_i hready _ pcm _
            -- only an open pipeline writes
            have hopened : opened = true := by
              simp only [Bool.or_eq_true, Bool.not_eq_true', not_or, Bool.not_eq_false] at hready
              exact hready.1
            subst hopened
            split
            · exact ⟨.some hd', .some hk, hclosed⟩
            · split
              · exact ⟨.some hd', .some hk, hclosed⟩
              · exact ⟨.some hd', .some (hk.next (.write pcm.samples pcm.frames.toNat)),
                  fun hopen => by cases hopen⟩

end AlacAudioPipeline

/-! ## The pipeline of a session -/

/-- The pipeline attached last. -/
def attached {δ κ : Type*} (events : List (SessionEvent δ κ)) : Option (AlacAudioPipeline δ κ) :=
  events.foldl (fun pipeline event =>
    match event with
    | .setAlacAudioPipeline pipeline => pipeline
    | _ => pipeline) none

theorem attached_snoc {δ κ : Type*} (events : List (SessionEvent δ κ)) (event : SessionEvent δ κ) :
    attached (events ++ [event]) =
      match event with
      | .setAlacAudioPipeline pipeline => pipeline
      | _ => attached events := by
  simp only [attached, List.foldl_append, List.foldl_cons, List.foldl_nil]

namespace RtspSession

variable {δ κ : Type*} [AlacDecoder δ] [AudioSink κ]

theorem configurePipeline_isSome (s : RtspSession δ κ) (p : AirPlaySdp) :
    (s.configurePipeline p).2.alacAudioPipeline.isSome = s.alacAudioPipeline.isSome := by
  unfold configurePipeline
  split
  · rename_i pipeline c hp hc
    rw [hp]
    rfl
  · rfl

theorem handle_isSome (s : RtspSession δ κ) (e : Sockets) (r : RtspRequest) :
    (s.handle e r).2.alacAudioPipeline.isSome = s.alacAudioPipeline.isSome := by
  unfold handle
  cases r.verb with
  | announce =>
    simp only [announce]
    split
    · rfl
    · rename_i p hp
      have hsome := configurePipeline_isSome { s with sdp := p, configured := true } p
      split
      · rfl
      · split
        · exact hsome
        · simp only [configureCrypto_ok, Bool.not_true, Bool.false_eq_true, if_false]
          unfold configureCrypto
          split <;> exact hsome
  | setup => exact congrArg Option.isSome (setup_playback s e r).1
  | record =>
    simp only [record]
    split <;> rfl
  | pause => simp [pause]
  | teardown => simp [teardown, reset]
  | options => rfl
  | flush => rfl
  | getParameter => rfl
  | setParameter => rfl
  | unknown => rfl

theorem deliver_isSome (s : RtspSession δ κ) (bytes : Bytes) :
    (s.deliver bytes).alacAudioPipeline.isSome = s.alacAudioPipeline.isSome := by
  obtain ⟨-, hsame, -⟩ | ⟨p, -, -, hpipeline, -⟩ := s.deliver_cases bytes
  · rw [hsame]
  · rw [hpipeline, Option.isSome_map]

/-- Only attaching one changes whether there is a pipeline. -/
theorem step_isSome {s s' : RtspSession δ κ} {event : SessionEvent δ κ}
    (hevent : ∀ pipeline, event ≠ .setAlacAudioPipeline pipeline) (hstep : s.step event = .ok s') :
    s'.alacAudioPipeline.isSome = s.alacAudioPipeline.isSome := by
  cases event with
  | request r e =>
    rw [step_handle hstep, handle_isSome]
  | datagram bytes =>
    obtain rfl := Except.ok.inj hstep
    exact deliver_isSome s bytes
  | setMediaPacketHandler installed =>
    obtain rfl := Except.ok.inj hstep
    rfl
  | setAlacAudioPipeline pipeline => exact absurd rfl (hevent pipeline)

/-- The pipeline is the one attached, in a state it can be restored from. -/
def PipelineRestorable (q : Option (AlacAudioPipeline δ κ)) (s : RtspSession δ κ) : Prop :=
  s.alacAudioPipeline.isSome = q.isSome ∧
    PipelineHolds (fun p => ∃ q', q = some q' ∧ q'.Restorable p) s

theorem attach_pipelineRestorable {q : Option (AlacAudioPipeline δ κ)}
    (hq : ∀ p, q = some p → p.Fresh ∧ p.OpensCleanly) (s : RtspSession δ κ) :
    (s.setAlacAudioPipeline q).PipelineRestorable q := by
  have hnew : PipelineHolds (fun p => ∃ q', q = some q' ∧ q'.Restorable p)
      ({ s with alacAudioPipeline := q } : RtspSession δ κ) := by
    intro p hp
    exact ⟨p, hp, .refl p⟩
  unfold setAlacAudioPipeline PipelineRestorable
  dsimp only
  split
  · -- a configured session offers the format it has
    refine ⟨configurePipeline_isSome _ _, configurePipeline_holds ?_ hnew _⟩
    intro p c hp
    obtain ⟨q', hq', hp⟩ := hp
    obtain ⟨hfresh, hopens⟩ := hq q' hq'
    exact ⟨q', hq', hp.configure hfresh hopens c⟩
  · exact ⟨rfl, hnew⟩

theorem keep_pipelineRestorable {q : Option (AlacAudioPipeline δ κ)}
    (hq : ∀ p, q = some p → p.Fresh ∧ p.OpensCleanly) {event : SessionEvent δ κ}
    (hevent : ∀ pipeline, event ≠ .setAlacAudioPipeline pipeline) {s s' : RtspSession δ κ}
    (h : s.PipelineRestorable q) (hstep : s.step event = .ok s') : s'.PipelineRestorable q := by
  obtain ⟨hsome, hholds⟩ := h
  refine ⟨(step_isSome hevent hstep).trans hsome,
    step_pipelineHolds ?_ ?_ ?_ hholds (fun p h => absurd h (hevent (some p))) hstep⟩
  · intro p hp
    obtain ⟨q', hq', hp⟩ := hp
    exact ⟨q', hq', hp.reset (hq q' hq').1⟩
  · intro p c hp
    obtain ⟨q', hq', hp⟩ := hp
    exact ⟨q', hq', hp.configure (hq q' hq').1 (hq q' hq').2 c⟩
  · intro p packet hp
    obtain ⟨q', hq', hp⟩ := hp
    exact ⟨q', hq', hp.push packet⟩

/-! ## The event channel and the jitter buffer -/

omit [AlacDecoder δ] [AudioSink κ] in
theorem EventReady.startEventChannel {s : RtspSession δ κ} (h : s.EventReady)
    (outcome : EventOutcome) : (s.startEventChannel outcome).2.EventReady := by
  cases hstarts : s.startsEvent outcome with
  | true =>
    obtain ⟨server, hrun, hport, hs⟩ := startEventChannel_of_starts hstarts
    rw [hs]
    intro k hk
    obtain rfl := Option.some.inj hk
    exact ⟨hrun, hport⟩
  | false =>
    unfold startsEvent at hstarts
    unfold RtspSession.startEventChannel
    split
    · exact fun k hk => h k hk
    · rename_i hnone
      simp only [hnone] at hstarts
      have hgone : (s.setEvent none 0).EventReady := fun k hk => by cases hk
      cases outcome with
      | failed => exact hgone
      | listening port =>
        have hzero : port.getD 0 = 0 := by simpa using hstarts
        simp only [EventServer.start, Bool.false_eq_true, if_false, Bool.not_true, if_pos hzero]
        exact hgone

omit [AlacDecoder δ] [AudioSink κ] in
theorem EventReady.setup {s : RtspSession δ κ} (h : s.EventReady) (e : Sockets)
    (r : RtspRequest) : (s.setup e r).2.EventReady := by
  unfold RtspSession.setup
  split
  · have hbound : (s.beginInfo.bindInfo e (usesPtp r.body)).2.EventReady := by
      unfold bindInfo
      dsimp only
      split
      · exact h
      · split
        · exact h
        · obtain ⟨timing, ht⟩ := bindTimingUnless_eq
            ((s.beginInfo.bindMedia e.media).2.bindControl e.control).2 (usesPtp r.body) e.timing
          have hbefore : (((s.beginInfo.bindMedia e.media).2.bindControl e.control).2.bindTimingUnless
              (usesPtp r.body) e.timing).2.EventReady := by
            rw [ht]
            exact h
          split
          · exact hbefore
          · exact hbefore.startEventChannel e.event
    rw [setupInfo_after]
    split
    · exact fun k hk => hbound k hk
    · exact hbound
  · split
    · exact h
    · split
      · exact h
      · obtain ⟨control, timing, t, hs⟩ := setupTransport_eq s e r
        rw [hs]
        exact h

theorem EventReady.step {s s' : RtspSession δ κ} (h : s.EventReady) {event : SessionEvent δ κ}
    (hstep : s.step event = .ok s') : s'.EventReady := by
  by_cases hsetup : SetsUp event
  · obtain ⟨r, e, rfl, hv⟩ := hsetup
    rw [step_setup hv hstep]
    exact h.setup e r
  · by_cases hdown : TearsDown event
    · rw [(step_portStep hstep).2 hdown]
      exact h
    · have hsame := (step_portsSame hstep hsetup hdown).eventServer
      intro k hk
      exact h k (hsame ▸ hk)

theorem step_capacity {s s' : RtspSession δ κ} {event : SessionEvent δ κ}
    (hstep : s.step event = .ok s') : s'.jitterBuffer.capacity = s.jitterBuffer.capacity := by
  rw [step_jitterBuffer hstep]
  split
  · rfl
  · split
    · rfl
    · exact RtpJitterBuffer.handOver_capacity _ _

/-! ## After a TEARDOWN -/

theorem like_fresh {q : Option (AlacAudioPipeline δ κ)} (hq : ∀ p, q = some p → p.Fresh)
    {s : RtspSession δ κ} (hevent : s.EventReady) (hbuffer : s.jitterBuffer.reset = .new 128)
    (h : s.PipelineRestorable q) :
    Like s.reset ({ alacAudioPipeline := q } : RtspSession δ κ) := by
  obtain ⟨hsome, hholds⟩ := h
  have hpipeline : Option.Rel AlacAudioPipeline.Like
      (s.alacAudioPipeline.map AlacAudioPipeline.reset) q := by
    cases hs : s.alacAudioPipeline with
    | none =>
      rw [hs] at hsome
      rw [Option.not_isSome_iff_eq_none.mp (by simp [← hsome] : ¬ q.isSome = true)]
      exact .none
    | some p =>
      obtain ⟨p', rfl, hp⟩ := hholds p hs
      exact .some (hp.like_reset (hq p' rfl))
  exact {
    configured := rfl
    setupInfoComplete := rfl
    recording := rfl
    sdp := rfl
    crypto := rfl
    jitterBuffer := hbuffer
    mediaPacketHandler := rfl
    receivedPackets := rfl
    receivedBytes := rfl
    dataPort := Iff.rfl
    controlPort := Iff.rfl
    timingPort := Iff.rfl
    media := .new
    control := .new
    timing := .new
    event := ⟨hevent, fun server h => by cases h⟩
    pipeline := hpipeline }

end RtspSession

namespace Process

variable {δ κ : Type*} [AlacDecoder δ] [AudioSink κ]

/-- What a new session has and every event keeps. -/
theorem run_keeps {P : RtspSession δ κ → Prop} (hnew : P {})
    (hstep : ∀ s s' event, P s → s.step event = .ok s' → P s') {events : List (SessionEvent δ κ)}
    {s : RtspSession δ κ} (hs : run step start events = .ok s) : P s := by
  have hall : ∀ s, run step start events = .ok s → P s := by
    refine run_induction (P := fun p : Process δ κ => ∀ s, p = .ok s → P s) ?_ ?_ events
    · intro p event h s' hs'
      obtain ⟨t, ht, hstep'⟩ := step_eq_ok.mp hs'
      exact hstep t s' event (h t ht) hstep'
    · intro s hs
      obtain rfl := Except.ok.inj hs
      exact hnew
  exact hall s hs

theorem run_eventReady {events : List (SessionEvent δ κ)} {s : RtspSession δ κ}
    (hs : run step start events = .ok s) : s.EventReady := by
  refine run_keeps ?_ ?_ hs
  · intro server h
    cases h
  · exact fun s s' event h hstep => h.step hstep

theorem run_capacity {events : List (SessionEvent δ κ)} {s : RtspSession δ κ}
    (hs : run step start events = .ok s) : s.jitterBuffer.capacity = 128 := by
  refine run_keeps (P := fun s => s.jitterBuffer.capacity = 128) rfl ?_ hs
  intro s s' event h hstep
  rw [RtspSession.step_capacity hstep]
  exact h

omit [AlacDecoder δ] [AudioSink κ] in
theorem reset_eq_new {b : RtpJitterBuffer} (h : b.capacity = 128) : b.reset = .new 128 := by
  obtain ⟨capacity, hpos, initialized, expected, packets, stats⟩ := b
  subst h
  rfl

theorem run_pipelineRestorable {past : List (SessionEvent δ κ)}
    (hlast : ∀ q, attached past = some q → q.Fresh ∧ q.OpensCleanly) {s : RtspSession δ κ}
    (hs : run step start past = .ok s) : s.PipelineRestorable (attached past) := by
  induction past using List.reverseRecOn generalizing s with
  | nil =>
    obtain rfl := Except.ok.inj hs
    refine ⟨rfl, ?_⟩
    intro p h
    cases h
  | append_singleton past event ih =>
    rw [run_snoc] at hs
    obtain ⟨t, ht, hstep⟩ := step_eq_ok.mp hs
    rw [attached_snoc] at hlast ⊢
    cases event with
    | setAlacAudioPipeline pipeline =>
      obtain rfl := Except.ok.inj hstep
      exact RtspSession.attach_pipelineRestorable hlast t
    | request r e =>
      exact RtspSession.keep_pipelineRestorable hlast (fun _ h => by cases h) (ih hlast ht) hstep
    | datagram bytes =>
      exact RtspSession.keep_pipelineRestorable hlast (fun _ h => by cases h) (ih hlast ht) hstep
    | setMediaPacketHandler installed =>
      exact RtspSession.keep_pipelineRestorable hlast (fun _ h => by cases h) (ih hlast ht) hstep

/-- **TEARDOWN restores a fresh state.** Whatever a session went through and whatever its
    socket calls returned, let the pipeline attached last, if there is one, be as it was
    constructed, its decoder's reset and its sink's close restore their initial states, and
    an open of its sink that fails there leave it there. Then after a TEARDOWN, requests and
    packets in any order whose socket calls succeed get the answers, deliveries and
    pipeline states, port numbers apart, that they get from a new session with that
    pipeline attached as it was constructed. -/
theorem run_teardown_fresh {past : List (SessionEvent δ κ)}
    (hfresh : ∀ q, attached past = some q → q.Fresh)
    (hopens : ∀ q, attached past = some q → q.OpensCleanly)
    {s : RtspSession δ κ} (hs : run step start past = .ok s)
    {down : SessionEvent δ κ} (hdown : RtspSession.TearsDown down)
    {future future' : List (SessionEvent δ κ)}
    (hfuture : List.Forall₂ SessionEvent.Like future future') :
    List.Forall₂ (Option.Rel Observation.Like)
      (observations step observe (run step start (past ++ [down])) future)
      (observations step observe (run step start [.setAlacAudioPipeline (attached past)])
        future') := by
  have hstep : ∀ (p p' : Process δ κ) (event event' : SessionEvent δ κ), p.Like p' →
      event.Like event' → Option.Rel Observation.Like (p.observe event) (p'.observe event') ∧
        (p.step event).Like (p'.step event') := by
    intro p p' event event' h he
    exact like_step h he
  refine observations_forall₂ hstep ?_ hfuture
  have hreset : run step start (past ++ [down]) = .ok s.reset := by
    obtain ⟨r, e, rfl, hv⟩ := hdown
    rw [run_snoc, hs]
    simp only [step, RtspSession.step, RtspSession.handle, hv, RtspSession.teardown]
  rw [hreset]
  exact RtspSession.like_fresh hfresh (run_eventReady hs) (reset_eq_new (run_capacity hs))
    (run_pipelineRestorable (fun q hq => ⟨hfresh q hq, hopens q hq⟩) hs)

/-! ## The sink that does nothing -/

def playedPipeline : AlacAudioPipeline NullAlacDecoder NullAudioSink := .new (some {}) (some {})

/-- The sink is opened, and still holds the format after a close. -/
def playedRun : List (SessionEvent NullAlacDecoder NullAudioSink) :=
  [.setAlacAudioPipeline (some playedPipeline), .request alacAnnounce openSockets,
    .request transportSetup openSockets, .request { method := ascii "RECORD" } openSockets,
    .datagram [0x80, 96, 0, 1, 0, 0, 0, 0, 0, 0, 0, 0, 7]]

def laterSockets : Sockets :=
  { media := .bound (some 6100), control := .bound (some 6101), timing := .bound (some 6102)
    event := .listening (some 7101) }

theorem playedPipeline_fresh : playedPipeline.Fresh := by
  refine ⟨rfl, ?_, ?_⟩
  · intro d hd
    obtain rfl := Option.some.inj hd
    exact NullAlacDecoder.restores
  · intro k hk
    obtain rfl := Option.some.inj hk
    exact NullAudioSink.restores rfl

/-- A client that announces and sets up again after a TEARDOWN is answered as by a new
    session. -/
theorem playedRun_renewed :
    List.Forall₂ (Option.Rel Observation.Like)
      (observations step observe (run step start (playedRun ++ [teardownEvent]))
        [.request alacAnnounce openSockets, .request transportSetup openSockets])
      (observations step observe (run step start [.setAlacAudioPipeline (attached playedRun)])
        [.request alacAnnounce laterSockets, .request transportSetup laterSockets]) := by
  have hrun : ∃ s, run step start playedRun = .ok s := ⟨_, rfl⟩
  obtain ⟨s, hs⟩ := hrun
  refine run_teardown_fresh ?_ ?_ hs teardownEvent_tearsDown
    (.cons (.request _ rfl rfl) (.cons (.request _ rfl rfl) .nil))
  · intro q hq
    obtain rfl := Option.some.inj hq
    exact playedPipeline_fresh
  · intro q hq k hk
    exact NullAudioSink.opensCleanly k

/-! ## A sink that fails at first -/

/-- A sink whose first opens fail; to close it begins anew. -/
structure FlakySink where
  failures : ℕ
  attempts : ℕ := 0
  deriving DecidableEq

instance : AudioSink FlakySink where
  openSink k _ := (k.failures ≤ k.attempts, { k with attempts := k.attempts + 1 })
  closeSink k := { k with attempts := 0 }
  write k _ _ := (true, k)

theorem FlakySink.restores (failures : ℕ) : AudioSink.Restores ({ failures := failures } : FlakySink) := by
  intro k hk
  have hfailures : k.failures = failures := by
    refine hk.induction (P := fun k => k.failures = failures) ?_ rfl
    intro k c h
    cases c <;> exact h
  subst hfailures
  exact .refl _

def flakyPipeline : AlacAudioPipeline NullAlacDecoder FlakySink :=
  .new (some {}) (some { failures := 1 })

/-- An ANNOUNCE to a session with a sink whose first open fails. -/
def flakyRun : List (SessionEvent NullAlacDecoder FlakySink) :=
  [.setAlacAudioPipeline (some flakyPipeline), .request alacAnnounce openSockets]

theorem flakyPipeline_fresh : flakyPipeline.Fresh := by
  refine ⟨rfl, ?_, ?_⟩
  · intro d hd
    obtain rfl := Option.some.inj hd
    exact NullAlacDecoder.restores
  · intro k hk
    obtain rfl := Option.some.inj hk
    exact FlakySink.restores 1

/-- The ANNOUNCE before the TEARDOWN has used the failure up: the one after it is
    accepted, the one to a new session is not. -/
theorem flakyRun_not_fresh :
    ¬ ∀ (past : List (SessionEvent NullAlacDecoder FlakySink)) s down future future',
      (∀ q, attached past = some q → q.Fresh) →
      run step start past = .ok s → RtspSession.TearsDown down →
      List.Forall₂ SessionEvent.Like future future' →
      List.Forall₂ (Option.Rel Observation.Like)
        (observations step observe (run step start (past ++ [down])) future)
        (observations step observe (run step start [.setAlacAudioPipeline (attached past)])
          future') := by
  intro h
  have hrun : ∃ s, run step start flakyRun = .ok s := ⟨_, rfl⟩
  obtain ⟨s, hs⟩ := hrun
  have hfresh : ∀ q, attached flakyRun = some q → q.Fresh := by
    intro q hq
    obtain rfl := Option.some.inj hq
    exact flakyPipeline_fresh
  have hsame := h flakyRun s teardownEvent [.request alacAnnounce openSockets]
    [.request alacAnnounce openSockets] hfresh hs teardownEvent_tearsDown
    (.cons (.request _ rfl rfl) .nil)
  have hold : (observe (run step start (flakyRun ++ [teardownEvent]))
      (.request alacAnnounce openSockets)).bind Observation.status = some 200 := by decide +kernel
  have hnew : (observe (run step start [.setAlacAudioPipeline (attached flakyRun)])
      (.request alacAnnounce openSockets)).bind Observation.status = some 415 := by decide +kernel
  obtain ⟨hlike, -⟩ := List.forall₂_cons.mp hsame
  generalize observe (run step start (flakyRun ++ [teardownEvent]))
    (.request alacAnnounce openSockets) = o at hlike hold
  generalize observe (run step start [.setAlacAudioPipeline (attached flakyRun)])
    (.request alacAnnounce openSockets) = o' at hlike hnew
  cases hlike with
  | none => cases hold
  | some hlike =>
    have hstatus : some (200 : ℤ) = some 415 := (hold.symm.trans hlike.status).trans hnew
    cases hstatus

end Process
end AirPlay2
