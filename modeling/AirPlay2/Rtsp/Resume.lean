import AirPlay2.Rtsp.Announce
import AirPlay2.Rtsp.AudioSection
import AirPlay2.Rtsp.Renew

/- Audio over PAUSE and RECORD. A PAUSE closes the pipeline, and only an ANNOUNCE opens one, so
   a RECORD that resumes plays into a closed pipeline. `Playback` keeps beside the session what
   its requests so far ask for: the description of the latest accepted ANNOUNCE, and whether a
   PAUSE came after it. With a decoder and a sink that take every configuration of 16 bits, the
   pipeline of a description that can be played is open exactly until the PAUSE (`Attached`),
   and so a recording session has its pipeline exactly if it never resumed
   (`run_plays_iff`). -/
namespace AirPlay2
open Lib

/-- Audio that a pipeline can play: an audio section, and format parameters of 16 bits. -/
def AirPlaySdp.playable (p : AirPlaySdp) : Bool := p.hasAudio && (takenConfig p.fmtp).isSome

/-! ## The pipeline -/

namespace AlacAudioPipeline

variable {δ κ : Type*} [AlacDecoder δ] [AudioSink κ]

/-- The pipeline has a decoder and a sink. -/
def equipped (p : AlacAudioPipeline δ κ) : Bool :=
  p.pipeline.decoder.isSome && p.pipeline.sink.isSome

theorem equipped_reset (p : AlacAudioPipeline δ κ) : p.reset.equipped = p.equipped := by
  simp only [equipped, reset, AudioPipeline.reset, Option.isSome_map]
  split
  · rw [Option.isSome_map]
  · rfl

theorem equipped_configure (p : AlacAudioPipeline δ κ) (c : AlacConfig) :
    (p.configure c).2.equipped = p.equipped := by
  have hreset := p.equipped_reset
  simp only [equipped, reset, configure, AudioPipeline.configure] at hreset ⊢
  split
  · rfl
  · rw [← hreset]
    split
    · rename_i decoder sink hdecoder hsink
      rw [hdecoder, hsink]
      split
      · rfl
      · split <;> rfl
    · rfl

/-- A packet leaves an open pipeline open, and a closed one closed. -/
theorem push_frame (p : AlacAudioPipeline δ κ) (packet : RtpPacket) :
    (p.push packet).2.equipped = p.equipped ∧ (p.push packet).2.configured = p.configured := by
  unfold push
  split
  · exact ⟨rfl, rfl⟩
  · simp only [equipped, configured, AudioPipeline.push]
    split
    · rename_i decoder sink hdecoder hsink
      rw [hdecoder, hsink]
      split
      · exact ⟨by rw [hdecoder, hsink], rfl⟩
      · split
        · exact ⟨rfl, rfl⟩
        · split
          · exact ⟨rfl, rfl⟩
          · split
            · exact ⟨rfl, rfl⟩
            · exact ⟨rfl, rfl⟩
    · exact ⟨rfl, rfl⟩

end AlacAudioPipeline

/-- The decoder and the sink take every valid configuration of 16 bits. -/
structure AcceptsLossless (δ κ : Type*) [AlacDecoder δ] [AudioSink κ] : Prop where
  decoder : ∀ (d : δ) (c : AlacConfig), c.valid = true → c.bitDepth = 16 →
    (AlacDecoder.configure d c).1 = true
  sink : ∀ (k : κ) (c : AlacConfig), c.valid = true → c.bitDepth = 16 →
    (AudioSink.openSink k c.pcmFormat).1 = true

variable {δ κ : Type*} [AlacDecoder δ] [AudioSink κ]

theorem AcceptsLossless.configure (h : AcceptsLossless δ κ) {p : AlacAudioPipeline δ κ}
    {c : AlacConfig} (htakes : p.pipeline.takes c = true) : (p.configure c).1 = true := by
  have hchecks := htakes
  simp only [AudioPipeline.takes, Bool.and_eq_true, bne_iff_ne, beq_iff_eq] at hchecks
  obtain ⟨⟨⟨⟨⟨hdecoder, hsink⟩, hvalid⟩, -⟩, -⟩, hdepth⟩ := hchecks
  have hequipped := p.equipped_reset
  rw [AlacAudioPipeline.equipped, AlacAudioPipeline.equipped, hdecoder, hsink, Bool.and_self,
    Bool.and_eq_true, Option.isSome_iff_exists, Option.isSome_iff_exists] at hequipped
  obtain ⟨⟨decoder, hd⟩, sink, hk⟩ := hequipped
  have hconfigured := h.decoder decoder c hvalid hdepth
  have hopened : (AudioSink.openSink sink ({ sampleRate := c.sampleRate
                                             channels := c.numChannels.toUInt16
                                             bitsPerSample := c.bitDepth } : PcmFormat)).1 = true :=
    h.sink sink c hvalid hdepth
  simp only [AlacAudioPipeline.reset] at hd hk
  simp only [AlacAudioPipeline.configure, AudioPipeline.configure, htakes, Bool.not_true,
    Bool.false_eq_true, if_false, hd, hk, hconfigured, hopened]

/-! ## What the requests ask for -/

theorem taken_of_playable {p : AirPlaySdp} (h : p.playable = true) :
    p.hasAudio = true ∧
      ∃ c, takenConfig p.fmtp = some c ∧ RtspSession.alacConfigOf p = some c := by
  rw [AirPlaySdp.playable, Bool.and_eq_true, Option.isSome_iff_exists] at h
  obtain ⟨haudio, c, htaken⟩ := h
  have hparse := (Option.filter_eq_some_iff.mp htaken).1
  exact ⟨haudio, c, htaken, (RtspSession.alacConfigOf_eq haudio).trans hparse⟩

namespace RtspSession

/-- The request is answered with 200. -/
def accepts (s : RtspSession δ κ) (e : Sockets) (r : RtspRequest) : Bool :=
  match (s.handle e r).1 with
  | .ok x => x.status = 200
  | .error _ => false

/-- What an event leaves of the latest accepted description since the last TEARDOWN, and of
    the PAUSE after it. -/
def heard (s : RtspSession δ κ) (event : SessionEvent δ κ) (announced : Option AirPlaySdp)
    (paused : Bool) : Option AirPlaySdp × Bool :=
  match event with
  | .request r e =>
    match r.verb with
    | .announce => if s.accepts e r then (parseSdp r.body, false) else (announced, paused)
    | .pause => (announced, true)
    | .teardown => (none, false)
    | _ => (announced, paused)
  | _ => (announced, paused)

/-- The pipeline stays attached, with its decoder and sink; that of a description that can be
    played is open until the PAUSE. -/
structure Attached (announced : Option AirPlaySdp) (paused : Bool) (s : RtspSession δ κ) :
    Prop where
  attached : s.alacAudioPipeline.isSome = true
  holds : PipelineHolds (fun p => p.equipped = true ∧
    (announced.any AirPlaySdp.playable = true → p.configured = !paused)) s

variable {s s' : RtspSession δ κ} {announced : Option AirPlaySdp} {paused : Bool}

omit [AlacDecoder δ] [AudioSink κ] in
theorem Attached.configured (h : s.Attached announced paused)
    (hplayable : announced.any AirPlaySdp.playable = true) :
    s.audioPipelineConfigured = !paused := by
  obtain ⟨p, hp⟩ := Option.isSome_iff_exists.mp h.attached
  rw [audioPipelineConfigured, hp]
  exact (h.holds p hp).2 hplayable

/-- An ANNOUNCE of what can be played opens a pipeline that takes the configuration. -/
theorem announce_opens {r : RtspRequest} {sdp : AirPlaySdp} (hparse : parseSdp r.body = some sdp)
    (hplays : sdp.playable = true)
    (hok : ∀ p c pipeline, parseSdp r.body = some p → alacConfigOf p = some c →
      s.alacAudioPipeline = some pipeline → (pipeline.configure c).1 = true) :
    PipelineHolds (fun p => p.configured = true) (s.announce r).2 := by
  obtain ⟨haudio, c, htaken, hc⟩ := taken_of_playable hplays
  intro p hp
  rw [announce_pipeline s hparse haudio] at hp
  obtain ⟨pipeline, hpipeline, rfl⟩ := Option.map_eq_some_iff.mp hp
  have hopened := AlacAudioPipeline.configured_of_accepted (hok sdp c pipeline hparse hc hpipeline)
  rw [AlacAudioPipeline.configuredFrom_eq, htaken]
  exact hopened.1

/-- An ANNOUNCE that is accepted opens the pipeline for what can be played; one that is refused
    leaves it as it is. -/
theorem Attached.announce (haccepts : AcceptsLossless δ κ) (h : s.Attached announced paused)
    (e : Sockets) {r : RtspRequest} (hverb : r.verb = .announce) :
    PipelineHolds (fun p => p.equipped = true ∧
      ((s.heard (.request r e) announced paused).1.any AirPlaySdp.playable = true →
        p.configured = !(s.heard (.request r e) announced paused).2)) (s.announce r).2 := by
  have hhandle : s.handle e r = s.announce r := by rw [handle, hverb]
  have hheard : s.heard (.request r e) announced paused =
      if s.accepts e r then (parseSdp r.body, false) else (announced, paused) := by
    simp only [heard, hverb]
  rw [hheard]
  obtain ⟨hsame, hnone⟩ | ⟨sdp, c, pipeline, hparse, hc, hpipeline, hrefused, hx, hs⟩ |
    ⟨⟨x, hx, hstatus⟩, hok⟩ := announce_cases s r
  · -- no configuration is offered, and what is announced cannot be played
    rw [hsame]
    intro p hp
    refine ⟨(h.holds p hp).1, ?_⟩
    split
    · intro hplayable
      obtain ⟨sdp, hparse, hplays⟩ := (Option.any_eq_true _ _).mp hplayable
      obtain ⟨-, c, -, hc⟩ := taken_of_playable hplays
      rw [hnone sdp hparse] at hc
      cases hc
    · exact (h.holds p hp).2
  · -- a pipeline that refuses the configuration has not touched anything
    have hno : s.accepts e r = false := by
      rw [accepts, hhandle, hx]
      rfl
    have htakes : pipeline.pipeline.takes c = false := by
      rw [← Bool.not_eq_true]
      intro htakes
      rw [haccepts.configure htakes] at hrefused
      cases hrefused
    rw [hno, hs]
    intro p hp
    obtain rfl := Option.some.inj hp
    obtain ⟨hequipped, hconfigured⟩ := h.holds pipeline hpipeline
    refine ⟨by rw [AlacAudioPipeline.equipped_configure, hequipped], ?_⟩
    rw [AlacAudioPipeline.configured_of_refused hrefused, htakes, Bool.not_false, Bool.and_true]
    exact hconfigured
  · have hyes : s.accepts e r = true := by
      rw [accepts, hhandle, hx]
      exact decide_eq_true hstatus
    have hequipped : PipelineHolds (fun p => p.equipped = true) (s.announce r).2 := by
      apply announce_holds
      · intro p c hp
        rw [AlacAudioPipeline.equipped_configure, hp]
      · exact fun p hp => (h.holds p hp).1
    rw [hyes]
    intro p hp
    refine ⟨hequipped p hp, ?_⟩
    intro hplayable
    obtain ⟨sdp, hparse, hplays⟩ := (Option.any_eq_true _ _).mp hplayable
    exact announce_opens hparse hplays hok p hp

/-- What one step leaves of the pipeline. -/
theorem Attached.step (haccepts : AcceptsLossless δ κ) (h : s.Attached announced paused)
    {event : SessionEvent δ κ} (hkeeps : ∀ pipeline, event ≠ .setAlacAudioPipeline pipeline)
    (hstep : s.step event = .ok s') :
    s'.Attached (s.heard event announced paused).1 (s.heard event announced paused).2 := by
  refine ⟨(step_isSome hkeeps hstep).trans h.attached, ?_⟩
  cases event with
  | datagram bytes =>
    obtain rfl := Except.ok.inj hstep
    apply deliver_holds ?_ h.holds
    intro p packet hp
    obtain ⟨hequipped, hconfigured⟩ := p.push_frame packet
    rw [hequipped, hconfigured]
    exact hp
  | setMediaPacketHandler installed =>
    obtain rfl := Except.ok.inj hstep
    exact h.holds
  | setAlacAudioPipeline pipeline => exact absurd rfl (hkeeps pipeline)
  | request r e =>
    rw [step_handle hstep]
    cases hverb : r.verb with
    | announce =>
      have hhandle : s.handle e r = s.announce r := by rw [handle, hverb]
      rw [hhandle]
      exact h.announce haccepts e hverb
    | pause =>
      simp only [handle, heard, hverb]
      intro q hq
      obtain ⟨p, hp, rfl⟩ := Option.map_eq_some_iff.mp hq
      exact ⟨p.equipped_reset.trans (h.holds p hp).1, fun _ => rfl⟩
    | teardown =>
      simp only [handle, heard, hverb]
      intro q hq
      obtain ⟨p, hp, rfl⟩ := Option.map_eq_some_iff.mp hq
      exact ⟨p.equipped_reset.trans (h.holds p hp).1, fun hplayable => by cases hplayable⟩
    | setup =>
      simp only [handle, heard, hverb]
      intro p hp
      rw [(setup_playback s e r).1] at hp
      exact h.holds p hp
    | record =>
      simp only [handle, heard, hverb, record]
      split <;> exact h.holds
    | options | flush | getParameter | setParameter | unknown =>
      simp only [handle, heard, hverb]
      exact h.holds

/-- An event either changes nothing of what was heard, or no PAUSE is the last of it, or it is
    a PAUSE. -/
theorem heard_cases (s : RtspSession δ κ) (event : SessionEvent δ κ)
    (announced : Option AirPlaySdp) (paused : Bool) :
    s.heard event announced paused = (announced, paused) ∨
      (s.heard event announced paused).2 = false ∨
      ∃ r e, event = .request r e ∧ r.verb = .pause := by
  cases event with
  | request r e =>
    simp only [heard]
    split
    · split
      · exact Or.inr (Or.inl rfl)
      · exact Or.inl rfl
    · rename_i hverb
      exact Or.inr (Or.inr ⟨r, e, rfl, hverb⟩)
    · exact Or.inr (Or.inl rfl)
    · exact Or.inl rfl
  | datagram bytes => exact Or.inl rfl
  | setMediaPacketHandler installed => exact Or.inl rfl
  | setAlacAudioPipeline pipeline => exact Or.inl rfl

end RtspSession

/-! ## Runs -/

/-- An event that leaves the pipeline attached. -/
abbrev KeepingEvent (δ κ : Type*) :=
  { event : SessionEvent δ κ // ∀ pipeline, event ≠ .setAlacAudioPipeline pipeline }

/-- A process, and what its requests so far ask for. -/
structure Playback (δ κ : Type*) where
  process : Process δ κ
  announced : Option AirPlaySdp := none
  paused : Bool := false

namespace Playback

/-- A new session with this pipeline. -/
def start (p : AlacAudioPipeline δ κ) : Playback δ κ :=
  { process := .ok (({} : RtspSession δ κ).setAlacAudioPipeline (some p)) }

def step (run : Playback δ κ) (event : KeepingEvent δ κ) : Playback δ κ :=
  match run.process with
  | .error _ => run
  | .ok s =>
    let heard := s.heard event.1 run.announced run.paused
    { process := s.step event.1, announced := heard.1, paused := heard.2 }

/-- The latest accepted ANNOUNCE since the last TEARDOWN has audio that can be played. -/
def playable (run : Playback δ κ) : Bool := run.announced.any AirPlaySdp.playable

/-- A session that records what can be played has its pipeline configured. -/
def Plays (run : Playback δ κ) : Prop :=
  ∀ s, run.process = .ok s → s.recording = true → run.playable = true →
    s.audioPipelineConfigured = true

/-- The event is a RECORD that is accepted, and a PAUSE came after the ANNOUNCE. -/
def Resumes (run : Playback δ κ) (event : KeepingEvent δ κ) : Prop :=
  ∃ s, run.process = .ok s ∧ s.AcceptedRecord event.1 ∧ run.playable = true ∧ run.paused = true

def Attached (run : Playback δ κ) : Prop :=
  ∀ s, run.process = .ok s → s.Attached run.announced run.paused

variable {run : Playback δ κ} {event : KeepingEvent δ κ}

theorem step_ok {s : RtspSession δ κ} (h : run.process = .ok s) : run.step event =
    { process := s.step event.1
      announced := (s.heard event.1 run.announced run.paused).1
      paused := (s.heard event.1 run.announced run.paused).2 } := by
  rw [step, h]

/-- The process goes on as without what is kept beside it. -/
theorem step_process : (run.step event).process = run.process.step event.1 := by
  cases hprocess : run.process with
  | error what =>
    have hend : run.step event = run := by rw [step, hprocess]
    rw [hend, hprocess]
    rfl
  | ok s =>
    rw [step_ok hprocess]
    rfl

theorem attached_start {p : AlacAudioPipeline δ κ} (h : p.equipped = true) :
    (start p).Attached := by
  intro s hs
  obtain rfl := Except.ok.inj hs
  refine ⟨rfl, ?_⟩
  intro q hq
  obtain rfl := Option.some.inj hq
  exact ⟨h, fun hplayable => by cases hplayable⟩

theorem attached_step (haccepts : AcceptsLossless δ κ) (run : Playback δ κ)
    (event : KeepingEvent δ κ) (h : run.Attached) : (run.step event).Attached := by
  intro s' hs'
  rw [step_process, Process.step_eq_ok] at hs'
  obtain ⟨s, hs, hstep⟩ := hs'
  rw [step_ok hs]
  exact (h s hs).step haccepts event.2 hstep

/-- A session that resumes records, and its pipeline is closed. -/
theorem not_plays_of_resumes (hattached : run.Attached) (hresumes : run.Resumes event) :
    ¬ (run.step event).Plays := by
  obtain ⟨s, hs, ⟨r, e, hevent, hverb, hconfigured, hrunning⟩, hplayable, hpaused⟩ := hresumes
  intro hplays
  have hhandle : s.handle e r = (.ok (sessionResponse r), { s with recording := true }) := by
    simp only [RtspSession.handle, hverb, RtspSession.record, hconfigured, hrunning,
      Bool.not_true, Bool.or_false, Bool.false_eq_true, if_false]
  have hstep : s.step event.1 = .ok { s with recording := true } := by
    rw [hevent, RtspSession.step_request]
    exact ⟨_, hhandle⟩
  have hheard : s.heard event.1 run.announced run.paused = (run.announced, run.paused) := by
    simp only [hevent, RtspSession.heard, hverb]
  rw [step_ok hs, hheard] at hplays
  have hopen := hplays _ hstep rfl hplayable
  have hsame : s.audioPipelineConfigured = true := hopen
  rw [(hattached s hs).configured hplayable, hpaused] at hsame
  cases hsame

/-- A session that plays, and does not resume, plays on. -/
theorem plays_of_not_resumes (haccepts : AcceptsLossless δ κ) (hattached : run.Attached)
    (hplays : run.Plays) (hno : ¬ run.Resumes event) : (run.step event).Plays := by
  intro s' hs' hrecording hplayable
  have hafter := attached_step haccepts run event hattached s' hs'
  rw [hafter.configured hplayable, Bool.not_eq_true']
  rw [step_process, Process.step_eq_ok] at hs'
  obtain ⟨s, hs, hstep⟩ := hs'
  rw [step_ok hs] at hplayable ⊢
  have hspec := RtspSession.step_stepSpec hstep
  obtain hsame | hcleared | ⟨r, e, hevent, hverb⟩ :=
    s.heard_cases event.1 run.announced run.paused
  · -- nothing new was heard: the session resumes, or was recording already
    simp only [playable, hsame] at hplayable ⊢
    obtain hrecord | ⟨hwas, -⟩ := hspec.recording hrecording
    · rw [← Bool.not_eq_true]
      intro hpaused
      exact hno ⟨s, hs, hrecord, hplayable, hpaused⟩
    · have hopen := hplays s hs hwas hplayable
      rw [(hattached s hs).configured hplayable, Bool.not_eq_true'] at hopen
      exact hopen
  · exact hcleared
  · -- a paused session does not record
    rw [hevent] at hstep
    rw [RtspSession.step_handle hstep, RtspSession.handle, hverb] at hrecording
    cases hrecording

/-- **When audio survives.** For every pipeline with a decoder and a sink that take each valid
    configuration of 16 bits, and every run of a new session with it: in every state that
    records while the latest accepted ANNOUNCE since the last TEARDOWN has audio that can be
    played, the pipeline is configured, exactly if no RECORD was accepted where a PAUSE came
    after such an ANNOUNCE. -/
theorem run_plays_iff (haccepts : AcceptsLossless δ κ) {p : AlacAudioPipeline δ κ}
    (hequipped : p.equipped = true) (events : List (KeepingEvent δ κ)) :
    Always step Plays (start p) events ↔
      Each step (fun run event => ¬ run.Resumes event) (start p) events := by
  have hfresh : (start p).Plays := by
    intro s hs hrecording
    obtain rfl := Except.ok.inj hs
    cases hrecording
  apply always_iff_each (attached_step haccepts) ?_ (attached_start hequipped) hfresh
  intro run event hattached hplays
  refine ⟨?_, plays_of_not_resumes haccepts hattached hplays⟩
  intro h hresumes
  exact not_plays_of_resumes hattached hresumes h

/-! ## Pausing a song -/

theorem acceptsLossless_null : AcceptsLossless NullAlacDecoder NullAudioSink where
  decoder := by
    intro d c hvalid _
    simp [AlacDecoder.configure, hvalid]
  sink := by
    intro k c _ _
    rfl

omit [AlacDecoder δ] [AudioSink κ] in
theorem request_keeps (r : RtspRequest) (e : Sockets)
    (pipeline : Option (AlacAudioPipeline δ κ)) :
    SessionEvent.request r e ≠ .setAlacAudioPipeline pipeline := by
  intro h
  cases h

/-- A request, with sockets for all who ask for one. -/
def asked (method : String) (body : Bytes) : KeepingEvent NullAlacDecoder NullAudioSink :=
  ⟨.request { method := ascii method, body := body }
    { media := .bound (some 6000), control := .bound (some 6001), timing := .bound (some 6002)
      event := .listening (some 7001) }, request_keeps _ _⟩

/-- A song is announced, set up and played. -/
def songRun : List (KeepingEvent NullAlacDecoder NullAudioSink) :=
  [asked "ANNOUNCE" (mirroringText [losslessAudio]), asked "SETUP" [], asked "RECORD" []]

theorem songRun_plays_iff :
    Always step Plays (start nullPipeline) songRun ↔
      Each step (fun run event => ¬ run.Resumes event) (start nullPipeline) songRun :=
  run_plays_iff acceptsLossless_null rfl songRun

/-- The song is paused, and goes on without a pipeline. -/
theorem resumedRun_silent :
    ¬ Always step Plays (start nullPipeline) (songRun ++ [asked "PAUSE" [], asked "RECORD" []]) := by
  intro h
  have hlast := h _ (List.prefix_refl _)
  have hend : ∃ s,
      (run step (start nullPipeline) (songRun ++ [asked "PAUSE" [], asked "RECORD" []])).process =
          .ok s ∧ s.recording = true ∧ s.audioPipelineConfigured = false ∧
        (run step (start nullPipeline)
          (songRun ++ [asked "PAUSE" [], asked "RECORD" []])).playable = true := by
    refine ⟨_, rfl, ?_⟩
    decide +kernel
  obtain ⟨s, hs, hrecording, hclosed, hplayable⟩ := hend
  rw [hlast s hs hrecording hplayable] at hclosed
  cases hclosed

end Playback
end AirPlay2
