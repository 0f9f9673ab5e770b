import AirPlay2.Rtsp.Pipeline

/- How media flows through a session, over every interleaving of requests and
   datagrams. A packet reaches the jitter buffer, the pipeline and the application only
   in a datagram step of a recording session (`arriving`), and FLUSH and TEARDOWN empty
   the buffer. So the session is run beside the buffer's own record (`MediaRun`), begun
   anew at each of the two: what was delivered since is matched, packet by packet, by
   what was accepted since (`run_media_flow`). -/
namespace AirPlay2
open Lib RtpJitterBuffer
open scoped List

/-- The event is a FLUSH or a TEARDOWN. -/
def SessionEvent.resetsBuffer {δ κ : Type*} : SessionEvent δ κ → Bool
  | .request r _ => r.verb == .flush || r.verb == .teardown
  | _ => false

/-- `p'` is `p` after these pushes, in this order, and any resets and configs. -/
inductive AlacAudioPipeline.Pushed {δ κ : Type*} [AlacDecoder δ] [AudioSink κ]
    (p : AlacAudioPipeline δ κ) : List RtpPacket → AlacAudioPipeline δ κ → Prop where
  | start : Pushed p [] p
  | reset {packets p'} : Pushed p packets p' → Pushed p packets p'.reset
  | configure {packets p'} (c : AlacConfig) : Pushed p packets p' → Pushed p packets (p'.configure c).2
  | push {packets p'} (packet : RtpPacket) :
    Pushed p packets p' → Pushed p (packets ++ [packet]) (p'.push packet).2

namespace RtspSession

variable {δ κ : Type*} [AlacDecoder δ] [AudioSink κ]

/-- The packet of the event that reaches the jitter buffer. -/
def arriving (s : RtspSession δ κ) : SessionEvent δ κ → Option RtpPacket
  | .datagram bytes => if s.media.live && s.recording then receive bytes else none
  | _ => none

/-- What the event takes out of the buffer, to be delivered. -/
def handed (s : RtspSession δ κ) (event : SessionEvent δ κ) : List RtpPacket :=
  match s.arriving event with
  | none => []
  | some p => (s.jitterBuffer.handOver p).2.1

/-- What the event gives to the pipeline. -/
def toPipeline (s : RtspSession δ κ) (event : SessionEvent δ κ) : List RtpPacket :=
  if s.alacAudioPipeline.isSome then s.handed event else []

/-- What the event gives to the packet handler of the application. -/
def toHandler (s : RtspSession δ κ) : SessionEvent δ κ → List RtpPacket
  | .datagram bytes =>
    if s.media.live then
      match receive bytes with
      | none => []
      | some p => (s.handleMediaPacket p).1
    else []
  | _ => []

/-! ## Deliveries -/

/-- What a datagram does: nothing, or its packet goes to the jitter buffer, and what comes
    out to the pipeline and the application. -/
theorem deliver_cases (s : RtspSession δ κ) (bytes : Bytes) :
    (s.arriving (.datagram bytes) = none ∧ s.deliver bytes = s ∧
        s.toHandler (.datagram bytes) = []) ∨
      ∃ p, s.arriving (.datagram bytes) = some p ∧
        (s.deliver bytes).jitterBuffer = (s.jitterBuffer.handOver p).2.2 ∧
        (s.deliver bytes).alacAudioPipeline = s.alacAudioPipeline.map
          ((s.jitterBuffer.handOver p).2.1.foldl fun pipeline q => (pipeline.push q).2) ∧
        s.toHandler (.datagram bytes) =
          if s.mediaPacketHandler then (s.jitterBuffer.handOver p).2.1 else [] := by
  unfold deliver toHandler arriving
  dsimp only
  cases s.media.live with
  | false => exact Or.inl ⟨rfl, rfl, rfl⟩
  | true =>
    cases receive bytes with
    | none => exact Or.inl ⟨ite_self _, rfl, rfl⟩
    | some p =>
      unfold handleMediaPacket
      cases s.recording with
      | false => exact Or.inl ⟨rfl, rfl, rfl⟩
      | true =>
        refine Or.inr ⟨p, rfl, ?_⟩
        have hrefused := s.jitterBuffer.handOver_refused (p := p)
        simp only [Bool.not_true, Bool.false_eq_true, if_false, if_true]
        generalize s.jitterBuffer.handOver p = out at hrefused ⊢
        obtain ⟨accepted, ordered, buffer⟩ := out
        cases accepted with
        | false =>
          -- a refused packet takes nothing out, so there is nothing to push
          obtain rfl : ordered = [] := hrefused rfl
          refine ⟨rfl, ?_, ?_⟩
          · exact (Option.map_id' (x := s.alacAudioPipeline)).symm
          · exact (ite_self _).symm
        | true => exact ⟨rfl, rfl, rfl⟩

omit [AlacDecoder δ] [AudioSink κ] in
/-- A step that delivers is a step of a recording session. -/
theorem recording_of_handed {s : RtspSession δ κ} (event : SessionEvent δ κ)
    (h : s.handed event ≠ []) : s.recording = true := by
  unfold handed arriving at h
  cases event with
  | datagram bytes =>
    by_contra hno
    simp [hno] at h
  | request r e => exact absurd rfl h
  | setMediaPacketHandler installed => exact absurd rfl h
  | setAlacAudioPipeline pipeline => exact absurd rfl h

/-- The application gets what the step delivers, or nothing. -/
theorem toHandler_eq (s : RtspSession δ κ) (event : SessionEvent δ κ) :
    s.toHandler event = [] ∨ s.toHandler event = s.handed event := by
  cases event with
  | datagram bytes =>
    obtain ⟨-, -, hnone⟩ | ⟨p, harrives, -, -, hhandler⟩ := s.deliver_cases bytes
    · exact Or.inl hnone
    · have hhanded : s.handed (.datagram bytes) = (s.jitterBuffer.handOver p).2.1 := by
        rw [handed, harrives]
      rw [hhandler, hhanded]
      cases s.mediaPacketHandler with
      | false => exact Or.inl rfl
      | true => exact Or.inr rfl
  | request r e => exact Or.inl rfl
  | setMediaPacketHandler installed => exact Or.inl rfl
  | setAlacAudioPipeline pipeline => exact Or.inl rfl

omit [AlacDecoder δ] [AudioSink κ] in
theorem toPipeline_nil {s : RtspSession δ κ} {event : SessionEvent δ κ}
    (h : s.arriving event = none) : s.toPipeline event = [] := by
  unfold toPipeline handed
  rw [h]
  exact ite_self _

theorem pushed_foldl {p : AlacAudioPipeline δ κ}
    (ordered : List RtpPacket) : ∀ {packets q}, p.Pushed packets q →
      p.Pushed (packets ++ ordered)
        (ordered.foldl (fun pipeline packet => (pipeline.push packet).2) q) := by
  induction ordered with
  | nil =>
    intro packets q hq
    rwa [List.append_nil]
  | cons packet rest ih =>
    intro packets q hq
    rw [List.append_cons]
    exact ih (.push packet hq)

/-- Pushes come from steps that deliver, and are of what the step delivers. -/
theorem step_pushed {s s' : RtspSession δ κ} {event : SessionEvent δ κ}
    (hstep : s.step event = .ok s') (hevent : ∀ pipeline, event ≠ .setAlacAudioPipeline pipeline)
    {p p' : AlacAudioPipeline δ κ} (hp : s.alacAudioPipeline = some p)
    (hp' : s'.alacAudioPipeline = some p') : p.Pushed (s.toPipeline event) p' := by
  have hstart : PipelineHolds (p.Pushed []) s := by
    intro q hq
    obtain rfl := Option.some.inj (hp.symm.trans hq)
    exact .start
  cases event with
  | request r e =>
    have hholds := handle_holds (fun q hq => .reset hq) (fun q c hq => .configure c hq) hstart e r
    rw [← step_handle hstep] at hholds
    rw [toPipeline_nil rfl]
    exact hholds p' hp'
  | datagram bytes =>
    obtain rfl := Except.ok.inj hstep
    obtain ⟨harrives, hsame, -⟩ | ⟨packet, harrives, -, hpipeline, -⟩ := s.deliver_cases bytes
    · rw [hsame] at hp'
      rw [toPipeline_nil harrives]
      exact hstart p' hp'
    · have hgiven : s.toPipeline (.datagram bytes) = (s.jitterBuffer.handOver packet).2.1 := by
        simp [toPipeline, handed, hp, harrives]
      rw [hpipeline, hp, Option.map_some] at hp'
      rw [hgiven, ← Option.some.inj hp']
      exact pushed_foldl _ .start
  | setMediaPacketHandler installed =>
    obtain rfl := Except.ok.inj hstep
    rw [toPipeline_nil rfl]
    exact hstart p' hp'
  | setAlacAudioPipeline pipeline => exact absurd rfl (hevent pipeline)

/-! ## Recording -/

/-- A recording session is configured and has its media receiver. -/
def RecordsValidly (s : RtspSession δ κ) : Prop :=
  s.recording = true → s.configured = true ∧ s.media.running = true

omit [AlacDecoder δ] [AudioSink κ] in
theorem setup_configured {s : RtspSession δ κ} (h : s.configured = true) (e : Sockets)
    (r : RtspRequest) : (s.setup e r).2.configured = true := by
  unfold setup
  split
  · exact (setupInfo_state s e r).2.1
  · split
    · exact h
    · split
      · exact h
      · obtain ⟨control, timing, t, ht⟩ := setupTransport_eq s e r
        rw [ht]
        exact h

/-- Only a TEARDOWN makes a session unconfigured. -/
theorem step_configured {s s' : RtspSession δ κ} {event : SessionEvent δ κ}
    (hstep : s.step event = .ok s') (hdown : ¬ TearsDown event) (h : s.configured = true) :
    s'.configured = true := by
  obtain ⟨r, e, rfl, rfl⟩ | ⟨-, buffer, packets, count, handler, pipeline, rfl⟩ := step_cases hstep
  · unfold handle
    cases hv : r.verb with
    | teardown => exact absurd ⟨r, e, rfl, hv⟩ hdown
    | announce =>
      obtain ⟨sdp, configured, crypto, pipeline, ha, hconf⟩ := announce_eq s r
      simp only [ha]
      exact hconf h
    | setup => exact setup_configured h e r
    | record =>
      simp only [record]
      split <;> exact h
    | pause | flush | options | getParameter | setParameter | unknown => exact h
  · exact h

theorem RecordsValidly.step {s s' : RtspSession δ κ} {event : SessionEvent δ κ}
    (h : RecordsValidly s) (hstep : s.step event = .ok s') : RecordsValidly s' := by
  intro hrec
  have hspec := step_stepSpec hstep
  obtain hacc | ⟨hrec, hdown⟩ := hspec.recording hrec
  · -- a RECORD checks for both
    have hdown : ¬ TearsDown event := by
      intro hdown
      obtain ⟨r, e, rfl, hv, -⟩ := hacc
      obtain ⟨r', e', hevent, hv'⟩ := hdown
      obtain ⟨rfl, rfl⟩ := SessionEvent.request.inj hevent
      rw [hv'] at hv
      cases hv
    rw [(hspec.accepted hacc).2]
    obtain ⟨r, e, rfl, -, hconf, hrun⟩ := hacc
    exact ⟨step_configured hstep hdown hconf, hrun⟩
  · obtain ⟨hconf, hrun⟩ := h hrec
    exact ⟨step_configured hstep hdown hconf,
      (((step_portStep hstep).1 hdown).media.held hrun).1⟩

/-! ## The jitter buffer -/

/-- What a request does to the jitter buffer and to the counters: a FLUSH empties the one, a TEARDOWN
    all of them. -/
theorem handle_playback (s : RtspSession δ κ) (e : Sockets) (r : RtspRequest) :
    (s.handle e r).2.jitterBuffer =
        (if (r.verb == .flush || r.verb == .teardown) then s.jitterBuffer.reset
          else s.jitterBuffer) ∧
      (s.handle e r).2.receivedPackets =
        (if (r.verb == .teardown) then 0 else s.receivedPackets) ∧
      (s.handle e r).2.receivedBytes = if (r.verb == .teardown) then 0 else s.receivedBytes := by
  unfold handle
  cases r.verb with
  | flush => exact ⟨rfl, rfl, rfl⟩
  | teardown => exact ⟨rfl, rfl, rfl⟩
  | announce =>
    obtain ⟨sdp, configured, crypto, pipeline, h, -⟩ := announce_eq s r
    simp only [h]
    exact ⟨rfl, rfl, rfl⟩
  | setup => exact (setup_playback s e r).2
  | record =>
    simp only [record]
    split <;> exact ⟨rfl, rfl, rfl⟩
  | pause => exact ⟨rfl, rfl, rfl⟩
  | options => exact ⟨rfl, rfl, rfl⟩
  | getParameter => exact ⟨rfl, rfl, rfl⟩
  | setParameter => exact ⟨rfl, rfl, rfl⟩
  | unknown => exact ⟨rfl, rfl, rfl⟩

/-- What a step does to the jitter buffer: reset it, push what arrives and pop what is
    due, or nothing. -/
theorem step_jitterBuffer {s s' : RtspSession δ κ} {event : SessionEvent δ κ}
    (hstep : s.step event = .ok s') :
    s'.jitterBuffer =
      if event.resetsBuffer then s.jitterBuffer.reset
      else
        match s.arriving event with
        | none => s.jitterBuffer
        | some p => (s.jitterBuffer.handOver p).2.2 := by
  cases event with
  | request r e =>
    rw [step_handle hstep]
    exact (handle_playback s e r).1
  | datagram bytes =>
    obtain rfl := Except.ok.inj hstep
    simp only [SessionEvent.resetsBuffer, Bool.false_eq_true, if_false]
    obtain ⟨harrives, hsame, -⟩ | ⟨p, harrives, hbuffer, -, -⟩ := s.deliver_cases bytes
    · rw [harrives, hsame]
    · rw [harrives, hbuffer]
  | setMediaPacketHandler installed =>
    obtain rfl := Except.ok.inj hstep
    rfl
  | setAlacAudioPipeline pipeline =>
    obtain rfl := Except.ok.inj hstep
    obtain ⟨attached, h⟩ := setAlacAudioPipeline_eq s pipeline
    rw [h]
    rfl

end RtspSession

/-- A session in a run, and the record of its jitter buffer since the last FLUSH or
    TEARDOWN: the packets accepted, delivered and evicted since then. -/
structure Flow (δ κ : Type*) where
  process : Process δ κ
  log : MediaRun

namespace Flow

variable {δ κ : Type*} [AlacDecoder δ] [AudioSink κ]

def start : Flow δ κ := { process := Process.start, log := { buffer := .new 128 } }

def step (f : Flow δ κ) (event : SessionEvent δ κ) : Flow δ κ :=
  match f.process with
  | .error _ => f
  | .ok s =>
    { process := s.step event
      log :=
        if event.resetsBuffer then { buffer := f.log.buffer.reset }
        else
          match s.arriving event with
          | none => f.log
          | some p => f.log.arrive p }

/-- The record is of the session's own buffer, and accounts for every packet. -/
structure Tracks (f : Flow δ κ) : Prop where
  buffer : ∀ s, f.process = .ok s → f.log.buffer = s.jitterBuffer
  conserves : f.log.Conserves
  records : ∀ s, f.process = .ok s → s.RecordsValidly

theorem Tracks.step {f : Flow δ κ} (h : Tracks f) (event : SessionEvent δ κ) :
    Tracks (f.step event) := by
  unfold Flow.step
  split
  · exact h
  · rename_i s hs
    have hbuffer := h.buffer s hs
    refine ⟨?_, ?_, ?_⟩
    · intro s' hs'
      rw [RtspSession.step_jitterBuffer hs', ← hbuffer]
      cases event.resetsBuffer with
      | true => rfl
      | false =>
        simp only [Bool.false_eq_true, if_false]
        cases s.arriving event <;> rfl
    · dsimp only
      split
      · exact MediaRun.conserves_reset _
      · split
        · exact h.conserves
        · exact h.conserves.arrive _
    · intro s' hs'
      exact (h.records s hs).step hs'

theorem tracks_run (events : List (SessionEvent δ κ)) : Tracks (run step start events) := by
  apply run_induction
  · intro f event h
    exact h.step event
  · refine ⟨?_, MediaRun.conserves_reset (.new 128), ?_⟩
    · intro s hs
      obtain rfl := Except.ok.inj hs
      rfl
    · intro s hs hrec
      obtain rfl := Except.ok.inj hs
      cases hrec

/-- The record does not disturb the session. -/
theorem step_process (f : Flow δ κ) (event : SessionEvent δ κ) :
    (f.step event).process = f.process.step event := by
  unfold Flow.step
  split
  · rename_i what hs
    rw [hs]
    rfl
  · rename_i s hs
    rw [hs]
    rfl

theorem run_process (events : List (SessionEvent δ κ)) :
    (run step start events).process = run Process.step Process.start events :=
  run_hom Flow.process step_process start events

/-- What is right about the media of a session `s`, given the record of what it accepted
    and delivered since the last FLUSH or TEARDOWN. -/
structure Valid (f : Flow δ κ) (s : RtspSession δ κ) : Prop where
  /-- recording only configured and with a media receiver -/
  recording : s.recording = true → s.configured = true ∧ s.media.running = true
  /-- what was delivered is matched one by one by what was accepted -/
  matched : f.log.delivered <+~ f.log.accepted
  /-- the next step delivers only if the session records -/
  delivers : ∀ event, s.toPipeline event ≠ [] ∨ s.toHandler event ≠ [] → s.recording = true
  /-- what it delivers is added to the record -/
  recorded : ∀ event, event.resetsBuffer = false →
    (f.step event).log.delivered = f.log.delivered ++ s.handed event
  /-- a FLUSH or TEARDOWN delivers nothing and begins a new record -/
  reset : ∀ event, event.resetsBuffer = true →
    s.handed event = [] ∧ (f.step event).log.delivered = [] ∧ (f.step event).log.accepted = []
  /-- the pipeline and the application get what is delivered, each all of it or nothing -/
  consumers : ∀ event, (s.toPipeline event = [] ∨ s.toPipeline event = s.handed event) ∧
    (s.toHandler event = [] ∨ s.toHandler event = s.handed event)
  /-- what the application gets an attached pipeline got, in the same order -/
  inOrder : ∀ event, s.alacAudioPipeline.isSome = true →
    s.toHandler event = [] ∨ s.toHandler event = s.toPipeline event
  /-- the pipeline is pushed nothing else -/
  pushed : ∀ event s' p p', s.step event = .ok s' →
    (∀ pipeline, event ≠ .setAlacAudioPipeline pipeline) → s.alacAudioPipeline = some p →
      s'.alacAudioPipeline = some p' → p.Pushed (s.toPipeline event) p'

/-- **Media flows only inside a valid recording.** In every run of a session, requests
    and datagrams interleaved in any way and whatever the socket calls return: a
    recording session is configured and has its media receiver; packets are delivered
    only in steps of a recording session, and those delivered since the last FLUSH or
    TEARDOWN are matched one by one by packets accepted since then; what the
    application gets, the pipeline got in the same order. -/
theorem run_media_flow (events : List (SessionEvent δ κ)) {s : RtspSession δ κ}
    (hs : run Process.step Process.start events = .ok s) :
    (run step start events).process = .ok s ∧ Valid (run step start events) s := by
  have hprocess := run_process events
  rw [hs] at hprocess
  refine ⟨hprocess, ?_⟩
  obtain ⟨hbuffer, hconserves, hrecords⟩ := tracks_run events
  generalize run step start events = f at hprocess hbuffer hconserves hrecords
  have hpipeline : ∀ event, s.toPipeline event = [] ∨ s.toPipeline event = s.handed event := by
    intro event
    unfold RtspSession.toPipeline
    split
    · exact Or.inr rfl
    · exact Or.inl rfl
  refine ⟨hrecords s hprocess, ?_, ?_, ?_, ?_, ?_, ?_, ?_⟩
  · have hsub : f.log.delivered <+
        f.log.delivered ++ f.log.buffer.packets.values ++ f.log.evicted := by
      rw [List.append_assoc]
      exact List.sublist_append_left _ _
    exact hsub.subperm.trans hconserves.places.symm.subperm
  · intro event hdelivers
    apply RtspSession.recording_of_handed event
    intro hnil
    obtain hne | hne := hdelivers
    · obtain h | h := hpipeline event
      · exact hne h
      · exact hne (h.trans hnil)
    · obtain h | h := s.toHandler_eq event
      · exact hne h
      · exact hne (h.trans hnil)
  · intro event hno
    simp only [Flow.step, hprocess, hno, Bool.false_eq_true, if_false, RtspSession.handed]
    cases s.arriving event with
    | none => simp
    | some p =>
      rw [← hbuffer s hprocess]
      rfl
  · intro event hyes
    refine ⟨?_, ?_⟩
    · cases event with
      | request r e => rfl
      | datagram bytes => cases hyes
      | setMediaPacketHandler installed => cases hyes
      | setAlacAudioPipeline pipeline => cases hyes
    · simp [Flow.step, hprocess, hyes]
  · intro event
    exact ⟨hpipeline event, s.toHandler_eq event⟩
  · intro event hattached
    have hall : s.toPipeline event = s.handed event := by simp [RtspSession.toPipeline, hattached]
    rw [hall]
    exact s.toHandler_eq event
  · intro event s' p p' hstep hevent hp hp'
    exact RtspSession.step_pushed hstep hevent hp hp'

/-- A recording session that two packets reach, the second before its turn. -/
def recordedRun : List (SessionEvent NullAlacDecoder NullAudioSink) :=
  let e : Sockets :=
    { media := .bound (some 6000), control := .bound (some 6001), timing := .bound (some 6002)
      event := .listening (some 7001) }
  [.request { method := ascii "SETUP", body := ascii "bplist00" } e,
    .request { method := ascii "SETUP" } e, .request { method := ascii "RECORD" } e,
    .datagram [0x80, 96, 0, 1, 0, 0, 0, 0, 0, 0, 0, 0, 7],
    .datagram [0x80, 96, 0, 3, 0, 0, 0, 0, 0, 0, 0, 0, 9]]

/-- The first was delivered, and its record is that of a valid flow. -/
theorem recordedRun_valid : ∃ s, run Process.step Process.start recordedRun = .ok s ∧
    (run step start recordedRun).log.delivered =
      [{ payloadType := 96, sequence := 1, payload := [7] }] ∧
    Valid (run step start recordedRun) s :=
  ⟨_, rfl, by decide +kernel, (run_media_flow recordedRun rfl).2⟩

end Flow
end AirPlay2
