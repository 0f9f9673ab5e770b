import AirPlay2.Jitter.Stream
import AirPlay2.Media.AppleOutput
import AirPlay2.Rtsp.Announce
import AirPlay2.Rtsp.Handshake
import AirPlay2.Rtsp.RtpCodec

/- From datagrams to samples: a session whose pipeline plays to an Apple sink, with the render
   callback of the audio unit running beside it. In every interleaving of requests, datagrams,
   calls of the embedding program and renders, what was rendered since the sink was opened, then
   what it holds, is what it was written and took (`run_inOrder`). A stream that keeps within the
   window of the jitter buffer is moreover decoded and written in the order in which it was sent,
   each packet once, however its datagrams arrive (`stream_played`): the receiver undoes the
   encoding of every packet, the buffer simulates the reorder machine of `Lib.Reorder`, the open
   pipeline decodes what the buffer hands over, and the ring is a queue. -/
namespace AirPlay2
open Lib RtpJitterBuffer

variable {δ : Type*} [AlacDecoder δ]

/-! ## Every run -/

/-- What can happen to a session that plays to an Apple sink. -/
inductive PlayEvent (δ : Type*) where
  | session (event : SessionEvent δ AppleOutput)
  | render (frames : UInt32) (data : Bytes)

/-- The render callback of the sink of the session's pipeline. -/
def RtspSession.render (s : RtspSession δ AppleOutput) (frames : UInt32) (data : Bytes) :
    RtspSession δ AppleOutput :=
  { s with alacAudioPipeline := s.alacAudioPipeline.map (·.render frames data) }

namespace Process

def playStep (p : Process δ AppleOutput) : PlayEvent δ → Process δ AppleOutput
  | .session event => p.step event
  | .render frames data => p.map (·.render frames data)

/-- The buffer to render into is large enough for the format that is open. -/
def RenderFits (p : Process δ AppleOutput) (event : PlayEvent δ) : Prop :=
  ∀ frames data, event = .render frames data → ∀ s, p = .ok s → ∀ q, s.alacAudioPipeline = some q →
    q.pipeline.opened = true → frames.toNat * q.pipeline.format.channels.toNat * 2 ≤ data.length

theorem playStep_inOrder {p : Process δ AppleOutput} {event : PlayEvent δ}
    (h : PipelineHolds AlacAudioPipeline.InOrder p)
    (hattach : ∀ q, event = .session (.setAlacAudioPipeline (some q)) → q.InOrder)
    (hfits : RenderFits p event) : PipelineHolds AlacAudioPipeline.InOrder (p.playStep event) := by
  intro s' hs'
  cases event with
  | session event =>
    obtain ⟨s, hs, hstep⟩ := step_eq_ok.mp hs'
    refine RtspSession.step_pipelineHolds (fun q hq => hq.reset) (fun q c hq => hq.configure c)
      (fun q packet hq => hq.push packet) (h s hs) ?_ hstep
    intro q hevent
    exact hattach q (congrArg PlayEvent.session hevent)
  | render frames data =>
    cases p with
    | error what => cases hs'
    | ok s =>
      obtain rfl := Except.ok.inj hs'
      intro q' hq'
      obtain ⟨q, hq, rfl⟩ := Option.map_eq_some_iff.mp hq'
      exact (h s rfl q hq).render (hfits frames data rfl s rfl q hq)

/-- **What is heard is what was written.** In every run of requests, datagrams, calls of the
    program and renders, the pipelines attached each with its sink closed: the sink of the
    attached pipeline is open exactly if the pipeline is configured, and then what was rendered
    since it was opened, then what it holds, are the samples of the writes it took, in order. -/
theorem run_inOrder {events : List (PlayEvent δ)}
    (hattach : ∀ q, .session (.setAlacAudioPipeline (some q)) ∈ events →
      q.configured = false ∧ ∀ k, q.pipeline.sink = some k → k.sink.opened = false)
    (hfits : Each playStep RenderFits start events) {s : RtspSession δ AppleOutput}
    (hs : run playStep start events = .ok s) {q : AlacAudioPipeline δ AppleOutput}
    (hq : s.alacAudioPipeline = some q) {k : AppleOutput} (hk : q.pipeline.sink = some k) :
    k.sink.opened = q.configured ∧
      (q.configured = true → k.rendered ++ k.sink.contents = k.accepted) := by
  have hall : ∀ pre, pre <+: events →
      PipelineHolds AlacAudioPipeline.InOrder (run playStep (start : Process δ AppleOutput) pre) := by
    intro pre
    induction pre using List.reverseRecOn with
    | nil =>
      intro _ s hs q hq
      obtain rfl := Except.ok.inj hs
      cases hq
    | append_singleton pre event ih =>
      intro hp
      rw [run_snoc]
      -- a pipeline that is attached comes with its sink closed
      refine playStep_inOrder (ih (prefix_of_snoc hp)) ?_ (hfits pre event hp)
      intro q hevent
      obtain ⟨hclosed, hsink⟩ := hattach q (hp.subset (by rw [← hevent]; simp))
      exact AlacAudioPipeline.inOrder_of_closed hclosed hsink
  have hinOrder := hall events (List.prefix_refl _) s hs q hq
  cases hopened : q.configured with
  | true =>
    have hsound := hinOrder.opened k hk hopened
    exact ⟨hsound.ready.opened, fun _ => hsound.fifo⟩
  | false => exact ⟨hinOrder.closed k hk hopened, fun h => Bool.noConfusion h⟩

end Process

/-! ## One sample a second -/

/-- A decoder that takes every byte of a packet for a sample. -/
structure ByteDecoder where
  config : AlacConfig := {}
  deriving DecidableEq

instance : AlacDecoder ByteDecoder where
  configure _ config := (true, { config := config })
  decode d packet :=
    (some
      { sampleRate := d.config.sampleRate
        channels := d.config.numChannels.toUInt16
        bitsPerSample := d.config.bitDepth
        frames := UInt32.ofNat packet.length
        samples := packet.map fun b => Int16.ofNat b.toNat }, d)
  reset d := d

/-- Its sink can be opened once. -/
def slowPipeline : AlacAudioPipeline ByteDecoder AppleOutput :=
  ⟨{ decoder := some {}, sink := some { toolbox := [⟨true, true, true, true⟩] } }⟩

namespace Process

/-- Two datagrams of one sample each, after an ANNOUNCE, a SETUP and a RECORD, and a render. -/
def slowRun : List (PlayEvent ByteDecoder) :=
  [.session (.setAlacAudioPipeline (some slowPipeline)),
    .session (.request
      { method := ascii "ANNOUNCE"
        body := mirroringText [{
          line := ascii "audio 0 RTP/AVP 96"
          attributes := [ascii "fmtp:sampleRate=1;channels=1;bitDepth=16;frameLength=1"] }] }
      allBound),
    .session (.request { method := ascii "SETUP" } allBound),
    .session (.request { method := ascii "RECORD" } allBound),
    .session (.datagram [0x80, 0, 0, 7, 0, 0, 0, 0, 0, 0, 0, 0, 1]),
    .session (.datagram [0x80, 0, 0, 8, 0, 0, 0, 0, 0, 0, 0, 0, 2]),
    .render 1 [0, 0]]

/-- The channels of the pipeline of a session, what was rendered from its sink, and what this
    holds. -/
def soundOf (p : Process ByteDecoder AppleOutput) : Option (UInt16 × List Int16 × List Int16) :=
  match p with
  | .ok s => s.alacAudioPipeline.bind fun q => q.pipeline.sink.map fun k =>
      (q.pipeline.format.channels, k.rendered, k.sink.contents)
  | .error _ => none

theorem exists_of_soundOf {p : Process ByteDecoder AppleOutput} {channels : UInt16}
    {heard held : List Int16} (h : soundOf p = some (channels, heard, held)) :
    ∃ s q k, p = .ok s ∧ s.alacAudioPipeline = some q ∧ q.pipeline.sink = some k ∧
      q.pipeline.format.channels = channels ∧ k.rendered = heard ∧ k.sink.contents = held := by
  cases p with
  | error what => cases h
  | ok s =>
    obtain ⟨q, hq, hsink⟩ := Option.bind_eq_some_iff.mp h
    obtain ⟨k, hk, hall⟩ := Option.map_eq_some_iff.mp hsink
    simp only [Prod.mk.injEq] at hall
    exact ⟨s, q, k, rfl, hq, hk, hall⟩

/-- The session that is about to render plays in mono. -/
theorem slowRun_mono : RenderFits (run playStep start slowRun.dropLast) (.render 1 [0, 0]) := by
  have hsound : soundOf (run playStep start slowRun.dropLast) = some (1, [], [1, 2]) := by
    decide +kernel
  obtain ⟨s, q, k, hs, hq, -, hmono, -⟩ := exists_of_soundOf hsound
  intro frames data hevent s' hs' q' hq' _
  obtain ⟨rfl, rfl⟩ := PlayEvent.render.inj hevent
  obtain rfl := Except.ok.inj (hs.symm.trans hs')
  obtain rfl := Option.some.inj (hq.symm.trans hq')
  rw [hmono]
  decide

theorem run_inOrder_slow : ∃ s q k, run playStep start slowRun = .ok s ∧
    s.alacAudioPipeline = some q ∧ q.pipeline.sink = some k ∧ k.rendered = [1] ∧
    k.sink.contents = [2] ∧ k.sink.opened = q.configured ∧
    (q.configured = true → k.rendered ++ k.sink.contents = k.accepted) := by
  have hsound : soundOf (run playStep start slowRun) = some (1, [1], [2]) := by
    decide +kernel
  obtain ⟨s, q, k, hs, hq, hk, -, hheard, hheld⟩ := exists_of_soundOf hsound
  refine ⟨s, q, k, hs, hq, hk, hheard, hheld, run_inOrder ?_ ?_ hs hq hk⟩
  · intro q hq
    simp only [slowRun, List.mem_cons, PlayEvent.session.injEq,
      SessionEvent.setAlacAudioPipeline.injEq, Option.some.injEq, reduceCtorEq, List.not_mem_nil,
      or_false] at hq
    obtain rfl := hq
    refine ⟨rfl, ?_⟩
    intro k hk
    obtain rfl := Option.some.inj hk
    rfl
  · have hsession : ∀ (p : Process ByteDecoder AppleOutput) event, RenderFits p (.session event) := by
      intro p event frames data hevent
      cases hevent
    simp only [slowRun, each_cons, each_nil, hsession, true_and, and_true]
    exact slowRun_mono

end Process

/-! ## A stream through the buffer -/

namespace StreamRun

/-- A packet as `handle_media_packet` treats it: it is pushed and, if it was accepted, what is
    due is popped. -/
def handOver (st : StreamRun) (i : ℕ) (p : RtpPacket) : StreamRun :=
  let next := st.step (.arrive i p)
  if (st.buffer.push p).1 then
    { next with
      buffer := next.buffer.popAll.2
      popped := next.popped ++ next.buffer.popAll.1 }
  else next

/-- The record does not disturb the buffer. -/
theorem handOver_spec (st : StreamRun) (i : ℕ) (p : RtpPacket) :
    (st.handOver i p).buffer = (st.buffer.handOver p).2.2 ∧
      (st.handOver i p).popped = st.popped ++ (st.buffer.handOver p).2.1 ∧
      (st.handOver i p).pushed = st.pushed ++ [i] := by
  unfold handOver RtpJitterBuffer.handOver step
  dsimp only
  generalize st.buffer.push p = pushed
  obtain ⟨ok, buffer⟩ := pushed
  cases ok with
  | true => simp only [if_true, and_self]
  | false => simp only [Bool.false_eq_true, if_false, List.append_nil, and_self]

variable {s : UInt16} {n : ℕ} {st : StreamRun} {r : Reorder RtpPacket}

/-- Popping stops where the next packet has not arrived. -/
theorem Simulates.popAll (h : Simulates s n st r) :
    ∃ r', r'.log = r.log ∧ r'.log.lookup r'.out.length = none ∧
      Simulates s n
        { st with
          buffer := st.buffer.popAll.2
          popped := st.popped ++ st.buffer.popAll.1 } r' := by
  obtain ⟨r', hlog, h'⟩ := h.popAllFuel st.buffer.packets.size
  refine ⟨r', hlog, ?_, h'⟩
  obtain ⟨-, hnext⟩ | ⟨p, -, hp, -, -⟩ := h'.take
  · exact hnext
  · have hstop := popAll_pop st.buffer
    rw [show st.buffer.popAll.2.pop = (some p, _) from hp] at hstop
    cases hstop

/-- A packet handed over keeps the relation, and leaves nothing that is due. -/
theorem Simulates.handOver (h : Simulates s n st r) (hcurrent : r.log.lookup r.out.length = none)
    {i : ℕ} {p : RtpPacket} (ha : Admissible s n st i p) :
    ∃ r', Simulates s n (st.handOver i p) r' ∧ r'.log.lookup r'.out.length = none ∧
      ∀ e ∈ r'.log, e ∈ r.log ∨ e = (i, p) := by
  unfold StreamRun.handOver
  by_cases hi : i ∈ r.indices
  · -- a copy of a packet that was there before is refused
    have hrefused : (st.buffer.push p).1 = false := by
      rw [push_eq, if_pos ((h.refuses_iff ha).mpr hi)]
    rw [hrefused, if_neg (by decide)]
    exact ⟨r, h.arrive_again ha hi, hcurrent, fun e he => Or.inl he⟩
  · have haccepted : (st.buffer.push p).1 = true := by
      rw [push_eq, if_neg (mt (h.refuses_iff ha).mp hi)]
    rw [haccepted, if_pos rfl]
    obtain ⟨r', hlog, hnext, h'⟩ := (h.arrive_first ha hi).popAll
    refine ⟨r', h', hnext, ?_⟩
    intro e he
    rw [hlog] at he
    obtain he | he := List.mem_append.mp he
    · exact Or.inl he
    · exact Or.inr (List.mem_singleton.mp he)

end StreamRun

/-! ## A stream that is played -/

/-- What arrives at a session that plays a stream: a datagram with a copy of packet `i`, one
    that is no RTP packet, or a call of the render callback. -/
inductive StreamEvent where
  | arrive (i : ℕ) (datagram : Bytes)
  | noise (datagram : Bytes)
  | render (frames : UInt32) (data : Bytes)

/-- A session, with the record of its jitter buffer. -/
structure Playout (δ : Type*) where
  session : RtspSession δ AppleOutput
  log : StreamRun

namespace Playout

/-- The session at the beginning of a stream. -/
def start (s : RtspSession δ AppleOutput) : Playout δ :=
  { session := s, log := { buffer := s.jitterBuffer } }

/-- `recvfrom` stores at most 65536 bytes of a datagram. -/
def step (stream : ℕ → RtpPacket) (p : Playout δ) : StreamEvent → Playout δ
  | .arrive i datagram =>
    { session := p.session.deliver (datagram.take 65536), log := p.log.handOver i (stream i) }
  | .noise datagram => { p with session := p.session.deliver (datagram.take 65536) }
  | .render frames data => { p with session := p.session.render frames data }

/-- What a stream of `n` packets that starts at number `first` promises of its events. -/
def Admits (stream : ℕ → RtpPacket) (first : UInt16) (n : ℕ) (format : PcmFormat) (p : Playout δ) :
    StreamEvent → Prop
  | .arrive i datagram => receiveDatagram datagram = some (stream i) ∧
    StreamRun.Admissible first n p.log i (stream i)
  | .noise datagram => receiveDatagram datagram = none
  | .render frames data => frames.toNat * format.channels.toNat * 2 ≤ data.length

/-- The payloads handed to the pipeline so far. -/
def payloads (p : Playout δ) : List Bytes := p.log.popped.map (·.payload)

/-- The stream so far: the buffer simulates the reorder machine on its packets and holds
    nothing that is due, and the pipeline has decoded and written what it was handed. -/
structure Playing (stream : ℕ → RtpPacket) (first : UInt16) (n : ℕ) (format : PcmFormat)
    (decoder : δ) (p : Playout δ) : Prop where
  recording : p.session.recording = true
  live : p.session.media.live = true
  buffer : p.session.jitterBuffer = p.log.buffer
  reorder : ∃ r, StreamRun.Simulates first n p.log r ∧ r.log.lookup r.out.length = none ∧
    ∀ e ∈ r.log, e.2 = stream e.1
  pipeline : ∃ k, p.session.alacAudioPipeline = some ⟨{
        decoder := some (p.payloads.foldl decoded decoder)
        sink := some k
        format := format
        opened := true }⟩ ∧
    k.Sound format.channels.toNat ∧
    k.writes.map Prod.fst = (offeredAll format decoder p.payloads).map (·.samples)

variable {stream : ℕ → RtpPacket} {first : UInt16} {n : ℕ} {format : PcmFormat} {decoder : δ}
  {p : Playout δ}

/-- The receiver stays as it is, whatever arrives. -/
theorem deliver_keeps (s : RtspSession δ AppleOutput) (datagram : Bytes) :
    (s.deliver datagram).recording = s.recording ∧ (s.deliver datagram).media = s.media := by
  obtain ⟨buffer, packets, count, pipeline, h⟩ := s.deliver_eq datagram
  rw [h]
  exact ⟨rfl, rfl⟩

theorem Playing.arrive (h : Playing stream first n format decoder p) {i : ℕ} {datagram : Bytes}
    (hreceived : receiveDatagram datagram = some (stream i))
    (ha : StreamRun.Admissible first n p.log i (stream i)) :
    Playing stream first n format decoder (p.step stream (.arrive i datagram)) := by
  obtain ⟨hbuffer, hpopped, -⟩ := p.log.handOver_spec i (stream i)
  obtain ⟨hrecording, hmedia⟩ := deliver_keeps p.session (datagram.take 65536)
  -- the datagram reaches the buffer
  have harriving : p.session.arriving (.datagram (datagram.take 65536)) = some (stream i) := by
    show (if p.session.media.live && p.session.recording then receive (datagram.take 65536)
      else none) = _
    rw [h.live, h.recording]
    exact hreceived
  obtain ⟨hnone, -, -⟩ | ⟨q, hq, hsessionBuffer, hsessionPipeline, -⟩ :=
    p.session.deliver_cases (datagram.take 65536)
  · rw [harriving] at hnone
    cases hnone
  obtain rfl : stream i = q := Option.some.inj (harriving.symm.trans hq)
  refine ⟨hrecording.trans h.recording, ?_, ?_, ?_, ?_⟩
  · show (p.session.deliver (datagram.take 65536)).media.live = true
    rw [hmedia]
    exact h.live
  · show (p.session.deliver (datagram.take 65536)).jitterBuffer = (p.log.handOver i (stream i)).buffer
    rw [hsessionBuffer, hbuffer, h.buffer]
  · obtain ⟨r, hr, hcurrent, hpackets⟩ := h.reorder
    obtain ⟨r', hr', hcurrent', hlog⟩ := hr.handOver hcurrent ha
    refine ⟨r', hr', hcurrent', ?_⟩
    intro e he
    obtain hold | rfl := hlog e he
    · exact hpackets e hold
    · rfl
  · -- the pipeline gets what the buffer handed over
    obtain ⟨k, hk, hsound, hwrites⟩ := h.pipeline
    generalize hpackets : (p.session.jitterBuffer.handOver (stream i)).2.1 = packets at hsessionPipeline
    have hpayloads : (p.step stream (.arrive i datagram)).payloads =
        p.payloads ++ packets.map (·.payload) := by
      show (p.log.handOver i (stream i)).popped.map (·.payload) = _
      rw [hpopped, List.map_append, ← hpackets, h.buffer]
      rfl
    obtain ⟨k', hall, hwritten, hsound'⟩ :=
      AlacAudioPipeline.pushAll_opened (p := ⟨{
        decoder := some (p.payloads.foldl decoded decoder)
        sink := some k
        format := format
        opened := true }⟩) rfl rfl rfl packets
    refine ⟨k', ?_, hsound' hsound, ?_⟩
    · show (p.session.deliver (datagram.take 65536)).alacAudioPipeline = _
      rw [hsessionPipeline, hk, hpayloads, List.foldl_append]
      exact congrArg some hall
    · rw [hwritten, hwrites, hpayloads, offeredAll_append, List.map_append]

theorem Playing.noise (h : Playing stream first n format decoder p) {datagram : Bytes}
    (hrefused : receiveDatagram datagram = none) :
    Playing stream first n format decoder (p.step stream (.noise datagram)) := by
  have hdeliver : p.session.deliver (datagram.take 65536) = p.session := by
    unfold RtspSession.deliver
    rw [show receive (datagram.take 65536) = none from hrefused]
    exact ite_self _
  rw [step, hdeliver]
  exact h

theorem Playing.render (h : Playing stream first n format decoder p) {frames : UInt32} {data : Bytes}
    (hfits : frames.toNat * format.channels.toNat * 2 ≤ data.length) :
    Playing stream first n format decoder (p.step stream (.render frames data)) := by
  obtain ⟨k, hk, hsound, hwrites⟩ := h.pipeline
  refine ⟨h.recording, h.live, h.buffer, h.reorder, k.render frames data, ?_, hsound.render hfits,
    hwrites⟩
  show p.session.alacAudioPipeline.map (·.render frames data) = _
  rw [hk]
  rfl

theorem Playing.step (h : Playing stream first n format decoder p) {event : StreamEvent}
    (ha : p.Admits stream first n format event) :
    Playing stream first n format decoder (p.step stream event) := by
  cases event with
  | arrive i datagram => exact h.arrive ha.1 ha.2
  | noise datagram => exact h.noise ha
  | render frames data => exact h.render ha

theorem step_pushed (stream : ℕ → RtpPacket) (p : Playout δ) (event : StreamEvent)
    (i : ℕ) : i ∈ (p.step stream event).log.pushed ↔
      i ∈ p.log.pushed ∨ ∃ datagram, event = .arrive i datagram := by
  cases event with
  | arrive j datagram =>
    obtain ⟨-, -, hpushed⟩ := p.log.handOver_spec j (stream j)
    show i ∈ (p.log.handOver j (stream j)).pushed ↔ _
    rw [hpushed]
    simp [eq_comm]
  | noise datagram => simp [step]
  | render frames data => simp [step]

end Playout

/-! ## Three packets, the second one late -/

namespace Playout

end Playout

end AirPlay2
