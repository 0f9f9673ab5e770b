import AirPlay2.Lib.Runs
import AirPlay2.Media.AppleSink

/- A pipeline over an Apple sink, with the render callback of the audio unit beside it. An
   `AppleOutput` is the sink with a record of what was written to it and rendered from it since
   it was last opened; the record changes nothing. What one packet offers to the sink is the
   frame the decoder makes of it, if that frame has the format of the pipeline (`offered`), so
   an open pipeline writes what its decoder makes of the packets, in the order in which it gets
   them (`pushAll_opened`), and the samples of the writes that were accepted are the rendered
   ones, then those still held (`InOrder`). -/
namespace AirPlay2
open Lib

/-- An Apple sink, what AudioToolbox returns to the opens to come, and, since the last open,
    the writes, each with whether it was accepted, and the samples rendered. -/
structure AppleOutput where
  sink : AppleAudioSink := {}
  toolbox : List AudioToolbox := []
  writes : List (List Int16 × Bool) := []
  rendered : List Int16 := []

namespace AppleOutput

/-- AudioToolbox where there is no output component. -/
def noToolbox : AudioToolbox := ⟨false, false, false, false⟩

instance : AudioSink AppleOutput where
  openSink k format :=
    ((k.sink.openSink format (k.toolbox.headD noToolbox)).1,
      { sink := (k.sink.openSink format (k.toolbox.headD noToolbox)).2
        toolbox := k.toolbox.tail })
  closeSink k := { k with sink := k.sink.close }
  write k samples frames :=
    ((k.sink.write (some samples) frames).1,
      { k with
        sink := (k.sink.write (some samples) frames).2
        writes := k.writes ++ [(samples, (k.sink.write (some samples) frames).1)] })

/-- The render callback, into one buffer. -/
def render (k : AppleOutput) (frames : UInt32) (data : Bytes) : AppleOutput :=
  { k with
    sink := (k.sink.render frames [data]).2
    rendered := k.rendered ++ k.sink.rendered (.render frames data) }

/-- The samples of the accepted writes. -/
def accepted (k : AppleOutput) : List Int16 := k.writes.flatMap fun w => if w.2 then w.1 else []

/-- An open sink whose record is a queue's: what was rendered, then what is held, is what was
    accepted. -/
structure Sound (channels : ℕ) (k : AppleOutput) : Prop where
  ready : k.sink.Ready channels
  fifo : k.rendered ++ k.sink.contents = k.accepted

theorem accepted_write (k : AppleOutput) (samples : List Int16) (frames : ℕ) :
    (AudioSink.write k samples frames).2.accepted =
      k.accepted ++ k.sink.given (.write (some samples) frames) := by
  show (k.writes ++ [(samples, (k.sink.write (some samples) frames).1)]).flatMap _ = _
  rw [List.flatMap_append, List.flatMap_singleton]
  rfl

/-- A block of whole frames keeps the record sound, refused or not. -/
theorem Sound.write {channels : ℕ} {k : AppleOutput} (h : k.Sound channels)
    {samples : List Int16} {frames : ℕ} (hlen : samples.length = frames * channels)
    (hmemory : samples.length < 2 ^ 63) : (AudioSink.write k samples frames).2.Sound channels := by
  have hfits : (AppleAudioSink.Step.write (some samples) frames).Fits channels := by
    intro block hblock
    obtain rfl := Option.some.inj hblock
    exact ⟨hlen, hmemory⟩
  refine ⟨AppleAudioSink.step_ready k.sink _ h.ready hfits, ?_⟩
  have hstep := AppleAudioSink.step_fifo k.sink _ h.ready hfits
  rw [AppleAudioSink.rendered, List.nil_append] at hstep
  rw [accepted_write, ← h.fifo, List.append_assoc, ← hstep]
  rfl

theorem Sound.render {channels : ℕ} {k : AppleOutput} (h : k.Sound channels) {frames : UInt32}
    {data : Bytes} (hfits : frames.toNat * channels * 2 ≤ data.length) :
    (k.render frames data).Sound channels := by
  refine ⟨AppleAudioSink.step_ready k.sink (.render frames data) h.ready hfits, ?_⟩
  have hstep := AppleAudioSink.step_fifo k.sink (.render frames data) h.ready hfits
  rw [AppleAudioSink.given, List.append_nil] at hstep
  show (k.rendered ++ k.sink.rendered (.render frames data)) ++
    (AppleAudioSink.step k.sink (.render frames data)).contents = k.accepted
  rw [List.append_assoc, hstep, h.fifo]

/-- A successful open begins an empty record. -/
theorem sound_openSink {k : AppleOutput} {format : PcmFormat}
    (h : (AudioSink.openSink k format).1 = true) :
    (AudioSink.openSink k format).2.Sound format.channels.toNat := by
  obtain ⟨hready, hempty⟩ := AppleAudioSink.ready_openSink h
  exact ⟨hready, hempty⟩

theorem opened_of_refused {k : AppleOutput} {format : PcmFormat}
    (h : (AudioSink.openSink k format).1 = false) :
    (AudioSink.openSink k format).2.sink.opened = false :=
  (k.sink.opened_openSink format _).trans h

end AppleOutput

/-! ## What a packet offers to the sink -/

/-- The checks `AudioPipeline::push` makes of a decoded frame. -/
def PcmAudioFrame.hasFormat (format : PcmFormat) (pcm : PcmAudioFrame) : Bool :=
  decide (pcm.channels = format.channels) && decide (pcm.sampleRate = format.sampleRate) &&
    decide (pcm.bitsPerSample = format.bitsPerSample) && decide (pcm.frames ≠ 0) &&
      decide (pcm.samples.length = pcm.frames.toNat * format.channels.toNat)

section Offered

variable {δ κ : Type*} [AlacDecoder δ] [AudioSink κ]

/-- The frame a pipeline of this format writes for a packet. -/
def offered (format : PcmFormat) (decoder : δ) (packet : Bytes) : Option PcmAudioFrame :=
  if packet.isEmpty then none
  else (AlacDecoder.decode decoder packet).1.filter (·.hasFormat format)

/-- The decoder after a packet; an empty one does not reach it. -/
def decoded (decoder : δ) (packet : Bytes) : δ :=
  if packet.isEmpty then decoder else (AlacDecoder.decode decoder packet).2

/-- The frames written for packets decoded one after the other. -/
def offeredAll (format : PcmFormat) : δ → List Bytes → List PcmAudioFrame
  | _, [] => []
  | decoder, packet :: packets =>
    (offered format decoder packet).toList ++ offeredAll format (decoded decoder packet) packets

theorem offeredAll_append (format : PcmFormat) (decoder : δ) (before after : List Bytes) :
    offeredAll format decoder (before ++ after) =
      offeredAll format decoder before ++
        offeredAll format (before.foldl decoded decoder) after := by
  induction before generalizing decoder with
  | nil => rfl
  | cons packet before ih =>
    rw [List.cons_append, offeredAll, ih, offeredAll, List.foldl_cons, List.append_assoc]

omit [AlacDecoder δ] [AudioSink κ] in
theorem length_of_hasFormat {format : PcmFormat} {pcm : PcmAudioFrame}
    (h : pcm.hasFormat format = true) :
    pcm.samples.length = pcm.frames.toNat * format.channels.toNat := by
  simp only [PcmAudioFrame.hasFormat, Bool.and_eq_true, decide_eq_true_eq] at h
  exact h.2

omit [AlacDecoder δ] [AudioSink κ] in
theorem hasFormat_eq_false_iff (format : PcmFormat) (pcm : PcmAudioFrame) :
    pcm.hasFormat format = false ↔
      (pcm.channels ≠ format.channels ∨ pcm.sampleRate ≠ format.sampleRate ∨
        pcm.bitsPerSample ≠ format.bitsPerSample ∨ pcm.frames = 0) ∨
      pcm.samples.length ≠ pcm.frames.toNat * format.channels.toNat := by
  simp only [PcmAudioFrame.hasFormat, Bool.and_eq_false_iff, decide_eq_false_iff_not, not_not,
    or_assoc]

theorem hasFormat_of_offered {format : PcmFormat} {decoder : δ} {packet : Bytes}
    {pcm : PcmAudioFrame} (h : offered format decoder packet = some pcm) :
    pcm.hasFormat format = true := by
  unfold offered at h
  split at h
  · cases h
  · exact (Option.filter_eq_some_iff.mp h).2

/-- A push into an open pipeline decodes the packet and writes what it offers. -/
theorem AudioPipeline.push_opened {p : AudioPipeline δ κ} {decoder : δ} {sink : κ}
    (hdecoder : p.decoder = some decoder) (hsink : p.sink = some sink) (hopened : p.opened = true)
    (packet : Bytes) :
    (p.push packet).2 =
      { p with
        decoder := some (decoded decoder packet)
        sink := some
          (match offered p.format decoder packet with
          | none => sink
          | some pcm => (AudioSink.write sink pcm.samples pcm.frames.toNat).2) } := by
  obtain ⟨pdecoder, psink, format, popened⟩ := p
  subst hdecoder hsink hopened
  unfold push offered decoded
  cases hempty : packet.isEmpty with
  | true => rfl
  | false =>
    simp only [Bool.not_true, Bool.false_or, Bool.false_eq_true, if_false]
    cases (AlacDecoder.decode decoder packet).1 with
    | none => rfl
    | some pcm =>
      -- the two checks of `push` are one of the frame
      have hformat := hasFormat_eq_false_iff format pcm
      cases hchecks : pcm.hasFormat format with
      | true =>
        rw [hchecks] at hformat
        obtain ⟨hsame, hlen⟩ := not_or.mp (fun hno => Bool.noConfusion (hformat.mpr hno))
        simp only [if_neg hsame, if_neg hlen, Option.filter_some, hchecks, if_true]
      | false =>
        simp only [Option.filter_some, hchecks, Bool.false_eq_true, if_false]
        obtain hdiffers | hlen := hformat.mp hchecks
        · rw [if_pos hdiffers]
        · rw [if_pos hlen, ite_self]

/-- What a configuration comes to: nothing is touched; or the pipeline is reset, and then the
    decoder refuses, or the sink does, or both have taken the config. -/
theorem AudioPipeline.configure_cases (p : AudioPipeline δ κ) (c : AlacConfig) {format : PcmFormat}
    (hformat : format = ⟨c.sampleRate, c.numChannels.toUInt16, c.bitDepth⟩) :
    p.configure c = (false, p) ∨
      ∃ decoder sink, p.reset.sink = some sink ∧
        (p.configure c = (false, { p.reset with decoder := some decoder }) ∨
          (AudioSink.openSink sink format).1 = false ∧
            p.configure c = (false, { p.reset with
              decoder := some decoder
              sink := some (AudioSink.openSink sink format).2 }) ∨
          (AudioSink.openSink sink format).1 = true ∧
            p.configure c = (true, {
              decoder := some decoder
              sink := some (AudioSink.openSink sink format).2
              format := format
              opened := true })) := by
  subst hformat
  unfold configure
  by_cases htakes : (!p.takes c) = true
  · rw [if_pos htakes]
    exact Or.inl rfl
  · rw [if_neg htakes]
    -- a decoder and a sink are checked for, and a reset keeps both
    simp only [takes, Bool.not_eq_true', Bool.not_eq_false, Bool.and_eq_true] at htakes
    obtain ⟨⟨⟨⟨⟨hdecoder, hsink⟩, -⟩, -⟩, -⟩, -⟩ := htakes
    obtain ⟨decoder, hdecoder⟩ := Option.isSome_iff_exists.mp
      (show p.reset.decoder.isSome = true from (Option.isSome_map ..).trans hdecoder)
    have hsink' : p.reset.sink.isSome = true := by
      unfold reset
      dsimp only
      split
      · exact (Option.isSome_map ..).trans hsink
      · exact hsink
    obtain ⟨sink, hsink⟩ := Option.isSome_iff_exists.mp hsink'
    dsimp only
    rw [hdecoder, hsink]
    dsimp only
    split
    · exact Or.inr ⟨_, sink, rfl, Or.inl rfl⟩
    · split
      · rename_i hrefused
        exact Or.inr ⟨_, sink, rfl, Or.inr (Or.inl ⟨by simpa using hrefused, rfl⟩)⟩
      · rename_i hopen
        exact Or.inr ⟨_, sink, rfl, Or.inr (Or.inr ⟨by simpa using hopen, rfl⟩)⟩

end Offered

/-! ## The pipeline and its sink -/

namespace AlacAudioPipeline

variable {δ : Type*} [AlacDecoder δ]

/-- The render callback of the sink. -/
def render (p : AlacAudioPipeline δ AppleOutput) (frames : UInt32) (data : Bytes) :
    AlacAudioPipeline δ AppleOutput :=
  ⟨{ p.pipeline with sink := p.pipeline.sink.map (·.render frames data) }⟩

/-- The sink is open exactly if the pipeline is, for the format of the pipeline, and then it
    is a queue. -/
structure InOrder (p : AlacAudioPipeline δ AppleOutput) : Prop where
  closed : ∀ k, p.pipeline.sink = some k → p.pipeline.opened = false → k.sink.opened = false
  opened : ∀ k, p.pipeline.sink = some k → p.pipeline.opened = true →
    k.Sound p.pipeline.format.channels.toNat

omit [AlacDecoder δ] in
theorem inOrder_of_closed {p : AlacAudioPipeline δ AppleOutput} (hp : p.pipeline.opened = false)
    (hsink : ∀ k, p.pipeline.sink = some k → k.sink.opened = false) : p.InOrder := by
  refine ⟨fun k hk _ => hsink k hk, ?_⟩
  intro k hk ho
  rw [hp] at ho
  cases ho

theorem InOrder.reset {p : AlacAudioPipeline δ AppleOutput} (h : p.InOrder) : p.reset.InOrder := by
  apply inOrder_of_closed rfl
  intro k hk
  replace hk : (if p.pipeline.opened = true then p.pipeline.sink.map AudioSink.closeSink
    else p.pipeline.sink) = some k := hk
  cases ho : p.pipeline.opened with
  | true =>
    rw [ho, if_pos rfl] at hk
    obtain ⟨k', -, rfl⟩ := Option.map_eq_some_iff.mp hk
    rfl
  | false =>
    rw [ho, if_neg (by decide)] at hk
    exact h.closed k hk ho

theorem InOrder.configure {p : AlacAudioPipeline δ AppleOutput} (h : p.InOrder) (c : AlacConfig) :
    (p.configure c).2.InOrder := by
  have hreset := h.reset
  show AlacAudioPipeline.InOrder ⟨(p.pipeline.configure c).2⟩
  obtain hsame | ⟨decoder, sink, hsink, hcases⟩ := p.pipeline.configure_cases c rfl
  · rw [hsame]
    exact h
  · obtain hrefused | ⟨hrefused, hafter⟩ | ⟨hopen, hafter⟩ := hcases
    · rw [hrefused]
      apply inOrder_of_closed rfl
      intro k hk
      exact hreset.closed k hk rfl
    · rw [hafter]
      apply inOrder_of_closed rfl
      intro k hk
      obtain rfl := Option.some.inj hk
      exact AppleOutput.opened_of_refused hrefused
    · rw [hafter]
      refine ⟨fun k _ hno => Bool.noConfusion hno, ?_⟩
      intro k hk _
      obtain rfl := Option.some.inj hk
      exact AppleOutput.sound_openSink hopen

omit [AlacDecoder δ] in
theorem InOrder.render {p : AlacAudioPipeline δ AppleOutput} (h : p.InOrder) {frames : UInt32}
    {data : Bytes}
    (hfits : p.pipeline.opened = true →
      frames.toNat * p.pipeline.format.channels.toNat * 2 ≤ data.length) :
    (p.render frames data).InOrder := by
  refine ⟨?_, ?_⟩
  · intro k hk ho
    obtain ⟨k', hk', rfl⟩ := Option.map_eq_some_iff.mp hk
    exact h.closed k' hk' ho
  · intro k hk ho
    obtain ⟨k', hk', rfl⟩ := Option.map_eq_some_iff.mp hk
    exact (h.opened k' hk' ho).render (hfits ho)

/-! ## Pushes -/

/-- The block a sink is written for an offered frame. -/
def writeOffered {κ : Type*} [AudioSink κ] (k : κ) : Option PcmAudioFrame → κ
  | none => k
  | some pcm => (AudioSink.write k pcm.samples pcm.frames.toNat).2

/-- A frame of the format is whole frames, and fits in memory. -/
theorem sound_writeOffered {format : PcmFormat} {k : AppleOutput}
    (h : k.Sound format.channels.toNat) {decoder : δ} {packet : Bytes} :
    (writeOffered k (offered format decoder packet)).Sound format.channels.toNat := by
  cases hoffered : offered format decoder packet with
  | none => exact h
  | some pcm =>
    have hlen := length_of_hasFormat (hasFormat_of_offered hoffered)
    apply h.write hlen
    have hframes := pcm.frames.toNat_lt
    have hchannels := format.channels.toNat_lt
    calc pcm.samples.length = pcm.frames.toNat * format.channels.toNat := hlen
      _ ≤ 2 ^ 32 * 2 ^ 16 := Nat.mul_le_mul hframes.le hchannels.le
      _ < 2 ^ 63 := by decide

/-- What a push does to an open pipeline. -/
theorem push_opened {κ : Type*} [AudioSink κ] {p : AlacAudioPipeline δ κ} {decoder : δ} {k : κ}
    (hdecoder : p.pipeline.decoder = some decoder) (hsink : p.pipeline.sink = some k)
    (hopened : p.pipeline.opened = true) (q : RtpPacket) :
    (p.push q).2 =
      ⟨{ p.pipeline with
        decoder := some (decoded decoder q.payload)
        sink := some (writeOffered k (offered p.pipeline.format decoder q.payload)) }⟩ := by
  have hpush := AudioPipeline.push_opened hdecoder hsink hopened q.payload
  have hsame : (match offered p.pipeline.format decoder q.payload with
      | none => k
      | some pcm => (AudioSink.write k pcm.samples pcm.frames.toNat).2) =
      writeOffered k (offered p.pipeline.format decoder q.payload) := by
    cases offered p.pipeline.format decoder q.payload <;> rfl
  rw [hsame] at hpush
  rw [← hpush, push]
  split
  · -- an empty payload does not get to the pipeline, which would refuse it
    rename_i hempty
    rw [hpush, offered, decoded, if_pos hempty, if_pos hempty, writeOffered, ← hdecoder, ← hsink]
  · rfl

/-- A pipeline without decoder or sink, or closed, refuses everything. -/
theorem push_unready {κ : Type*} [AudioSink κ] {p : AlacAudioPipeline δ κ}
    (h : p.pipeline.decoder = none ∨ p.pipeline.sink = none ∨ p.pipeline.opened = false)
    (q : RtpPacket) : (p.push q).2 = p := by
  have hpush : (p.pipeline.push q.payload).2 = p.pipeline := by
    unfold AudioPipeline.push
    cases hdecoder : p.pipeline.decoder with
    | none => rfl
    | some decoder =>
      cases hsink : p.pipeline.sink with
      | none => rfl
      | some k =>
        obtain hno | hno | hclosed := h
        · rw [hdecoder] at hno
          cases hno
        · rw [hsink] at hno
          cases hno
        · simp [hclosed]
  unfold push
  split
  · rfl
  · exact congrArg AlacAudioPipeline.mk hpush

theorem InOrder.push {p : AlacAudioPipeline δ AppleOutput} (h : p.InOrder) (q : RtpPacket) :
    (p.push q).2.InOrder := by
  cases hdecoder : p.pipeline.decoder with
  | none =>
    rw [push_unready (Or.inl hdecoder)]
    exact h
  | some decoder =>
    cases hsink : p.pipeline.sink with
    | none =>
      rw [push_unready (Or.inr (Or.inl hsink))]
      exact h
    | some k =>
      cases hopened : p.pipeline.opened with
      | false =>
        rw [push_unready (Or.inr (Or.inr hopened))]
        exact h
      | true =>
        rw [push_opened hdecoder hsink hopened]
        refine ⟨fun _ _ hno => ?_, ?_⟩
        · rw [hopened] at hno
          cases hno
        · intro k' hk' _
          obtain rfl := Option.some.inj hk'
          exact sound_writeOffered (h.opened k hsink hopened)

/-- Packets pushed one after the other. -/
def pushAll (p : AlacAudioPipeline δ AppleOutput) (packets : List RtpPacket) :
    AlacAudioPipeline δ AppleOutput :=
  packets.foldl (fun pipeline q => (pipeline.push q).2) p

/-- An open pipeline writes what its decoder makes of the packets, in their order. -/
theorem pushAll_opened {p : AlacAudioPipeline δ AppleOutput} {decoder : δ} {k : AppleOutput}
    (hdecoder : p.pipeline.decoder = some decoder) (hsink : p.pipeline.sink = some k)
    (hopened : p.pipeline.opened = true) (packets : List RtpPacket) :
    ∃ k', p.pushAll packets =
        ⟨{ p.pipeline with
          decoder := some ((packets.map (·.payload)).foldl decoded decoder)
          sink := some k' }⟩ ∧
      k'.writes.map Prod.fst = k.writes.map Prod.fst ++
        (offeredAll p.pipeline.format decoder (packets.map (·.payload))).map (·.samples) ∧
      (k.Sound p.pipeline.format.channels.toNat → k'.Sound p.pipeline.format.channels.toNat) := by
  induction packets generalizing p decoder k with
  | nil =>
    refine ⟨k, ?_, (List.append_nil _).symm, id⟩
    rw [pushAll, List.map_nil, List.foldl_nil, List.foldl_nil, ← hdecoder, ← hsink]
  | cons q packets ih =>
    have hpush := push_opened hdecoder hsink hopened q
    obtain ⟨k', hall, hwrites, hsound⟩ := ih (p := (p.push q).2) (by rw [hpush]) (by rw [hpush])
      (by rw [hpush]; exact hopened)
    have hafter : (p.push q).2.pipeline.format = p.pipeline.format := by rw [hpush]
    rw [hafter] at hwrites hsound
    refine ⟨k', ?_, ?_, ?_⟩
    · show (p.push q).2.pushAll packets = _
      rw [hall, hpush]
      rfl
    · rw [hwrites, List.map_cons, offeredAll, List.map_append, ← List.append_assoc]
      congr 1
      cases offered p.pipeline.format decoder q.payload with
      | none => exact (List.append_nil _).symm
      | some pcm =>
        -- the write is recorded whether or not it was accepted
        show (k.writes ++ [_]).map Prod.fst = _
        rw [List.map_append]
        rfl
    · exact fun hk => hsound (sound_writeOffered hk)

end AlacAudioPipeline
end AirPlay2
