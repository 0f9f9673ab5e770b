import AirPlay2.Rtsp.Pipeline
import AirPlay2.Rtsp.Playout

/- A session that plays to the embedding program itself: its sink is a `CallbackAudioSink`, and the
   callback is code of the program, of which nothing is known. What the program may rely on is that
   whatever its callback keeps when it is given whole frames of a format that can be played holds in
   every run of the session (`run_heeds`). -/
namespace AirPlay2
open Lib

/-! ## The sink -/

/-- `PcmWriteCallback`, on the state of the embedding program. -/
abbrev PcmWriteCallback (ε : Type*) := ε → List Int16 → ℕ → PcmFormat → Bool × ε

/-- `CallbackAudioSink`, with the state its callback reads and writes; `none` is a null callback. -/
structure CallbackAudioSink (ε : Type*) where
  callback : Option (PcmWriteCallback ε)
  program : ε
  format : PcmFormat := {}
  opened : Bool := false

namespace CallbackAudioSink

variable {ε : Type*}

def openSink (k : CallbackAudioSink ε) (format : PcmFormat) : Bool × CallbackAudioSink ε :=
  if k.callback.isNone || format.sampleRate == 0 || format.channels == 0 ||
      format.bitsPerSample != 16 then (false, k)
  else (true, { k with format := format, opened := true })

def close (k : CallbackAudioSink ε) : CallbackAudioSink ε := { k with opened := false }

/-- `none` are null samples. -/
def write (k : CallbackAudioSink ε) (samples : Option (List Int16)) (frames : ℕ) :
    Bool × CallbackAudioSink ε :=
  match k.callback with
  | none => (false, k)
  | some callback =>
    if !k.opened || (frames != 0 && samples.isNone) then (false, k)
    else
      let (ok, program) := callback k.program (samples.getD []) frames k.format
      (ok, { k with program := program })

instance : AudioSink (CallbackAudioSink ε) where
  openSink := openSink
  closeSink := close
  write k samples frames := k.write (some samples) frames

/-- A format that can be opened. -/
def playable (format : PcmFormat) : Bool :=
  format.sampleRate != 0 && format.channels != 0 && format.bitsPerSample == 16

/-- The arguments of a call: some frames, all of them whole, in a format that can be opened. -/
def WholeFrames (samples : List Int16) (frames : ℕ) (format : PcmFormat) : Prop :=
  playable format = true ∧ 0 < frames ∧ samples.length = frames * format.channels.toNat

/-- The callback keeps `P` as long as it is called so. -/
def Keeps (P : ε → Prop) (callback : PcmWriteCallback ε) : Prop :=
  ∀ program samples frames format, P program → WholeFrames samples frames format →
    P (callback program samples frames format).2

/-- What the program keeps holds, and the sink is open for a format that can be. -/
structure Heeds (P : ε → Prop) (k : CallbackAudioSink ε) : Prop where
  keeps : ∀ callback, k.callback = some callback → Keeps P callback
  holds : P k.program
  playable : k.opened = true → playable k.format = true

variable {P : ε → Prop} {k : CallbackAudioSink ε}

theorem openSink_cases (k : CallbackAudioSink ε) (format : PcmFormat) :
    k.openSink format = (false, k) ∨
      (playable format = true ∧ k.openSink format = (true, { k with format := format, opened := true })) := by
  unfold openSink
  split
  · exact Or.inl rfl
  · rename_i hformat
    simp only [Bool.or_eq_true, not_or, Bool.not_eq_true] at hformat
    obtain ⟨⟨⟨-, hrate⟩, hchannels⟩, hbits⟩ := hformat
    refine Or.inr ⟨?_, rfl⟩
    rw [playable, bne, bne, hrate, hchannels]
    simpa using hbits

theorem Heeds.close (h : k.Heeds P) : k.close.Heeds P := ⟨h.keeps, h.holds, nofun⟩

theorem Heeds.openSink (h : k.Heeds P) (format : PcmFormat) : (k.openSink format).2.Heeds P := by
  obtain hrefused | ⟨hplayable, hopened⟩ := k.openSink_cases format
  · rw [hrefused]
    exact h
  · rw [hopened]
    exact ⟨h.keeps, h.holds, fun _ => hplayable⟩

/-- A write touches the program only. -/
theorem write_eq (k : CallbackAudioSink ε) (samples : Option (List Int16)) (frames : ℕ) :
    ∃ program, (k.write samples frames).2 = { k with program := program } := by
  unfold write
  split
  · exact ⟨_, rfl⟩
  · split
    · exact ⟨_, rfl⟩
    · exact ⟨_, rfl⟩

theorem Heeds.write (h : k.Heeds P) {samples : List Int16} {frames : ℕ} (hframes : 0 < frames)
    (hlen : k.opened = true → samples.length = frames * k.format.channels.toNat) :
    (k.write (some samples) frames).2.Heeds P := by
  unfold CallbackAudioSink.write
  split
  · exact h
  · rename_i callback hcallback
    split
    · exact h
    · rename_i hready
      have hopened : k.opened = true := by
        cases ho : k.opened with
        | true => rfl
        | false => simp [ho] at hready
      have hholds : P (callback k.program samples frames k.format).2 :=
        h.keeps callback hcallback _ _ _ _ h.holds ⟨h.playable hopened, hframes, hlen hopened⟩
      exact ⟨h.keeps, hholds, h.playable⟩

end CallbackAudioSink

/-! ## The pipeline -/

namespace AlacAudioPipeline

variable {δ ε : Type*} [AlacDecoder δ] {P : ε → Prop}

/-- The sink is open exactly if the pipeline is, for the format of the pipeline, and heeds what the
    program keeps. -/
structure Heeds (P : ε → Prop) (p : AlacAudioPipeline δ (CallbackAudioSink ε)) : Prop where
  sink : ∀ k, p.pipeline.sink = some k → k.Heeds P
  opened : ∀ k, p.pipeline.sink = some k → k.opened = p.pipeline.opened
  format : ∀ k, p.pipeline.sink = some k → p.pipeline.opened = true → k.format = p.pipeline.format

omit [AlacDecoder δ] in
theorem heeds_of_closed {p : AlacAudioPipeline δ (CallbackAudioSink ε)}
    (hp : p.pipeline.opened = false)
    (hsink : ∀ k, p.pipeline.sink = some k → k.opened = false ∧ k.Heeds P) : p.Heeds P := by
  refine ⟨fun k hk => (hsink k hk).2, ?_, ?_⟩
  · intro k hk
    rw [(hsink k hk).1, hp]
  · intro k hk ho
    rw [hp] at ho
    cases ho

theorem Heeds.reset {p : AlacAudioPipeline δ (CallbackAudioSink ε)} (h : p.Heeds P) :
    p.reset.Heeds P := by
  apply heeds_of_closed rfl
  intro k hk
  replace hk : (if p.pipeline.opened = true then p.pipeline.sink.map AudioSink.closeSink
    else p.pipeline.sink) = some k := hk
  cases ho : p.pipeline.opened with
  | true =>
    rw [ho, if_pos rfl] at hk
    obtain ⟨k', hk', rfl⟩ := Option.map_eq_some_iff.mp hk
    exact ⟨rfl, (h.sink k' hk').close⟩
  | false =>
    rw [ho, if_neg (by decide)] at hk
    exact ⟨(h.opened k hk).trans ho, h.sink k hk⟩

theorem Heeds.configure {p : AlacAudioPipeline δ (CallbackAudioSink ε)} (h : p.Heeds P)
    (c : AlacConfig) : (p.configure c).2.Heeds P := by
  have hreset := h.reset
  show AlacAudioPipeline.Heeds P ⟨(p.pipeline.configure c).2⟩
  obtain hsame | ⟨decoder, sink, hsink, hcases⟩ := p.pipeline.configure_cases c rfl
  · rw [hsame]
    exact h
  · have hclosed : sink.opened = false := hreset.opened sink hsink
    have hheeds : sink.Heeds P := hreset.sink sink hsink
    generalize PcmFormat.mk c.sampleRate c.numChannels.toUInt16 c.bitDepth = format at hcases
    have hopen : AudioSink.openSink sink format = sink.openSink format := rfl
    rw [hopen] at hcases
    obtain hrefused | ⟨hrefused, hafter⟩ | ⟨htaken, hafter⟩ := hcases
    · rw [hrefused]
      apply heeds_of_closed rfl
      intro k hk
      exact ⟨hreset.opened k hk, hreset.sink k hk⟩
    · rw [hafter]
      apply heeds_of_closed rfl
      intro k hk
      obtain rfl := Option.some.inj hk
      obtain hsame | ⟨-, hopened⟩ := sink.openSink_cases format
      · rw [hsame]
        exact ⟨hclosed, hheeds⟩
      · rw [hopened] at hrefused
        cases hrefused
    · rw [hafter]
      have hnow := hheeds.openSink format
      obtain hsame | ⟨-, hopened⟩ := sink.openSink_cases format
      · rw [hsame] at htaken
        cases htaken
      · rw [hopened] at hnow ⊢
        refine ⟨?_, ?_, ?_⟩
        · intro k hk
          obtain rfl := Option.some.inj hk
          exact hnow
        · intro k hk
          obtain rfl := Option.some.inj hk
          rfl
        · intro k hk _
          obtain rfl := Option.some.inj hk
          rfl

theorem Heeds.push {p : AlacAudioPipeline δ (CallbackAudioSink ε)} (h : p.Heeds P) (q : RtpPacket) :
    (p.push q).2.Heeds P := by
  cases hdecoder : p.pipeline.decoder with
  | none =>
    rw [push_unready (Or.inl hdecoder)]
    exact h
  | some decoder =>
    cases hsink : p.pipeline.sink with
    | none =>
      rw [push_unready (Or.inr (Or.inl hsink))]
      exact h
    | some k =>
      cases hopened : p.pipeline.opened with
      | false =>
        rw [push_unready (Or.inr (Or.inr hopened))]
        exact h
      | true =>
        rw [push_opened hdecoder hsink hopened]
        cases hoffered : offered p.pipeline.format decoder q.payload with
        | none =>
          refine ⟨?_, ?_, ?_⟩
          · intro k' hk'
            obtain rfl := Option.some.inj hk'
            exact h.sink k hsink
          · intro k' hk'
            obtain rfl := Option.some.inj hk'
            exact h.opened k hsink
          · intro k' hk'
            obtain rfl := Option.some.inj hk'
            exact h.format k hsink
        | some pcm =>
          have hchecks := hasFormat_of_offered hoffered
          have hlen := length_of_hasFormat hchecks
          have hframes : 0 < pcm.frames.toNat := by
            simp only [PcmAudioFrame.hasFormat, Bool.and_eq_true, decide_eq_true_eq] at hchecks
            obtain ⟨⟨-, hne⟩, -⟩ := hchecks
            exact Nat.pos_of_ne_zero fun hzero => hne (UInt32.toNat_inj.mp hzero)
          have hformat : k.format = p.pipeline.format := h.format k hsink hopened
          -- the frame has passed the checks of the format the sink was opened for
          have hheeds : (k.write (some pcm.samples) pcm.frames.toNat).2.Heeds P :=
            (h.sink k hsink).write hframes fun _ => by rw [hformat, hlen]
          obtain ⟨program, hwrite⟩ := k.write_eq (some pcm.samples) pcm.frames.toNat
          refine ⟨?_, ?_, ?_⟩
          · intro k' hk'
            obtain rfl := Option.some.inj hk'
            exact hheeds
          · intro k' hk'
            obtain rfl := Option.some.inj hk'
            exact (congrArg CallbackAudioSink.opened hwrite).trans (h.opened k hsink)
          · intro k' hk' _
            obtain rfl := Option.some.inj hk'
            exact (congrArg CallbackAudioSink.format hwrite).trans hformat

end AlacAudioPipeline

/-! ## Every run -/

namespace Process

variable {δ ε : Type*} [AlacDecoder δ]

/-- **What a callback can rely on.** Whatever the program's callback keeps as long as it is given
    whole frames, at least one, in a format of 16 bits with channels and a rate, holds in every run of
    requests, datagrams and calls of the program, if it holds when a pipeline is attached; and the sink
    is open exactly while the pipeline is configured, for the same format. -/
theorem run_heeds {P : ε → Prop} {events : List (SessionEvent δ (CallbackAudioSink ε))}
    (hattach : ∀ q, .setAlacAudioPipeline (some q) ∈ events → q.configured = false ∧
      ∀ k, q.pipeline.sink = some k → k.opened = false ∧ P k.program ∧
        ∀ callback, k.callback = some callback → CallbackAudioSink.Keeps P callback)
    {s : RtspSession δ (CallbackAudioSink ε)} (hs : run step start events = .ok s)
    {q : AlacAudioPipeline δ (CallbackAudioSink ε)} (hq : s.alacAudioPipeline = some q)
    {k : CallbackAudioSink ε} (hk : q.pipeline.sink = some k) :
    P k.program ∧ k.opened = q.configured ∧ (q.configured = true → k.format = q.pipeline.format) := by
  have hnew : ∀ q, .setAlacAudioPipeline (some q) ∈ events → q.Heeds P := by
    intro q hmem
    obtain ⟨hclosed, hsink⟩ := hattach q hmem
    apply AlacAudioPipeline.heeds_of_closed hclosed
    intro k hk
    obtain ⟨hno, hholds, hkeeps⟩ := hsink k hk
    refine ⟨hno, hkeeps, hholds, ?_⟩
    intro ho
    rw [hno] at ho
    cases ho
  have hheeds : q.Heeds P := run_pipelineHolds (fun q h => h.reset) (fun q c h => h.configure c)
    (fun q packet h => h.push packet) hnew s hs q hq
  exact ⟨(hheeds.sink k hk).holds, hheeds.opened k hk, hheeds.format k hk⟩

/-! ## A program that counts -/

/-- It counts the samples it gets, and those that the frames it is told of have. -/
def countSamples : PcmWriteCallback (ℕ × ℕ) := fun counts samples frames format =>
  (true, (counts.1 + samples.length, counts.2 + frames * format.channels.toNat))

theorem countSamples_keeps :
    CallbackAudioSink.Keeps (fun counts => counts.1 = counts.2) countSamples := by
  intro counts samples frames format hcounts hwhole
  obtain ⟨-, -, hlen⟩ := hwhole
  show counts.1 + samples.length = counts.2 + frames * format.channels.toNat
  rw [hcounts, hlen]

def countingPipeline : AlacAudioPipeline ByteDecoder (CallbackAudioSink (ℕ × ℕ)) :=
  .new (some {}) (some { callback := some countSamples, program := (0, 0) })

/-- Two packets of one sample and one of two, in mono. -/
def countingRun : List (SessionEvent ByteDecoder (CallbackAudioSink (ℕ × ℕ))) :=
  [.setAlacAudioPipeline (some countingPipeline),
    .request
      { method := ascii "ANNOUNCE"
        body := mirroringText [{
          line := ascii "audio 0 RTP/AVP 96"
          attributes := [ascii "fmtp:sampleRate=8000;channels=1;bitDepth=16;frameLength=1"] }] }
      allBound,
    .request { method := ascii "SETUP" } allBound,
    .request { method := ascii "RECORD" } allBound,
    .datagram [0x80, 0, 0, 7, 0, 0, 0, 0, 0, 0, 0, 0, 1],
    .datagram [0x80, 0, 0, 8, 0, 0, 0, 0, 0, 0, 0, 0, 2],
    .datagram [0x80, 0, 0, 9, 0, 0, 0, 0, 0, 0, 0, 0, 3, 4]]

/-- What the program has counted. -/
def countedBy (p : Process ByteDecoder (CallbackAudioSink (ℕ × ℕ))) : Option (ℕ × ℕ) :=
  match p with
  | .ok s => s.alacAudioPipeline.bind fun q => q.pipeline.sink.map CallbackAudioSink.program
  | .error _ => none

theorem run_heeds_counted : ∃ s q k, run step start countingRun = .ok s ∧
    s.alacAudioPipeline = some q ∧ q.pipeline.sink = some k ∧ k.program = (4, 4) ∧
    k.program.1 = k.program.2 ∧ k.opened = q.configured ∧
    (q.configured = true → k.format = q.pipeline.format) := by
  have hcounted : countedBy (run step start countingRun) = some (4, 4) := by decide +kernel
  cases hrun : run step start countingRun with
  | error what =>
    rw [hrun] at hcounted
    cases hcounted
  | ok s =>
    rw [hrun] at hcounted
    obtain ⟨q, hq, hsink⟩ := Option.bind_eq_some_iff.mp hcounted
    obtain ⟨k, hk, hprogram⟩ := Option.map_eq_some_iff.mp hsink
    refine ⟨s, q, k, rfl, hq, hk, hprogram, run_heeds (P := fun counts => counts.1 = counts.2) ?_ hrun hq hk⟩
    intro q' hq'
    simp only [countingRun, List.mem_cons, SessionEvent.setAlacAudioPipeline.injEq,
      Option.some.injEq, reduceCtorEq, List.not_mem_nil, or_false] at hq'
    obtain rfl := hq'
    refine ⟨rfl, ?_⟩
    intro k' hk'
    obtain rfl := Option.some.inj hk'
    refine ⟨rfl, rfl, ?_⟩
    intro callback hcallback
    obtain rfl := Option.some.inj hcallback
    exact countSamples_keeps

end Process

end AirPlay2
