import AirPlay2.Lib.Runs
import AirPlay2.Media.Alac

/- How an `AudioPipeline` uses its sink. A `LoggedSink` records the calls made to an
   arbitrary sink and what they returned; the contract is an automaton over such records
   (`SinkCall.follow`), which is closed or open with a format. Whatever decoder and sink do,
   the record of every sequence of calls follows the contract, `opened` is the state of the
   automaton, and destruction leaves it closed (`sink_contract`). -/
namespace AirPlay2
open Lib

/-- A call of a sink, with what it returned. -/
inductive SinkCall where
  | opened (format : PcmFormat) (ok : Bool)
  | closed
  | wrote (samples : List Int16) (frames : ℕ) (ok : Bool)
  deriving DecidableEq

/-- The contract. A closed sink (`none`) may only be opened; one that is open with a format
    is written whole frames, some each time, or closed. -/
def SinkCall.follow : Option PcmFormat → SinkCall → Option (Option PcmFormat)
  | none, .opened format ok => some (if ok then some format else none)
  | some _, .closed => some none
  | some format, .wrote samples frames _ =>
    if 0 < frames ∧ samples.length = frames * format.channels.toNat then some (some format)
    else none
  | _, _ => none

/-- What a record leaves of a sink that was closed; `none` if it breaks the contract. -/
def followAll (calls : List SinkCall) : Option (Option PcmFormat) :=
  calls.foldlM SinkCall.follow none

theorem followAll_snoc {calls : List SinkCall} {st : Option PcmFormat}
    (h : followAll calls = some st) (c : SinkCall) : followAll (calls ++ [c]) = c.follow st := by
  rw [followAll, List.foldlM_append, show calls.foldlM SinkCall.follow none = some st from h]
  show (c.follow st >>= fun s => some s) = c.follow st
  cases c.follow st <;> rfl

/-- A sink with a record of the calls made to it. -/
structure LoggedSink (κ : Type*) where
  sink : κ
  calls : List SinkCall := []

instance LoggedSink.audioSink {κ : Type*} [AudioSink κ] : AudioSink (LoggedSink κ) where
  openSink k format :=
    ((AudioSink.openSink k.sink format).1,
      { sink := (AudioSink.openSink k.sink format).2
        calls := k.calls ++ [.opened format (AudioSink.openSink k.sink format).1] })
  closeSink k := { sink := AudioSink.closeSink k.sink, calls := k.calls ++ [.closed] }
  write k samples frames :=
    ((AudioSink.write k.sink samples frames).1,
      { sink := (AudioSink.write k.sink samples frames).2
        calls := k.calls ++ [.wrote samples frames (AudioSink.write k.sink samples frames).1] })

/-- A call of the pipeline. -/
inductive PipelineCall where
  | configure (config : AlacConfig)
  | push (packet : Bytes)
  | reset

namespace AudioPipeline

variable {δ κ : Type*} [AlacDecoder δ] [AudioSink κ]

def call (p : AudioPipeline δ κ) : PipelineCall → AudioPipeline δ κ
  | .configure config => (p.configure config).2
  | .push packet => (p.push packet).2
  | .reset => p.reset

/-- The calls made to the sink so far. -/
def calls (p : AudioPipeline δ (LoggedSink κ)) : List SinkCall := (p.sink.map (·.calls)).getD []

/-- The record follows the contract, and the pipeline knows what it left. -/
def InContract (p : AudioPipeline δ (LoggedSink κ)) : Prop :=
  followAll p.calls = some (if p.opened then some p.format else none)

/-! ## What each method calls -/

theorem calls_reset {p : AudioPipeline δ (LoggedSink κ)} (h : p.InContract) :
    p.reset.calls = p.calls ++ (if p.opened then [.closed] else []) := by
  cases hsink : p.sink with
  | none =>
    have hclosed : p.opened = false := by
      have hempty : p.calls = [] := by rw [calls, hsink]; rfl
      rw [InContract, hempty] at h
      cases ho : p.opened with
      | false => rfl
      | true =>
        rw [ho] at h
        cases h
    simp [calls, reset, hsink, hclosed]
  | some k =>
    cases hopened : p.opened with
    | false => simp [calls, reset, hsink, hopened]
    | true =>
      simp only [calls, reset, hsink, hopened, if_true, Option.map_some, Option.getD_some]
      rfl

/-- A reset closes an open sink. -/
theorem InContract.reset {p : AudioPipeline δ (LoggedSink κ)} (h : p.InContract) :
    followAll p.reset.calls = some none := by
  rw [calls_reset h]
  cases hopened : p.opened with
  | false =>
    rw [if_neg (by decide), List.append_nil, h, hopened]
    rfl
  | true =>
    rw [if_pos rfl, followAll_snoc h, hopened]
    rfl

/-- A configuration that touches anything resets first; then it may open the sink, once. -/
theorem configure_spec (p : AudioPipeline δ (LoggedSink κ)) (config : AlacConfig) :
    (p.configure config).2 = p ∨
      ((p.configure config).2.calls = p.reset.calls ∧ (p.configure config).2.opened = false) ∨
      (∃ format ok, (p.configure config).2.calls = p.reset.calls ++ [.opened format ok] ∧
        (p.configure config).2.opened = ok ∧
        (ok = true → (p.configure config).2.format = format)) := by
  unfold configure
  by_cases htakes : (!p.takes config) = true
  · rw [if_pos htakes]
    exact Or.inl rfl
  · rw [if_neg htakes]
    apply Or.inr
    dsimp only
    cases hdecoder : p.reset.decoder with
    | none => exact Or.inl ⟨rfl, rfl⟩
    | some decoder =>
      cases hsink : p.reset.sink with
      | none => exact Or.inl ⟨rfl, rfl⟩
      | some sink =>
        have hcalls : p.reset.calls = sink.calls := by rw [calls, hsink]; rfl
        dsimp only
        rw [hcalls]
        by_cases hok : (!(AlacDecoder.configure decoder config).1) = true
        · rw [if_pos hok]
          exact Or.inl ⟨rfl, rfl⟩
        · rw [if_neg hok]
          generalize ({ sampleRate := config.sampleRate, channels := config.numChannels.toUInt16,
                        bitsPerSample := config.bitDepth } : PcmFormat) = format
          apply Or.inr
          by_cases hopen : (!(AudioSink.openSink sink format).1) = true
          · rw [if_pos hopen]
            have hrefused : (AudioSink.openSink sink format).1 = false := by simpa using hopen
            refine ⟨format, (AudioSink.openSink sink format).1, rfl, hrefused.symm, ?_⟩
            intro hopened
            rw [hrefused] at hopened
            cases hopened
          · rw [if_neg hopen]
            have hopened : (AudioSink.openSink sink format).1 = true := by simpa using hopen
            exact ⟨format, (AudioSink.openSink sink format).1, rfl, hopened.symm, fun _ => rfl⟩

/-- A push calls the sink at most once, with a frame the decoder gave it and that has the
    format of the pipeline. -/
theorem push_spec (p : AudioPipeline δ (LoggedSink κ)) (packet : Bytes) :
    (p.push packet).2.opened = p.opened ∧ (p.push packet).2.format = p.format ∧
      ((p.push packet).2.calls = p.calls ∨
        ∃ decoder pcm ok, p.opened = true ∧ p.decoder = some decoder ∧
          (AlacDecoder.decode decoder packet).1 = some pcm ∧ 0 < pcm.frames.toNat ∧
          p.format = ⟨pcm.sampleRate, pcm.channels, pcm.bitsPerSample⟩ ∧
          pcm.samples.length = pcm.frames.toNat * p.format.channels.toNat ∧
          (p.push packet).2.calls = p.calls ++ [.wrote pcm.samples pcm.frames.toNat ok]) := by
  unfold push
  cases hdecoder : p.decoder with
  | none => exact ⟨rfl, rfl, Or.inl rfl⟩
  | some decoder =>
    cases hsink : p.sink with
    | none => exact ⟨rfl, rfl, Or.inl rfl⟩
    | some sink =>
      have hcalls : p.calls = sink.calls := by rw [calls, hsink]; rfl
      dsimp only
      rw [hcalls]
      by_cases hready : (!p.opened || packet.isEmpty) = true
      · rw [if_pos hready]
        exact ⟨rfl, rfl, Or.inl hcalls⟩
      · rw [if_neg hready]
        have hopened : p.opened = true := by
          cases ho : p.opened with
          | true => rfl
          | false => simp [ho] at hready
        cases hdecode : (AlacDecoder.decode decoder packet).1 with
        | none => exact ⟨rfl, rfl, Or.inl rfl⟩
        | some pcm =>
          dsimp only
          split
          · exact ⟨rfl, rfl, Or.inl rfl⟩
          · rename_i hsame
            simp only [not_or, not_not] at hsame
            obtain ⟨hchannels, hrate, hbits, hframes⟩ := hsame
            split
            · exact ⟨rfl, rfl, Or.inl rfl⟩
            · rename_i hlen
              have hpos : 0 < pcm.frames.toNat := by
                apply Nat.pos_of_ne_zero
                intro hzero
                exact hframes (UInt32.toNat_inj.mp hzero)
              have hformat : p.format = ⟨pcm.sampleRate, pcm.channels, pcm.bitsPerSample⟩ := by
                rw [hchannels, hrate, hbits]
              exact ⟨rfl, rfl, Or.inr ⟨decoder, pcm,
                (AudioSink.write sink.sink pcm.samples pcm.frames.toNat).1, hopened, rfl, hdecode,
                hpos, hformat, not_not.mp hlen, rfl⟩⟩

/-! ## The contract -/

theorem InContract.call {p : AudioPipeline δ (LoggedSink κ)} (h : p.InContract) (i : PipelineCall) :
    (p.call i).InContract := by
  cases i with
  | reset => exact h.reset
  | configure config =>
    show (p.configure config).2.InContract
    obtain hsame | ⟨hcalls, hclosed⟩ | ⟨format, ok, hcalls, hopened, hformat⟩ :=
      p.configure_spec config
    · rw [hsame]
      exact h
    · rw [InContract, hcalls, hclosed]
      exact h.reset
    · rw [InContract, hcalls, hopened, followAll_snoc h.reset]
      cases ok with
      | false => rfl
      | true =>
        rw [hformat rfl]
        rfl
  | push packet =>
    show (p.push packet).2.InContract
    obtain ⟨hopened, hformat, hcalls⟩ := p.push_spec packet
    rw [InContract, hopened, hformat]
    obtain hcalls | ⟨decoder, pcm, ok, ho, -, -, hframes, -, hlen, hcalls⟩ := hcalls
    · rw [hcalls]
      exact h
    · rw [hcalls, followAll_snoc h, ho]
      exact if_pos ⟨hframes, hlen⟩

/-- What a call adds to the record. -/
def newCalls (p : AudioPipeline δ (LoggedSink κ)) (i : PipelineCall) : List SinkCall :=
  (p.call i).calls.drop p.calls.length

/-- Every write is of the frame decoded in that call, and the frame has the format the sink
    was last opened with. -/
def WritesDecoded (p : AudioPipeline δ (LoggedSink κ)) (i : PipelineCall) : Prop :=
  ∀ samples frames ok, .wrote samples frames ok ∈ p.newCalls i →
    ∃ packet decoder pcm, i = .push packet ∧ p.decoder = some decoder ∧
      (AlacDecoder.decode decoder packet).1 = some pcm ∧ samples = pcm.samples ∧
      frames = pcm.frames.toNat ∧
      followAll p.calls = some (some ⟨pcm.sampleRate, pcm.channels, pcm.bitsPerSample⟩)

theorem writesDecoded {p : AudioPipeline δ (LoggedSink κ)} (h : p.InContract) (i : PipelineCall) :
    p.WritesDecoded i := by
  intro samples frames ok hwrote
  cases i with
  | reset =>
    have hnew : p.newCalls .reset = if p.opened then [.closed] else [] := by
      rw [newCalls, call, calls_reset h, List.drop_left]
    rw [hnew] at hwrote
    split at hwrote <;> simp at hwrote
  | configure config =>
    have hreset : p.reset.calls.drop p.calls.length = if p.opened then [.closed] else [] := by
      rw [calls_reset h, List.drop_left]
    have hle : p.calls.length ≤ p.reset.calls.length := by
      rw [calls_reset h, List.length_append]
      omega
    rw [newCalls, call] at hwrote
    obtain hsame | ⟨hcalls, -⟩ | ⟨format, ok', hcalls, -, -⟩ := p.configure_spec config
    · rw [hsame, List.drop_length] at hwrote
      cases hwrote
    · rw [hcalls, hreset] at hwrote
      split at hwrote <;> simp at hwrote
    · rw [hcalls, List.drop_append_of_le_length hle, hreset] at hwrote
      split at hwrote <;> simp at hwrote
  | push packet =>
    rw [newCalls, call] at hwrote
    obtain ⟨-, -, hcalls | ⟨decoder, pcm, ok', ho, hdecoder, hdecode, -, hformat, -, hcalls⟩⟩ :=
      p.push_spec packet
    · rw [hcalls, List.drop_length] at hwrote
      cases hwrote
    · rw [hcalls, List.drop_left, List.mem_singleton] at hwrote
      obtain ⟨rfl, rfl, -⟩ := SinkCall.wrote.inj hwrote
      refine ⟨packet, decoder, pcm, rfl, hdecoder, hdecode, rfl, rfl, ?_⟩
      rw [h, ho, ← hformat]
      rfl

/-- **The sink is used within its contract.** For every decoder, every sink and every
    sequence of calls: the record of the calls made to the sink follows the contract,
    `opened` says whether it left the sink open, and the writes are of frames decoded for
    the format the sink was opened with. Destruction, a reset, leaves the sink closed. -/
theorem sink_contract (decoder : Option δ) (sink : Option κ) (is : List PipelineCall) :
    let p₀ : AudioPipeline δ (LoggedSink κ) :=
      { decoder := decoder, sink := sink.map fun k => { sink := k } }
    let p := run call p₀ is
    followAll p.calls = some (if p.opened then some p.format else none) ∧
      followAll p.reset.calls = some none ∧ Each call WritesDecoded p₀ is := by
  intro p₀ p
  have hstart : p₀.InContract := by
    have hempty : p₀.calls = [] := by
      cases sink <;> rfl
    rw [InContract, hempty]
    rfl
  have hall : ∀ pre, (run call p₀ pre).InContract := fun pre =>
    run_induction (fun q i hq => hq.call i) hstart pre
  refine ⟨hall is, (hall is).reset, ?_⟩
  intro pre i _
  exact writesDecoded (hall pre) i

end AudioPipeline
end AirPlay2
