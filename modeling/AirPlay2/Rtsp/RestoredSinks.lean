import AirPlay2.Rtsp.CallbackSink

/- The decoders and sinks of the repository can be used anew: whatever was called of a sink,
   after a close no call tells it from the sink as it was constructed, and an open that fails
   on that sink leaves it so (`repository_restores`). What a closed sink remembers differs:
   the null and the callback sink keep their format; the Apple sink keeps its format, too,
   and after an open that found no component also the ring it had made for it. -/
namespace AirPlay2
open Lib

/-! ## The callback sink -/

namespace CallbackAudioSink

variable {ε : Type*}

/-- What the callback answers does not depend on what the program has stored. -/
def Steady (callback : PcmWriteCallback ε) : Prop :=
  ∀ program program' samples frames format,
    (callback program samples frames format).1 = (callback program' samples frames format).1

/-- The same but for the program, and for the format of a closed sink. -/
structure Alike (k k' : CallbackAudioSink ε) : Prop where
  callback : k.callback = k'.callback
  opened : k.opened = k'.opened
  format : k.opened = true → k.format = k'.format
  steady : ∀ callback, k.callback = some callback → Steady callback

theorem Alike.openSink {k k' : CallbackAudioSink ε} (h : Alike k k') (format : PcmFormat) :
    (k.openSink format).1 = (k'.openSink format).1 ∧
      Alike (k.openSink format).2 (k'.openSink format).2 := by
  unfold CallbackAudioSink.openSink
  rw [← h.callback]
  split
  · exact ⟨rfl, h⟩
  · exact ⟨rfl, rfl, rfl, fun _ => rfl, h.steady⟩

theorem Alike.write {k k' : CallbackAudioSink ε} (h : Alike k k') (samples : Option (List Int16))
    (frames : ℕ) :
    (k.write samples frames).1 = (k'.write samples frames).1 ∧
      Alike (k.write samples frames).2 (k'.write samples frames).2 := by
  obtain ⟨callback, program, format, opened⟩ := k
  obtain ⟨callback', program', format', opened'⟩ := k'
  obtain ⟨rfl, rfl, hformat, hsteady⟩ := h
  unfold CallbackAudioSink.write
  cases callback with
  | none => exact ⟨rfl, rfl, rfl, hformat, hsteady⟩
  | some callback =>
    dsimp only
    split
    · exact ⟨rfl, rfl, rfl, hformat, hsteady⟩
    · rename_i hready
      have hopened : opened = true := by
        cases opened with
        | true => rfl
        | false => simp at hready
      obtain rfl := hformat hopened
      exact ⟨hsteady callback rfl _ _ _ _ _, rfl, rfl, fun _ => rfl, hsteady⟩

theorem Alike.same {k k' : CallbackAudioSink ε} (h : Alike k k') : AudioSink.Same k k' := by
  refine indistinguishable_of_bisimulation (R := Alike) ?_ h
  intro k k' c h
  cases c with
  | openSink format =>
    obtain ⟨hok, hnext⟩ := h.openSink format
    exact ⟨congrArg some hok, hnext⟩
  | write samples frames =>
    obtain ⟨hok, hnext⟩ := h.write (some samples) frames
    exact ⟨congrArg some hok, hnext⟩
  | closeSink => exact ⟨rfl, h.callback, rfl, fun hopen => (by cases hopen), h.steady⟩

/-- No call changes the callback. -/
theorem callback_call (k : CallbackAudioSink ε) (c : AudioSink.Call) :
    (AudioSink.call k c).callback = k.callback := by
  cases c with
  | openSink format =>
    show (k.openSink format).2.callback = k.callback
    obtain h | ⟨-, h⟩ := k.openSink_cases format <;> rw [h]
  | write samples frames =>
    show (k.write (some samples) frames).2.callback = k.callback
    obtain ⟨program, h⟩ := k.write_eq (some samples) frames
    rw [h]
  | closeSink => rfl

theorem restores {k₀ : CallbackAudioSink ε} (hclosed : k₀.opened = false)
    (hsteady : ∀ callback, k₀.callback = some callback → Steady callback) :
    AudioSink.Restores k₀ := by
  intro k hk
  have hcallback : k.callback = k₀.callback := by
    refine hk.induction (P := fun k => k.callback = k₀.callback) ?_ rfl
    intro k c h
    rw [callback_call, h]
  exact Alike.same ⟨hcallback, hclosed.symm, fun hopen => (by cases hopen), hcallback ▸ hsteady⟩

/-- An open that fails changes nothing. -/
theorem opensCleanly (k₀ : CallbackAudioSink ε) : AudioSink.OpensCleanly k₀ := by
  intro format hfails
  replace hfails : (k₀.openSink format).1 = false := hfails
  show AudioSink.Same (k₀.openSink format).2 k₀
  obtain h | ⟨-, h⟩ := k₀.openSink_cases format
  · rw [h]
    exact .refl k₀
  · rw [h] at hfails
    cases hfails

end CallbackAudioSink

/-! ## The Apple sink -/

/-- An Apple sink where AudioToolbox answers every open of a format alike. -/
structure AppleDevice where
  sink : AppleAudioSink := {}
  toolbox : PcmFormat → AudioToolbox

namespace AppleDevice

instance : AudioSink AppleDevice where
  openSink k format :=
    ((k.sink.openSink format (k.toolbox format)).1,
      { k with sink := (k.sink.openSink format (k.toolbox format)).2 })
  closeSink k := { k with sink := k.sink.close }
  write k samples frames :=
    ((k.sink.write (some samples) frames).1,
      { k with sink := (k.sink.write (some samples) frames).2 })

/-- A format that is not taken leaves the sink closed. -/
theorem openSink_refused (k : AppleDevice) {format : PcmFormat}
    (h : AppleAudioSink.accepts format = false) :
    AudioSink.openSink k format = (false, { k with sink := k.sink.close }) := by
  have hrefused : k.sink.openSink format (k.toolbox format) = (false, k.sink.close) := by
    simp only [AppleAudioSink.openSink, h, Bool.not_false, if_true]
  show ((k.sink.openSink format (k.toolbox format)).1,
    { k with sink := (k.sink.openSink format (k.toolbox format)).2 }) = _
  rw [hrefused]

theorem write_closed {k : AppleDevice} (h : k.sink.opened = false) (samples : List Int16)
    (frames : ℕ) : AudioSink.write k samples frames = (false, k) := by
  have hrefused : k.sink.write (some samples) frames = (false, k.sink) := by
    simp only [AppleAudioSink.write, h, Bool.not_false, Bool.true_or, if_true]
  show ((k.sink.write (some samples) frames).1,
    { k with sink := (k.sink.write (some samples) frames).2 }) = _
  rw [hrefused]

/-- The same but for what a closed sink holds. -/
structure Alike (k k' : AppleDevice) : Prop where
  toolbox : k.toolbox = k'.toolbox
  sink : k.sink = k'.sink ∨ k.sink.opened = false ∧ k'.sink.opened = false

/-- An open begins with a close, and then writes the format before it reads it. -/
theorem Alike.openSink {k k' : AppleDevice} (h : Alike k k') (format : PcmFormat) :
    (AudioSink.openSink k format).1 = (AudioSink.openSink k' format).1 ∧
      Alike (AudioSink.openSink k format).2 (AudioSink.openSink k' format).2 := by
  cases haccepts : AppleAudioSink.accepts format with
  | false =>
    rw [k.openSink_refused haccepts, k'.openSink_refused haccepts]
    exact ⟨rfl, h.toolbox, Or.inr ⟨rfl, rfl⟩⟩
  | true =>
    obtain ⟨sink, toolbox⟩ := k
    obtain ⟨sink', toolbox'⟩ := k'
    obtain rfl : toolbox = toolbox' := h.toolbox
    have hsame : sink.openSink format (toolbox format) = sink'.openSink format (toolbox format) := by
      simp only [AppleAudioSink.openSink, haccepts, Bool.not_true, Bool.false_eq_true, if_false,
        AppleAudioSink.close]
    have hok := congrArg Prod.fst hsame
    have hnext := congrArg Prod.snd hsame
    exact ⟨hok, rfl, Or.inl hnext⟩

theorem Alike.write {k k' : AppleDevice} (h : Alike k k') (samples : List Int16) (frames : ℕ) :
    (AudioSink.write k samples frames).1 = (AudioSink.write k' samples frames).1 ∧
      Alike (AudioSink.write k samples frames).2 (AudioSink.write k' samples frames).2 := by
  obtain hsame | ⟨hclosed, hclosed'⟩ := h.sink
  · have heq : k = k' := by
      obtain ⟨sink, toolbox⟩ := k
      obtain ⟨sink', toolbox'⟩ := k'
      obtain rfl : sink = sink' := hsame
      obtain rfl : toolbox = toolbox' := h.toolbox
      rfl
    rw [heq]
    exact ⟨rfl, rfl, Or.inl rfl⟩
  · rw [write_closed hclosed, write_closed hclosed']
    exact ⟨rfl, h⟩

theorem Alike.same {k k' : AppleDevice} (h : Alike k k') : AudioSink.Same k k' := by
  refine indistinguishable_of_bisimulation (R := Alike) ?_ h
  intro k k' c h
  cases c with
  | openSink format =>
    obtain ⟨hok, hnext⟩ := h.openSink format
    exact ⟨congrArg some hok, hnext⟩
  | write samples frames =>
    obtain ⟨hok, hnext⟩ := h.write samples frames
    exact ⟨congrArg some hok, hnext⟩
  | closeSink => exact ⟨rfl, h.toolbox, Or.inr ⟨rfl, rfl⟩⟩

theorem restores {k₀ : AppleDevice} (hclosed : k₀.sink.opened = false) : AudioSink.Restores k₀ := by
  intro k hk
  have htoolbox : k.toolbox = k₀.toolbox := by
    refine hk.induction (P := fun k => k.toolbox = k₀.toolbox) ?_ rfl
    intro k c h
    cases c <;> exact h
  exact Alike.same ⟨htoolbox, Or.inr ⟨rfl, hclosed⟩⟩

/-- Also where no component is found and the ring is left behind. -/
theorem opensCleanly {k₀ : AppleDevice} (hclosed : k₀.sink.opened = false) :
    AudioSink.OpensCleanly k₀ := by
  intro format hfails
  exact Alike.same ⟨rfl, Or.inr ⟨(k₀.sink.opened_openSink format _).trans hfails, hclosed⟩⟩

end AppleDevice

/-- **The decoders and sinks of the repository can be used anew.** Whatever was called of a
    decoder, a reset goes back to the one constructed, and so does a close of a sink; an open
    that fails on a sink as it was constructed leaves it so. -/
theorem repository_restores {l ε : Type*} [AlacLibrary l] :
    (AlacDecoder.Restores (SoftwareAlacDecoder.new : SoftwareAlacDecoder l) ∧
      AlacDecoder.Restores ({} : NullAlacDecoder)) ∧
    (∀ k : NullAudioSink, k.opened = false →
      AudioSink.Restores k ∧ AudioSink.OpensCleanly k) ∧
    (∀ k : CallbackAudioSink ε, k.opened = false →
      (∀ callback, k.callback = some callback → CallbackAudioSink.Steady callback) →
      AudioSink.Restores k ∧ AudioSink.OpensCleanly k) ∧
    ∀ k : AppleDevice, k.sink.opened = false →
      AudioSink.Restores k ∧ AudioSink.OpensCleanly k := by
  refine ⟨⟨SoftwareAlacDecoder.restores, NullAlacDecoder.restores⟩, ?_, ?_, ?_⟩
  · intro k hclosed
    exact ⟨NullAudioSink.restores hclosed, k.opensCleanly⟩
  · intro k hclosed hsteady
    exact ⟨CallbackAudioSink.restores hclosed hsteady, k.opensCleanly⟩
  · intro k hclosed
    exact ⟨AppleDevice.restores hclosed, AppleDevice.opensCleanly hclosed⟩

end AirPlay2
