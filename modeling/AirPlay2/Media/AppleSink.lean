import AirPlay2.Lib.BigEndian
import AirPlay2.Lib.Ring
import AirPlay2.Media.Alac

/- The Apple audio sink (`apple_audio_sink.cpp`): samples written by the pipeline wait in
   a ring of two seconds for the render callback of the audio unit. Both run under one
   mutex, so a run is a list of writes and renders. What the AudioToolbox calls of `open`
   return is an input. The ring is a queue (`refines_fifo`): every sample of an accepted
   write is rendered once and in order, or still held. -/
namespace AirPlay2
open Lib

/-- What the AudioToolbox calls made by one `open` return: whether a component is found
    and an instance made, and whether the calls that set it up and start it succeed. -/
structure AudioToolbox where
  component : Bool
  setFormat : Bool
  setCallback : Bool
  start : Bool
  deriving DecidableEq

/-- `AppleAudioSink::Impl`; `unit` says whether there is an audio unit. -/
structure AppleAudioSink extends CircularBuffer Int16 where
  unit : Bool := false
  format : PcmFormat := {}
  opened : Bool := false
  deriving DecidableEq

namespace AppleAudioSink

def close (s : AppleAudioSink) : AppleAudioSink :=
  { s with unit := false, ring := [], readPos := 0, writePos := 0, available := 0, opened := false }

/-- What `open` checks of a format. -/
def accepts (format : PcmFormat) : Bool :=
  !(format.channels == 0 || 8 < format.channels || format.sampleRate == 0 ||
    format.bitsPerSample != 16)

def openSink (s : AppleAudioSink) (format : PcmFormat) (os : AudioToolbox) :
    Bool × AppleAudioSink :=
  let s := s.close
  if !accepts format then (false, s)
  else
    let size := format.sampleRate.toNat * format.channels.toNat * 2
    let s := { s with format := format, ring := List.replicate size 0 }
    if !os.component then (false, s)
    else
      let s := { s with unit := true }
      if !os.setFormat || !os.setCallback || !os.start then (false, s.close)
      else (true, { s with opened := true })

/-- `write`; `samples` is `none` for a null pointer. `count` is a `std::size_t`. -/
def write (s : AppleAudioSink) (samples : Option (List Int16)) (frames : ℕ) :
    Bool × AppleAudioSink :=
  if !s.opened || (samples.isNone && frames ≠ 0) then (false, s)
  else
    let count := frames * s.format.channels.toNat % 2 ^ 64
    if s.ring.length - s.available < count then (false, s)
    else (true, { s with toCircularBuffer := s.store ((samples.getD []).take count) })

/-- A sample as it lies in memory, low byte first. -/
def sampleBytes (x : Int16) : Bytes := (toBytes 2 x.toUInt16.toNat).reverse

def requested (s : AppleAudioSink) (frames : UInt32) : ℕ := frames.toNat * s.format.channels.toNat

/-- `take` of `Impl::render`. -/
def taken (s : AppleAudioSink) (frames : UInt32) : ℕ := min (s.requested frames) s.available

/-- `Impl::render` into the buffers of the audio unit, each given by its bytes. -/
def render (s : AppleAudioSink) (frames : UInt32) (buffers : List Bytes) :
    List Bytes × AppleAudioSink :=
  if buffers.isEmpty then (buffers, s)
  else
    let requested := s.requested frames
    let take := s.taken frames
    let (samples, buffer) := s.fetch take
    let temp := samples ++ List.replicate (requested - take) 0
    let s := { s with toCircularBuffer := buffer }
    match buffers with
    | [data] => ([(temp.flatMap sampleBytes).take (min (requested * 2) data.length)], s)
    | _ => (buffers.map fun data => List.replicate data.length 0, s)

/-! ## Runs -/

/-- One critical section of the mutex. -/
inductive Step where
  | write (samples : Option (List Int16)) (frames : ℕ)
  | render (frames : UInt32) (data : Bytes)

def step (s : AppleAudioSink) : Step → AppleAudioSink
  | .write samples frames => (s.write samples frames).2
  | .render frames data => (s.render frames [data]).2

/-- What the callers see to: a block of samples is in memory and holds its frames, and the
    one buffer to render into is large enough. -/
def Step.Fits (channels : ℕ) : Step → Prop
  | .write samples frames =>
    ∀ block, samples = some block → block.length = frames * channels ∧ block.length < 2 ^ 63
  | .render frames data => frames.toNat * channels * 2 ≤ data.length

/-- The samples that went in with a step. -/
def given (s : AppleAudioSink) : Step → List Int16
  | .write samples frames => if (s.write samples frames).1 then samples.getD [] else []
  | .render _ _ => []

/-- The sample two bytes of memory hold. -/
def sampleOf (low high : UInt8) : Int16 := (high.toUInt16 <<< 8 ||| low.toUInt16).toInt16

def samplesOf : Bytes → List Int16
  | low :: high :: rest => sampleOf low high :: samplesOf rest
  | _ => []

/-- The samples a step left in the buffer, before the padding of an underflow. -/
def rendered (s : AppleAudioSink) : Step → List Int16
  | .write _ _ => []
  | .render frames data =>
    (samplesOf ((s.render frames [data]).1.headD [])).take (s.taken frames)

/-! ## Samples in memory -/

theorem samplesOf_flatMap (xs : List Int16) : samplesOf (xs.flatMap sampleBytes) = xs := by
  induction xs with
  | nil => rfl
  | cons x xs ih =>
    obtain ⟨high, low, hbytes, -, hword⟩ := word16_of_bytes x.toUInt16
    have hsample : sampleBytes x = [low, high] := by
      rw [sampleBytes, hbytes]
      rfl
    rw [List.flatMap_cons, hsample, List.cons_append, List.cons_append, List.nil_append,
      samplesOf, ih, sampleOf, hword]
    rfl

@[simp] theorem length_flatMap_sampleBytes (xs : List Int16) :
    (xs.flatMap sampleBytes).length = xs.length * 2 := by
  induction xs with
  | nil => rfl
  | cons x xs ih =>
    rw [List.flatMap_cons, List.length_append, ih, sampleBytes, List.length_reverse,
      length_toBytes, List.length_cons]
    omega

/-! ## The open sink -/

/-- What holds of a sink from a successful `open` on: its ring is well formed and holds
    whole frames. -/
structure Ready (channels : ℕ) (s : AppleAudioSink) : Prop where
  wellFormed : s.WellFormed
  opened : s.opened = true
  channels_eq : s.format.channels.toNat = channels
  whole : channels ∣ s.available

/-- A sink is open after an `open` if and only if it succeeded. -/
theorem opened_openSink (s : AppleAudioSink) (format : PcmFormat) (os : AudioToolbox) :
    (s.openSink format os).2.opened = (s.openSink format os).1 := by
  unfold openSink
  dsimp only
  split_ifs
  · rfl
  · rfl
  · rfl
  · rfl

theorem ready_openSink {s : AppleAudioSink} {format : PcmFormat} {os : AudioToolbox}
    (h : (s.openSink format os).1 = true) :
    (s.openSink format os).2.Ready format.channels.toNat ∧
      (s.openSink format os).2.contents = [] := by
  unfold openSink at h ⊢
  dsimp only at h ⊢
  by_cases hformat : (!accepts format) = true
  · rw [if_pos hformat] at h
    cases h
  · rw [if_neg hformat] at h ⊢
    by_cases hcomponent : (!os.component) = true
    · rw [if_pos hcomponent] at h
      cases h
    · rw [if_neg hcomponent] at h ⊢
      by_cases hcalls : (!os.setFormat || !os.setCallback || !os.start) = true
      · rw [if_pos hcalls] at h
        cases h
      · rw [if_neg hcalls]
        refine ⟨⟨?_, rfl, rfl, Nat.dvd_zero _⟩, rfl⟩
        -- neither the rate nor the number of channels is zero
        apply CircularBuffer.wellFormed_empty
        intro hempty
        have hsize : format.sampleRate.toNat * format.channels.toNat * 2 = 0 := by
          simpa using congrArg List.length hempty
        simp only [accepts, Bool.not_not, Bool.not_eq_true, Bool.or_eq_false_iff,
          beq_eq_false_iff_ne] at hformat
        obtain ⟨⟨⟨hchannels, -⟩, hrate⟩, -⟩ := hformat
        have hc : format.channels.toNat ≠ 0 := fun hz => hchannels (UInt16.toNat_inj.mp hz)
        have hr : format.sampleRate.toNat ≠ 0 := fun hz => hrate (UInt32.toNat_inj.mp hz)
        rw [Nat.mul_eq_zero, Nat.mul_eq_zero] at hsize
        omega

/-- A write either finds room, and its samples go to the end of the queue, or changes
    nothing. -/
theorem write_spec {channels : ℕ} {s : AppleAudioSink} (h : s.Ready channels)
    {samples : Option (List Int16)} {frames : ℕ} (hfits : (Step.write samples frames).Fits channels) :
    ((s.write samples frames).1 = false ∧ (s.write samples frames).2 = s) ∨
      ((s.write samples frames).1 = true ∧ (s.write samples frames).2.Ready channels ∧
        (s.write samples frames).2.contents = s.contents ++ samples.getD []) := by
  unfold write
  rw [h.opened]
  by_cases hnull : (!true || (samples.isNone && decide (frames ≠ 0))) = true
  · rw [if_pos hnull]
    exact Or.inl ⟨rfl, rfl⟩
  · rw [if_neg hnull]
    have hcount : (samples.getD []).length = frames * s.format.channels.toNat % 2 ^ 64 := by
      rw [h.channels_eq]
      cases samples with
      | none =>
        have hzero : frames = 0 := by simpa using hnull
        rw [hzero, Nat.zero_mul]
        rfl
      | some block =>
        obtain ⟨hlen, hmemory⟩ := hfits block rfl
        rw [← hlen, Nat.mod_eq_of_lt (by omega)]
        rfl
    have hwhole : channels ∣ (samples.getD []).length := by
      cases samples with
      | none => exact Nat.dvd_zero _
      | some block =>
        show channels ∣ block.length
        rw [(hfits block rfl).1]
        exact Nat.dvd_mul_left _ _
    dsimp only
    rw [← hcount, List.take_length]
    by_cases hroom : s.ring.length - s.available < (samples.getD []).length
    · rw [if_pos hroom]
      exact Or.inl ⟨rfl, rfl⟩
    · rw [if_neg hroom]
      have hle := h.wellFormed.available_le
      obtain ⟨hcontents, hwf, -⟩ := CircularBuffer.contents_store h.wellFormed (samples.getD [])
        (by omega)
      exact Or.inr ⟨rfl, ⟨hwf, rfl, h.channels_eq, Nat.dvd_add h.whole hwhole⟩, hcontents⟩

/-- A render takes whole frames off the front of the queue and pads them with silence. -/
theorem render_spec {channels : ℕ} {s : AppleAudioSink} (h : s.Ready channels) {frames : UInt32}
    {data : Bytes} (hfits : (Step.render frames data).Fits channels) :
    channels ∣ s.taken frames ∧
      samplesOf ((s.render frames [data]).1.headD []) = s.contents.take (s.taken frames) ++
        List.replicate (s.requested frames - s.taken frames) 0 ∧
      (s.render frames [data]).2.Ready channels ∧
      (s.render frames [data]).2.contents = s.contents.drop (s.taken frames) := by
  have hle : s.taken frames ≤ s.available := Nat.min_le_right _ _
  have hrequested : channels ∣ s.requested frames := by
    rw [requested, h.channels_eq]
    exact Nat.dvd_mul_left _ _
  have hwhole : channels ∣ s.taken frames := by
    obtain hmin | hmin := Nat.le_total (s.requested frames) s.available
    · rwa [taken, Nat.min_eq_left hmin]
    · rw [taken, Nat.min_eq_right hmin]
      exact h.whole
  obtain ⟨hcells, hcontents, hwf, -⟩ := CircularBuffer.contents_fetch h.wellFormed hle
  have hlength : (s.contents.take (s.taken frames) ++
      List.replicate (s.requested frames - s.taken frames) 0).length = s.requested frames := by
    have hmin : s.taken frames ≤ s.requested frames := Nat.min_le_left _ _
    rw [List.length_append, List.length_take, CircularBuffer.length_contents,
      List.length_replicate]
    omega
  -- the buffer holds all that is copied
  have hcopied : s.requested frames * 2 ≤ data.length := by
    rw [requested, h.channels_eq]
    exact hfits
  refine ⟨hwhole, ?_, ⟨hwf, h.opened, h.channels_eq, ?_⟩, hcontents⟩
  · show samplesOf ((((s.fetch (s.taken frames)).1 ++
      List.replicate (s.requested frames - s.taken frames) 0).flatMap sampleBytes).take
        (min (s.requested frames * 2) data.length)) = _
    rw [hcells, Nat.min_eq_left hcopied, List.take_of_length_le
      (by rw [length_flatMap_sampleBytes, hlength]), samplesOf_flatMap]
  · exact Nat.dvd_sub h.whole hwhole

theorem step_ready {channels : ℕ} (s : AppleAudioSink) (i : Step) (h : s.Ready channels)
    (hfits : i.Fits channels) : (step s i).Ready channels := by
  cases i with
  | write samples frames =>
    obtain ⟨-, hsame⟩ | ⟨-, hready, -⟩ := write_spec h hfits
    · rw [step, hsame]
      exact h
    · exact hready
  | render frames data => exact (render_spec h hfits).2.2.1

/-- What a step lets out, then what is held, is what was held, then what the step lets in. -/
theorem step_fifo {channels : ℕ} (s : AppleAudioSink) (i : Step) (h : s.Ready channels)
    (hfits : i.Fits channels) :
    s.rendered i ++ (step s i).contents = s.contents ++ s.given i := by
  cases i with
  | write samples frames =>
    rw [rendered, given, List.nil_append, step]
    obtain ⟨hrefused, hsame⟩ | ⟨haccepted, -, hcontents⟩ := write_spec h hfits
    · rw [hrefused, hsame, if_neg (by decide), List.append_nil]
    · rw [haccepted, hcontents, if_pos rfl]
  | render frames data =>
    obtain ⟨-, hbuffer, -, hcontents⟩ := render_spec h hfits
    have hlen : (s.contents.take (s.taken frames)).length = s.taken frames := by
      have hle : s.taken frames ≤ s.available := Nat.min_le_right _ _
      rw [List.length_take, CircularBuffer.length_contents, Nat.min_eq_left hle]
    rw [rendered, given, step, hbuffer, hcontents, List.take_left' hlen, List.take_append_drop,
      List.append_nil]

/-! ## Whole runs -/

/-- A refused write changes nothing; a render takes whole frames, the oldest that are held,
    and pads them with silence. -/
def Orderly (channels : ℕ) (s : AppleAudioSink) : Step → Prop
  | .write samples frames =>
    (s.write samples frames).1 = false → (s.write samples frames).2 = s
  | .render frames data =>
    channels ∣ s.taken frames ∧
      samplesOf ((s.render frames [data]).1.headD []) = s.contents.take (s.taken frames) ++
        List.replicate (s.requested frames - s.taken frames) 0

theorem orderly_of_ready {channels : ℕ} {s : AppleAudioSink} {i : Step} (h : s.Ready channels)
    (hfits : i.Fits channels) : Orderly channels s i := by
  cases i with
  | write samples frames =>
    intro hrefused
    obtain ⟨-, hsame⟩ | ⟨haccepted, -⟩ := write_spec h hfits
    · exact hsame
    · rw [hrefused] at haccepted
      cases haccepted
  | render frames data =>
    obtain ⟨hwhole, hbuffer, -⟩ := render_spec h hfits
    exact ⟨hwhole, hbuffer⟩

/-- **The ring is a queue.** In every run of writes and renders of a sink that was opened,
    what was rendered before the padding, then what is held, are the samples of the
    accepted writes in order. The count never passes the size of the ring and is what the
    two indices say, refused writes change nothing and renders take whole frames. -/
theorem refines_fifo (s₀ : AppleAudioSink) (format : PcmFormat) (os : AudioToolbox)
    (hopen : (s₀.openSink format os).1 = true) (steps : List Step)
    (hfits : ∀ i ∈ steps, i.Fits format.channels.toNat) :
    let s := (s₀.openSink format os).2
    let final := run step s steps
    (observations step rendered s steps).flatten ++ final.contents =
        (observations step given s steps).flatten ∧
      final.available ≤ final.ring.length ∧
      final.available = (if final.available = final.ring.length then final.ring.length
        else (final.writePos + final.ring.length - final.readPos) % final.ring.length) ∧
      Each step (Orderly format.channels.toNat) s steps := by
  intro s final
  obtain ⟨hready, hempty⟩ := ready_openSink hopen
  have hall : ∀ pre, pre <+: steps → (run step s pre).Ready format.channels.toNat := by
    intro pre hp
    apply run_induction_along hready
    intro t i hi ht
    exact step_ready t i ht (hfits i (hp.subset hi))
  have hfinal := (hall steps (List.prefix_refl _)).wellFormed
  refine ⟨?_, hfinal.available_le, hfinal.available_eq, ?_⟩
  · have hfifo := fifo_run (fun t => t.contents) rendered given (fun t i ht hi => step_ready t i ht hi)
      (fun t i ht hi => step_fifo t i ht hi) hready hfits
    rw [hempty, List.nil_append] at hfifo
    exact hfifo
  · intro pre i hp
    exact orderly_of_ready (hall pre (prefix_of_snoc hp)) (hfits i (hp.subset (by simp)))

/-- Calls of the audio toolbox that all succeed. -/
def allSucceed : AudioToolbox := ⟨true, true, true, true⟩

/-- One frame a second in mono: a ring of two samples. A write wraps after an underflow. -/
theorem refines_fifo_wraps :
    let s := (({} : AppleAudioSink).openSink ⟨1, 1, 16⟩ allSucceed).2
    (observations step rendered s [.write (some [7]) 1, .render 2 [0, 0, 0, 0],
        .write (some [8, 9]) 2]).flatten ++
      (run step s [.write (some [7]) 1, .render 2 [0, 0, 0, 0], .write (some [8, 9]) 2]).contents =
        (observations step given s [.write (some [7]) 1, .render 2 [0, 0, 0, 0],
          .write (some [8, 9]) 2]).flatten := by
  have hfits : ∀ i ∈ [Step.write (some [7]) 1, .render 2 [0, 0, 0, 0], .write (some [8, 9]) 2],
      i.Fits 1 := by
    simp [Step.Fits]
  exact (refines_fifo {} ⟨1, 1, 16⟩ allSucceed (by decide) _ hfits).1

end AppleAudioSink
end AirPlay2
