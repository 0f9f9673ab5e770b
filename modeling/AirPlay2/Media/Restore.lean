import AirPlay2.Lib.Simulation
import AirPlay2.Media.AlacCookie
import AirPlay2.Media.AppleSink

/- Decoders and sinks that can be used anew. A closed sink may still hold the format it
   was opened with, which nothing it returns depends on. So states are compared by what
   calls can tell of them (`AudioSink.Same`): a sink restores its initial state if it
   cannot be told from it after a close, whatever was called before, and it opens cleanly
   if an open that fails there cannot be told from none. -/
namespace AirPlay2
open Lib

/-! ## Decoders -/

namespace AlacDecoder

inductive Call where
  | configure (config : AlacConfig)
  | decode (packet : Bytes)
  | reset

/-- What a call returns. -/
inductive Returned where
  | configured (ok : Bool)
  | decoded (pcm : Option PcmAudioFrame)
  | nothing

variable {δ : Type*} [AlacDecoder δ]

def call (d : δ) : Call → δ
  | .configure config => (AlacDecoder.configure d config).2
  | .decode packet => (AlacDecoder.decode d packet).2
  | .reset => AlacDecoder.reset d

def returned (d : δ) : Call → Returned
  | .configure config => .configured (AlacDecoder.configure d config).1
  | .decode packet => .decoded (AlacDecoder.decode d packet).1
  | .reset => .nothing

/-- No calls tell the decoders apart. -/
def Same (d d' : δ) : Prop := Indistinguishable call returned d d'

/-- After whatever calls, a reset goes back to the initial state. -/
def Restores (d₀ : δ) : Prop := ∀ d, Reached call d₀ d → Same (AlacDecoder.reset d) d₀

namespace Same

variable {d d' : δ}

theorem configure (h : Same d d') (config : AlacConfig) :
    (AlacDecoder.configure d config).1 = (AlacDecoder.configure d' config).1 ∧
      Same (AlacDecoder.configure d config).2 (AlacDecoder.configure d' config).2 :=
  ⟨Returned.configured.inj (h.observe_eq (.configure config)), h.next (.configure config)⟩

theorem decode (h : Same d d') (packet : Bytes) :
    (AlacDecoder.decode d packet).1 = (AlacDecoder.decode d' packet).1 ∧
      Same (AlacDecoder.decode d packet).2 (AlacDecoder.decode d' packet).2 :=
  ⟨Returned.decoded.inj (h.observe_eq (.decode packet)), h.next (.decode packet)⟩

theorem reset (h : Same d d') : Same (AlacDecoder.reset d) (AlacDecoder.reset d') := h.next .reset

end Same

/-- A decoder all of whose resets give one state. -/
theorem restores_of_reset_eq {d₀ : δ} (h : ∀ d : δ, AlacDecoder.reset d = d₀) : Restores d₀ := by
  intro d _
  rw [h d]
  exact .refl d₀

end AlacDecoder

/-! ## Sinks -/

namespace AudioSink

inductive Call where
  | openSink (format : PcmFormat)
  | write (samples : List Int16) (frames : ℕ)
  | closeSink

variable {κ : Type*} [AudioSink κ]

def call (k : κ) : Call → κ
  | .openSink format => (AudioSink.openSink k format).2
  | .write samples frames => (AudioSink.write k samples frames).2
  | .closeSink => AudioSink.closeSink k

/-- What a call returns; `close` returns nothing. -/
def returned (k : κ) : Call → Option Bool
  | .openSink format => some (AudioSink.openSink k format).1
  | .write samples frames => some (AudioSink.write k samples frames).1
  | .closeSink => none

/-- No calls tell the sinks apart. -/
def Same (k k' : κ) : Prop := Indistinguishable call returned k k'

/-- After whatever calls, a close goes back to the initial state. -/
def Restores (k₀ : κ) : Prop := ∀ k, Reached call k₀ k → Same (AudioSink.closeSink k) k₀

/-- An open that fails in the initial state leaves the sink there. -/
def OpensCleanly (k₀ : κ) : Prop :=
  ∀ format, (AudioSink.openSink k₀ format).1 = false → Same (AudioSink.openSink k₀ format).2 k₀

namespace Same

variable {k k' : κ}

theorem openSink (h : Same k k') (format : PcmFormat) :
    (AudioSink.openSink k format).1 = (AudioSink.openSink k' format).1 ∧
      Same (AudioSink.openSink k format).2 (AudioSink.openSink k' format).2 :=
  ⟨Option.some.inj (h.observe_eq (.openSink format)), h.next (.openSink format)⟩

theorem write (h : Same k k') (samples : List Int16) (frames : ℕ) :
    Same (AudioSink.write k samples frames).2 (AudioSink.write k' samples frames).2 :=
  h.next (.write samples frames)

theorem closeSink (h : Same k k') : Same (AudioSink.closeSink k) (AudioSink.closeSink k') :=
  h.next .closeSink

end Same
end AudioSink

/-! ## The decoders of the repository -/

theorem NullAlacDecoder.restores : AlacDecoder.Restores ({} : NullAlacDecoder) :=
  AlacDecoder.restores_of_reset_eq fun _ => rfl

/-- Whatever the ALAC library does: a reset makes a new one. -/
theorem SoftwareAlacDecoder.restores {l : Type*} [AlacLibrary l] :
    AlacDecoder.Restores (SoftwareAlacDecoder.new : SoftwareAlacDecoder l) :=
  AlacDecoder.restores_of_reset_eq fun _ => rfl

/-! ## The sinks of the repository -/

namespace NullAudioSink

/-- The same but for the format of a closed sink. -/
structure Alike (k k' : NullAudioSink) : Prop where
  opened : k.opened = k'.opened

theorem Alike.same {k k' : NullAudioSink} (h : Alike k k') : AudioSink.Same k k' := by
  refine indistinguishable_of_bisimulation (R := Alike) ?_ h
  intro k k' c h
  cases c with
  | openSink format => exact ⟨rfl, ⟨rfl⟩⟩
  | write samples frames => exact ⟨congrArg some h.opened, h⟩
  | closeSink => exact ⟨rfl, ⟨rfl⟩⟩

theorem restores {k₀ : NullAudioSink} (h : k₀.opened = false) : AudioSink.Restores k₀ := by
  intro k _
  exact Alike.same ⟨h.symm⟩

theorem opensCleanly (k₀ : NullAudioSink) : AudioSink.OpensCleanly k₀ := by
  intro format h
  cases h

end NullAudioSink
end AirPlay2
