import AirPlay2.Rtsp.Fresh

/- What is seen of an event: the answer to a request, what the pipeline and the
   application are given, and the pipeline after it. Alike sessions show alike
   observations, and so do whole runs of them (`like_step`). -/
namespace AirPlay2
open Lib

/-- A request's answer, what the pipeline and the application get, and the pipeline
    after the event. -/
structure Observation (δ κ : Type*) where
  answer : Option (RtspRequest × Except StdException RtspResponse)
  toPipeline : List RtpPacket
  toHandler : List RtpPacket
  pipeline : Option (AlacAudioPipeline δ κ)

/-- The same but for port numbers in a SETUP answer, and with alike pipelines. -/
structure Observation.Like {δ κ : Type*} [AlacDecoder δ] [AudioSink κ]
    (o o' : Observation δ κ) : Prop where
  answer : Option.Rel (fun a a' => a.1 = a'.1 ∧ LikeResults a.1 a.2 a'.2) o.answer o'.answer
  toPipeline : o.toPipeline = o'.toPipeline
  toHandler : o.toHandler = o'.toHandler
  pipeline : Option.Rel AlacAudioPipeline.Like o.pipeline o'.pipeline

/-- The status of the answer. -/
def Observation.status {δ κ : Type*} (o : Observation δ κ) : Option ℤ :=
  o.answer.bind fun a =>
    match a.2 with
    | .ok y => some y.status
    | .error _ => none

theorem SetupAnswer.render_status {a : SetupAnswer} {r : RtspRequest} {y : RtspResponse}
    (h : a.render r = .ok y) : y.status = 200 := by
  cases a with
  | info event timing host =>
    cases host with
    | none =>
      obtain rfl := Except.ok.inj h
      rfl
    | some host =>
      simp only [render] at h
      split at h
      · cases h
      · obtain rfl := Except.ok.inj h
        rfl
  | stream data control type =>
    obtain rfl := Except.ok.inj h
    rfl
  | transport t =>
    obtain rfl := Except.ok.inj h
    rfl

/-- Alike answers have one status. -/
theorem Observation.Like.status {δ κ : Type*} [AlacDecoder δ] [AudioSink κ]
    {o o' : Observation δ κ} (h : o.Like o') : o.status = o'.status := by
  have hanswer := h.answer
  unfold Observation.status
  generalize o.answer = a at hanswer
  generalize o'.answer = a' at hanswer
  cases hanswer with
  | none => rfl
  | some hx =>
    obtain ⟨hr, hx⟩ := hx
    have hcases := hx.cases
    simp only [Option.bind_some]
    obtain hsame | ⟨b, b', -, hb, hb'⟩ := hx
    · rw [hsame]
    · obtain ⟨what, hy, hy'⟩ | ⟨y, y', hy, hy'⟩ := hcases
      · rw [hy, hy']
      · rw [hy, hy']
        have h200 := SetupAnswer.render_status (hb.symm.trans hy)
        have h200' := SetupAnswer.render_status (hb'.symm.trans hy')
        simp only [h200, h200']

/-- The same event, the socket calls of a request succeeding on both sides. -/
inductive SessionEvent.Like {δ κ : Type*} : SessionEvent δ κ → SessionEvent δ κ → Prop where
  | request (r : RtspRequest) {e e' : Sockets} :
    e.succeed = true → e'.succeed = true → Like (.request r e) (.request r e')
  | datagram (bytes : Bytes) : Like (.datagram bytes) (.datagram bytes)
  | setMediaPacketHandler (installed : Bool) :
    Like (.setMediaPacketHandler installed) (.setMediaPacketHandler installed)
  | setAlacAudioPipeline (pipeline : Option (AlacAudioPipeline δ κ)) :
    Like (.setAlacAudioPipeline pipeline) (.setAlacAudioPipeline pipeline)

/-- Alike sessions, or processes that died of the same exception. -/
def Process.Like {δ κ : Type*} [AlacDecoder δ] [AudioSink κ] :
    Process δ κ → Process δ κ → Prop
  | .ok s, .ok t => s.Like t
  | .error what, .error what' => what = what'
  | _, _ => False

namespace RtspSession

variable {δ κ : Type*} [AlacDecoder δ] [AudioSink κ]

def observe (s : RtspSession δ κ) (event : SessionEvent δ κ) : Observation δ κ :=
  { answer :=
      match event with
      | .request r e => some (r, (s.handle e r).1)
      | _ => none
    toPipeline := s.toPipeline event
    toHandler := s.toHandler event
    pipeline :=
      match s.step event with
      | .ok s' => s'.alacAudioPipeline
      | .error _ => none }

/-- Alike sessions stay alike, or die alike. -/
theorem like_step {s t : RtspSession δ κ} (h : Like s t) {event event' : SessionEvent δ κ}
    (he : event.Like event') : Process.Like (s.step event) (t.step event') := by
  cases he with
  | request r hs ht =>
    obtain ⟨hresults, hlike⟩ := like_handle h hs ht r
    rename_i e e'
    cases hx : s.handle e r with
    | mk x s' =>
      cases hx' : t.handle e' r with
      | mk x' t' =>
        rw [hx, hx'] at hresults hlike
        simp only [RtspSession.step, hx, hx']
        obtain ⟨what, rfl, rfl⟩ | ⟨y, y', rfl, rfl⟩ := hresults.cases
        · rfl
        · exact hlike
  | datagram bytes => exact like_deliver h bytes
  | setMediaPacketHandler installed =>
    exact ({ h with mediaPacketHandler := rfl } :
      Like ({ s with mediaPacketHandler := installed } : RtspSession δ κ)
        { t with mediaPacketHandler := installed })
  | setAlacAudioPipeline pipeline => exact like_setAlacAudioPipeline h pipeline

theorem like_toPipeline {s t : RtspSession δ κ} (h : Like s t) {event event' : SessionEvent δ κ}
    (he : event.Like event') : s.toPipeline event = t.toPipeline event' := by
  have hsome : s.alacAudioPipeline.isSome = t.alacAudioPipeline.isSome := rel_isSome h.pipeline
  have harriving : s.arriving event = t.arriving event' := by
    cases he with
    | datagram bytes => simp only [arriving, h.media.live, h.recording]
    | request r hs ht => rfl
    | setMediaPacketHandler installed => rfl
    | setAlacAudioPipeline pipeline => rfl
  unfold toPipeline handed
  rw [hsome, harriving, h.jitterBuffer]

theorem like_toHandler {s t : RtspSession δ κ} (h : Like s t) {event event' : SessionEvent δ κ}
    (he : event.Like event') : s.toHandler event = t.toHandler event' := by
  cases he with
  | datagram bytes =>
    simp only [toHandler, h.media.live]
    split
    · cases receive bytes with
      | none => rfl
      | some p => exact (like_handleMediaPacket h p).1
    · rfl
  | request r hs ht => rfl
  | setMediaPacketHandler installed => rfl
  | setAlacAudioPipeline pipeline => rfl

theorem like_observe {s t : RtspSession δ κ} (h : Like s t) {event event' : SessionEvent δ κ}
    (he : event.Like event') : (s.observe event).Like (t.observe event') := by
  refine ⟨?_, like_toPipeline h he, like_toHandler h he, ?_⟩
  · cases he with
    | request r hs ht => exact .some ⟨rfl, (like_handle h hs ht r).1⟩
    | datagram bytes => exact .none
    | setMediaPacketHandler installed => exact .none
    | setAlacAudioPipeline pipeline => exact .none
  · have hnext := like_step h he
    unfold observe
    dsimp only
    cases hs : s.step event with
    | error what =>
      rw [hs] at hnext
      cases ht : t.step event' with
      | error what' => exact .none
      | ok t' => rw [ht] at hnext; exact hnext.elim
    | ok s' =>
      rw [hs] at hnext
      cases ht : t.step event' with
      | error what' => rw [ht] at hnext; exact hnext.elim
      | ok t' =>
        rw [ht] at hnext
        exact RtspSession.Like.pipeline hnext

end RtspSession

namespace Process

variable {δ κ : Type*} [AlacDecoder δ] [AudioSink κ]

/-- Nothing is seen of a process that died. -/
def observe : Process δ κ → SessionEvent δ κ → Option (Observation δ κ)
  | .error _, _ => none
  | .ok s, event => some (s.observe event)

theorem like_step {p p' : Process δ κ} (h : p.Like p') {event event' : SessionEvent δ κ}
    (he : event.Like event') :
    Option.Rel Observation.Like (p.observe event) (p'.observe event') ∧
      (p.step event).Like (p'.step event') := by
  cases p with
  | error what =>
    cases p' with
    | error what' => exact ⟨.none, h⟩
    | ok t => exact h.elim
  | ok s =>
    cases p' with
    | error what' => exact h.elim
    | ok t => exact ⟨.some (RtspSession.like_observe h he), RtspSession.like_step h he⟩

end Process
end AirPlay2
