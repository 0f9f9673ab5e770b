import AirPlay2.Rtsp.Ports

/- What the events of a session do to its audio pipeline. The session only ever
   resets it, offers it a config and pushes packets into it, so what these three
   operations keep, and every pipeline that is attached starts with, holds of the
   pipeline in every state of a run (`run_pipelineHolds`). -/
namespace AirPlay2
open Lib

namespace RtspSession

variable {δ κ : Type*} [AlacDecoder δ] [AudioSink κ]

/-- The attached pipeline, if there is one, satisfies `P`. -/
def PipelineHolds (P : AlacAudioPipeline δ κ → Prop) (s : RtspSession δ κ) : Prop :=
  ∀ p, s.alacAudioPipeline = some p → P p

section Rule

variable {P : AlacAudioPipeline δ κ → Prop} (hreset : ∀ p, P p → P p.reset)
  (hconfigure : ∀ p c, P p → P (p.configure c).2) (hpush : ∀ p q, P p → P (p.push q).2)

include hconfigure in
theorem configurePipeline_holds {s : RtspSession δ κ} (h : PipelineHolds P s) (p : AirPlaySdp) :
    PipelineHolds P (s.configurePipeline p).2 := by
  unfold configurePipeline
  split
  · rename_i pipeline c hpl hc
    intro q hq
    obtain rfl := Option.some.inj hq
    exact hconfigure _ _ (h pipeline hpl)
  · exact h

include hreset in
theorem map_reset_holds {s s' : RtspSession δ κ} (h : PipelineHolds P s)
    (hs : s'.alacAudioPipeline = s.alacAudioPipeline.map AlacAudioPipeline.reset) :
    PipelineHolds P s' := by
  intro q hq
  rw [hs] at hq
  obtain ⟨p, hp, rfl⟩ := Option.map_eq_some_iff.mp hq
  exact hreset p (h p hp)

include hpush in
theorem handleMediaPacket_holds {s : RtspSession δ κ} (h : PipelineHolds P s) (p : RtpPacket) :
    PipelineHolds P (s.handleMediaPacket p).2 := by
  have hpushes : ∀ (ordered : List RtpPacket) q, P q →
      P (ordered.foldl (fun pipeline packet => (pipeline.push packet).2) q) := by
    intro ordered
    induction ordered with
    | nil => exact fun _ hq => hq
    | cons packet rest ih => exact fun q hq => ih _ (hpush q packet hq)
  unfold handleMediaPacket
  split
  · exact h
  · split
    · exact h
    · intro q hq
      obtain ⟨old, hold, rfl⟩ := Option.map_eq_some_iff.mp hq
      exact hpushes _ _ (h old hold)

include hpush in
theorem deliver_holds {s : RtspSession δ κ} (h : PipelineHolds P s) (bytes : Bytes) :
    PipelineHolds P (s.deliver bytes) := by
  unfold deliver
  split
  · split
    · exact h
    · exact handleMediaPacket_holds hpush h _
  · exact h

include hconfigure in
theorem announce_holds {s : RtspSession δ κ} (h : PipelineHolds P s) (r : RtspRequest) :
    PipelineHolds P (s.announce r).2 := by
  unfold announce
  split
  · exact h
  · rename_i p hp
    split
    · exact h
    · have haudio := configurePipeline_holds hconfigure
        (s := { s with sdp := p, configured := true }) h p
      dsimp only
      split
      · exact haudio
      · unfold configureCrypto
        split
        · exact haudio
        · split <;> exact haudio

omit [AlacDecoder δ] [AudioSink κ] in
/-- SETUP leaves what plays and what was counted alone. -/
theorem setup_playback (s : RtspSession δ κ) (e : Sockets) (r : RtspRequest) :
    (s.setup e r).2.alacAudioPipeline = s.alacAudioPipeline ∧
      (s.setup e r).2.jitterBuffer = s.jitterBuffer ∧
      (s.setup e r).2.receivedPackets = s.receivedPackets ∧
      (s.setup e r).2.receivedBytes = s.receivedBytes := by
  unfold setup
  split
  · obtain ⟨control, timing, server, port, h⟩ := bindInfo_eq s.beginInfo e (usesPtp r.body)
    rw [setupInfo_after, h]
    split <;> exact ⟨rfl, rfl, rfl, rfl⟩
  · split
    · exact ⟨rfl, rfl, rfl, rfl⟩
    · split
      · exact ⟨rfl, rfl, rfl, rfl⟩
      · obtain ⟨control, timing, t, h⟩ := setupTransport_eq s e r
        rw [h]
        exact ⟨rfl, rfl, rfl, rfl⟩

include hreset hconfigure in
/-- A request never pushes. -/
theorem handle_holds {s : RtspSession δ κ} (h : PipelineHolds P s) (e : Sockets)
    (r : RtspRequest) : PipelineHolds P (s.handle e r).2 := by
  unfold handle
  cases r.verb with
  | announce => exact announce_holds hconfigure h r
  | setup =>
    intro p hp
    apply h p
    rw [← (setup_playback s e r).1]
    exact hp
  | record =>
    simp only [record]
    split <;> exact h
  | pause => exact map_reset_holds hreset h rfl
  | teardown => exact map_reset_holds hreset h rfl
  | options => exact h
  | flush => exact h
  | getParameter => exact h
  | setParameter => exact h
  | unknown => exact h

include hreset hconfigure hpush in
/-- What the operations of a pipeline keep and attached pipelines start with holds of
    the pipeline after every step. -/
theorem step_pipelineHolds {s s' : RtspSession δ κ} {event : SessionEvent δ κ}
    (h : PipelineHolds P s)
    (hattach : ∀ p, event = .setAlacAudioPipeline (some p) → P p)
    (hstep : s.step event = .ok s') : PipelineHolds P s' := by
  cases event with
  | request r e =>
    rw [step_handle hstep]
    exact handle_holds hreset hconfigure h e r
  | datagram bytes =>
    obtain rfl := Except.ok.inj hstep
    exact deliver_holds hpush h bytes
  | setMediaPacketHandler installed =>
    obtain rfl := Except.ok.inj hstep
    exact h
  | setAlacAudioPipeline pipeline =>
    obtain rfl := Except.ok.inj hstep
    have hnew : PipelineHolds P ({ s with alacAudioPipeline := pipeline } : RtspSession δ κ) := by
      intro p hp
      exact hattach p (congrArg SessionEvent.setAlacAudioPipeline hp)
    unfold setAlacAudioPipeline
    dsimp only
    split
    · exact configurePipeline_holds hconfigure hnew _
    · exact hnew

end Rule
end RtspSession

namespace Process

variable {δ κ : Type*} [AlacDecoder δ] [AudioSink κ]

def PipelineHolds (P : AlacAudioPipeline δ κ → Prop) (p : Process δ κ) : Prop :=
  ∀ s, p = .ok s → s.PipelineHolds P

theorem run_pipelineHolds {P : AlacAudioPipeline δ κ → Prop} (hreset : ∀ p, P p → P p.reset)
    (hconfigure : ∀ p c, P p → P (p.configure c).2) (hpush : ∀ p q, P p → P (p.push q).2)
    {events : List (SessionEvent δ κ)}
    (hattach : ∀ p, .setAlacAudioPipeline (some p) ∈ events → P p) :
    PipelineHolds P (run step start events) := by
  apply run_induction_along
  · intro s hs p hp
    obtain rfl := Except.ok.inj hs
    cases hp
  · intro t event hmem ht s' hs'
    obtain ⟨s, hs, hstep⟩ := step_eq_ok.mp hs'
    refine RtspSession.step_pipelineHolds hreset hconfigure hpush (ht s hs) ?_ hstep
    intro p hevent
    exact hattach p (hevent ▸ hmem)

end Process
end AirPlay2
