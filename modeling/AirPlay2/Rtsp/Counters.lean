import AirPlay2.Rtsp.Flow
import AirPlay2.Rtsp.Handshake

/- What a session counts, and what it holds. `received_packets_` and `received_bytes_` are written where
   the jitter buffer takes a packet, and set back by a TEARDOWN; the buffer is emptied by a FLUSH
   too. So the session is run beside the list of the packets it has accepted since the last TEARDOWN
   (`Tally`): the counters are the number of them and of their bytes, the packets held are among
   them, and whatever arrives they are never more than the buffer was made for (`run_counted`). -/
namespace AirPlay2
open Lib RtpJitterBuffer
open scoped List

/-- The event is a TEARDOWN. -/
def SessionEvent.resetsCounters {δ κ : Type*} : SessionEvent δ κ → Bool
  | .request r _ => r.verb == .teardown
  | _ => false

/-- The bytes of the payloads. -/
def payloadBytes (packets : List RtpPacket) : ℕ := (packets.map fun p => p.payload.length).sum

theorem payloadBytes_append (xs ys : List RtpPacket) :
    payloadBytes (xs ++ ys) = payloadBytes xs + payloadBytes ys := by
  simp [payloadBytes]

theorem payloadBytes_le {packets : List RtpPacket} {limit : ℕ}
    (h : ∀ p ∈ packets, p.payload.length ≤ limit) :
    payloadBytes packets ≤ packets.length * limit := by
  induction packets with
  | nil => exact Nat.zero_le _
  | cons p packets ih =>
    have hp : p.payload.length ≤ limit := h p List.mem_cons_self
    have hrest : payloadBytes packets ≤ packets.length * limit :=
      ih fun q hq => h q (List.mem_cons_of_mem p hq)
    calc payloadBytes (p :: packets)
        = p.payload.length + payloadBytes packets := rfl
      _ ≤ limit + packets.length * limit := Nat.add_le_add hp hrest
      _ = (p :: packets).length * limit := by
        rw [List.length_cons, Nat.succ_mul, Nat.add_comm]

/-- A datagram is longer than its payload by the fixed part of its header at least. -/
theorem length_payload_of_receive {datagram : Bytes} {p : RtpPacket}
    (h : receive datagram = some p) : p.payload.length + 12 ≤ datagram.length := by
  simp only [receive, Option.ite_none_left_eq_some] at h
  obtain ⟨hlength, -, -, -, hoffset, -, hsome⟩ := h
  obtain rfl := Option.some.inj hsome
  rw [List.length_drop, List.length_take]
  by_cases hextension : (datagram.getD 0 0 &&& 0x10 != 0) = true
  · simp only [hextension, if_true] at hoffset ⊢
    omega
  · simp only [hextension, Bool.false_eq_true, if_false] at hoffset ⊢
    omega

/-- What is held after an arrival was held before, or is what arrived. -/
theorem handOver_held {b : RtpJitterBuffer} (h : Kept b) (p : RtpPacket) :
    Kept (b.handOver p).2.2 ∧ (b.handOver p).2.2.packets.values <+~
      b.packets.values ++ if (b.handOver p).1 then [p] else [] := by
  have hbefore : MediaRun.Conserves { buffer := b, accepted := b.packets.values } :=
    ⟨h, by simp, rfl⟩
  obtain ⟨hkept, hplaces, -⟩ := hbefore.arrive p
  refine ⟨hkept, ?_⟩
  have haccepted : (if (b.handOver p).1 then b.packets.values ++ [p] else b.packets.values) =
      b.packets.values ++ if (b.handOver p).1 then [p] else [] := by
    split
    · rfl
    · exact (List.append_nil _).symm
  have hsub : (b.handOver p).2.2.packets.values <+
      ([] ++ (b.handOver p).2.1) ++ (b.handOver p).2.2.packets.values ++
        ([] ++ (b.evictedBy p).toList) := by
    rw [List.append_assoc]
    exact (List.sublist_append_left _ _).trans (List.sublist_append_right _ _)
  rw [← haccepted]
  exact hsub.subperm.trans hplaces.symm.subperm

namespace RtspSession

variable {δ κ : Type*} [AlacDecoder δ] [AudioSink κ]

/-- The packet of the event that the jitter buffer takes. -/
def accepted (s : RtspSession δ κ) (event : SessionEvent δ κ) : List RtpPacket :=
  match s.arriving event with
  | none => []
  | some p => if (s.jitterBuffer.handOver p).1 then [p] else []

/-- The counters are those of these packets, and the packets held are among them. -/
structure Counts (s : RtspSession δ κ) (taken : List RtpPacket) : Prop where
  packets : s.receivedPackets = UInt64.ofNat taken.length
  bytes : s.receivedBytes = UInt64.ofNat (payloadBytes taken)
  kept : Kept s.jitterBuffer
  held : s.jitterBuffer.packets.values <+~ taken

omit [AlacDecoder δ] [AudioSink κ] in
theorem arriving_eq_some {s : RtspSession δ κ} {event : SessionEvent δ κ} {p : RtpPacket} :
    s.arriving event = some p ↔ ∃ bytes, event = .datagram bytes ∧ s.media.live = true ∧
      s.recording = true ∧ receive bytes = some p := by
  cases event with
  | datagram bytes => simp [arriving, and_assoc]
  | request r e => simp [arriving]
  | setMediaPacketHandler installed => simp [arriving]
  | setAlacAudioPipeline pipeline => simp [arriving]

/-- A step sets the counters back, or adds what it accepts. -/
theorem step_counters {s s' : RtspSession δ κ} {event : SessionEvent δ κ}
    (hstep : s.step event = .ok s') :
    s'.receivedPackets = (if event.resetsCounters then 0
      else s.receivedPackets + UInt64.ofNat (s.accepted event).length) ∧
    s'.receivedBytes = if event.resetsCounters then 0
      else s.receivedBytes + UInt64.ofNat (payloadBytes (s.accepted event)) := by
  have hnone : ∀ {t : RtspSession δ κ}, t.receivedPackets = s.receivedPackets →
      t.receivedBytes = s.receivedBytes → s.accepted event = [] →
      t.receivedPackets = s.receivedPackets + UInt64.ofNat (s.accepted event).length ∧
        t.receivedBytes = s.receivedBytes + UInt64.ofNat (payloadBytes (s.accepted event)) := by
    intro t hpackets hbytes haccepted
    rw [haccepted, hpackets, hbytes]
    exact ⟨(UInt64.add_zero _).symm, (UInt64.add_zero _).symm⟩
  cases event with
  | request r e =>
    obtain ⟨-, hpackets, hbytes⟩ := handle_playback s e r
    rw [step_handle hstep, hpackets, hbytes]
    show _ = (if (r.verb == .teardown) then _ else _) ∧ _ = if (r.verb == .teardown) then _ else _
    cases r.verb == .teardown with
    | true => exact ⟨rfl, rfl⟩
    | false => exact hnone rfl rfl rfl
  | datagram bytes =>
    obtain rfl := Except.ok.inj hstep
    obtain ⟨hnothing, hsame, -⟩ | ⟨p, harrives, -⟩ := s.deliver_cases bytes
    · rw [hsame]
      exact hnone rfl rfl (by rw [accepted, hnothing])
    · obtain ⟨bytes', hevent, hlive, hrecording, hreceive⟩ := arriving_eq_some.mp harrives
      obtain rfl := SessionEvent.datagram.inj hevent
      rw [accepted, harrives, deliver, if_pos hlive, hreceive]
      dsimp only
      rw [handleMediaPacket, hrecording, if_neg (by decide)]
      generalize s.jitterBuffer.handOver p = out
      obtain ⟨taken, ordered, buffer⟩ := out
      cases taken with
      | false => exact ⟨(UInt64.add_zero _).symm, (UInt64.add_zero _).symm⟩
      | true => exact ⟨rfl, rfl⟩
  | setMediaPacketHandler installed =>
    obtain rfl := Except.ok.inj hstep
    exact hnone rfl rfl rfl
  | setAlacAudioPipeline pipeline =>
    obtain rfl := Except.ok.inj hstep
    obtain ⟨attached, h⟩ := setAlacAudioPipeline_eq s pipeline
    rw [h]
    exact hnone rfl rfl rfl

/-- A TEARDOWN begins the list anew, and any other step adds what it accepts. -/
theorem Counts.step {s s' : RtspSession δ κ} {event : SessionEvent δ κ} {taken : List RtpPacket}
    (h : s.Counts taken) (hstep : s.step event = .ok s') :
    s'.Counts (if event.resetsCounters then [] else taken ++ s.accepted event) := by
  obtain ⟨hpackets, hbytes⟩ := step_counters hstep
  have hbuffer := step_jitterBuffer hstep
  cases hdown : event.resetsCounters with
  | true =>
    have hreset : event.resetsBuffer = true := by
      cases event with
      | request r e =>
        show (r.verb == .flush || r.verb == .teardown) = true
        rw [Bool.or_eq_true]
        exact Or.inr hdown
      | datagram bytes => cases hdown
      | setMediaPacketHandler installed => cases hdown
      | setAlacAudioPipeline pipeline => cases hdown
    rw [hdown, if_pos rfl] at hpackets hbytes
    rw [hreset, if_pos rfl] at hbuffer
    refine ⟨hpackets, hbytes, ?_, ?_⟩
    · rw [hbuffer]
      exact h.kept.reset
    · rw [hbuffer]
      exact List.nil_subperm
  | false =>
    rw [hdown, if_neg (by decide)] at hpackets hbytes
    rw [if_neg (by decide)]
    have hheld : Kept s'.jitterBuffer ∧
        s'.jitterBuffer.packets.values <+~ s.jitterBuffer.packets.values ++ s.accepted event := by
      rw [hbuffer]
      split
      · -- a FLUSH: nothing is held, and nothing is taken back from the counters
        exact ⟨h.kept.reset, List.nil_subperm⟩
      · unfold accepted
        cases s.arriving event with
        | none => exact ⟨h.kept, (List.append_nil _).symm ▸ List.Subperm.refl _⟩
        | some p => exact handOver_held h.kept p
    refine ⟨?_, ?_, hheld.1, ?_⟩
    · rw [hpackets, h.packets, List.length_append, UInt64.ofNat_add]
    · rw [hbytes, h.bytes, payloadBytes_append, UInt64.ofNat_add]
    · exact hheld.2.trans ((List.subperm_append_right _).mpr h.held)

omit [AlacDecoder δ] [AudioSink κ] in
/-- What a datagram that fits the receive buffer brings. -/
theorem length_of_accepted {s : RtspSession δ κ} {event : SessionEvent δ κ}
    (hfits : ∀ bytes, event = .datagram bytes → bytes.length ≤ 65536) :
    ∀ p ∈ s.accepted event, p.payload.length ≤ 65524 := by
  intro p hp
  unfold accepted at hp
  split at hp
  · cases hp
  · rename_i q harrives
    obtain ⟨bytes, hevent, -, -, hreceive⟩ := arriving_eq_some.mp harrives
    have hq : p = q := by
      split at hp
      · exact List.mem_singleton.mp hp
      · cases hp
    have hpayload := length_payload_of_receive hreceive
    have hlength := hfits bytes hevent
    rw [hq]
    omega

end RtspSession

/-- A session in a run, and the packets it has accepted since the last TEARDOWN. -/
structure Tally (δ κ : Type*) where
  process : Process δ κ
  accepted : List RtpPacket := []

namespace Tally

variable {δ κ : Type*} [AlacDecoder δ] [AudioSink κ]

def start : Tally δ κ := { process := Process.start }

def step (t : Tally δ κ) (event : SessionEvent δ κ) : Tally δ κ :=
  match t.process with
  | .error _ => t
  | .ok s =>
    { process := s.step event
      accepted := if event.resetsCounters then [] else t.accepted ++ s.accepted event }

/-- The list is that of the session's own counters, and of packets that came in datagrams. -/
structure Sound (t : Tally δ κ) : Prop where
  counts : ∀ s, t.process = .ok s → s.Counts t.accepted
  fits : ∀ p ∈ t.accepted, p.payload.length ≤ 65524

omit [AlacDecoder δ] [AudioSink κ] in
theorem sound_start : (start : Tally δ κ).Sound := by
  refine ⟨?_, ?_⟩
  · intro s hs
    obtain rfl := Except.ok.inj hs
    exact ⟨rfl, rfl, kept_new 128, List.Subperm.refl _⟩
  · intro p hp
    cases hp

theorem Sound.step {t : Tally δ κ} (h : t.Sound) {event : SessionEvent δ κ}
    (hfits : ∀ bytes, event = .datagram bytes → bytes.length ≤ 65536) : (t.step event).Sound := by
  unfold Tally.step
  split
  · exact h
  · rename_i s hs
    refine ⟨?_, ?_⟩
    · intro s' hs'
      exact (h.counts s hs).step hs'
    · intro p hp
      dsimp only at hp
      split at hp
      · cases hp
      · obtain hbefore | hnow := List.mem_append.mp hp
        · exact h.fits p hbefore
        · exact RtspSession.length_of_accepted hfits p hnow

/-- The list does not disturb the session. -/
theorem step_process (t : Tally δ κ) (event : SessionEvent δ κ) :
    (t.step event).process = t.process.step event := by
  unfold Tally.step
  split
  · rename_i what hs
    rw [hs]
    rfl
  · rename_i s hs
    rw [hs]
    rfl

/-- **The counters count what was accepted, and little is held.** In every run of a session whose
    datagrams fit the receive buffer, the counters are the number of the packets accepted since the
    last TEARDOWN and of the bytes in them, in 64 bits; the packets held are among them, 128 at the
    most, with 128 payloads of a full datagram in all. -/
theorem run_counted {events : List (SessionEvent δ κ)}
    (hfits : ∀ bytes, .datagram bytes ∈ events → bytes.length ≤ 65536) {s : RtspSession δ κ}
    (hs : run Process.step Process.start events = .ok s) :
    let accepted := (run step start events).accepted
    s.receivedPackets = UInt64.ofNat accepted.length ∧
      s.receivedBytes = UInt64.ofNat (payloadBytes accepted) ∧
      s.jitterBuffer.packets.values <+~ accepted ∧
      s.jitterBuffer.packets.values.length ≤ 128 ∧
      payloadBytes s.jitterBuffer.packets.values ≤ 128 * 65524 := by
  have hsound : (run step start events : Tally δ κ).Sound := by
    refine run_induction_along (P := Sound) sound_start events ?_
    intro t event hmem ht
    apply ht.step
    intro bytes hevent
    rw [hevent] at hmem
    exact hfits bytes hmem
  have hcounts := hsound.counts s ((run_hom Tally.process step_process start events).trans hs)
  have hcapacity : s.jitterBuffer.capacity = 128 := Process.run_capacity hs
  have hlength : s.jitterBuffer.packets.values.length ≤ 128 := by
    have hsize := hcounts.kept.size_le
    rw [hcapacity] at hsize
    rw [OrdMap.values, List.length_map]
    exact hsize
  have hpayloads : ∀ p ∈ s.jitterBuffer.packets.values, p.payload.length ≤ 65524 := fun p hp =>
    hsound.fits p (hcounts.held.subset hp)
  have hbytes := payloadBytes_le hpayloads
  exact ⟨hcounts.packets, hcounts.bytes, hcounts.held, hlength,
    hbytes.trans (Nat.mul_le_mul_right 65524 hlength)⟩

/-- Two packets, the second one held until a FLUSH. -/
def flushedRun : List (SessionEvent NullAlacDecoder NullAudioSink) :=
  Flow.recordedRun ++ [.request { method := ascii "FLUSH" } Process.allBound]

/-- Both are still counted, and neither is held. -/
theorem run_counted_flushed : ∃ s, run Process.step Process.start flushedRun = .ok s ∧
    (run step start flushedRun).accepted.map (·.payload) = [[7], [9]] ∧
    s.jitterBuffer.packets.values = [] ∧
    s.receivedPackets = UInt64.ofNat (run step start flushedRun).accepted.length := by
  have hfits : ∀ bytes, .datagram bytes ∈ flushedRun → bytes.length ≤ 65536 := by
    intro bytes hmem
    simp only [flushedRun, Flow.recordedRun, List.cons_append, List.nil_append, List.mem_cons,
      SessionEvent.datagram.injEq, reduceCtorEq, false_or, List.not_mem_nil, or_false] at hmem
    obtain rfl | rfl := hmem <;> decide
  exact ⟨_, rfl, by decide +kernel, by decide +kernel, (run_counted hfits rfl).1⟩

end Tally
end AirPlay2
