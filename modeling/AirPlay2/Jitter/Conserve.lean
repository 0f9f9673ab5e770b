import AirPlay2.Jitter.Order

/- Where the accepted packets go when the buffer is driven as the session drives
   it (`handle_media_packet`: push one packet, then pop until there is nothing to
   give). An overflowing push takes the numerically first packet out of the buffer
   for good, so beside the packets handed over and the packets still held there is
   a third place for an accepted packet, and `run_conserves` says there is no
   fourth, with each accepted packet in exactly one of the three. The numbers
   given up with the evicted packet are missing ones as long as the evicted packet
   is the first in serial order, which is the condition of `run_deliverable_iff`. -/
namespace AirPlay2
open Lib

namespace RtpJitterBuffer

/-- One arriving packet: push it and, if it was accepted, pop until empty. -/
def handOver (b : RtpJitterBuffer) (packet : RtpPacket) :
    Bool × List RtpPacket × RtpJitterBuffer :=
  match b.push packet with
  | (false, b) => (false, [], b)
  | (true, b) => (true, b.popAll)

/-- A refused packet takes nothing out. -/
theorem handOver_refused {b : RtpJitterBuffer} {p : RtpPacket} (h : (b.handOver p).1 = false) :
    (b.handOver p).2.1 = [] := by
  unfold handOver at h ⊢
  split
  · rfl
  · rename_i hpush
    rw [hpush] at h
    cases h

theorem handOver_capacity (b : RtpJitterBuffer) (p : RtpPacket) :
    (b.handOver p).2.2.capacity = b.capacity := by
  have hpush := b.push_capacity p
  unfold handOver
  split
  · rename_i hb
    rw [hb] at hpush
    exact hpush
  · rename_i hb
    rw [hb] at hpush
    exact (popAllFuel_capacity _ _).trans hpush

/-- The push of `packet` is accepted into a full buffer. -/
def overflows (b : RtpJitterBuffer) (packet : RtpPacket) : Bool :=
  !(b.receive packet).refuses packet && b.packets.size == b.capacity

/-- The packet the push of `packet` throws away: on overflow, the one with the
    numerically least number, the new packet included. -/
def evictedBy (b : RtpJitterBuffer) (packet : RtpPacket) : Option RtpPacket :=
  if b.overflows packet then
    (((b.receive packet).store packet).packets.first?).map Prod.snd
  else none

/-- The numbers the buffer gives up on overflow, between the one it expected and
    the one it expects next, are carried by no packet it holds, the evicted packet
    apart. -/
def GivesUpMissing (b : RtpJitterBuffer) (packet : RtpPacket) : Prop :=
  ∀ out, b.evictedBy packet = some out → ∀ s,
    ahead (b.receive packet).expectedSequence s <
        ahead (b.receive packet).expectedSequence (b.push packet).2.expectedSequence →
      s = out.sequence ∨ ((b.receive packet).store packet).packets.contains s = false

end RtpJitterBuffer

open RtpJitterBuffer

open scoped List

/-- A driven buffer with the record of what became of its packets. -/
structure MediaRun where
  buffer : RtpJitterBuffer
  accepted : List RtpPacket := []
  delivered : List RtpPacket := []
  evicted : List RtpPacket := []
  overflowed : ℕ := 0

namespace MediaRun

def arrive (m : MediaRun) (packet : RtpPacket) : MediaRun :=
  let (ok, ordered, buffer) := m.buffer.handOver packet
  { buffer := buffer
    accepted := if ok then m.accepted ++ [packet] else m.accepted
    delivered := m.delivered ++ ordered
    evicted := m.evicted ++ (m.buffer.evictedBy packet).toList
    overflowed := m.overflowed + if m.buffer.overflows packet then 1 else 0 }

/-- Each accepted packet was handed over, is held or was evicted, and in one of
    these ways only; each overflow evicted one packet. -/
structure Conserves (m : MediaRun) : Prop where
  kept : Kept m.buffer
  places : m.accepted.Perm (m.delivered ++ m.buffer.packets.values ++ m.evicted)
  evictions : m.evicted.length = m.overflowed

end MediaRun

namespace RtpJitterBuffer

theorem values_perm {m n : OrdMap UInt16 RtpPacket} {e : UInt16 × RtpPacket}
    (h : m.entries.Perm (e :: n.entries)) : m.values.Perm (e.2 :: n.values) := by
  simpa [OrdMap.values] using h.map Prod.snd

theorem popAllFuel_perm (fuel : ℕ) (b : RtpJitterBuffer) :
    b.packets.values.Perm ((popAllFuel fuel b).1 ++ (popAllFuel fuel b).2.packets.values) := by
  induction fuel generalizing b with
  | zero => exact .refl _
  | succ fuel ih =>
    rcases pop_cases b with ⟨hp, -⟩ | ⟨p, -, hm, hp⟩
    · simp [popAllFuel, hp]
    · simp only [popAllFuel, hp, List.cons_append]
      calc b.packets.values
          ~ p :: b.advance.packets.values := values_perm (OrdMap.erase_perm hm)
        _ ~ p :: ((popAllFuel fuel b.advance).1 ++ (popAllFuel fuel b.advance).2.packets.values) :=
          (ih b.advance).cons p

/-- Popping until empty hands over what leaves the buffer, and nothing else. -/
theorem popAll_perm (b : RtpJitterBuffer) :
    b.packets.values.Perm (b.popAll.1 ++ b.popAll.2.packets.values) :=
  popAllFuel_perm _ b

theorem kept_popAllFuel (fuel : ℕ) {b : RtpJitterBuffer} (h : Kept b) :
    Kept (popAllFuel fuel b).2 := by
  induction fuel generalizing b with
  | zero => exact h
  | succ fuel ih =>
    have hpop := h.pop
    rcases pop_cases b with ⟨hp, -⟩ | ⟨p, -, -, hp⟩
    · simpa only [popAllFuel, hp] using h
    · rw [hp] at hpop
      simpa only [popAllFuel, hp] using ih hpop

/-- Where the packets are after a push that was accepted: the new one and the
    ones held before, less the evicted one. -/
theorem push_perm {b : RtpJitterBuffer} (h : Kept b) (p : RtpPacket)
    (hp : (b.push p).1 = true) :
    (p :: b.packets.values).Perm ((b.evictedBy p).toList ++ (b.push p).2.packets.values) ∧
      (b.evictedBy p).toList.length = if b.overflows p then 1 else 0 := by
  rcases push_cases b p h.size_le with ⟨-, he⟩ | ⟨hr, hlt, he⟩ | ⟨hr, heq, he⟩
  · rw [he] at hp; simp at hp
  all_goals
    have hc := contains_of_not_refuses hr
    have hst : ((b.receive p).store p).packets.values.Perm (p :: b.packets.values) := by
      rw [store_packets, receive_packets]
      exact values_perm (OrdMap.emplace_perm p hc)
    rw [he]
  · have hov : b.overflows p = false := by
      simp only [overflows, hr, Bool.not_false, Bool.true_and, beq_eq_false_iff_ne]
      omega
    simpa [evictedBy, hov] using hst.symm
  · have hov : b.overflows p = true := by simp [overflows, hr, heq]
    have hsz : 0 < ((b.receive p).store p).packets.size := by
      rw [store_packets, receive_packets, OrdMap.size_emplace p hc]; omega
    obtain ⟨first, q, hf⟩ := first?_isSome hsz
    have hout := values_perm (OrdMap.erase_perm (OrdMap.first?_eq_some hf).1)
    simp only [evictedBy, hov, if_true, hf, Option.map_some, Option.toList_some,
      List.length_singleton, and_true, (evictFirst_spec hf).1]
    calc p :: b.packets.values
        ~ ((b.receive p).store p).packets.values := hst.symm
      _ ~ q :: (((b.receive p).store p).packets.erase first).values := hout

theorem push_refused {b : RtpJitterBuffer} (h : Kept b) (p : RtpPacket)
    (hp : (b.push p).1 = false) :
    (b.push p).2.packets = b.packets ∧ b.overflows p = false := by
  rcases push_cases b p h.size_le with ⟨hr, he⟩ | ⟨-, -, he⟩ | ⟨-, -, he⟩
  · rw [he]
    exact ⟨by simp [discard], by simp [overflows, hr]⟩
  · rw [he] at hp; simp at hp
  · rw [he] at hp; simp at hp

theorem Deliverable.popAllFuel {b : RtpJitterBuffer} (hk : Kept b) (hd : Deliverable b)
    (fuel : ℕ) : Deliverable (popAllFuel fuel b).2 := by
  induction fuel generalizing b with
  | zero => exact hd
  | succ fuel ih =>
    have hpop : Deliverable b.pop.2 := (deliverable_apply_iff hk hd .pop).mpr (by simp)
    have hkept := hk.pop
    rcases pop_cases b with ⟨hp, -⟩ | ⟨p, -, -, hp⟩
    · simpa only [RtpJitterBuffer.popAllFuel, hp] using hd
    · rw [hp] at hpop hkept
      simpa only [RtpJitterBuffer.popAllFuel, hp] using ih hkept hpop

/-- One arrival keeps the packets deliverable, where its push does not overflow
    across the wrap. -/
theorem Deliverable.handOver {b : RtpJitterBuffer} (hk : Kept b) (hd : Deliverable b)
    {p : RtpPacket} (hn : b.overflowStraddles p = false) : Deliverable (b.handOver p).2.2 := by
  have hpush : Deliverable (b.push p).2 := by
    apply (deliverable_apply_iff hk hd (.push p)).mpr
    intro q hq
    rwa [← JitterOp.push.inj hq]
  have hkept := hk.push p
  unfold RtpJitterBuffer.handOver
  cases h : b.push p with
  | mk ok b' =>
    rw [h] at hpush hkept
    cases ok with
    | false => exact hpush
    | true => exact hpush.popAllFuel hkept _

/-- A number between two expected ones, both less than half the space away, is
    not ahead of the second. -/
theorem not_ahead_of_passed {e first s : UInt16} (hf : ahead e first < 2 ^ 15)
    (hs : ahead e s < ahead e (first + 1)) : 2 ^ 15 ≤ ahead (first + 1) s := by
  have he := e.toNat_lt
  have hfl := first.toNat_lt
  have hsl := s.toNat_lt
  simp only [ahead_eq, add_one_toNat] at hf hs ⊢
  omega

theorem givesUpMissing_of_aligned {b : RtpJitterBuffer} (hk : Kept b) (hd : Deliverable b)
    {p : RtpPacket} (hn : b.overflowStraddles p = false) : b.GivesUpMissing p := by
  intro out hout s hs
  unfold evictedBy at hout
  split at hout
  · rename_i hov
    simp only [overflows, Bool.and_eq_true, Bool.not_eq_true', beq_iff_eq] at hov
    obtain ⟨hr, hfull⟩ := hov
    have hc := contains_of_not_refuses hr
    obtain ⟨e, hfirst, rfl⟩ := Option.map_eq_some_iff.mp hout
    obtain ⟨hmem, -⟩ := OrdMap.first?_eq_some hfirst
    have hst := ahead_store (ahead_receive hk p ((deliverable_iff hk).mp hd)) hr (by simpa using hc)
    have hkeyed := keyed_store (b := b.receive p) (p := p) (by simpa using hk.keyed)
      (by simpa using hc)
    have hpush : (b.push p).2 = ((b.receive p).store p).evictFirst := by
      rcases push_cases b p hk.size_le with ⟨hr', -⟩ | ⟨-, hlt, -⟩ | ⟨-, -, he⟩
      · rw [hr] at hr'; cases hr'
      · omega
      · rw [he]
    have hsz : 0 < ((b.receive p).store p).packets.size := by
      rw [store_packets, receive_packets, OrdMap.size_emplace p hc]; omega
    have hstays := (deliverable_evictFirst_iff hsz hst).mpr (by
      simpa [overflowStraddles, hr, hfull] using hn)
    rw [hpush, (evictFirst_spec hfirst).2] at hs
    rw [(evictFirst_spec hfirst).2] at hstays
    -- A packet that stays is ahead of the next number, one passed over is not.
    by_contra hheld
    obtain ⟨hne, hheld⟩ := not_or.mp hheld
    rw [Bool.not_eq_false, OrdMap.contains_iff] at hheld
    obtain ⟨held, hq, rfl⟩ := List.mem_map.mp hheld
    have hsf : held.1 ≠ e.1 := by
      rw [hkeyed e hmem]
      exact hne
    have hin : held ∈ ((b.receive p).store p).evictFirst.packets.entries := by
      rw [(evictFirst_spec hfirst).1, OrdMap.mem_erase]
      exact ⟨hq, hsf⟩
    have hlt := hstays held hin
    have hef := hst e hmem
    rw [store_expected] at hef
    have hge := not_ahead_of_passed hef hs
    omega
  · cases hout

end RtpJitterBuffer

namespace MediaRun

theorem conserves_reset (b : RtpJitterBuffer) : Conserves { buffer := b.reset } :=
  ⟨⟨Nat.zero_le _, by simp [RtpJitterBuffer.reset], fun _ => rfl⟩, .refl _, rfl⟩

/-- The new packet and the held ones are the evicted one, those handed over now
    and those held after. -/
theorem places_arrive {accepted delivered held evicted pushed out ordered rest : List RtpPacket}
    {p : RtpPacket} (hpl : accepted.Perm (delivered ++ held ++ evicted))
    (hpush : (p :: held).Perm (out ++ pushed)) (hpop : pushed.Perm (ordered ++ rest)) :
    (accepted ++ [p]).Perm ((delivered ++ ordered) ++ rest ++ (evicted ++ out)) := by
  rw [List.perm_iff_count] at hpl hpush hpop ⊢
  intro q
  have h1 := hpl q
  have h2 := hpush q
  have h3 := hpop q
  simp only [List.count_append, List.count_cons, List.count_nil] at h1 h2 h3 ⊢
  omega

theorem Conserves.arrive {m : MediaRun} (h : Conserves m) (p : RtpPacket) :
    Conserves (m.arrive p) := by
  obtain ⟨hk, hpl, hev⟩ := h
  have hpush := hk.push p
  have href := push_refused hk p
  have hacc := push_perm hk p
  unfold MediaRun.arrive handOver
  -- A refused packet moves nothing; an accepted one is pushed, then what is due popped.
  cases hok : m.buffer.push p with
  | mk ok b =>
    rw [hok] at hpush href hacc
    cases ok with
    | false =>
      obtain ⟨hsame, hov⟩ := href rfl
      refine ⟨hpush, ?_, ?_⟩
      · simp only at hsame
        simpa [evictedBy, hov, hsame] using hpl
      · simpa [evictedBy, hov] using hev
    | true =>
      obtain ⟨hmoved, hone⟩ := hacc rfl
      refine ⟨kept_popAllFuel _ hpush, places_arrive hpl hmoved (popAll_perm b), ?_⟩
      simp only [List.length_append, hev, hone]

/-- The arrival does not overflow the buffer across the wrap. -/
def Aligned (m : MediaRun) (p : RtpPacket) : Prop := m.buffer.overflowStraddles p = false

theorem arrive_buffer (m : MediaRun) (p : RtpPacket) :
    (m.arrive p).buffer = (m.buffer.handOver p).2.2 := rfl

theorem each_givesUpMissing {m : MediaRun} (hc : Conserves m) (hd : Deliverable m.buffer)
    {arrivals : List RtpPacket} (h : Each arrive Aligned m arrivals) :
    Each arrive (fun m p => m.buffer.GivesUpMissing p) m arrivals := by
  have hall : Always arrive (fun m => Deliverable m.buffer) m arrivals := by
    refine always_of_each (I := Conserves) (fun m p hm => hm.arrive p) ?_ hc hd h
    intro m p hm hd hn
    rw [arrive_buffer]
    exact hd.handOver hm.kept hn
  intro before p hp
  have hm := run_induction (fun m p (hm : Conserves m) => hm.arrive p) hc before
  exact givesUpMissing_of_aligned hm.kept (hall before (prefix_of_snoc hp)) (h before p hp)

/-- **Every accepted packet is accounted for.** From any reset buffer and over any
    arrivals, each packet whose push was accepted has been handed over once, is
    still held, or was evicted, one packet for each push that overflowed. As long
    as no push overflows across the wrap, what is given up besides the evicted
    packets is missing. -/
theorem run_conserves (b : RtpJitterBuffer) (arrivals : List RtpPacket) :
    let start : MediaRun := { buffer := b.reset }
    let m := run arrive start arrivals
    m.accepted.Perm (m.delivered ++ m.buffer.packets.values ++ m.evicted) ∧
      m.evicted.length = m.overflowed ∧
      (m.overflowed = 0 → m.accepted.Perm (m.delivered ++ m.buffer.packets.values)) ∧
      (Each arrive Aligned start arrivals →
        Each arrive (fun m p => m.buffer.GivesUpMissing p) start arrivals) := by
  have h0 := conserves_reset b
  have h : Conserves (run arrive { buffer := b.reset } arrivals) :=
    run_induction (fun m p (hm : Conserves m) => hm.arrive p) h0 arrivals
  refine ⟨h.places, h.evictions, ?_, ?_⟩
  · intro hzero
    have hnil := List.eq_nil_of_length_eq_zero (h.evictions.trans hzero)
    simpa [hnil] using h.places
  · have hd : Deliverable b.reset := by
      rw [deliverable_iff h0.kept]
      simp [RtpJitterBuffer.reset]
    exact each_givesUpMissing h0 hd

/-- Two packets behind a gap in a buffer of capacity one. -/
def gapArrivals : List RtpPacket := [{ sequence := 0 }, { sequence := 2 }, { sequence := 4 }]

/-- The packet numbered 2 was accepted, and is neither handed over nor held. -/
theorem gapArrivals_lose_accepted :
    let m := run arrive { buffer := (RtpJitterBuffer.new 1).reset } gapArrivals
    { sequence := 2 } ∈ m.accepted ∧
      ¬ m.accepted.Perm (m.delivered ++ m.buffer.packets.values) := by
  decide

end MediaRun
end AirPlay2
