import AirPlay2.Jitter.Position

/- The reorder counter of the jitter buffer against the order of arrival. A packet is late
   if it is serially before the highest number accepted before it; the code counts a packet
   that is not the expected one, which depends on what the consumer has popped. The two
   agree packet by packet or not at all (`reordered_exact_iff`): a packet ahead of one that
   is missing or not popped yet is counted though it is in order, and a late one that is
   just the expected one is not counted. -/
namespace AirPlay2
open Lib

open RtpJitterBuffer

/-! ## The order of arrival -/

/-- The highest number accepted moves to each number that is not before it. -/
def raise (highest : Option UInt16) (sequence : UInt16) : Option UInt16 :=
  if highest.any (sequenceBefore sequence) then highest else some sequence

def highestOf (highest : Option UInt16) (accepted : List RtpPacket) : Option UInt16 :=
  accepted.foldl (fun h p => raise h p.sequence) highest

/-- The number of packets before the highest one accepted until they came. -/
def lateFrom : Option UInt16 → List RtpPacket → ℕ
  | _, [] => 0
  | highest, p :: ps =>
    (if highest.any (sequenceBefore p.sequence) then 1 else 0) +
      lateFrom (raise highest p.sequence) ps

theorem lateFrom_snoc (highest : Option UInt16) (ps : List RtpPacket) (p : RtpPacket) :
    lateFrom highest (ps ++ [p]) = lateFrom highest ps +
      if (highestOf highest ps).any (sequenceBefore p.sequence) then 1 else 0 := by
  induction ps generalizing highest with
  | nil =>
    rw [List.nil_append, lateFrom, lateFrom, lateFrom, Nat.add_comm]
    rfl
  | cons q ps ih =>
    rw [List.cons_append, lateFrom, ih, lateFrom, Nat.add_assoc]
    rfl

namespace JitterRun

/-- The packet is serially before the highest one accepted so far. -/
def comesLate (r : JitterRun) (packet : RtpPacket) : Bool :=
  (highestOf none r.accepted).any (sequenceBefore packet.sequence)

/-- `stats().reordered` is the number of accepted packets that came late. -/
def ReorderedExact (r : JitterRun) : Prop :=
  r.buffer.stats.reordered = UInt64.ofNat (lateFrom none r.accepted)

/-- A packet that is not turned away is late exactly when it is not the expected one. -/
def LateUnlessExpected (r : JitterRun) (op : JitterOp) : Prop :=
  ∀ packet, op = .push packet → (r.buffer.receive packet).refuses packet = false →
    (r.comesLate packet = true ↔
      packet.sequence ≠ (r.buffer.receive packet).expectedSequence)

/-! ## The counter -/

theorem receive_reordered (b : RtpJitterBuffer) (p : RtpPacket) :
    (b.receive p).stats.reordered = b.stats.reordered := by
  simp only [receive]
  split <;> rfl

theorem store_reordered (b : RtpJitterBuffer) (p : RtpPacket) :
    (b.store p).stats.reordered =
      b.stats.reordered + if p.sequence ≠ b.expectedSequence then 1 else 0 := by
  unfold store
  split
  · rfl
  · exact (add_zero _).symm

theorem evictFirst_reordered (b : RtpJitterBuffer) :
    b.evictFirst.stats.reordered = b.stats.reordered := by
  unfold evictFirst
  split
  · rfl
  · split <;> rfl

theorem push_of_refuses {b : RtpJitterBuffer} {p : RtpPacket}
    (h : (b.receive p).refuses p = true) : b.push p = (false, (b.receive p).discard) := by
  rw [push_eq, if_pos h]

/-- What a push that is not turned away does to the counter. -/
theorem push_reordered {b : RtpJitterBuffer} (hk : Kept b) {p : RtpPacket}
    (h : (b.receive p).refuses p = false) :
    (b.push p).1 = true ∧ (b.push p).2.stats.reordered = b.stats.reordered +
      if p.sequence ≠ (b.receive p).expectedSequence then 1 else 0 := by
  rcases push_cases b p hk.size_le with ⟨hr, -⟩ | ⟨-, -, hp⟩ | ⟨-, -, hp⟩
  · rw [h] at hr
    cases hr
  · rw [hp]
    exact ⟨rfl, by rw [store_reordered, receive_reordered]⟩
  · rw [hp]
    exact ⟨rfl, by rw [evictFirst_reordered, store_reordered, receive_reordered]⟩

/-- Counting in step: two counters that agree go on agreeing when both count or neither. -/
theorem add_bit_iff (x : UInt64) (p q : Prop) [Decidable p] [Decidable q] :
    (x + if p then 1 else 0) = (x + if q then 1 else 0) ↔ (q ↔ p) := by
  rw [UInt64.add_right_inj]
  by_cases hp : p <;> by_cases hq : q <;> simp [hp, hq]

theorem reorderedExact_call {r : JitterRun} (hr : Reached r) (h : r.ReorderedExact)
    (op : JitterOp) : (r.call op).ReorderedExact ↔ r.LateUnlessExpected op := by
  cases op with
  | pop =>
    have hsame : (r.call .pop).ReorderedExact := by
      show r.buffer.pop.2.stats.reordered = _
      rcases pop_cases r.buffer with ⟨hp, -⟩ | ⟨p, -, -, hp⟩ <;> rw [hp] <;> exact h
    exact iff_of_true hsame (fun _ hp => JitterOp.noConfusion hp)
  | reset => exact iff_of_true rfl (fun _ hp => JitterOp.noConfusion hp)
  | push p =>
    have hcond : r.LateUnlessExpected (.push p) ↔
        ((r.buffer.receive p).refuses p = false → (r.comesLate p = true ↔
          p.sequence ≠ (r.buffer.receive p).expectedSequence)) := by
      unfold LateUnlessExpected
      simp
    rw [hcond]
    cases href : (r.buffer.receive p).refuses p with
    | true =>
      -- Turned away: nothing is accepted and the counter stays.
      have hsame : (r.call (.push p)).ReorderedExact := by
        show (r.buffer.push p).2.stats.reordered =
          UInt64.ofNat (lateFrom none (if (r.buffer.push p).1 then _ else r.accepted))
        rw [push_of_refuses href]
        show (r.buffer.receive p).stats.reordered = _
        rw [receive_reordered]
        exact h
      exact iff_of_true hsame (fun hno => Bool.noConfusion hno)
    | false =>
      obtain ⟨hpushed, hcount⟩ := push_reordered hr.kept href
      have hlate : UInt64.ofNat (lateFrom none (r.accepted ++ [p])) =
          r.buffer.stats.reordered + if r.comesLate p = true then 1 else 0 := by
        rw [lateFrom_snoc, h]
        show _ = _ + if (highestOf none r.accepted).any (sequenceBefore p.sequence) = true
          then 1 else 0
        split <;> simp
      have hexact : (r.call (.push p)).ReorderedExact ↔
          (r.buffer.stats.reordered +
            if p.sequence ≠ (r.buffer.receive p).expectedSequence then 1 else 0) =
          r.buffer.stats.reordered + if r.comesLate p = true then 1 else 0 := by
        unfold ReorderedExact
        simp only [call, hpushed, if_true, hcount, hlate]
      rw [hexact, add_bit_iff]
      simp

/-- **When the reorder counter counts reordering.** From construction or reset on, the counter
    is the number of late packets in every state of a run exactly when every packet that is
    not turned away is late iff it is not the expected one. -/
theorem reordered_exact_iff (capacity : ℕ) (ops : List JitterOp) :
    Always call ReorderedExact (start capacity) ops ↔
      Each call LateUnlessExpected (start capacity) ops := by
  have hstart : (start capacity).ReorderedExact := by
    show (new capacity).stats.reordered = 0
    unfold new
    split <;> rfl
  exact always_iff_each (I := Reached) (fun _ op h => h.call op)
    (fun _ op hr h => reorderedExact_call hr h op) (reached_start capacity) hstart ops

/-- Three packets, the last two swapped, and then popped. -/
def swappedRun : List JitterOp :=
  [.push { sequence := 100 }, .push { sequence := 102 }, .push { sequence := 101 },
    .pop, .pop, .pop]

/-- One of them is late and two are counted. -/
theorem swappedRun_counts_two : ¬ (run call (start 8) swappedRun).ReorderedExact := by
  unfold ReorderedExact
  decide

end JitterRun
end AirPlay2
