import AirPlay2.Lib.Runs
import AirPlay2.Jitter.Buffer

/- What the eviction order does to the packets that stay. Acceptance orders
   numbers serially, from the expected one on; the eviction takes the numerically
   least one. The two agree until the buffer overflows while its numbers straddle
   the wrap, some of them numerically at or above the expected one and some, past
   65535, below it: then the evicted packet is not the first in serial order, and
   the expected number moves past packets that stay.

   What is proved:
     1. `Kept.apply` — every call keeps the size bound, the keys and an
        uninitialized buffer empty.
     2. `deliverable_evictFirst_iff` — an eviction leaves every stored packet
        deliverable exactly when the numbers do not straddle the wrap.
     3. `run_deliverable_iff` — along a run every stored packet stays deliverable
        exactly when no push of the run overflows a straddling buffer. -/
namespace AirPlay2
open Lib

/-- A call of the buffer's interface. -/
inductive JitterOp where
  | push (packet : RtpPacket)
  | pop
  | reset
  deriving DecidableEq, Repr

namespace RtpJitterBuffer

def apply (b : RtpJitterBuffer) : JitterOp → RtpJitterBuffer
  | .push packet => (b.push packet).2
  | .pop => b.pop.2
  | .reset => b.reset

/-- What every call keeps, whatever was pushed. -/
structure Kept (b : RtpJitterBuffer) : Prop where
  size_le : b.packets.size ≤ b.capacity
  keyed : ∀ e ∈ b.packets.entries, e.1 = e.2.sequence
  fresh : b.initialized = false → b.packets.entries = []

/-- Every stored packet is still ahead of the next sequence number, by less than
    half the number space, and no more than `capacity` are stored. -/
structure Deliverable (b : RtpJitterBuffer) : Prop where
  ahead_lt : ∀ p ∈ b.packets.values, ahead b.expectedSequence p.sequence < 2 ^ 15
  not_before : ∀ p ∈ b.packets.values, sequenceBefore p.sequence b.expectedSequence = false
  size_le : b.packets.size ≤ b.capacity

/-- Some stored number is numerically below the expected one (it lies past the
    wrap) and some is not. -/
def straddles (b : RtpJitterBuffer) : Bool :=
  b.packets.keys.any (· < b.expectedSequence) && b.packets.keys.any (b.expectedSequence ≤ ·)

/-- The push is accepted into a full buffer whose numbers, the new one included,
    straddle the wrap. -/
def overflowStraddles (b : RtpJitterBuffer) (packet : RtpPacket) : Bool :=
  !(b.receive packet).refuses packet && b.packets.size == b.capacity &&
    ((b.receive packet).store packet).straddles

/-! ## What every call keeps -/

theorem kept_new (capacity : ℕ) : Kept (new capacity) := by
  unfold new
  split <;> exact ⟨Nat.zero_le _, by simp, fun _ => rfl⟩

theorem Kept.reset {b : RtpJitterBuffer} (_ : Kept b) : Kept b.reset :=
  ⟨Nat.zero_le _, by simp [RtpJitterBuffer.reset], fun _ => rfl⟩

theorem keyed_store {b : RtpJitterBuffer} {p : RtpPacket}
    (hk : ∀ e ∈ b.packets.entries, e.1 = e.2.sequence)
    (hc : b.packets.contains p.sequence = false) :
    ∀ e ∈ (b.store p).packets.entries, e.1 = e.2.sequence := by
  intro e he
  rw [store_packets, OrdMap.mem_emplace hc] at he
  obtain rfl | he := he
  · rfl
  · exact hk e he

theorem keyed_evictFirst {b : RtpJitterBuffer}
    (hk : ∀ e ∈ b.packets.entries, e.1 = e.2.sequence) :
    ∀ e ∈ b.evictFirst.packets.entries, e.1 = e.2.sequence := by
  cases hf : b.packets.first? with
  | none => simpa only [evictFirst, hf] using hk
  | some d =>
    intro e he
    rw [(evictFirst_spec hf).1, OrdMap.mem_erase] at he
    exact hk e he.1

theorem Kept.push {b : RtpJitterBuffer} (h : Kept b) (p : RtpPacket) : Kept (b.push p).2 := by
  rcases push_cases b p h.size_le with ⟨-, hp⟩ | ⟨hr, hlt, hp⟩ | ⟨hr, heq, hp⟩
  · -- turned away: only counters and the first expected number change
    rw [hp]
    refine ⟨?_, ?_, ?_⟩
    · simpa [discard] using h.size_le
    · simpa [discard] using h.keyed
    · simp [discard]
  all_goals
    have hc := contains_of_not_refuses hr
    have hk := keyed_store (b := b.receive p) (p := p) (by simpa using h.keyed) (by simpa using hc)
    have hs : ((b.receive p).store p).packets.size = b.packets.size + 1 := by
      rw [store_packets, receive_packets]
      exact OrdMap.size_emplace p hc
    rw [hp]
  · refine ⟨?_, hk, ?_⟩
    · simp only [store_capacity, receive_capacity]; omega
    · simp
  · have he := evictFirst_size (b := (b.receive p).store p) (by omega)
    refine ⟨?_, keyed_evictFirst hk, ?_⟩
    · simp only [evictFirst_capacity, store_capacity, receive_capacity]; omega
    · simp

theorem Kept.pop {b : RtpJitterBuffer} (h : Kept b) : Kept b.pop.2 := by
  rcases pop_cases b with ⟨hp, -⟩ | ⟨p, hi, hm, hp⟩
  · rw [hp]; exact h
  · have hs := OrdMap.size_erase hm
    have hle := h.size_le
    have hsize : (b.packets.erase b.expectedSequence).size ≤ b.capacity := by omega
    rw [hp]
    refine ⟨hsize, ?_, by simp [advance, hi]⟩
    intro e he
    exact h.keyed e (OrdMap.mem_erase.mp he).1

theorem Kept.apply {b : RtpJitterBuffer} (h : Kept b) (op : JitterOp) : Kept (b.apply op) := by
  cases op with
  | push p => exact h.push p
  | pop => exact h.pop
  | reset => exact h.reset

/-! ## Deliverability, key by key -/

theorem deliverable_iff {b : RtpJitterBuffer} (h : Kept b) :
    Deliverable b ↔ ∀ e ∈ b.packets.entries, ahead b.expectedSequence e.1 < 2 ^ 15 := by
  refine ⟨?_, ?_⟩
  · intro hd e he
    rw [h.keyed e he]
    exact hd.ahead_lt e.2 (List.mem_map_of_mem he)
  · intro ha
    have hlt : ∀ p ∈ b.packets.values, ahead b.expectedSequence p.sequence < 2 ^ 15 := by
      intro p hp
      obtain ⟨e, he, rfl⟩ := List.mem_map.mp hp
      rw [← h.keyed e he]
      exact ha e he
    refine ⟨hlt, ?_, h.size_le⟩
    intro p hp
    have := hlt p hp
    rw [← Bool.not_eq_true, sequenceBefore_iff]
    omega

/-- Past an eviction, what stays is numerically above the evicted number, so its
    distance ahead of the next number is plain subtraction. -/
theorem ahead_after_evict {first k : UInt16} (h : first < k) :
    ahead (first + 1) k = k.toNat - first.toNat - 1 := by
  have hk := k.toNat_lt
  have hlt := UInt16.lt_iff_toNat_lt.mp h
  rw [ahead_eq, add_one_toNat]
  omega

theorem mem_evictFirst {b : RtpJitterBuffer} {first : UInt16} {p : RtpPacket}
    (hf : b.packets.first? = some (first, p)) {e : UInt16 × RtpPacket} :
    e ∈ b.evictFirst.packets.entries ↔ e ∈ b.packets.entries ∧ first < e.1 := by
  rw [(evictFirst_spec hf).1, OrdMap.mem_erase]
  refine ⟨?_, ?_⟩
  · intro hmem
    obtain ⟨he, hne⟩ := hmem
    exact ⟨he, lt_of_le_of_ne ((OrdMap.first?_eq_some hf).2 e he) (Ne.symm hne)⟩
  · intro hmem
    obtain ⟨he, hlt⟩ := hmem
    exact ⟨he, ne_of_gt hlt⟩

theorem straddles_iff {b : RtpJitterBuffer} :
    b.straddles = true ↔ (∃ d ∈ b.packets.entries, d.1 < b.expectedSequence) ∧
      ∃ e ∈ b.packets.entries, b.expectedSequence ≤ e.1 := by
  simp [straddles, OrdMap.keys]

/-- An eviction leaves what stays deliverable exactly when the numbers did not
    straddle the wrap. -/
theorem deliverable_evictFirst_iff {b : RtpJitterBuffer} (hs : 0 < b.packets.size)
    (ha : ∀ e ∈ b.packets.entries, ahead b.expectedSequence e.1 < 2 ^ 15) :
    (∀ e ∈ b.evictFirst.packets.entries, ahead b.evictFirst.expectedSequence e.1 < 2 ^ 15) ↔
      b.straddles = false := by
  obtain ⟨first, p, hf⟩ := first?_isSome hs
  obtain ⟨hfm, hleast⟩ := OrdMap.first?_eq_some hf
  have haf := ha _ hfm
  have hel := b.expectedSequence.toNat_lt
  rw [(evictFirst_spec hf).2, ← Bool.not_eq_true, straddles_iff]
  rw [ahead_eq] at haf
  simp only at haf hleast
  refine ⟨?_, ?_⟩
  · -- The least number lies past the wrap; one at or above the expected number is
    -- then half the space or more above it.
    intro hall hstr
    obtain ⟨⟨d, hd, hde⟩, e, he, hee⟩ := hstr
    have hle := UInt16.le_iff_toNat_le.mp (hleast d hd)
    have hlt := UInt16.lt_iff_toNat_lt.mp hde
    have hge := UInt16.le_iff_toNat_le.mp hee
    have hfe : first < e.1 := UInt16.lt_iff_toNat_lt.mpr (by omega)
    have hbad := hall e ((mem_evictFirst hf).mpr ⟨he, hfe⟩)
    rw [ahead_after_evict hfe] at hbad
    omega
  · intro hns e he
    obtain ⟨hm, hlt⟩ := (mem_evictFirst hf).mp he
    rw [ahead_after_evict hlt]
    have hae := ha e hm
    have hltn := UInt16.lt_iff_toNat_lt.mp hlt
    have hek := e.1.toNat_lt
    rw [ahead_eq] at hae
    -- Both numbers lie on one side of the wrap.
    have hside : b.expectedSequence.toNat ≤ first.toNat ∨
        e.1.toNat < b.expectedSequence.toNat := by
      by_contra hno
      apply hns
      refine ⟨⟨_, hfm, UInt16.lt_iff_toNat_lt.mpr ?_⟩, e, hm, UInt16.le_iff_toNat_le.mpr ?_⟩
      · simp only; omega
      · omega
    omega

/-! ## Steps and runs -/

theorem ahead_store {b : RtpJitterBuffer} {p : RtpPacket}
    (ha : ∀ e ∈ b.packets.entries, ahead b.expectedSequence e.1 < 2 ^ 15)
    (hr : b.refuses p = false) (hc : b.packets.contains p.sequence = false) :
    ∀ e ∈ (b.store p).packets.entries, ahead (b.store p).expectedSequence e.1 < 2 ^ 15 := by
  intro e he
  rw [store_packets, OrdMap.mem_emplace hc] at he
  rw [store_expected]
  obtain rfl | he := he
  · exact ahead_of_not_refuses hr
  · exact ha e he

theorem ahead_receive {b : RtpJitterBuffer} (hk : Kept b) (p : RtpPacket)
    (ha : ∀ e ∈ b.packets.entries, ahead b.expectedSequence e.1 < 2 ^ 15) :
    ∀ e ∈ (b.receive p).packets.entries, ahead (b.receive p).expectedSequence e.1 < 2 ^ 15 := by
  rw [receive_packets, receive_expected]
  cases hi : b.initialized with
  | false => rw [hk.fresh hi]; simp
  | true => exact ha

theorem ahead_pop {b : RtpJitterBuffer}
    (ha : ∀ e ∈ b.packets.entries, ahead b.expectedSequence e.1 < 2 ^ 15) :
    ∀ e ∈ b.pop.2.packets.entries, ahead b.pop.2.expectedSequence e.1 < 2 ^ 15 := by
  rcases pop_cases b with ⟨hp, -⟩ | ⟨p, -, -, hp⟩
  · rw [hp]; exact ha
  · rw [hp]
    intro e he
    obtain ⟨hm, hne⟩ := OrdMap.mem_erase.mp he
    have hae := ha e hm
    -- What stays is not the expected packet, so one place nearer is still ahead.
    have hne' : e.1.toNat ≠ b.expectedSequence.toNat := by
      intro h
      exact hne (UInt16.toNat.inj h)
    have := e.1.toNat_lt
    have := b.expectedSequence.toNat_lt
    show ahead (b.expectedSequence + 1) e.1 < 2 ^ 15
    rw [ahead_eq] at hae
    rw [ahead_eq, add_one_toNat]
    omega

/-- What a call does to deliverability: only a push that overflows a straddling
    buffer breaks it, and every such push does. -/
theorem deliverable_apply_iff {b : RtpJitterBuffer} (hk : Kept b) (hd : Deliverable b)
    (op : JitterOp) :
    Deliverable (b.apply op) ↔ ∀ p, op = .push p → b.overflowStraddles p = false := by
  have ha := (deliverable_iff hk).mp hd
  cases op with
  | pop =>
    simp only [reduceCtorEq, false_imp_iff, implies_true, iff_true]
    exact (deliverable_iff hk.pop).mpr (ahead_pop ha)
  | reset =>
    simp only [reduceCtorEq, false_imp_iff, implies_true, iff_true]
    exact (deliverable_iff hk.reset).mpr (by simp [RtpJitterBuffer.reset])
  | push p =>
    simp only [JitterOp.push.injEq, forall_eq']
    rw [show b.apply (.push p) = (b.push p).2 from rfl, deliverable_iff (hk.push p)]
    have hrec := ahead_receive hk p ha
    rcases push_cases b p hk.size_le with ⟨hr, hp⟩ | ⟨hr, hlt, hp⟩ | ⟨hr, heq, hp⟩
    · simp only [hp, overflowStraddles, hr, Bool.not_true, Bool.false_and, iff_true]
      exact hrec
    all_goals
      have hc := contains_of_not_refuses hr
      have hst := ahead_store hrec hr (by simpa using hc)
    · have hne : (b.packets.size == b.capacity) = false := by simp; omega
      simp only [hp, overflowStraddles, hne, Bool.and_false, Bool.false_and, iff_true]
      exact hst
    · have hsz : 0 < ((b.receive p).store p).packets.size := by
        rw [store_packets, receive_packets, OrdMap.size_emplace p hc]; omega
      rw [hp, deliverable_evictFirst_iff hsz hst]
      simp [overflowStraddles, hr, heq]

/-- **When the stored packets stay deliverable.** Along a run of calls on a fresh
    buffer of any capacity, every stored packet is ahead of the next number and
    the capacity is kept, exactly when no push of the run overflows a buffer whose
    numbers straddle the wrap. -/
theorem run_deliverable_iff (capacity : ℕ) (ops : List JitterOp) :
    Always apply Deliverable (new capacity) ops ↔
      Each apply (fun b op => ∀ p, op = .push p → b.overflowStraddles p = false)
        (new capacity) ops := by
  have hempty : (new capacity).packets.entries = [] := by unfold new; split <;> rfl
  have h0 : Deliverable (new capacity) := by
    rw [deliverable_iff (kept_new capacity), hempty]
    simp
  exact always_iff_each (I := Kept) (fun _ op hk => hk.apply op)
    (fun _ op hk hd => deliverable_apply_iff hk hd op) (kept_new capacity) h0 ops

/-- One lost packet just before the wrap, two places behind it: the packet
    numbered 0 is evicted and 65535 stays behind the next number. -/
def wrapRun : List JitterOp :=
  [.push { sequence := 65533 }, .pop, .push { sequence := 65535 }, .push { sequence := 0 },
    .push { sequence := 1 }]

theorem wrapRun_not_deliverable : ¬ Deliverable (run apply (new 2) wrapRun) := by
  intro h
  have hbad := h.ahead_lt { sequence := 65535 } (by decide)
  revert hbad
  decide

end RtpJitterBuffer
end AirPlay2
