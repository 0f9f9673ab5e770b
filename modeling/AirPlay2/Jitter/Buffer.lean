import AirPlay2.Lib.Machine
import AirPlay2.Lib.OrdMap

/- The RTP jitter buffer (`rtp_jitter_buffer.cpp`): packets held by sequence
   number until the expected one can be popped, the least number evicted when
   more than `capacity` of them are held. The stored packets are a
   `std::map<std::uint16_t, RtpPacket>`, so `packets_.begin()` is the packet with
   the numerically least number, while acceptance is by serial order
   (`sequenceBefore`). `push_cases` says everything a push can do, `pop_cases`
   everything a pop can do; later modules use only these. -/
namespace AirPlay2
open Lib

structure RtpPacket where
  payloadType : UInt8 := 0
  sequence : UInt16 := 0
  timestamp : UInt32 := 0
  ssrc : UInt32 := 0
  marker : Bool := false
  payload : List UInt8 := []
  deriving DecidableEq, Repr, Inhabited

structure RtpStreamStats where
  received : UInt64 := 0
  discarded : UInt64 := 0
  reordered : UInt64 := 0
  lost : UInt64 := 0
  deriving DecidableEq, Repr

/-- The buffer. The constructor turns capacity 0 into 1, so a capacity is
    positive. -/
structure RtpJitterBuffer where
  capacity : ℕ
  capacity_pos : 0 < capacity
  initialized : Bool := false
  expectedSequence : UInt16 := 0
  packets : OrdMap UInt16 RtpPacket := .empty
  stats : RtpStreamStats := {}
  deriving DecidableEq

namespace RtpJitterBuffer

def new (capacity : ℕ) : RtpJitterBuffer :=
  if h : capacity = 0 then { capacity := 1, capacity_pos := Nat.one_pos }
  else { capacity := capacity, capacity_pos := Nat.pos_of_ne_zero h }

def reset (b : RtpJitterBuffer) : RtpJitterBuffer :=
  { b with initialized := false, expectedSequence := 0, packets := .empty, stats := {} }

/-- `static_cast<std::int16_t>(a - b) < 0`. -/
def sequenceBefore (a b : UInt16) : Bool := (a - b).toInt16 < 0

/-- A push counts the packet and, on an uninitialized buffer, fixes the expected
    number. -/
def receive (b : RtpJitterBuffer) (packet : RtpPacket) : RtpJitterBuffer :=
  let b := { b with stats := { b.stats with received := b.stats.received + 1 } }
  if b.initialized then b
  else { b with expectedSequence := packet.sequence, initialized := true }

def discard (b : RtpJitterBuffer) : RtpJitterBuffer :=
  { b with stats := { b.stats with discarded := b.stats.discarded + 1 } }

def store (b : RtpJitterBuffer) (packet : RtpPacket) : RtpJitterBuffer :=
  let b :=
    if packet.sequence ≠ b.expectedSequence then
      { b with stats := { b.stats with reordered := b.stats.reordered + 1 } }
    else b
  { b with packets := b.packets.emplace packet.sequence packet }

/-- The body of the overflow loop, on `packets_.begin()`. -/
def evictFirst (b : RtpJitterBuffer) : RtpJitterBuffer :=
  match b.packets.first? with
  | none => b
  | some (first, _) =>
    let b :=
      if first = b.expectedSequence then { b with expectedSequence := b.expectedSequence + 1 }
      else
        { b with
          stats := { b.stats with lost := b.stats.lost + 1 }
          expectedSequence := first + 1 }
    { b with packets := b.packets.erase first }

/-- `while (packets_.size() > capacity_)`: every round takes one packet out
    (`evictFirst_size`), so the number of stored packets is fuel enough. -/
def evictOverflow : ℕ → RtpJitterBuffer → RtpJitterBuffer
  | 0, b => b
  | fuel + 1, b => if b.capacity < b.packets.size then evictOverflow fuel b.evictFirst else b

def push (b : RtpJitterBuffer) (packet : RtpPacket) : Bool × RtpJitterBuffer :=
  let b := b.receive packet
  if sequenceBefore packet.sequence b.expectedSequence then (false, b.discard)
  -- a duplicate of a packet still held
  else if b.packets.contains packet.sequence then (false, b.discard)
  else
    let b := b.store packet
    (true, evictOverflow b.packets.size b)

/-- The expected packet taken out, and the next number expected. -/
def advance (b : RtpJitterBuffer) : RtpJitterBuffer :=
  { b with
    packets := b.packets.erase b.expectedSequence
    expectedSequence := b.expectedSequence + 1 }

def pop (b : RtpJitterBuffer) : Option RtpPacket × RtpJitterBuffer :=
  if !b.initialized then (none, b)
  else
    match b.packets.find? b.expectedSequence with
    | none => (none, b)
    | some packet => (some packet, b.advance)

/-- `while (auto ordered = pop())`: every round takes one packet out. -/
def popAllFuel : ℕ → RtpJitterBuffer → List RtpPacket × RtpJitterBuffer
  | 0, b => ([], b)
  | fuel + 1, b =>
    match b.pop with
    | (none, b) => ([], b)
    | (some packet, b) => ((packet :: (popAllFuel fuel b).1), (popAllFuel fuel b).2)

/-- Popping until the buffer has nothing to give (`popAll_pop`). -/
def popAll (b : RtpJitterBuffer) : List RtpPacket × RtpJitterBuffer :=
  popAllFuel b.packets.size b

/-! ## Serial order -/

/-- How far `s` lies ahead of `e`: `(s - e) mod 2^16`. -/
def ahead (e s : UInt16) : ℕ := (s - e).toNat

theorem ahead_eq (e s : UInt16) : ahead e s = (65536 - e.toNat + s.toNat) % 65536 :=
  UInt16.toNat_sub s e

theorem sequenceBefore_iff {a b : UInt16} : sequenceBefore a b = true ↔ 2 ^ 15 ≤ ahead b a := by
  have hlt := (a - b).toNat_lt
  have hz : (0 : Int16).toBitVec.toInt = 0 := by decide
  have hnat : (a - b).toInt16.toBitVec.toNat = (a - b).toNat := rfl
  simp only [sequenceBefore, ahead, decide_eq_true_eq, Int16.lt_iff_toInt_lt, Int16.toInt, hz,
    BitVec.toInt_eq_toNat_cond, hnat]
  split <;> omega

theorem add_one_toNat (a : UInt16) : (a + 1).toNat = (a.toNat + 1) % 65536 := by
  rw [UInt16.toNat_add]; rfl

/-! ## The overflow loop -/

@[simp] theorem receive_packets (b : RtpJitterBuffer) (p : RtpPacket) :
    (b.receive p).packets = b.packets := by
  simp only [receive]; split <;> rfl

@[simp] theorem receive_capacity (b : RtpJitterBuffer) (p : RtpPacket) :
    (b.receive p).capacity = b.capacity := by
  simp only [receive]; split <;> rfl

@[simp] theorem receive_initialized (b : RtpJitterBuffer) (p : RtpPacket) :
    (b.receive p).initialized = true := by
  unfold receive
  cases h : b.initialized <;> simp

theorem receive_expected (b : RtpJitterBuffer) (p : RtpPacket) :
    (b.receive p).expectedSequence =
      if b.initialized then b.expectedSequence else p.sequence := by
  unfold receive; cases h : b.initialized <;> simp

@[simp] theorem discard_packets (b : RtpJitterBuffer) : b.discard.packets = b.packets := rfl

@[simp] theorem discard_initialized (b : RtpJitterBuffer) :
    b.discard.initialized = b.initialized := rfl

@[simp] theorem discard_expected (b : RtpJitterBuffer) :
    b.discard.expectedSequence = b.expectedSequence := rfl

@[simp] theorem store_packets (b : RtpJitterBuffer) (p : RtpPacket) :
    (b.store p).packets = b.packets.emplace p.sequence p := by
  unfold store; split <;> rfl

@[simp] theorem store_capacity (b : RtpJitterBuffer) (p : RtpPacket) :
    (b.store p).capacity = b.capacity := by
  unfold store; split <;> rfl

@[simp] theorem store_expected (b : RtpJitterBuffer) (p : RtpPacket) :
    (b.store p).expectedSequence = b.expectedSequence := by
  unfold store; split <;> rfl

@[simp] theorem store_initialized (b : RtpJitterBuffer) (p : RtpPacket) :
    (b.store p).initialized = b.initialized := by
  unfold store; split <;> rfl

@[simp] theorem evictFirst_capacity (b : RtpJitterBuffer) :
    b.evictFirst.capacity = b.capacity := by
  unfold evictFirst; split
  · rfl
  · split <;> rfl

@[simp] theorem evictFirst_initialized (b : RtpJitterBuffer) :
    b.evictFirst.initialized = b.initialized := by
  unfold evictFirst; split
  · rfl
  · split <;> rfl

theorem evictOverflow_capacity (fuel : ℕ) (b : RtpJitterBuffer) :
    (evictOverflow fuel b).capacity = b.capacity := by
  induction fuel generalizing b with
  | zero => rfl
  | succ fuel ih =>
    simp only [evictOverflow]
    split
    · rw [ih, evictFirst_capacity]
    · rfl

theorem push_capacity (b : RtpJitterBuffer) (p : RtpPacket) :
    (b.push p).2.capacity = b.capacity := by
  have hdiscard : ∀ b : RtpJitterBuffer, b.discard.capacity = b.capacity := fun _ => rfl
  unfold push
  dsimp only
  split
  · rw [hdiscard, receive_capacity]
  · split
    · rw [hdiscard, receive_capacity]
    · rw [evictOverflow_capacity, store_capacity, receive_capacity]

theorem pop_capacity (b : RtpJitterBuffer) : b.pop.2.capacity = b.capacity := by
  unfold pop
  split
  · rfl
  · split <;> rfl

theorem popAllFuel_capacity (fuel : ℕ) (b : RtpJitterBuffer) :
    (popAllFuel fuel b).2.capacity = b.capacity := by
  induction fuel generalizing b with
  | zero => rfl
  | succ fuel ih =>
    have hpop := b.pop_capacity
    simp only [popAllFuel]
    split
    · rename_i hb
      rw [hb] at hpop
      exact hpop
    · rename_i hb
      rw [hb] at hpop
      exact (ih _).trans hpop

/-- Whichever branch it takes, an eviction takes the first packet out and expects
    the number after it. -/
theorem evictFirst_spec {b : RtpJitterBuffer} {first : UInt16} {p : RtpPacket}
    (h : b.packets.first? = some (first, p)) :
    b.evictFirst.packets = b.packets.erase first ∧
      b.evictFirst.expectedSequence = first + 1 := by
  unfold evictFirst
  simp only [h]
  split
  · rename_i heq
    exact ⟨rfl, by simp [heq]⟩
  · exact ⟨rfl, rfl⟩

theorem first?_isSome {b : RtpJitterBuffer} (h : 0 < b.packets.size) :
    ∃ first p, b.packets.first? = some (first, p) := by
  cases hf : b.packets.first? with
  | none =>
    have hn := OrdMap.entries_eq_nil_of_first? hf
    simp [OrdMap.size, hn] at h
  | some e => exact ⟨e.1, e.2, rfl⟩

theorem evictFirst_size {b : RtpJitterBuffer} (h : 0 < b.packets.size) :
    b.evictFirst.packets.size + 1 = b.packets.size := by
  obtain ⟨first, p, hf⟩ := first?_isSome h
  rw [(evictFirst_spec hf).1]
  exact OrdMap.size_erase (OrdMap.first?_eq_some hf).1

theorem evictOverflow_of_le {b : RtpJitterBuffer} (h : b.packets.size ≤ b.capacity) (fuel : ℕ) :
    evictOverflow fuel b = b := by
  cases fuel with
  | zero => rfl
  | succ fuel => simp [evictOverflow, Nat.not_lt.mpr h]

/-- One packet over the capacity is one eviction. -/
theorem evictOverflow_one {b : RtpJitterBuffer} (h : b.packets.size = b.capacity + 1) :
    evictOverflow b.packets.size b = b.evictFirst := by
  rw [h]
  simp only [evictOverflow, h, Nat.lt_succ_self, if_true]
  have hs := evictFirst_size (b := b) (by omega)
  apply evictOverflow_of_le
  rw [evictFirst_capacity]
  omega

/-! ## What a push and a pop can do -/

/-- A packet the buffer turns away: serially before the expected number, or held
    already. -/
def refuses (b : RtpJitterBuffer) (packet : RtpPacket) : Bool :=
  sequenceBefore packet.sequence b.expectedSequence || b.packets.contains packet.sequence

theorem push_eq (b : RtpJitterBuffer) (p : RtpPacket) :
    b.push p =
      if (b.receive p).refuses p then (false, (b.receive p).discard)
      else (true, evictOverflow ((b.receive p).store p).packets.size ((b.receive p).store p)) := by
  simp only [push, refuses, receive_packets]
  cases sequenceBefore p.sequence (b.receive p).expectedSequence <;>
    cases b.packets.contains p.sequence <;> simp

theorem contains_of_not_refuses {b : RtpJitterBuffer} {p : RtpPacket}
    (h : (b.receive p).refuses p = false) : b.packets.contains p.sequence = false := by
  have h := (Bool.or_eq_false_iff.mp h).2
  rwa [receive_packets] at h

theorem ahead_of_not_refuses {b : RtpJitterBuffer} {p : RtpPacket}
    (h : b.refuses p = false) : ahead b.expectedSequence p.sequence < 2 ^ 15 := by
  have h := (Bool.or_eq_false_iff.mp h).1
  rw [← Bool.not_eq_true, sequenceBefore_iff] at h
  omega

/-- What a push can do to a buffer that holds no more than its capacity: turn the
    packet away and store nothing, store it, or store it and evict the first
    packet. -/
theorem push_cases (b : RtpJitterBuffer) (p : RtpPacket) (hs : b.packets.size ≤ b.capacity) :
    ((b.receive p).refuses p = true ∧ b.push p = (false, (b.receive p).discard)) ∨
    ((b.receive p).refuses p = false ∧ b.packets.size < b.capacity ∧
      b.push p = (true, (b.receive p).store p)) ∨
    ((b.receive p).refuses p = false ∧ b.packets.size = b.capacity ∧
      b.push p = (true, ((b.receive p).store p).evictFirst)) := by
  rw [push_eq]
  cases hr : (b.receive p).refuses p with
  | true => exact Or.inl ⟨rfl, rfl⟩
  | false =>
    have hsize : ((b.receive p).store p).packets.size = b.packets.size + 1 := by
      rw [store_packets, receive_packets]
      exact OrdMap.size_emplace p (contains_of_not_refuses hr)
    simp only [Bool.false_eq_true, if_false, true_and]
    -- With one packet more, the overflow loop runs once or not at all.
    obtain hlt | heq := Nat.lt_or_eq_of_le hs
    · refine Or.inr (Or.inl ⟨hlt, ?_⟩)
      rw [evictOverflow_of_le]
      simp only [store_capacity, receive_capacity]
      omega
    · refine Or.inr (Or.inr ⟨heq, ?_⟩)
      rw [evictOverflow_one]
      simp only [store_capacity, receive_capacity]
      omega

/-- What a pop can do: give nothing and change nothing, or give the expected
    packet and move to the next number. -/
theorem pop_cases (b : RtpJitterBuffer) :
    (b.pop = (none, b) ∧
      (b.initialized = true → b.packets.find? b.expectedSequence = none)) ∨
    (∃ p, b.initialized = true ∧ (b.expectedSequence, p) ∈ b.packets.entries ∧
      b.pop = (some p, b.advance)) := by
  unfold pop
  cases hi : b.initialized with
  | false => exact Or.inl ⟨by simp, by simp⟩
  | true =>
    cases hf : b.packets.find? b.expectedSequence with
    | none => exact Or.inl ⟨by simp, fun _ => rfl⟩
    | some p => exact Or.inr ⟨p, rfl, OrdMap.find?_eq_some.mp hf, by simp⟩

theorem popAllFuel_pop (fuel : ℕ) (b : RtpJitterBuffer) (h : b.packets.size ≤ fuel) :
    (popAllFuel fuel b).2.pop.1 = none := by
  induction fuel generalizing b with
  | zero =>
    rcases pop_cases b with ⟨hp, -⟩ | ⟨p, -, hm, -⟩
    · simp [popAllFuel, hp]
    · have := OrdMap.size_erase hm; omega
  | succ fuel ih =>
    rcases pop_cases b with ⟨hp, -⟩ | ⟨p, -, hm, hp⟩
    · simp [popAllFuel, hp]
    · have hs := OrdMap.size_erase hm
      simp only [popAllFuel, hp]
      exact ih _ (by show (b.packets.erase _).size ≤ fuel; omega)

/-- `popAll` stops only where a pop gives nothing. -/
theorem popAll_pop (b : RtpJitterBuffer) : b.popAll.2.pop.1 = none :=
  popAllFuel_pop _ b (Nat.le_refl _)

end RtpJitterBuffer
end AirPlay2
