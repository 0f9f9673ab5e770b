import AirPlay2.Jitter.Conserve

/- The position of the jitter buffer, `next_sequence()`, over a run of calls. The eviction
   sets it to the number after the numerically least one held, wherever the expected number
   is, so that it never goes back across the wrap is not in the code. It rests on what
   earlier evictions leave behind (`NearBelow`): what they leave is numerically above the
   expected number, so a held number below it was accepted past the wrap and is close ahead.

   What is proved:
     1. `NearBelow.apply` — every call keeps that.
     2. `NearBelow.first_ahead` — the packet an overflow evicts is not behind the position.
     3. `position_forward` — each call moves the position forward, by how much, and no packet
        is popped twice.
     4. `lost_exact_iff` — the loss counter adds one for a gap of any width and nothing for
        an evicted head, so it is exact as long as nothing is evicted and no longer. -/
namespace AirPlay2
open Lib

open scoped List

namespace RtpJitterBuffer

/-- Held numbers that are numerically below the expected one lie past the wrap, less than
    half the number space ahead. -/
def NearBelow (b : RtpJitterBuffer) : Prop :=
  ∀ e ∈ b.packets.entries, e.1 < b.expectedSequence → ahead b.expectedSequence e.1 < 2 ^ 15

/-- How far a call moves `next_sequence()`. The push that fixes it moves nothing. -/
def movedBy (b : RtpJitterBuffer) (op : JitterOp) : ℕ :=
  if b.initialized then ahead b.expectedSequence (b.apply op).expectedSequence else 0

/-- What a call may do to the position of a buffer that has one. -/
def Forward (b : RtpJitterBuffer) : JitterOp → Prop
  | .push packet =>
    ((b.push packet).1 = false ∨ b.overflows packet = false → b.movedBy (.push packet) = 0) ∧
      (b.overflows packet = true → 1 ≤ b.movedBy (.push packet) ∧
        b.movedBy (.push packet) ≤ 2 ^ 15 ∧
        ∃ out, (packet :: b.packets.values).Perm (out :: (b.push packet).2.packets.values) ∧
          sequenceBefore out.sequence b.expectedSequence = false)
  | .pop =>
    (∀ packet, b.pop.1 = some packet →
        packet.sequence = b.expectedSequence ∧ b.movedBy .pop = 1) ∧
      (b.pop.1 = none → b.movedBy .pop = 0)
  | .reset => True

end RtpJitterBuffer

open RtpJitterBuffer

/-- The calls since construction or the last reset: what was accepted, popped and evicted,
    and the numbers the position has moved past. -/
structure JitterRun where
  buffer : RtpJitterBuffer
  accepted : List RtpPacket := []
  popped : List RtpPacket := []
  evicted : List RtpPacket := []
  moved : ℕ := 0

namespace JitterRun

def start (capacity : ℕ) : JitterRun := { buffer := new capacity }

def call (r : JitterRun) : JitterOp → JitterRun
  | .push packet =>
    { r with
      buffer := (r.buffer.push packet).2
      accepted := if (r.buffer.push packet).1 then r.accepted ++ [packet] else r.accepted
      evicted := r.evicted ++ (r.buffer.evictedBy packet).toList
      moved := r.moved + r.buffer.movedBy (.push packet) }
  | .pop =>
    { r with
      buffer := r.buffer.pop.2
      popped := r.popped ++ r.buffer.pop.1.toList
      moved := r.moved + r.buffer.movedBy .pop }
  | .reset => { buffer := r.buffer.reset }

/-- What every call keeps. -/
structure Reached (r : JitterRun) : Prop where
  kept : Kept r.buffer
  near : NearBelow r.buffer
  places : r.accepted.Perm (r.popped ++ r.buffer.packets.values ++ r.evicted)

/-- `stats().lost` is the numbers moved past that were not delivered. -/
def LostExact (r : JitterRun) : Prop :=
  (r.buffer.stats.lost.toNat : ℤ) = r.moved - r.popped.length

end JitterRun

namespace RtpJitterBuffer

/-! ## Distances -/

theorem ahead_self (e : UInt16) : ahead e e = 0 := by
  simp [ahead]

theorem ahead_succ {e s : UInt16} (h : ahead e s < 2 ^ 15) : ahead e (s + 1) = ahead e s + 1 := by
  have he := e.toNat_lt
  have hs := s.toNat_lt
  rw [ahead_eq] at h
  rw [ahead_eq, ahead_eq, add_one_toNat]
  omega

/-- A number below the expected one is that much nearer once the expected one is taken. -/
theorem ahead_next {e s : UInt16} (hne : s ≠ e) : ahead (e + 1) s + 1 = ahead e s := by
  have he := e.toNat_lt
  have hs := s.toNat_lt
  have hne' : s.toNat ≠ e.toNat := fun h => hne (UInt16.toNat.inj h)
  rw [ahead_eq, ahead_eq, add_one_toNat]
  omega

theorem lt_of_lt_succ {e s : UInt16} (h : s < e + 1) (hne : s ≠ e) : s < e := by
  have he := e.toNat_lt
  have hlt := UInt16.lt_iff_toNat_lt.mp h
  have hne' : s.toNat ≠ e.toNat := fun h => hne (UInt16.toNat.inj h)
  rw [add_one_toNat] at hlt
  rw [UInt16.lt_iff_toNat_lt]
  omega

/-! ## What the evictions leave behind -/

theorem nearBelow_of_empty {b : RtpJitterBuffer} (h : b.packets.entries = []) : NearBelow b := by
  intro e he
  rw [h] at he
  cases he

theorem NearBelow.receive {b : RtpJitterBuffer} (hk : Kept b) (h : NearBelow b) (p : RtpPacket) :
    NearBelow (b.receive p) := by
  cases hi : b.initialized with
  | false =>
    apply nearBelow_of_empty
    rw [receive_packets]
    exact hk.fresh hi
  | true =>
    have he : (b.receive p).expectedSequence = b.expectedSequence := by
      rw [receive_expected, hi, if_pos rfl]
    unfold NearBelow
    rw [receive_packets, he]
    exact h

theorem NearBelow.store {b : RtpJitterBuffer} {p : RtpPacket} (h : NearBelow b)
    (hr : b.refuses p = false) (hc : b.packets.contains p.sequence = false) :
    NearBelow (b.store p) := by
  intro e he
  rw [store_packets, OrdMap.mem_emplace hc] at he
  rw [store_expected]
  obtain rfl | he := he
  · exact fun _ => ahead_of_not_refuses hr
  · exact h e he

/-- What an eviction leaves is numerically above the evicted number. -/
theorem nearBelow_evictFirst {b : RtpJitterBuffer} (h : 0 < b.packets.size) :
    NearBelow b.evictFirst := by
  obtain ⟨first, q, hf⟩ := first?_isSome h
  intro e he hlt
  have habove := ((mem_evictFirst hf).mp he).2
  rw [(evictFirst_spec hf).2] at hlt
  have hle := UInt16.lt_iff_toNat_lt.mp hlt
  have hgt := UInt16.lt_iff_toNat_lt.mp habove
  rw [add_one_toNat] at hle
  omega

theorem NearBelow.push {b : RtpJitterBuffer} (hk : Kept b) (h : NearBelow b) (p : RtpPacket) :
    NearBelow (b.push p).2 := by
  rcases push_cases b p hk.size_le with ⟨-, hp⟩ | ⟨hr, -, hp⟩ | ⟨hr, -, hp⟩
  · rw [hp]
    exact h.receive hk p
  all_goals
    have hc : (b.receive p).packets.contains p.sequence = false := by
      rw [receive_packets]
      exact contains_of_not_refuses hr
    rw [hp]
  · exact (h.receive hk p).store hr hc
  · apply nearBelow_evictFirst
    rw [store_packets, OrdMap.size_emplace p hc]
    omega

theorem NearBelow.pop {b : RtpJitterBuffer} (h : NearBelow b) : NearBelow b.pop.2 := by
  rcases pop_cases b with ⟨hp, -⟩ | ⟨p, -, -, hp⟩
  · rw [hp]; exact h
  · rw [hp]
    intro e he hlt
    obtain ⟨hm, hne⟩ := OrdMap.mem_erase.mp he
    have hnear := h e hm (lt_of_lt_succ hlt hne)
    have hnext := ahead_next hne
    show ahead (b.expectedSequence + 1) e.1 < 2 ^ 15
    omega

theorem NearBelow.apply {b : RtpJitterBuffer} (hk : Kept b) (h : NearBelow b) (op : JitterOp) :
    NearBelow (b.apply op) := by
  cases op with
  | push p => exact h.push hk p
  | pop => exact h.pop
  | reset => exact nearBelow_of_empty rfl

/-- The least number held is not behind the position, once a number ahead of it is held. -/
theorem NearBelow.first_ahead {b : RtpJitterBuffer} (h : NearBelow b) {p : RtpPacket}
    (hp : (p.sequence, p) ∈ b.packets.entries)
    (ha : ahead b.expectedSequence p.sequence < 2 ^ 15) {first : UInt16} {q : RtpPacket}
    (hf : b.packets.first? = some (first, q)) : ahead b.expectedSequence first < 2 ^ 15 := by
  obtain ⟨hmem, hleast⟩ := OrdMap.first?_eq_some hf
  by_cases hlt : first < b.expectedSequence
  · exact h _ hmem hlt
  · -- The least number is at or above the expected one, and the new one is above both.
    have hle := UInt16.le_iff_toNat_le.mp (hleast _ hp)
    have hge := UInt16.le_iff_toNat_le.mp (UInt16.not_lt.mp hlt)
    have hps := p.sequence.toNat_lt
    simp only at hle
    rw [ahead_eq] at ha ⊢
    omega

/-! ## One call -/

theorem receive_lost (b : RtpJitterBuffer) (p : RtpPacket) :
    (b.receive p).stats.lost = b.stats.lost := by
  simp only [receive]
  split <;> rfl

theorem store_lost (b : RtpJitterBuffer) (p : RtpPacket) :
    (b.store p).stats.lost = b.stats.lost := by
  unfold store
  split <;> rfl

theorem receive_expected_of {b : RtpJitterBuffer} (hi : b.initialized = true) (p : RtpPacket) :
    (b.receive p).expectedSequence = b.expectedSequence := by
  rw [receive_expected, hi, if_pos rfl]

/-- A push that evicts nothing leaves the position where it is. -/
theorem movedBy_push_of_not_overflows {b : RtpJitterBuffer} (hk : Kept b) {p : RtpPacket}
    (h : b.overflows p = false) : b.movedBy (.push p) = 0 := by
  cases hi : b.initialized with
  | false => simp [movedBy, hi]
  | true =>
    have hexp : (b.push p).2.expectedSequence = b.expectedSequence := by
      rcases push_cases b p hk.size_le with ⟨-, hp⟩ | ⟨-, -, hp⟩ | ⟨hr, heq, -⟩
      · rw [hp, discard_expected, receive_expected_of hi]
      · rw [hp, store_expected, receive_expected_of hi]
      · simp [overflows, hr, heq] at h
    rw [movedBy, if_pos hi]
    show ahead b.expectedSequence (b.push p).2.expectedSequence = 0
    rw [hexp, ahead_self]

/-- Before the first push nothing is held, so it cannot overflow. -/
theorem initialized_of_overflows {b : RtpJitterBuffer} (hk : Kept b) {p : RtpPacket}
    (h : b.overflows p = true) : b.initialized = true := by
  by_contra hno
  have hempty := hk.fresh (Bool.not_eq_true _ ▸ hno)
  have hpos := b.capacity_pos
  simp only [overflows, Bool.and_eq_true, beq_iff_eq] at h
  rw [OrdMap.size, hempty, List.length_nil] at h
  omega

/-- What an overflow evicts, and where it leaves the position. -/
theorem push_of_overflows {b : RtpJitterBuffer} (hk : Kept b) (hn : NearBelow b) {p : RtpPacket}
    (h : b.overflows p = true) :
    ∃ out : RtpPacket, b.evictedBy p = some out ∧
      ahead b.expectedSequence out.sequence < 2 ^ 15 ∧
      (b.push p).2.expectedSequence = out.sequence + 1 ∧
      (b.push p).2.stats.lost =
        b.stats.lost + if out.sequence = b.expectedSequence then 0 else 1 := by
  have hi := initialized_of_overflows hk h
  rcases push_cases b p hk.size_le with ⟨hr, -⟩ | ⟨hr, hlt, -⟩ | ⟨hr, -, hp⟩
  · simp [overflows, hr] at h
  · simp only [overflows, hr, Bool.not_false, Bool.true_and, beq_iff_eq] at h
    omega
  · have hc : (b.receive p).packets.contains p.sequence = false := by
      rw [receive_packets]
      exact contains_of_not_refuses hr
    have hsize : 0 < ((b.receive p).store p).packets.size := by
      rw [store_packets, OrdMap.size_emplace p hc]
      omega
    obtain ⟨first, out, hf⟩ := first?_isSome hsize
    have hstored : (p.sequence, p) ∈ ((b.receive p).store p).packets.entries := by
      rw [store_packets, OrdMap.mem_emplace hc]
      exact Or.inl rfl
    have hahead : ahead ((b.receive p).store p).expectedSequence first < 2 ^ 15 := by
      apply ((hn.receive hk p).store hr hc).first_ahead hstored _ hf
      rw [store_expected]
      exact ahead_of_not_refuses hr
    -- Packets are held under their own number.
    have hkey : first = out.sequence :=
      keyed_store (b := b.receive p) (by rw [receive_packets]; exact hk.keyed) hc _
        (OrdMap.first?_eq_some hf).1
    have hexp : ((b.receive p).store p).expectedSequence = b.expectedSequence := by
      rw [store_expected, receive_expected_of hi]
    have hlost : ((b.receive p).store p).stats.lost = b.stats.lost := by
      rw [store_lost, receive_lost]
    rw [hexp] at hahead
    refine ⟨out, ?_, hkey ▸ hahead, ?_, ?_⟩
    · rw [evictedBy, if_pos h, hf, Option.map_some]
    · rw [hp]
      exact hkey ▸ (evictFirst_spec hf).2
    · rw [hp]
      unfold evictFirst
      simp only [hf, hexp, ← hkey]
      split
      · exact hlost.trans (add_zero _).symm
      · exact congrArg (· + 1) hlost

theorem movedBy_of_overflows {b : RtpJitterBuffer} (hk : Kept b) (hn : NearBelow b)
    {p out : RtpPacket} (h : b.overflows p = true) (ho : b.evictedBy p = some out) :
    b.movedBy (.push p) = ahead b.expectedSequence out.sequence + 1 := by
  obtain ⟨out', ho', hahead, hexp, -⟩ := push_of_overflows hk hn h
  have hsame : out' = out := Option.some.inj (ho'.symm.trans ho)
  subst hsame
  rw [movedBy, if_pos (initialized_of_overflows hk h)]
  show ahead b.expectedSequence (b.push p).2.expectedSequence = _
  rw [hexp, ahead_succ hahead]

/-- A pop moves on by what it gives. -/
theorem movedBy_pop {b : RtpJitterBuffer} : b.movedBy .pop = b.pop.1.toList.length := by
  rcases pop_cases b with ⟨hp, -⟩ | ⟨p, hi, -, hp⟩
  · have hsame : b.apply .pop = b := congrArg Prod.snd hp
    rw [movedBy, hsame, ahead_self, ite_self, hp]
    rfl
  · rw [movedBy, if_pos hi, hp]
    show ahead b.expectedSequence b.pop.2.expectedSequence = 1
    rw [hp]
    show ahead b.expectedSequence (b.expectedSequence + 1) = 1
    rw [ahead_succ (by rw [ahead_self]; omega), ahead_self]

theorem forward_push {b : RtpJitterBuffer} (hk : Kept b) (hn : NearBelow b) (p : RtpPacket) :
    b.Forward (.push p) := by
  refine ⟨?_, ?_⟩
  · intro h
    apply movedBy_push_of_not_overflows hk
    obtain hrefused | hno := h
    · exact (push_refused hk p hrefused).2
    · exact hno
  · intro h
    obtain ⟨out, ho, hahead, -, -⟩ := push_of_overflows hk hn h
    have hmoved := movedBy_of_overflows hk hn h ho
    have hpushed : (b.push p).1 = true := by
      by_contra hno
      have hrefused := (push_refused hk p (Bool.not_eq_true _ ▸ hno)).2
      rw [h] at hrefused
      cases hrefused
    have hperm := (push_perm hk p hpushed).1
    rw [ho] at hperm
    refine ⟨by omega, by omega, out, hperm, ?_⟩
    rw [← Bool.not_eq_true, sequenceBefore_iff]
    omega

theorem forward_pop {b : RtpJitterBuffer} (hk : Kept b) : b.Forward .pop := by
  refine ⟨?_, ?_⟩
  · intro p hpop
    rw [movedBy_pop, hpop]
    refine ⟨?_, rfl⟩
    rcases pop_cases b with ⟨hp, -⟩ | ⟨q, -, hm, hp⟩
    · rw [hp] at hpop
      cases hpop
    · rw [hp] at hpop
      have hsame : q = p := Option.some.inj hpop
      rw [← hsame]
      exact (hk.keyed _ hm).symm
  · intro hnone
    rw [movedBy_pop, hnone]
    rfl

end RtpJitterBuffer

namespace JitterRun

/-! ## Runs -/

theorem reached_start (capacity : ℕ) : Reached (start capacity) := by
  have hempty : (new capacity).packets.entries = [] := by unfold new; split <;> rfl
  refine ⟨kept_new capacity, nearBelow_of_empty hempty, ?_⟩
  show [].Perm ([] ++ (new capacity).packets.values ++ [])
  rw [OrdMap.values, hempty]
  exact .refl _

theorem call_buffer (r : JitterRun) (op : JitterOp) : (r.call op).buffer = r.buffer.apply op := by
  cases op <;> rfl

theorem Reached.places_push {r : JitterRun} (h : Reached r) (p : RtpPacket) :
    (r.call (.push p)).accepted.Perm ((r.call (.push p)).popped ++
      (r.call (.push p)).buffer.packets.values ++ (r.call (.push p)).evicted) := by
  cases hok : (r.buffer.push p).1 with
  | false =>
    obtain ⟨hsame, hov⟩ := push_refused h.kept p hok
    have hnone : r.buffer.evictedBy p = none := by simp [evictedBy, hov]
    simpa [call, hok, hsame, hnone] using h.places
  | true =>
    have hperm := (push_perm h.kept p hok).1
    have hnone : (r.buffer.push p).2.packets.values.Perm
        ([] ++ (r.buffer.push p).2.packets.values) := .refl _
    have hplaces := MediaRun.places_arrive h.places hperm hnone
    rw [List.append_nil] at hplaces
    simp only [call, hok, if_true]
    exact hplaces

theorem Reached.places_pop {r : JitterRun} (h : Reached r) :
    (r.call .pop).accepted.Perm ((r.call .pop).popped ++
      (r.call .pop).buffer.packets.values ++ (r.call .pop).evicted) := by
  rcases pop_cases r.buffer with ⟨hp, -⟩ | ⟨p, -, hm, hp⟩
  · simpa [call, hp] using h.places
  · have hperm := values_perm (OrdMap.erase_perm hm)
    have hplaces := h.places
    simp only [call, hp, Option.toList_some, advance]
    calc r.accepted
        ~ r.popped ++ r.buffer.packets.values ++ r.evicted := hplaces
      _ ~ r.popped ++ (p :: (r.buffer.packets.erase r.buffer.expectedSequence).values) ++
          r.evicted := (hperm.append_left r.popped).append_right r.evicted
      _ = r.popped ++ [p] ++ (r.buffer.packets.erase r.buffer.expectedSequence).values ++
          r.evicted := by simp

theorem Reached.call {r : JitterRun} (h : Reached r) (op : JitterOp) : Reached (r.call op) := by
  have hk : Kept (r.call op).buffer := by
    rw [call_buffer]
    exact h.kept.apply op
  have hn : NearBelow (r.call op).buffer := by
    rw [call_buffer]
    exact h.near.apply h.kept op
  refine ⟨hk, hn, ?_⟩
  cases op with
  | push p => exact h.places_push p
  | pop => exact h.places_pop
  | reset => exact .refl _

theorem reached_run (capacity : ℕ) (ops : List JitterOp) :
    Reached (run call (start capacity) ops) :=
  run_induction (fun _ op h => h.call op) (reached_start capacity) ops

theorem Reached.forward {r : JitterRun} (h : Reached r) (op : JitterOp) :
    r.buffer.Forward op := by
  cases op with
  | push p => exact forward_push h.kept h.near p
  | pop => exact forward_pop h.kept
  | reset => exact trivial

/-- **The position only moves forward.** On a buffer of any capacity and in any run, each call
    on an initialized buffer moves `next_sequence()` by one where it pops, by 1 to `2^15` where
    it overflows, evicting one packet that is not behind, and otherwise not at all. What is
    popped was accepted, and is popped once. -/
theorem position_forward (capacity : ℕ) (ops : List JitterOp) :
    Each call (fun r op => r.buffer.initialized = true → r.buffer.Forward op) (start capacity) ops ∧
      (run call (start capacity) ops).popped.Subperm (run call (start capacity) ops).accepted := by
  refine ⟨?_, ?_⟩
  · intro before op _ _
    exact (reached_run capacity before).forward op
  · have hplaces := (reached_run capacity ops).places
    rw [List.append_assoc] at hplaces
    exact (List.sublist_append_left _ _).subperm.trans hplaces.symm.subperm

/-! ## The loss counter -/

/-- The call is a push that is accepted into a full buffer. -/
def Overflowing (r : JitterRun) (op : JitterOp) : Prop :=
  ∃ packet, op = .push packet ∧ r.buffer.overflows packet = true

theorem push_lost_of_not_overflows {b : RtpJitterBuffer} (hk : Kept b) {p : RtpPacket}
    (h : b.overflows p = false) : (b.push p).2.stats.lost = b.stats.lost := by
  rcases push_cases b p hk.size_le with ⟨-, hp⟩ | ⟨-, -, hp⟩ | ⟨hr, heq, -⟩
  · rw [hp]
    exact receive_lost b p
  · rw [hp]
    exact (store_lost _ p).trans (receive_lost b p)
  · simp [overflows, hr, heq] at h

/-- An overflow moves the position further than the counter goes. -/
theorem lost_of_overflows {b : RtpJitterBuffer} (hk : Kept b) (hn : NearBelow b) {p : RtpPacket}
    (h : b.overflows p = true) :
    (b.push p).2.stats.lost.toNat < b.stats.lost.toNat + b.movedBy (.push p) := by
  obtain ⟨out, ho, hahead, -, hlost⟩ := push_of_overflows hk hn h
  rw [hlost, movedBy_of_overflows hk hn h ho]
  split
  · rw [add_zero]
    omega
  · rename_i hgap
    -- The evicted number is not the expected one, so it is one ahead or more.
    have hpos : 0 < ahead b.expectedSequence out.sequence := by
      have hnext := ahead_next hgap
      omega
    have hle : (b.stats.lost + 1).toNat ≤ b.stats.lost.toNat + 1 := by
      rw [UInt64.toNat_add]
      exact Nat.mod_le _ _
    omega

/-- The counter never runs ahead of the position. -/
def LostBounded (r : JitterRun) : Prop :=
  r.buffer.stats.lost.toNat + r.popped.length ≤ r.moved

theorem lostExact_iff {r : JitterRun} :
    r.LostExact ↔ r.buffer.stats.lost.toNat + r.popped.length = r.moved := by
  unfold LostExact
  omega

theorem lostExact_start (capacity : ℕ) : (start capacity).LostExact := by
  rw [lostExact_iff]
  show (new capacity).stats.lost.toNat + 0 = 0
  unfold new
  split <;> rfl

/-- A call that evicts nothing moves counter, pops and position together. -/
theorem call_lost {r : JitterRun} (h : Reached r) {op : JitterOp} (hreset : op ≠ .reset)
    (hno : ¬ r.Overflowing op) :
    (r.call op).buffer.stats.lost = r.buffer.stats.lost ∧
      (r.call op).popped.length + r.moved = r.popped.length + (r.call op).moved := by
  cases op with
  | push p =>
    have hov : r.buffer.overflows p = false := by
      rw [← Bool.not_eq_true]
      exact fun hov => hno ⟨p, rfl, hov⟩
    refine ⟨push_lost_of_not_overflows h.kept hov, ?_⟩
    simp [call, movedBy_push_of_not_overflows h.kept hov]
  | pop =>
    refine ⟨?_, ?_⟩
    · rcases pop_cases r.buffer with ⟨hp, -⟩ | ⟨p, -, -, hp⟩ <;> simp [call, hp, advance]
    · simp only [call, movedBy_pop, List.length_append]
      omega
  | reset => exact absurd rfl hreset

theorem call_overflowing {r : JitterRun} (h : Reached r) (hb : LostBounded r) {op : JitterOp}
    (hov : r.Overflowing op) :
    (r.call op).buffer.stats.lost.toNat + (r.call op).popped.length < (r.call op).moved := by
  obtain ⟨p, rfl, hov⟩ := hov
  have hlt := lost_of_overflows h.kept h.near hov
  unfold LostBounded at hb
  simp only [call]
  omega

theorem LostBounded.call {r : JitterRun} (h : Reached r) (hb : LostBounded r) (op : JitterOp) :
    LostBounded (r.call op) := by
  by_cases hreset : op = .reset
  · subst hreset
    exact Nat.le_refl 0
  · by_cases hov : r.Overflowing op
    · exact Nat.le_of_lt (call_overflowing h hb hov)
    · obtain ⟨hlost, hmoved⟩ := call_lost h hreset hov
      unfold LostBounded at hb ⊢
      rw [hlost]
      omega

/-- Exactness is lost with an overflow and comes back with a reset. -/
theorem not_lostExact_call {r : JitterRun} (h : Reached r) (hb : LostBounded r) (op : JitterOp) :
    ¬ (r.call op).LostExact ↔ r.Overflowing op ∨ (¬ r.LostExact ∧ ¬ op = .reset) := by
  rw [lostExact_iff, lostExact_iff]
  by_cases hreset : op = .reset
  · subst hreset
    have hno : ¬ r.Overflowing .reset := by
      intro hov
      obtain ⟨p, hp, -⟩ := hov
      cases hp
    simp [hno, JitterRun.call, RtpJitterBuffer.reset]
  · by_cases hov : r.Overflowing op
    · have hlt := call_overflowing h hb hov
      exact iff_of_true (by omega) (Or.inl hov)
    · obtain ⟨hlost, hmoved⟩ := call_lost h hreset hov
      rw [hlost]
      simp only [hov, hreset, false_or, not_false_eq_true, and_true]
      omega

/-- **When the loss counter is exact.** `stats().lost` is the numbers `next_sequence()` has
    moved past less the pops, since construction or the last reset, exactly when no push since
    then was accepted into a full buffer. -/
theorem lost_exact_iff (capacity : ℕ) (ops : List JitterOp) :
    (run call (start capacity) ops).LostExact ↔
      ¬ Since call Overflowing (· = .reset) (start capacity) ops := by
  have hinv : ∀ pre, Reached (run call (start capacity) pre) ∧
      LostBounded (run call (start capacity) pre) := by
    intro pre
    have hstart : Reached (start capacity) ∧ LostBounded (start capacity) :=
      ⟨reached_start capacity, (lostExact_iff.mp (lostExact_start capacity)).le⟩
    refine run_induction (P := fun r => Reached r ∧ LostBounded r) ?_ hstart pre
    intro r op h
    exact ⟨h.1.call op, h.2.call h.1 op⟩
  have hiff : ¬ (run call (start capacity) ops).LostExact ↔
      Since call Overflowing (· = .reset) (start capacity) ops := by
    refine holds_iff_since_along (H := fun r : JitterRun => ¬ r.LostExact)
      (not_not_intro (lostExact_start capacity)) ops ?_
    intro pre op _
    exact not_lostExact_call (hinv pre).1 (hinv pre).2 op
  rw [← hiff, not_not]

/-- The head evicted and then a gap of four numbers, in a buffer of capacity one. -/
def evictingRun : List JitterOp :=
  [.push { sequence := 0 }, .push { sequence := 5 }, .push { sequence := 9 }]

/-- Six numbers are passed and none is popped, but the counter says one. -/
theorem evictingRun_lost_inexact : ¬ (run call (start 1) evictingRun).LostExact := by
  rw [lostExact_iff]
  decide

end JitterRun
end AirPlay2
