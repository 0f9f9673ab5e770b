import Mathlib.Data.List.Dedup
import AirPlay2.Lib.Reorder
import AirPlay2.Jitter.Order

/- A stream through the jitter buffer: packet `i` carries the number `s + i` mod
   2^16, for any number of packets, arriving in any order within half the number
   space of the next one, with late and duplicate copies. The buffer holds 16-bit
   numbers; the stream is indexed by `ℕ`. `Simulates` relates the buffer to the
   unbounded reorder machine of `Lib.Reorder`, whose state cannot hold two copies
   of an index or deliver out of order: an index that is pending lies less than
   2^15 above the next one, so its number is unambiguous. Each admissible step
   keeps the relation (`Simulates.arrive`, `Simulates.take`), and what the stream
   delivers is read off the reorder machine (`stream_in_order`). -/
namespace AirPlay2
open Lib RtpJitterBuffer

/-- What happens to the buffer of a stream: a copy of packet `i` arrives, or the
    consumer pops. -/
inductive StreamOp where
  | arrive (i : ℕ) (copy : RtpPacket)
  | take

/-- The buffer with the record of the stream: the indices pushed, the copies
    whose push was accepted, and the packets popped, each in order. -/
structure StreamRun where
  buffer : RtpJitterBuffer
  pushed : List ℕ := []
  accepted : List (ℕ × RtpPacket) := []
  popped : List RtpPacket := []

/-- The sequence number of packet `i` of a stream that starts at `s`. -/
def seqOf (s : UInt16) (i : ℕ) : UInt16 := s + UInt16.ofNat i

namespace StreamRun

def step (st : StreamRun) : StreamOp → StreamRun
  | .arrive i copy =>
    { st with
      buffer := (st.buffer.push copy).2
      pushed := st.pushed ++ [i]
      accepted := if (st.buffer.push copy).1 then st.accepted ++ [(i, copy)] else st.accepted }
  | .take =>
    { st with
      buffer := st.buffer.pop.2
      popped := st.popped ++ st.buffer.pop.1.toList }

/-- What the stream promises of an arrival, with `k` packets popped so far: the
    copy carries its index's number, packet 0 comes first, the index lies in the
    window around `k`, and with it no more than `capacity` distinct indices are
    pushed and not yet popped. -/
structure Admissible (s : UInt16) (n : ℕ) (st : StreamRun) (i : ℕ) (copy : RtpPacket) : Prop where
  number : copy.sequence = seqOf s i
  lt : i < n
  first : st.pushed = [] → i = 0
  above : st.popped.length ≤ i + 32768
  below : i ≤ st.popped.length + 32767
  room : (i :: st.pushed).dedup.length ≤ st.buffer.capacity + st.popped.length

/-- The buffer holds the pending packets of the reorder machine under their
    wrapped numbers, and expects the number of the next index. -/
structure Simulates (s : UInt16) (n : ℕ) (st : StreamRun) (r : Reorder RtpPacket) : Prop where
  kept : Kept st.buffer
  log : r.log = st.accepted
  out : r.out = st.popped
  pushed : ∀ i, i ∈ st.pushed ↔ i ∈ r.indices
  lt : ∀ i ∈ r.indices, i < n
  stored : st.buffer.packets.entries.Perm (r.pending.map (fun e => (seqOf s e.1, e.2)))
  window : ∀ e ∈ r.pending, e.1 < r.out.length + 32768
  started : st.buffer.initialized = true ↔ st.pushed ≠ []
  expected : st.buffer.initialized = true → st.buffer.expectedSequence = seqOf s r.out.length

theorem seqOf_toNat (s : UInt16) (i : ℕ) : (seqOf s i).toNat = (s.toNat + i) % 65536 := by
  simp [seqOf, UInt16.toNat_add, UInt16.toNat_ofNat']

theorem seqOf_succ (s : UInt16) (k : ℕ) : seqOf s k + 1 = seqOf s (k + 1) := by
  apply UInt16.toNat.inj
  rw [add_one_toNat, seqOf_toNat, seqOf_toNat]
  omega

/-- Within the window above `k`, the distance between numbers is the distance
    between indices. -/
theorem ahead_seqOf {s : UInt16} {k i : ℕ} (hk : k ≤ i) (hi : i < k + 65536) :
    ahead (seqOf s k) (seqOf s i) = i - k := by
  rw [ahead_eq, seqOf_toNat, seqOf_toNat]
  omega

/-- Below `k`, it is the distance from the far end of the number space. -/
theorem ahead_seqOf_below {s : UInt16} {k i : ℕ} (hi : i < k) (hk : k ≤ i + 65536) :
    ahead (seqOf s k) (seqOf s i) = (65536 - (k - i)) % 65536 := by
  rw [ahead_eq, seqOf_toNat, seqOf_toNat]
  omega

theorem seqOf_inj {s : UInt16} {k i j : ℕ} (hi : k ≤ i ∧ i < k + 65536)
    (hj : k ≤ j ∧ j < k + 65536) (h : seqOf s i = seqOf s j) : i = j := by
  have h1 := ahead_seqOf (s := s) hi.1 hi.2
  have h2 := ahead_seqOf (s := s) hj.1 hj.2
  rw [h] at h1
  omega

open scoped List

variable {s : UInt16} {n : ℕ} {st : StreamRun} {r : Reorder RtpPacket}

theorem mem_pending {e : ℕ × RtpPacket} :
    e ∈ r.pending ↔ e ∈ r.log ∧ r.out.length ≤ e.1 := by
  simp [Reorder.pending]

theorem Simulates.contains_iff (h : Simulates s n st r) {i : ℕ} (hk : r.out.length ≤ i)
    (hi : i < r.out.length + 32768) :
    st.buffer.packets.contains (seqOf s i) = true ↔ i ∈ r.indices := by
  rw [OrdMap.contains_iff, OrdMap.keys, (h.stored.map Prod.fst).mem_iff]
  simp only [List.map_map, List.mem_map, Function.comp, Reorder.indices]
  refine ⟨?_, ?_⟩
  · intro hm
    obtain ⟨e, he, hseq⟩ := hm
    have hw := h.window e he
    obtain ⟨hlog, hge⟩ := mem_pending.mp he
    have hij : e.1 = i := seqOf_inj ⟨hge, by omega⟩ ⟨hk, by omega⟩ hseq
    exact ⟨e, hlog, hij⟩
  · intro hm
    obtain ⟨e, he, rfl⟩ := hm
    exact ⟨e, mem_pending.mpr ⟨he, hk⟩, rfl⟩

/-- An arriving packet finds the buffer expecting the next index's number, also
    the first one, which fixes it. -/
theorem Simulates.receive_expected (h : Simulates s n st r) {i : ℕ} {p : RtpPacket}
    (ha : Admissible s n st i p) :
    (st.buffer.receive p).expectedSequence = seqOf s r.out.length := by
  rw [RtpJitterBuffer.receive_expected]
  split
  · rename_i hi
    exact h.expected hi
  · rename_i hi
    have hnil : st.pushed = [] := by
      by_contra hne
      exact hi (h.started.mpr hne)
    have hnone : r.out.length = 0 := by
      by_contra hne
      have hm := (h.pushed 0).mpr (r.taken_mem (by omega))
      rw [hnil] at hm
      simp at hm
    rw [ha.number, ha.first hnil, hnone]

theorem Simulates.refuses_iff (h : Simulates s n st r) {i : ℕ} {p : RtpPacket}
    (ha : Admissible s n st i p) :
    (st.buffer.receive p).refuses p = true ↔ i ∈ r.indices := by
  have habove := ha.above
  have hbelow := ha.below
  rw [← h.out] at habove hbelow
  unfold refuses
  rw [Bool.or_eq_true, sequenceBefore_iff, h.receive_expected ha, ha.number, receive_packets]
  by_cases hik : i < r.out.length
  · -- An index already taken out is refused as serially before the expected one.
    rw [ahead_seqOf_below hik (by omega)]
    exact ⟨fun _ => r.taken_mem hik, fun _ => Or.inl (by omega)⟩
  · -- Any other is refused if its number is stored, which then is its own.
    rw [ahead_seqOf (by omega) (by omega), h.contains_iff (by omega) (by omega)]
    refine ⟨?_, ?_⟩
    · intro hor
      obtain hfar | hm := hor
      · omega
      · exact hm
    · exact Or.inr

/-- A first copy finds room: what is pending, with it, is within capacity. -/
theorem Simulates.size_lt (h : Simulates s n st r) {i : ℕ} {p : RtpPacket}
    (ha : Admissible s n st i p) (hi : i ∉ r.indices) :
    st.buffer.packets.size < st.buffer.capacity := by
  have hperm : ((i :: st.pushed).dedup).Perm (i :: r.indices) := by
    rw [List.perm_ext_iff_of_nodup (List.nodup_dedup _)
      (List.nodup_cons.mpr ⟨hi, r.nodup⟩)]
    intro j
    simp [h.pushed j]
  have hroom := ha.room
  have hlog := r.length_log
  have hsize : st.buffer.packets.size = r.pending.length := by
    simpa [OrdMap.size] using h.stored.length_eq
  rw [hperm.length_eq, List.length_cons, Reorder.indices, List.length_map, ← h.out] at hroom
  omega

/-- A copy of an index that was accepted before changes nothing but the counters. -/
theorem Simulates.arrive_again (h : Simulates s n st r) {i : ℕ} {p : RtpPacket}
    (ha : Admissible s n st i p) (hi : i ∈ r.indices) :
    Simulates s n (st.step (.arrive i p)) r := by
  have hr := (h.refuses_iff ha).mpr hi
  have hne : st.pushed ≠ [] := List.ne_nil_of_mem ((h.pushed i).mpr hi)
  have hpush : st.buffer.push p = (false, (st.buffer.receive p).discard) := by
    rw [push_eq, hr]; rfl
  have hk := h.kept.push p
  rw [hpush] at hk
  refine ⟨?_, ?_, h.out, ?_, h.lt, ?_, h.window, ?_, ?_⟩
  · simpa only [step, hpush] using hk
  · simpa [step, hpush] using h.log
  · intro j
    have := h.pushed j
    simp only [step, List.mem_append, List.mem_singleton, this, or_iff_left_iff_imp]
    intro hji
    rwa [hji]
  · simpa only [step, hpush, discard_packets, receive_packets] using h.stored
  · simp [step, hpush]
  · intro _
    simpa only [step, hpush, discard_expected] using h.receive_expected ha

/-- A first copy is stored, and becomes pending. -/
theorem Simulates.arrive_first (h : Simulates s n st r) {i : ℕ} {p : RtpPacket}
    (ha : Admissible s n st i p) (hi : i ∉ r.indices) :
    Simulates s n (st.step (.arrive i p)) (r.arrive i p hi) := by
  have hr : (st.buffer.receive p).refuses p = false := by
    rw [← Bool.not_eq_true, h.refuses_iff ha]; exact hi
  have hlt := h.size_lt ha hi
  have hc := contains_of_not_refuses hr
  have hpush : st.buffer.push p = (true, (st.buffer.receive p).store p) := by
    rcases push_cases st.buffer p h.kept.size_le with ⟨hr', -⟩ | ⟨-, -, hp⟩ | ⟨-, heq, -⟩
    · rw [hr] at hr'; simp at hr'
    · exact hp
    · omega
  have hk := h.kept.push p
  rw [hpush] at hk
  have hbelow := ha.below
  rw [← h.out] at hbelow
  refine ⟨?_, ?_, h.out, ?_, ?_, ?_, ?_, ?_, ?_⟩
  · simpa only [step, hpush] using hk
  · simp only [step, hpush, if_true, Reorder.arrive, h.log]
  · intro j
    simp [step, Reorder.indices, Reorder.arrive, h.pushed j]
  · intro j hj
    simp only [Reorder.indices, Reorder.arrive, List.map_append, List.map_cons, List.map_nil,
      List.mem_append, List.mem_singleton] at hj
    obtain hj | rfl := hj
    · exact h.lt j hj
    · exact ha.lt
  · rw [r.pending_arrive hi, List.map_append]
    simp only [step, hpush, store_packets, receive_packets, List.map_cons, List.map_nil]
    calc (st.buffer.packets.emplace p.sequence p).entries
        ~ (p.sequence, p) :: st.buffer.packets.entries := OrdMap.emplace_perm p hc
      _ ~ (seqOf s i, p) :: r.pending.map (fun e => (seqOf s e.1, e.2)) := by
          rw [ha.number]
          exact h.stored.cons _
      _ ~ r.pending.map (fun e => (seqOf s e.1, e.2)) ++ [(seqOf s i, p)] :=
          (List.perm_append_singleton _ _).symm
  · intro e he
    rw [r.pending_arrive hi] at he
    obtain he | he := List.mem_append.mp he
    · exact h.window e he
    · rw [List.mem_singleton.mp he]
      show i < r.out.length + 32768
      omega
  · simp [step, hpush]
  · intro _
    simp only [step, hpush, store_expected]
    exact h.receive_expected ha

theorem Simulates.arrive (h : Simulates s n st r) {i : ℕ} {p : RtpPacket}
    (ha : Admissible s n st i p) :
    ∃ r', Simulates s n (st.step (.arrive i p)) r' ∧ r'.out = r.out := by
  by_cases hi : i ∈ r.indices
  · exact ⟨r, h.arrive_again ha hi, rfl⟩
  · exact ⟨r.arrive i p hi, h.arrive_first ha hi, rfl⟩

/-- A pop takes the next index out of the reorder machine, or finds that it has
    not arrived. -/
theorem Simulates.take (h : Simulates s n st r) :
    (st.buffer.pop = (none, st.buffer) ∧ r.log.lookup r.out.length = none) ∨
    ∃ p r', st.buffer.pop = (some p, st.buffer.advance) ∧ r'.log = r.log ∧
      Simulates s n
        { st with buffer := st.buffer.advance, popped := st.popped ++ [p] } r' := by
  rcases pop_cases st.buffer with ⟨hp, hnone⟩ | ⟨p, hi, hm, hp⟩
  · refine Or.inl ⟨hp, ?_⟩
    -- Had the next index arrived, its number would be stored and popped.
    cases hl : r.log.lookup r.out.length with
    | none => rfl
    | some x =>
      have hmem := Reorder.mem_of_lookup hl
      have hidx : r.out.length ∈ r.indices := List.mem_map.mpr ⟨_, hmem, rfl⟩
      have hinit : st.buffer.initialized = true :=
        h.started.mpr (List.ne_nil_of_mem ((h.pushed _).mpr hidx))
      have hc := (h.contains_iff (Nat.le_refl _) (by omega)).mpr hidx
      rw [← h.expected hinit, OrdMap.contains_iff] at hc
      exact absurd hc (OrdMap.find?_eq_none.mp (hnone hinit))
  · have hexp := h.expected hi
    have hk := h.kept.pop
    rw [hp] at hk
    -- The expected number is the number of one pending index only, the next one.
    obtain ⟨e, he, heq⟩ := List.mem_map.mp ((h.stored.mem_iff).mp hm)
    obtain ⟨hlog, hge⟩ := mem_pending.mp he
    have hw := h.window e he
    simp only [Prod.mk.injEq] at heq
    have hnext : e.1 = r.out.length :=
      seqOf_inj (s := s) ⟨hge, by omega⟩ ⟨Nat.le_refl _, by omega⟩ (heq.1.trans hexp)
    have hl : r.log.lookup r.out.length = some p := by
      rw [← hnext, ← heq.2]
      exact Reorder.lookup_of_mem r.nodup hlog
    refine Or.inr ⟨p, r.take p hl, hp, rfl, hk, h.log, ?_, h.pushed, h.lt, ?_, ?_, ?_, ?_⟩
    · show r.out ++ [p] = st.popped ++ [p]
      rw [h.out]
    · apply List.Perm.cons_inv (a := (st.buffer.expectedSequence, p))
      calc (st.buffer.expectedSequence, p) :: st.buffer.advance.packets.entries
          ~ st.buffer.packets.entries := (OrdMap.erase_perm hm).symm
        _ ~ r.pending.map (fun e => (seqOf s e.1, e.2)) := h.stored
        _ ~ (st.buffer.expectedSequence, p) ::
              (r.take p hl).pending.map (fun e => (seqOf s e.1, e.2)) := by
            rw [hexp]
            exact (r.pending_take hl).map (fun e => (seqOf s e.1, e.2))
    · intro d hd
      have hd' := (r.pending_take hl).mem_iff.mpr (List.mem_cons_of_mem _ hd)
      have := h.window d hd'
      show d.1 < (r.out ++ [p]).length + 32768
      rw [List.length_append]
      omega
    · exact h.started
    · intro _
      show st.buffer.expectedSequence + 1 = seqOf s (r.out ++ [p]).length
      rw [hexp, seqOf_succ, List.length_append, List.length_singleton]

theorem simulates_new (s : UInt16) (n capacity : ℕ) :
    Simulates s n { buffer := RtpJitterBuffer.new capacity } {} := by
  have hnew : (RtpJitterBuffer.new capacity).packets = .empty ∧
      (RtpJitterBuffer.new capacity).initialized = false := by
    unfold RtpJitterBuffer.new; split <;> exact ⟨rfl, rfl⟩
  refine ⟨kept_new capacity, rfl, rfl, ?_, ?_, ?_, ?_, ?_, ?_⟩
  · simp [Reorder.indices]
  · simp [Reorder.indices]
  · simp [hnew.1, Reorder.pending]
  · simp [Reorder.pending]
  · simp [hnew.2]
  · simp [hnew.2]

theorem Simulates.step (h : Simulates s n st r) (op : StreamOp)
    (ha : ∀ i p, op = .arrive i p → Admissible s n st i p) :
    ∃ r', Simulates s n (st.step op) r' := by
  cases op with
  | arrive i p =>
    obtain ⟨r', hr', -⟩ := h.arrive (ha i p rfl)
    exact ⟨r', hr'⟩
  | take =>
    rcases h.take with ⟨hp, -⟩ | ⟨p, r', hp, -, hr'⟩
    · refine ⟨r, ?_⟩
      simpa only [StreamRun.step, hp, Option.toList_none, List.append_nil] using h
    · refine ⟨r', ?_⟩
      simpa only [StreamRun.step, hp, Option.toList_some] using hr'

/-- Popping until empty is a run of pops: it keeps the relation, and what arrived. -/
theorem Simulates.popAllFuel (fuel : ℕ) (h : Simulates s n st r) :
    ∃ r', r'.log = r.log ∧
      Simulates s n
        { st with
          buffer := (popAllFuel fuel st.buffer).2
          popped := st.popped ++ (popAllFuel fuel st.buffer).1 } r' := by
  induction fuel generalizing st r with
  | zero => exact ⟨r, rfl, by simpa [RtpJitterBuffer.popAllFuel] using h⟩
  | succ fuel ih =>
    rcases h.take with ⟨hp, -⟩ | ⟨p, r₁, hp, hlog, h₁⟩
    · exact ⟨r, rfl, by simpa [RtpJitterBuffer.popAllFuel, hp] using h⟩
    · obtain ⟨r', hr', h'⟩ := ih h₁
      refine ⟨r', hr'.trans hlog, ?_⟩
      simpa [RtpJitterBuffer.popAllFuel, hp] using h'

/-- **A stream within the window is delivered without loss and in order.** For any
    capacity, start number, length and admissible interleaving of arrivals and
    pops, the packets popped so far are packets 0, 1, 2, … in order, each the first
    copy of its index that was accepted; and once every index below `n` was pushed,
    popping until empty brings the popped packets to all `n`, once each, and
    leaves the buffer empty. -/
theorem stream_in_order (capacity : ℕ) (s : UInt16) (n : ℕ) (ops : List StreamOp)
    (hops : Each StreamRun.step (fun st op => ∀ i p, op = .arrive i p → Admissible s n st i p)
      { buffer := RtpJitterBuffer.new capacity } ops) :
    let st := run StreamRun.step { buffer := RtpJitterBuffer.new capacity } ops
    st.popped.map some = (List.range st.popped.length).map (fun i => st.accepted.lookup i) ∧
      ((∀ i < n, i ∈ st.pushed) →
        (st.popped ++ st.buffer.popAll.1).map some =
            (List.range n).map (fun i => st.accepted.lookup i) ∧
          st.buffer.popAll.2.packets.entries = []) := by
  have hsim : ∃ r, Simulates s n
      (run StreamRun.step { buffer := RtpJitterBuffer.new capacity } ops) r := by
    refine always_of_each (P := fun st => ∃ r, Simulates s n st r) (I := fun _ => True) ?_ ?_
      trivial ⟨_, simulates_new s n capacity⟩ hops ops List.prefix_rfl
    · intro _ _ _
      trivial
    · intro st op _ hst ha
      obtain ⟨r, h⟩ := hst
      exact h.step op ha
  obtain ⟨r, h⟩ := hsim
  intro st
  refine ⟨?_, ?_⟩
  · have := r.served
    rwa [h.out, h.log] at this
  · intro hall
    obtain ⟨r', hlog, h'⟩ := h.popAllFuel st.buffer.packets.size
    have hnext : r'.log.lookup r'.out.length = none := by
      rcases h'.take with ⟨-, hl⟩ | ⟨p, -, hp, -, -⟩
      · exact hl
      · have hstop := popAll_pop st.buffer
        rw [show st.buffer.popAll.2.pop = (some p, _) from hp] at hstop
        simp at hstop
    have harrived : ∀ i < n, i ∈ r'.indices := by
      intro i hi
      exact (h'.pushed i).mp (hall i hi)
    obtain ⟨hlen, hpend⟩ := r'.all_taken harrived h'.lt hnext
    have hserved := r'.served
    have hout := h'.out
    have hst : st.buffer.popAll.2.packets.entries.Perm _ := h'.stored
    rw [hlen, hlog, h.log, hout] at hserved
    rw [hpend] at hst
    exact ⟨hserved, by simpa using hst⟩

/-- Three packets across the wrap, the last two swapped and one of them twice. -/
def swappedStream : List StreamOp :=
  [.arrive 0 { sequence := 65535 }, .take, .arrive 2 { sequence := 1, marker := true },
    .arrive 1 { sequence := 0 }, .arrive 1 { sequence := 0, marker := true }, .take, .take]

theorem stream_in_order_swapped :
    let st := run StreamRun.step { buffer := RtpJitterBuffer.new 2 } swappedStream
    st.popped = [{ sequence := 65535 }, { sequence := 0 }, { sequence := 1, marker := true }] ∧
      st.popped.map some = (List.range st.popped.length).map (fun i => st.accepted.lookup i) := by
  refine ⟨by decide, (stream_in_order 2 65535 3 swappedStream ?_).1⟩
  simp only [swappedStream, each_cons, each_nil, StreamOp.arrive.injEq, reduceCtorEq,
    false_imp_iff, implies_true, and_imp, true_and, and_true]
  refine ⟨?_, ?_, ?_, ?_⟩ <;> intro i p hi hp <;> subst hi hp <;>
    exact ⟨by decide, by decide, by decide, by decide, by decide, by decide⟩

end StreamRun
end AirPlay2
