import Mathlib.Data.List.Range
import Mathlib.Data.Nat.ModEq
import AirPlay2.Lib.Runs
import AirPlay2.Lib.Simulation

/- A circular buffer with a read index, a write index and a count, and the queue it
   stands for. `store` writes a block behind what is held and `fetch` takes one from its
   front, each moving its index cell by cell round the ring; a block that fits is appended
   to the queue (`contents_store`), a block that is there is taken off it
   (`contents_fetch`). A machine whose steps let in and let out so has let out, in order,
   what it was given, less what it still holds (`fifo_run`). -/
namespace Lib

/-! ## Machines that hold a queue -/

section
variable {σ ι α : Type*} {step : σ → ι → σ} (held : σ → List α) (taken given : σ → ι → List α)

/-- What came out of a run, then what is held, is what was held, then what went in. -/
theorem fifo_run {I : σ → Prop} {Ok : ι → Prop} (hI : ∀ s i, I s → Ok i → I (step s i))
    (hstep : ∀ s i, I s → Ok i → taken s i ++ held (step s i) = held s ++ given s i) {s : σ}
    (h : I s) {is : List ι} (hok : ∀ i ∈ is, Ok i) :
    (observations step taken s is).flatten ++ held (run step s is) =
      held s ++ (observations step given s is).flatten := by
  induction is generalizing s with
  | nil => simp [observations]
  | cons i is ih =>
    have hi : Ok i := hok i List.mem_cons_self
    have hrest : (observations step taken (step s i) is).flatten ++ held (run step (step s i) is) =
        held (step s i) ++ (observations step given (step s i) is).flatten := by
      apply ih (hI s i h hi)
      intro j hj
      exact hok j (List.mem_cons_of_mem i hj)
    calc (observations step taken s (i :: is)).flatten ++ held (run step s (i :: is))
        = taken s i ++ ((observations step taken (step s i) is).flatten ++
            held (run step (step s i) is)) := by
          rw [observations, List.flatten_cons, run_cons, List.append_assoc]
      _ = (taken s i ++ held (step s i)) ++ (observations step given (step s i) is).flatten := by
          rw [hrest, List.append_assoc]
      _ = held s ++ (observations step given s (i :: is)).flatten := by
          rw [hstep s i h hi, observations, List.flatten_cons, List.append_assoc]

end

/-! ## The cells of a ring -/

section
variable {α : Type*} [Inhabited α]

/-- `n` cells from `start` on, going round. -/
def window (ring : List α) (start n : ℕ) : List α :=
  (List.range n).map fun i => ring.getD ((start + i) % ring.length) default

@[simp] theorem length_window (ring : List α) (start n : ℕ) : (window ring start n).length = n := by
  simp [window]

theorem window_add (ring : List α) (start n m : ℕ) :
    window ring start (n + m) =
      window ring start n ++ window ring ((start + n) % ring.length) m := by
  rw [window, List.range_add, List.map_append, List.map_map, window, window]
  congr 1
  apply List.map_congr_left
  intro i _
  rw [Function.comp_apply, Nat.mod_add_mod, Nat.add_assoc]

theorem window_one (ring : List α) {start : ℕ} (h : start < ring.length) :
    window ring start 1 = [ring.getD start default] := by
  simp [window, Nat.mod_eq_of_lt h]

/-- Places less than a turn apart are different cells. -/
theorem mod_ne_of_lt {size start i n : ℕ} (hi : i < n) (hn : n < size) :
    (start + i) % size ≠ (start + n) % size := by
  intro heq
  have hmod : i ≡ n [MOD size] := Nat.ModEq.add_left_cancel' start heq
  rw [Nat.ModEq, Nat.mod_eq_of_lt (hi.trans hn), Nat.mod_eq_of_lt hn] at hmod
  omega

/-- Writing the cell behind a window leaves the window and adds what is written. -/
theorem window_set (ring : List α) (start : ℕ) {n : ℕ} (x : α) (hn : n < ring.length) :
    window (ring.set ((start + n) % ring.length) x) start (n + 1) = window ring start n ++ [x] := by
  have hin : (start + n) % ring.length < ring.length := Nat.mod_lt _ (by omega)
  rw [window_add, window, List.length_set, window_one _ (by rwa [List.length_set])]
  congr 1
  · apply List.map_congr_left
    intro i hi
    rw [List.getD_eq_getElem?_getD, List.getD_eq_getElem?_getD,
      List.getElem?_set_ne (mod_ne_of_lt (List.mem_range.mp hi) hn).symm]
  · rw [List.getD_eq_getElem?_getD, List.getElem?_set_self hin, Option.getD_some]

end

/-! ## The buffer -/

structure CircularBuffer (α : Type*) where
  ring : List α := []
  readPos : ℕ := 0
  writePos : ℕ := 0
  available : ℕ := 0
  deriving DecidableEq

namespace CircularBuffer

variable {α : Type*} [Inhabited α]

/-- Store cell by cell, moving the write index. -/
def storeLoop (b : CircularBuffer α) : List α → CircularBuffer α
  | [] => b
  | x :: xs =>
    storeLoop { b with ring := b.ring.set b.writePos x
                       writePos := (b.writePos + 1) % b.ring.length } xs

def store (b : CircularBuffer α) (xs : List α) : CircularBuffer α :=
  { b.storeLoop xs with available := b.available + xs.length }

/-- Fetch `n` cells, moving the read index. -/
def fetchLoop (b : CircularBuffer α) : ℕ → List α × CircularBuffer α
  | 0 => ([], b)
  | n + 1 =>
    let next := fetchLoop { b with readPos := (b.readPos + 1) % b.ring.length } n
    (b.ring.getD b.readPos default :: next.1, next.2)

def fetch (b : CircularBuffer α) (n : ℕ) : List α × CircularBuffer α :=
  ((b.fetchLoop n).1, { (b.fetchLoop n).2 with available := b.available - n })

/-- The queue held, oldest first. -/
def contents (b : CircularBuffer α) : List α := window b.ring b.readPos b.available

/-- The indices are cells of the ring, and the write index is where the queue ends. -/
structure WellFormed (b : CircularBuffer α) : Prop where
  readPos_lt : b.readPos < b.ring.length
  available_le : b.available ≤ b.ring.length
  writePos_eq : b.writePos = (b.readPos + b.available) % b.ring.length

omit [Inhabited α] in
theorem wellFormed_empty {ring : List α} (h : ring ≠ []) :
    (⟨ring, 0, 0, 0⟩ : CircularBuffer α).WellFormed := by
  have hpos : 0 < ring.length := List.length_pos_iff.mpr h
  exact ⟨hpos, Nat.zero_le _, (Nat.zero_mod _).symm⟩

@[simp] theorem length_contents (b : CircularBuffer α) : b.contents.length = b.available :=
  length_window _ _ _

omit [Inhabited α] in
/-- The count as the indices tell it: they are equal both when it is full and when empty. -/
theorem WellFormed.available_eq {b : CircularBuffer α} (h : b.WellFormed) :
    b.available = if b.available = b.ring.length then b.ring.length
      else (b.writePos + b.ring.length - b.readPos) % b.ring.length := by
  have hr := h.readPos_lt
  have ha := h.available_le
  split
  · assumption
  · rw [h.writePos_eq]
    by_cases hwrap : b.readPos + b.available < b.ring.length
    · have hsub : b.readPos + b.available + b.ring.length - b.readPos =
          b.available + b.ring.length := by omega
      rw [Nat.mod_eq_of_lt hwrap, hsub, Nat.add_mod_right, Nat.mod_eq_of_lt (by omega)]
    · have hmod : (b.readPos + b.available) % b.ring.length =
          b.readPos + b.available - b.ring.length := by
        rw [Nat.mod_eq_sub_mod (by omega), Nat.mod_eq_of_lt (by omega)]
      have hsub : b.readPos + b.available - b.ring.length + b.ring.length - b.readPos =
          b.available := by omega
      rw [hmod, hsub, Nat.mod_eq_of_lt (by omega)]

/-! ### Storing -/

/-- The loop appends to the window that ends at the write index. -/
theorem storeLoop_spec (b : CircularBuffer α) (start n : ℕ) {xs : List α}
    (hend : b.writePos = (start + n) % b.ring.length) (hfit : n + xs.length ≤ b.ring.length) :
    window (b.storeLoop xs).ring start (n + xs.length) = window b.ring start n ++ xs ∧
      (b.storeLoop xs).ring.length = b.ring.length ∧ (b.storeLoop xs).readPos = b.readPos ∧
      (b.storeLoop xs).writePos = (start + (n + xs.length)) % b.ring.length := by
  induction xs generalizing b n with
  | nil => exact ⟨(List.append_nil _).symm, rfl, rfl, hend⟩
  | cons x xs ih =>
    rw [List.length_cons] at hfit
    have hnext := ih { b with ring := b.ring.set b.writePos x
                              writePos := (b.writePos + 1) % b.ring.length } (n + 1)
      (by simp only [List.length_set, hend, Nat.mod_add_mod, Nat.add_assoc])
      (by simp only [List.length_set]; omega)
    obtain ⟨hwindow, hlen, hread, hwrite⟩ := hnext
    have hset : window (b.ring.set b.writePos x) start (n + 1) = window b.ring start n ++ [x] := by
      rw [hend]
      exact window_set b.ring start x (by omega)
    have hcount : n + (xs.length + 1) = n + 1 + xs.length := by omega
    rw [List.length_set] at hlen hwrite
    refine ⟨?_, hlen, hread, ?_⟩
    · rw [List.length_cons, hcount]
      exact hwindow.trans (by rw [hset, List.append_assoc, List.singleton_append])
    · rw [List.length_cons, hcount]
      exact hwrite

/-- **A block that fits is appended.** -/
theorem contents_store {b : CircularBuffer α} (h : b.WellFormed) (xs : List α)
    (hfit : b.available + xs.length ≤ b.ring.length) :
    (b.store xs).contents = b.contents ++ xs ∧ (b.store xs).WellFormed ∧
      (b.store xs).ring.length = b.ring.length := by
  obtain ⟨hwindow, hlen, hread, hend⟩ := b.storeLoop_spec b.readPos b.available h.writePos_eq hfit
  refine ⟨?_, ⟨?_, ?_, ?_⟩, hlen⟩
  · show window (b.storeLoop xs).ring (b.storeLoop xs).readPos (b.available + xs.length) = _
    rw [hread]
    exact hwindow
  · show (b.storeLoop xs).readPos < (b.storeLoop xs).ring.length
    rw [hread, hlen]
    exact h.readPos_lt
  · show b.available + xs.length ≤ (b.storeLoop xs).ring.length
    rwa [hlen]
  · show (b.storeLoop xs).writePos =
      ((b.storeLoop xs).readPos + (b.available + xs.length)) % (b.storeLoop xs).ring.length
    rw [hread, hlen]
    exact hend

/-! ### Fetching -/

/-- The loop reads the window at the read index. -/
theorem fetchLoop_spec (b : CircularBuffer α) (n : ℕ) (h : b.readPos < b.ring.length) :
    (b.fetchLoop n).1 = window b.ring b.readPos n ∧
      (b.fetchLoop n).2 = { b with readPos := (b.readPos + n) % b.ring.length } := by
  induction n generalizing b with
  | zero =>
    refine ⟨rfl, ?_⟩
    rw [Nat.add_zero, Nat.mod_eq_of_lt h]
    rfl
  | succ n ih =>
    obtain ⟨hcells, hafter⟩ := ih { b with readPos := (b.readPos + 1) % b.ring.length }
      (Nat.mod_lt _ (by omega))
    refine ⟨?_, ?_⟩
    · rw [fetchLoop, Nat.add_comm n 1, window_add, window_one _ h, List.singleton_append]
      exact congrArg (b.ring.getD b.readPos default :: ·) hcells
    · rw [fetchLoop]
      refine hafter.trans ?_
      rw [Nat.mod_add_mod, Nat.add_assoc, Nat.add_comm 1]

/-- **A block that is there is taken off the front.** -/
theorem contents_fetch {b : CircularBuffer α} (h : b.WellFormed) {n : ℕ} (hn : n ≤ b.available) :
    (b.fetch n).1 = b.contents.take n ∧ (b.fetch n).2.contents = b.contents.drop n ∧
      (b.fetch n).2.WellFormed ∧ (b.fetch n).2.ring = b.ring := by
  have hpos : 0 < b.ring.length := Nat.zero_lt_of_lt h.readPos_lt
  obtain ⟨hcells, hafter⟩ := b.fetchLoop_spec n h.readPos_lt
  have hsplit : b.contents = window b.ring b.readPos n ++
      window b.ring ((b.readPos + n) % b.ring.length) (b.available - n) := by
    rw [← window_add, Nat.add_sub_cancel' hn]
    rfl
  have hlen : (window b.ring b.readPos n).length = n := length_window _ _ _
  have hfetch : (b.fetch n).2 = { b with readPos := (b.readPos + n) % b.ring.length
                                         available := b.available - n } := by
    rw [fetch, hafter]
  rw [hfetch]
  refine ⟨?_, ?_, ⟨Nat.mod_lt _ hpos, ?_, ?_⟩, rfl⟩
  · rw [hsplit, List.take_left' hlen]
    exact hcells
  · rw [hsplit, List.drop_left' hlen]
    rfl
  · have hle := h.available_le
    show b.available - n ≤ b.ring.length
    omega
  · show b.writePos = ((b.readPos + n) % b.ring.length + (b.available - n)) % b.ring.length
    rw [h.writePos_eq, Nat.mod_add_mod, Nat.add_assoc, Nat.add_sub_cancel' hn]

end CircularBuffer
end Lib
