import AirPlay2.Lib.BigEndian

/- Reading a message by position. `At` says which bytes stand where; what is known to stand
   at a position is read back there, piece by piece. -/
namespace Lib

/-- The bytes `bs` stand at `pos`. -/
def At (msg : Bytes) (pos : ℕ) (bs : Bytes) : Prop :=
  pos + bs.length ≤ msg.length ∧ (msg.drop pos).take bs.length = bs

/-- The number in `width` bytes at `pos`; `none` past the end. -/
def readNumber (msg : Bytes) (width pos : ℕ) : Option ℕ :=
  if pos + width ≤ msg.length then some (ofBytes ((msg.drop pos).take width)) else none

/-- Numbers of one width, one behind the other. -/
def readNumbers (msg : Bytes) (width : ℕ) : ℕ → ℕ → Option (List ℕ)
  | 0, _ => some []
  | n + 1, pos => do
    let first ← readNumber msg width pos
    let rest ← readNumbers msg width n (pos + width)
    some (first :: rest)

/-- The `length` bytes at `pos`. -/
def readBytes (msg : Bytes) (length pos : ℕ) : Option Bytes :=
  if pos + length ≤ msg.length then some ((msg.drop pos).take length) else none

variable {msg : Bytes} {pos : ℕ}

theorem at_middle (pre bs post : Bytes) : At (pre ++ (bs ++ post)) pre.length bs := by
  refine ⟨?_, ?_⟩
  · simp only [List.length_append]
    omega
  · rw [List.drop_left, List.take_left]

theorem at_whole (bs : Bytes) : At bs 0 bs := by
  refine ⟨by omega, ?_⟩
  rw [List.drop_zero, List.take_length]

theorem at_append {bs cs : Bytes} :
    At msg pos (bs ++ cs) ↔ At msg pos bs ∧ At msg (pos + bs.length) cs := by
  have htake : (msg.drop pos).take (bs.length + cs.length) =
      (msg.drop pos).take bs.length ++ (msg.drop (pos + bs.length)).take cs.length := by
    rw [List.take_add, List.drop_drop]
  unfold At
  rw [List.length_append, htake]
  refine ⟨?_, ?_⟩
  · intro h
    obtain ⟨hle, heq⟩ := h
    have hlen : ((msg.drop pos).take bs.length).length = bs.length := by
      rw [List.length_take, List.length_drop]
      omega
    obtain ⟨hleft, hright⟩ := List.append_inj heq hlen
    exact ⟨⟨by omega, hleft⟩, ⟨by omega, hright⟩⟩
  · intro h
    obtain ⟨⟨-, hleft⟩, hle, hright⟩ := h
    exact ⟨by omega, by rw [hleft, hright]⟩

theorem At.left {bs cs : Bytes} (h : At msg pos (bs ++ cs)) : At msg pos bs := (at_append.mp h).1

theorem At.right {bs cs : Bytes} (h : At msg pos (bs ++ cs)) : At msg (pos + bs.length) cs :=
  (at_append.mp h).2

/-- A part of what stands at a position stands there. -/
theorem At.part {bs : Bytes} (h : At msg pos bs) {q n : ℕ} (hn : q + n ≤ bs.length) :
    At msg (pos + q) ((bs.drop q).take n) := by
  have hsplit : bs = bs.take q ++ ((bs.drop q).take n ++ (bs.drop q).drop n) := by
    rw [List.take_append_drop, List.take_append_drop]
  have hq : (bs.take q).length = q := by
    rw [List.length_take]
    omega
  rw [hsplit] at h
  have hright := h.right
  rw [hq] at hright
  exact hright.left

theorem At.head {b : UInt8} {bs : Bytes} (h : At msg pos (b :: bs)) : msg[pos]? = some b := by
  obtain ⟨hle, heq⟩ := h
  have hhead : ((msg.drop pos).take (bs.length + 1))[0]? = some b := by
    rw [List.length_cons] at heq
    rw [heq]
    rfl
  rw [List.getElem?_take_of_lt (Nat.succ_pos _), List.getElem?_drop, Nat.add_zero] at hhead
  exact hhead

theorem At.tail {b : UInt8} {bs : Bytes} (h : At msg pos (b :: bs)) : At msg (pos + 1) bs := by
  rw [← List.singleton_append] at h
  exact h.right

/-- A number is read back where its bytes stand. -/
theorem At.readNumber {width n : ℕ} (h : At msg pos (toBytes width n)) (hn : n < 256 ^ width) :
    readNumber msg width pos = some n := by
  obtain ⟨hle, heq⟩ := h
  rw [length_toBytes] at hle heq
  rw [Lib.readNumber, if_pos hle, heq, ofBytes_toBytes hn]

/-- A number read is one of its width. -/
theorem readNumber_lt {width n : ℕ} (h : readNumber msg width pos = some n) :
    pos + width ≤ msg.length ∧ n < 256 ^ width := by
  unfold readNumber at h
  split at h
  · rename_i hle
    have hlen : ((msg.drop pos).take width).length = width := by
      rw [List.length_take, List.length_drop]
      omega
    have hlt := ofBytes_lt ((msg.drop pos).take width)
    rw [hlen] at hlt
    rw [← Option.some.inj h]
    exact ⟨hle, hlt⟩
  · cases h

theorem At.readBytes {bs : Bytes} (h : At msg pos bs) : readBytes msg bs.length pos = some bs := by
  obtain ⟨hle, heq⟩ := h
  rw [Lib.readBytes, if_pos hle, heq]

theorem length_numbers (width : ℕ) (ns : List ℕ) :
    (ns.flatMap (toBytes width)).length = ns.length * width := by
  induction ns with
  | nil => simp
  | cons n ns ih =>
    rw [List.flatMap_cons, List.length_append, length_toBytes, ih, List.length_cons,
      Nat.succ_mul, Nat.add_comm]

theorem At.readNumbers {width : ℕ} {ns : List ℕ} (h : At msg pos (ns.flatMap (toBytes width)))
    (hns : ∀ n ∈ ns, n < 256 ^ width) : readNumbers msg width ns.length pos = some ns := by
  induction ns generalizing pos with
  | nil => rfl
  | cons n ns ih =>
    rw [List.flatMap_cons] at h
    have hfirst := h.left.readNumber (hns n List.mem_cons_self)
    have hrest := h.right
    rw [length_toBytes] at hrest
    rw [List.length_cons, Lib.readNumbers, hfirst, ih hrest fun k hk => hns k (List.mem_cons_of_mem n hk)]
    rfl

/-- Bytes stand at a position one by one. -/
theorem at_iff_getElem? {bs : Bytes} (h : pos + bs.length ≤ msg.length) :
    At msg pos bs ↔ ∀ i < bs.length, msg[pos + i]? = bs[i]? := by
  refine ⟨?_, ?_⟩
  · intro hat i hi
    obtain ⟨-, heq⟩ := hat
    have hwindow : bs[i]? = ((msg.drop pos).take bs.length)[i]? := by rw [heq]
    rw [hwindow, List.getElem?_take_of_lt hi, List.getElem?_drop]
  · intro hall
    refine ⟨h, List.ext_getElem? ?_⟩
    intro i
    obtain hi | hi := Nat.lt_or_ge i bs.length
    · rw [List.getElem?_take_of_lt hi, List.getElem?_drop, hall i hi]
    · rw [List.getElem?_eq_none (by rw [List.length_take]; omega), List.getElem?_eq_none hi]

/-! ## Writing over a part -/

/-- The message with these bytes in the place of the ones at `pos`. -/
def overwrite (msg : Bytes) (pos : ℕ) (bs : Bytes) : Bytes :=
  msg.take pos ++ bs ++ msg.drop (pos + bs.length)

section
variable {bs : Bytes} (h : pos + bs.length ≤ msg.length)
include h

theorem length_overwrite : (overwrite msg pos bs).length = msg.length := by
  rw [overwrite, List.length_append, List.length_append, List.length_take, List.length_drop]
  omega

theorem at_overwrite : At (overwrite msg pos bs) pos bs := by
  have hmiddle := at_middle (msg.take pos) bs (msg.drop (pos + bs.length))
  rwa [List.length_take, min_eq_left (by omega), ← List.append_assoc] at hmiddle

/-- The bytes before and behind stay. -/
theorem getElem?_overwrite {i : ℕ} (hi : i < pos ∨ pos + bs.length ≤ i) :
    (overwrite msg pos bs)[i]? = msg[i]? := by
  have htake : (msg.take pos).length = pos := by
    rw [List.length_take]
    omega
  obtain hi | hi := hi
  · rw [overwrite, List.append_assoc, List.getElem?_append_left (by omega),
      List.getElem?_take_of_lt hi]
  · rw [overwrite, List.getElem?_append_right (by rw [List.length_append]; omega),
      List.length_append, htake, List.getElem?_drop]
    congr 1
    omega

/-- What stands beside the part stays there. -/
theorem At.overwrite {cs : Bytes} {q : ℕ} (hcs : At msg q cs)
    (hbeside : q + cs.length ≤ pos ∨ pos + bs.length ≤ q) : At (overwrite msg pos bs) q cs := by
  have hfits : q + cs.length ≤ (Lib.overwrite msg pos bs).length := by
    rw [length_overwrite h]
    exact hcs.1
  rw [at_iff_getElem? hfits]
  intro i hi
  rw [getElem?_overwrite h (by omega), (at_iff_getElem? hcs.1).mp hcs i hi]

end

/-- Bytes written where they stand change nothing. -/
theorem overwrite_self {bs : Bytes} (h : At msg pos bs) : overwrite msg pos bs = msg := by
  have hrest : bs ++ msg.drop (pos + bs.length) = msg.drop pos := by
    calc bs ++ msg.drop (pos + bs.length)
        = (msg.drop pos).take bs.length ++ (msg.drop pos).drop bs.length := by
          rw [h.2, List.drop_drop]
      _ = msg.drop pos := List.take_append_drop _ _
  rw [overwrite, List.append_assoc, hrest, List.take_append_drop]

/-- A byte that is changed before a number is not part of it. -/
theorem readNumber_set {width i : ℕ} {b : UInt8} (h : i < pos) :
    readNumber (msg.set i b) width pos = readNumber msg width pos := by
  unfold readNumber
  rw [List.length_set, List.drop_set_of_lt h]

end Lib
