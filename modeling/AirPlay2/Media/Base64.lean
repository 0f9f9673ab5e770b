import Mathlib.Tactic.IntervalCases
import AirPlay2.Lib.Base64
import AirPlay2.Lib.BigEndian
import AirPlay2.Media.Crypto

/- The base64 reader of the key material (`crypto.cpp`). Its accumulator is an `int` that
   bits are never taken from. With wrapping two's complement arithmetic that does not
   matter, as a byte is read from the low 14 bits (`decodeBase64_int`), and every
   encoding is undone, with whitespace anywhere and with or without padding
   (`decodeBase64_encode`). In range it stays only for short texts
   (`base64_inRange_iff`). -/
namespace AirPlay2
open Lib

/-- The loop of `decode_base64` with the accumulator as a 32-bit `int` that wraps; a right
    shift copies the sign. -/
def decodeBase64IntLoop (buffer : Int32) (bits : ℕ) : Bytes → Option Bytes
  | [] => some []
  | c :: input =>
    if isspace c then decodeBase64IntLoop buffer bits input
    else if c = 61 then some []
    else
      match base64Value c with
      | none => none
      | some value =>
        let buffer := buffer <<< 6 ||| value.toInt32
        if 8 ≤ bits + 6 then
          (decodeBase64IntLoop buffer (bits - 2) input).map
            ((buffer >>> Int32.ofNat (bits - 2) &&& 0xff).toUInt32.toUInt8 :: ·)
        else decodeBase64IntLoop buffer (bits + 6) input

/-- `decode_base64` with that loop. -/
def decodeBase64Int (input : Bytes) : Option Bytes :=
  match decodeBase64IntLoop 0 0 input with
  | none => none
  | some out => if out = [] then none else some out

/-! ## The sign does not matter -/

/-- Of a shift by less than seven bits the low byte is the same with and without sign. -/
theorem lowByte_shift {k : ℕ} (hk : k ≤ 6) (buffer : Int32) :
    (buffer >>> Int32.ofNat k &&& 0xff).toUInt32.toUInt8 =
      (buffer.toUInt32 >>> UInt32.ofNat k).toUInt8 := by
  have hcount : (Int32.ofNat k).toBitVec.smod 32 = BitVec.ofNat 32 k := by
    interval_cases k <;> decide
  have hcount' : (UInt32.ofNat k).toBitVec % 32 = BitVec.ofNat 32 k := by
    interval_cases k <;> decide
  have hsigned : (buffer >>> Int32.ofNat k &&& 0xff).toUInt32.toUInt8.toBitVec =
      (buffer.toBitVec.sshiftRight' ((Int32.ofNat k).toBitVec.smod 32) &&& 0xff#32).setWidth 8 := rfl
  have hplain : (buffer.toUInt32 >>> UInt32.ofNat k).toUInt8.toBitVec =
      (buffer.toBitVec >>> ((UInt32.ofNat k).toBitVec % 32)).setWidth 8 := rfl
  apply UInt8.eq_of_toBitVec_eq
  apply BitVec.eq_of_getLsbD_eq
  intro i hi
  have hmask : (255#8).getLsbD i = true := by interval_cases i <;> rfl
  rw [hsigned, hplain, hcount, hcount']
  -- Bit `i` of both is bit `k + i` of the accumulator, far from the sign.
  simp [BitVec.getLsbD_sshiftRight, hmask, Nat.mod_eq_of_lt (show k < 4294967296 by omega),
    show k + i < 32 by omega, show ¬ 32 ≤ i by omega]

theorem decodeBase64Loop_int (buffer : Int32) {bits : ℕ} (hbits : bits ≤ 8) (input : Bytes) :
    decodeBase64IntLoop buffer bits input = decodeBase64Loop buffer.toUInt32 bits input := by
  induction input generalizing buffer bits with
  | nil => rfl
  | cons c input ih =>
    rw [decodeBase64IntLoop, decodeBase64Loop]
    by_cases hspace : isspace c = true
    · rw [if_pos hspace, if_pos hspace, ih buffer hbits]
    rw [if_neg hspace, if_neg hspace]
    by_cases hpad : c = 61
    · rw [if_pos hpad, if_pos hpad]
    rw [if_neg hpad, if_neg hpad]
    cases base64Value c with
    | none => rfl
    | some value =>
      have hbuffer : (buffer <<< 6 ||| value.toInt32).toUInt32 = buffer.toUInt32 <<< 6 ||| value := rfl
      dsimp only
      by_cases hbyte : 8 ≤ bits + 6
      · rw [if_pos hbyte, if_pos hbyte, ih _ (by omega), lowByte_shift (by omega), hbuffer]
      · rw [if_neg hbyte, if_neg hbyte, ih _ (by omega), hbuffer]

/-- The reader of the source is the one whose accumulator has no sign. -/
theorem decodeBase64_int (input : Bytes) : decodeBase64Int input = decodeBase64 input := by
  rw [decodeBase64Int, decodeBase64, decodeBase64Loop_int 0 (by omega)]
  rfl

/-! ## Reading what was written -/

/-- The reader knows the characters of the alphabet. -/
theorem base64Value_base64Char : ∀ d < 64, isspace (base64Char d) = false ∧ base64Char d ≠ 61 ∧
    base64Value (base64Char d) = some (UInt32.ofNat d) := by decide

theorem toNat_shift_or (buffer : UInt32) {d : ℕ} (h : d < 64) :
    (buffer <<< 6 ||| UInt32.ofNat d).toNat = (buffer.toNat * 64 + d) % 2 ^ 32 := by
  have hbuffer := buffer.toNat_lt
  have hshift : (buffer <<< 6).toNat = buffer.toNat % 2 ^ 26 * 2 ^ 6 := by
    rw [UInt32.toNat_shiftLeft, Nat.shiftLeft_eq]
    show buffer.toNat * 2 ^ 6 % 2 ^ 32 = _
    omega
  have hdigit : (UInt32.ofNat d).toNat = d := UInt32.toNat_ofNat_of_lt' (h.trans (by decide))
  rw [UInt32.toNat_or, hshift, hdigit, shift_or (by omega)]
  omega

/-- The byte given out is made of the pending bits and the new group. -/
theorem toUInt8_shift (buffer : UInt32) {bits d : ℕ} (hbits : bits = 2 ∨ bits = 4 ∨ bits = 6)
    (hd : d < 64) :
    ((buffer <<< 6 ||| UInt32.ofNat d) >>> UInt32.ofNat (bits - 2)).toUInt8 =
      UInt8.ofNat ((buffer.toNat % 2 ^ bits * 64 + d) / 2 ^ (bits - 2)) := by
  have hcount : (UInt32.ofNat (bits - 2)).toNat % 32 = bits - 2 := by
    obtain rfl | rfl | rfl := hbits <;> rfl
  apply UInt8.toNat_inj.mp
  rw [UInt32.toNat_toUInt8, UInt32.toNat_shiftRight, hcount, Nat.shiftRight_eq_div_pow,
    toNat_shift_or buffer hd, UInt8.toNat_ofNat']
  obtain rfl | rfl | rfl := hbits
  · omega
  · omega
  · omega

/-- Characters of the alphabet are read group by group, up to the padding. -/
theorem decodeBase64Loop_digits (buffer : UInt32) {bits : ℕ}
    (hbits : bits = 0 ∨ bits = 2 ∨ bits = 4 ∨ bits = 6) {ds : List ℕ} (hds : ∀ d ∈ ds, d < 64)
    (pad : ℕ) :
    decodeBase64Loop buffer bits (ds.map base64Char ++ List.replicate pad 61) =
      some (regroup (buffer.toNat % 2 ^ bits) bits ds) := by
  induction ds generalizing buffer bits with
  | nil =>
    cases pad with
    | zero => rfl
    | succ pad => rfl
  | cons d ds ih =>
    have hd : d < 64 := hds d (by simp)
    obtain ⟨hspace, hpad, hvalue⟩ := base64Value_base64Char d hd
    have hrest : ∀ e ∈ ds, e < 64 := fun e he => hds e (by simp [he])
    rw [List.map_cons, List.cons_append, decodeBase64Loop, if_neg (by simp [hspace]), if_neg hpad,
      hvalue, regroup]
    dsimp only
    by_cases hbyte : 8 ≤ bits + 6
    · have hbits' : bits = 2 ∨ bits = 4 ∨ bits = 6 := by omega
      have hkept : (buffer <<< 6 ||| UInt32.ofNat d).toNat % 2 ^ (bits - 2) =
          (buffer.toNat % 2 ^ bits * 64 + d) % 2 ^ (bits - 2) := by
        rw [toNat_shift_or buffer hd]
        obtain rfl | rfl | rfl := hbits'
        · omega
        · omega
        · omega
      rw [if_pos hbyte, if_pos hbyte, ih _ (by omega) hrest, toUInt8_shift buffer hbits' hd, hkept]
      rfl
    · obtain rfl : bits = 0 := by omega
      have hkept : (buffer <<< 6 ||| UInt32.ofNat d).toNat % 2 ^ (0 + 6) =
          buffer.toNat % 2 ^ 0 * 64 + d := by
        rw [toNat_shift_or buffer hd]
        omega
      rw [if_neg hbyte, if_neg hbyte, ih _ (by omega) hrest, hkept]

/-- Whitespace is skipped wherever it stands. -/
theorem decodeBase64Loop_filter (buffer : UInt32) (bits : ℕ) (input : Bytes) :
    decodeBase64Loop buffer bits (input.filter (fun c => !isspace c)) =
      decodeBase64Loop buffer bits input := by
  induction input generalizing buffer bits with
  | nil => rfl
  | cons c input ih =>
    by_cases hspace : isspace c = true
    · rw [List.filter_cons_of_neg (by simp [hspace]), decodeBase64Loop, if_pos hspace, ih]
    · rw [List.filter_cons_of_pos (by simp [hspace])]
      simp only [decodeBase64Loop, if_neg hspace, ih]

/-- Six bits at a time give back the bytes, whatever the padding. -/
theorem decodeBase64_body {bytes : Bytes} (hne : bytes ≠ []) (pad : ℕ) :
    decodeBase64 (base64Body bytes ++ List.replicate pad 61) = some bytes := by
  have hread := decodeBase64Loop_digits 0 (Or.inl rfl) (sextets_lt bytes) pad
  rw [show (0 : UInt32).toNat % 2 ^ 0 = 0 from rfl, regroup_sextets] at hread
  rw [decodeBase64, base64Body, hread]
  exact if_neg hne

/-- **Decoding undoes encoding.** With an accumulator that wraps, a text that without its
    whitespace is the base64 text of some bytes, with or without its padding, decodes to
    just these bytes. -/
theorem decodeBase64_encode {bytes text : Bytes} (hne : bytes ≠ [])
    (htext : text.filter (fun c => !isspace c) = encodeBase64 bytes ∨
      text.filter (fun c => !isspace c) = base64Body bytes) :
    decodeBase64Int text = some bytes := by
  have hfilter : decodeBase64 text = decodeBase64 (text.filter (fun c => !isspace c)) := by
    rw [decodeBase64, decodeBase64, decodeBase64Loop_filter]
  rw [decodeBase64_int, hfilter]
  obtain hpadded | hplain := htext
  · rw [hpadded, encodeBase64, base64Padding, decodeBase64_body hne]
  · rw [hplain]
    have hbody := decodeBase64_body hne 0
    rw [List.replicate_zero, List.append_nil] at hbody
    exact hbody

/-- Two bytes, with a line break in the text and the padding behind a space. -/
theorem decodeBase64_encode_wrapped :
    decodeBase64Int (ascii "/v\n8 =") = some [0xfe, 0xff] :=
  decodeBase64_encode (by decide) (Or.inl (by decide))

/-! ## The range of the accumulator -/

/-- The shifts of the loop in their order: the accumulator before, and the digit it takes. -/
def decodeBase64Shifts (buffer : Int32) : Bytes → List (Int32 × UInt32)
  | [] => []
  | c :: input =>
    if isspace c then decodeBase64Shifts buffer input
    else if c = 61 then []
    else
      match base64Value c with
      | none => []
      | some value => (buffer, value) :: decodeBase64Shifts (buffer <<< 6 ||| value.toInt32) input

/-- The accumulator is not negative, and `(buffer << 6) | digit`, as a mathematical
    value, is an `int`. -/
def ShiftInRange (shift : Int32 × UInt32) : Prop :=
  0 ≤ shift.1.toInt ∧ shift.1.toInt * 64 + shift.2.toNat < 2 ^ 31

/-- The digits the loop reads: up to padding or a character it does not know. -/
def base64Digits : Bytes → List ℕ
  | [] => []
  | c :: input =>
    if isspace c then base64Digits input
    else if c = 61 then []
    else
      match base64Value c with
      | none => []
      | some value => value.toNat :: base64Digits input

/-- At most five digits after the leading zeros, or six of which the first is 1. -/
def FewDigits (ds : List ℕ) : Prop :=
  (ds.dropWhile (· = 0)).length ≤ 5 ∨
    ((ds.dropWhile (· = 0)).length = 6 ∧ (ds.dropWhile (· = 0)).head? = some 1)

/-- The number the digits spell behind `v`. -/
def spell (v : ℕ) (ds : List ℕ) : ℕ := ds.foldl (fun v d => v * 64 + d) v

theorem base64Value_lt {c : UInt8} {value : UInt32} (h : base64Value c = some value) :
    value.toNat < 64 := by
  have hall : ∀ c : Fin 256, (base64Value (UInt8.ofNat c)).all (fun value => value.toNat < 64) = true := by
    decide +kernel
  have hc := hall ⟨c.toNat, c.toNat_lt⟩
  rw [UInt8.ofNat_toNat, h] at hc
  exact of_decide_eq_true hc

theorem base64Digits_lt (input : Bytes) : ∀ d ∈ base64Digits input, d < 64 := by
  induction input with
  | nil => simp [base64Digits]
  | cons c input ih =>
    rw [base64Digits]
    split_ifs
    · exact ih
    · simp
    · cases hvalue : base64Value c with
      | none => simp
      | some value =>
        intro d hd
        obtain rfl | hd := List.mem_cons.mp hd
        · exact base64Value_lt hvalue
        · exact ih d hd

theorem le_spell (v : ℕ) (ds : List ℕ) : v * 64 ^ ds.length ≤ spell v ds := by
  induction ds generalizing v with
  | nil => simp [spell]
  | cons d ds ih =>
    calc v * 64 ^ (ds.length + 1) = v * 64 * 64 ^ ds.length := by
          rw [Nat.pow_succ', Nat.mul_assoc]
      _ ≤ (v * 64 + d) * 64 ^ ds.length := Nat.mul_le_mul_right _ (by omega)
      _ ≤ spell (v * 64 + d) ds := ih _

theorem spell_lt (v : ℕ) {ds : List ℕ} (h : ∀ d ∈ ds, d < 64) :
    spell v ds < (v + 1) * 64 ^ ds.length := by
  induction ds generalizing v with
  | nil => simp [spell]
  | cons d ds ih =>
    have hd : d < 64 := h d (by simp)
    calc spell (v * 64 + d) ds < (v * 64 + d + 1) * 64 ^ ds.length :=
          ih _ (fun e he => h e (by simp [he]))
      _ ≤ (v + 1) * 64 * 64 ^ ds.length := Nat.mul_le_mul_right _ (by omega)
      _ = (v + 1) * 64 ^ (ds.length + 1) := by rw [Nat.pow_succ', Nat.mul_assoc]

theorem spell_dropWhile (ds : List ℕ) : spell 0 (ds.dropWhile (· = 0)) = spell 0 ds := by
  induction ds with
  | nil => rfl
  | cons d ds ih =>
    by_cases hd : d = 0
    · rw [List.dropWhile_cons_of_pos (by simpa using hd), ih, hd]
      rfl
    · rw [List.dropWhile_cons_of_neg (by simpa using hd)]

/-- Few digits are those that spell an `int`. -/
theorem fewDigits_iff {ds : List ℕ} (h : ∀ d ∈ ds, d < 64) : FewDigits ds ↔ spell 0 ds < 2 ^ 31 := by
  rw [← spell_dropWhile]
  have hdigits : ∀ d ∈ ds.dropWhile (· = 0), d < 64 :=
    fun d hd => h d ((List.dropWhile_sublist _).subset hd)
  have hhead := List.head?_dropWhile_not (· = 0) ds
  unfold FewDigits
  generalize ds.dropWhile (· = 0) = rest at hdigits hhead ⊢
  cases rest with
  | nil => simp [spell]
  | cons d rest =>
    have hd : d ≠ 0 := by simpa using hhead
    have hlow := le_spell d rest
    have hhigh := spell_lt d (fun e he => hdigits e (List.mem_cons_of_mem d he))
    have hspell : spell 0 (d :: rest) = spell d rest := by simp [spell]
    rw [hspell, List.length_cons, List.head?_cons, Option.some.injEq]
    obtain hshort | hlong := Nat.lt_or_ge rest.length 5
    · -- at most five digits
      have hpow : 64 ^ rest.length ≤ 64 ^ 4 := Nat.pow_le_pow_right (by omega) (by omega)
      have hlt : spell d rest < 2 ^ 31 := by
        have hdlt : d < 64 := hdigits d (by simp)
        calc spell d rest < (d + 1) * 64 ^ rest.length := hhigh
          _ ≤ 64 * 64 ^ 4 := Nat.mul_le_mul (by omega) hpow
          _ ≤ 2 ^ 31 := by decide
      exact iff_of_true (Or.inl (by omega)) hlt
    obtain hsix | hmore := Nat.eq_or_lt_of_le hlong
    · -- six digits: the first one decides
      rw [← hsix] at hlow hhigh ⊢
      omega
    · have hpow : 64 ^ 6 ≤ 64 ^ rest.length := Nat.pow_le_pow_right (by omega) hmore
      have hge : 2 ^ 31 ≤ spell d rest := by
        calc 2 ^ 31 ≤ 1 * 64 ^ 6 := by decide
          _ ≤ d * 64 ^ rest.length := Nat.mul_le_mul (Nat.pos_of_ne_zero hd) hpow
          _ ≤ spell d rest := hlow
      exact iff_of_false (by omega) (by omega)

/-- In range the accumulator holds the number spelled so far. -/
theorem shifts_inRange_iff (buffer : Int32) (hbuffer : buffer.toUInt32.toNat < 2 ^ 31) (input : Bytes) :
    (∀ shift ∈ decodeBase64Shifts buffer input, ShiftInRange shift) ↔
      spell buffer.toUInt32.toNat (base64Digits input) < 2 ^ 31 := by
  induction input generalizing buffer with
  | nil => simpa [decodeBase64Shifts, base64Digits, spell] using hbuffer
  | cons c input ih =>
    rw [decodeBase64Shifts, base64Digits]
    by_cases hspace : isspace c = true
    · rw [if_pos hspace, if_pos hspace]
      exact ih buffer hbuffer
    rw [if_neg hspace, if_neg hspace]
    by_cases hpad : c = 61
    · rw [if_pos hpad, if_pos hpad]
      simpa [spell] using hbuffer
    rw [if_neg hpad, if_neg hpad]
    cases hvalue : base64Value c with
    | none => simpa [spell] using hbuffer
    | some value =>
      have hsigned : buffer.toInt = buffer.toUInt32.toNat := by
        apply BitVec.toInt_eq_toNat_of_lt
        show 2 * buffer.toUInt32.toNat < 2 ^ 32
        omega
      have hnext : (buffer <<< 6 ||| value.toInt32).toUInt32.toNat =
          (buffer.toUInt32.toNat * 64 + value.toNat) % 2 ^ 32 := by
        have hshift := toNat_shift_or buffer.toUInt32 (base64Value_lt hvalue)
        rw [UInt32.ofNat_toNat] at hshift
        exact hshift
      have hrange : ShiftInRange (buffer, value) ↔
          buffer.toUInt32.toNat * 64 + value.toNat < 2 ^ 31 := by
        show 0 ≤ buffer.toInt ∧ buffer.toInt * 64 + value.toNat < 2 ^ 31 ↔ _
        rw [hsigned]
        omega
      have hspell : spell buffer.toUInt32.toNat (value.toNat :: base64Digits input) =
          spell (buffer.toUInt32.toNat * 64 + value.toNat) (base64Digits input) := rfl
      dsimp only
      rw [List.forall_mem_cons, hrange, hspell]
      by_cases hfits : buffer.toUInt32.toNat * 64 + value.toNat < 2 ^ 31
      · have hmod := Nat.mod_eq_of_lt (hfits.trans (by decide : 2 ^ 31 < 2 ^ 32))
        rw [ih _ (by omega), hnext, hmod]
        exact and_iff_right hfits
      · -- once out of range, the number only grows
        have hgrows := le_spell (buffer.toUInt32.toNat * 64 + value.toNat) (base64Digits input)
        have hpos := Nat.pow_pos (n := (base64Digits input).length) (show 0 < 64 by decide)
        have hge := Nat.le_mul_of_pos_right (buffer.toUInt32.toNat * 64 + value.toNat) hpos
        exact iff_of_false (fun hboth => hfits hboth.1) (by omega)

/-- **When the accumulator stays in range.** No shift overflows exactly where the text
    has few digits. -/
theorem base64_inRange_iff (input : Bytes) :
    (∀ shift ∈ decodeBase64Shifts 0 input, ShiftInRange shift) ↔ FewDigits (base64Digits input) := by
  rw [fewDigits_iff (base64Digits_lt input)]
  exact shifts_inRange_iff 0 (by decide) input

instance decidableShiftInRange (shift : Int32 × UInt32) : Decidable (ShiftInRange shift) :=
  inferInstanceAs (Decidable (_ ∧ _))

/-- Six characters are enough to shift a bit out of an `int`. -/
theorem base64_overflows :
    ¬ ∀ shift ∈ decodeBase64Shifts 0 (ascii "CAAAAA"), ShiftInRange shift := by
  have hshifts : (decodeBase64Shifts 0 (ascii "CAAAAA")).all (fun s => ShiftInRange s) = false := by
    decide +kernel
  intro h
  rw [List.all_eq_true.mpr (fun s hs => decide_eq_true (h s hs))] at hshifts
  cases hshifts

end AirPlay2
