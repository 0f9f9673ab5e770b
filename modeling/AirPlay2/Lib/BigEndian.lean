import AirPlay2.Lib.Text

/- Numbers as big-endian bytes, and words put together from bytes by shifts. -/
namespace Lib

/-- The low `width` bytes of `n`, most significant first. -/
def toBytes : ℕ → ℕ → Bytes
  | 0, _ => []
  | width + 1, n => UInt8.ofNat (n / 256 ^ width) :: toBytes width n

/-- The number the bytes spell, most significant first. -/
def ofBytes (bs : Bytes) : ℕ := bs.foldl (fun acc b => acc * 256 + b.toNat) 0

@[simp] theorem length_toBytes (width n : ℕ) : (toBytes width n).length = width := by
  induction width with
  | zero => rfl
  | succ width ih => simp [toBytes, ih]

theorem ofBytes_append (bs cs : Bytes) :
    ofBytes (bs ++ cs) = ofBytes bs * 256 ^ cs.length + ofBytes cs := by
  induction cs using List.reverseRecOn with
  | nil => simp [ofBytes]
  | append_singleton cs c ih =>
    have hsnoc : ∀ bs : Bytes, ofBytes (bs ++ [c]) = ofBytes bs * 256 + c.toNat := by
      intro bs
      simp [ofBytes]
    rw [← List.append_assoc, hsnoc, hsnoc, ih, List.length_append, List.length_singleton,
      Nat.pow_succ, Nat.add_mul, Nat.mul_assoc, Nat.add_assoc]

theorem ofBytes_lt (bs : Bytes) : ofBytes bs < 256 ^ bs.length := by
  induction bs with
  | nil => simp [ofBytes]
  | cons b bs ih =>
    have hb := b.toNat_lt
    have hhead : ofBytes [b] = b.toNat := by simp [ofBytes]
    rw [← List.singleton_append, ofBytes_append, hhead, List.length_append, List.length_singleton,
      Nat.add_comm 1, Nat.pow_succ]
    calc b.toNat * 256 ^ bs.length + ofBytes bs < b.toNat * 256 ^ bs.length + 256 ^ bs.length :=
          Nat.add_lt_add_left ih _
      _ = (b.toNat + 1) * 256 ^ bs.length := (Nat.succ_mul _ _).symm
      _ ≤ 256 * 256 ^ bs.length := Nat.mul_le_mul_right _ (by omega)
      _ = 256 ^ bs.length * 256 := Nat.mul_comm _ _

/-- The bytes of a number that fits spell it. -/
theorem ofBytes_toBytes {width n : ℕ} (h : n < 256 ^ width) : ofBytes (toBytes width n) = n := by
  have hmod : ∀ width, ofBytes (toBytes width n) = n % 256 ^ width := by
    intro width
    induction width with
    | zero => simp [toBytes, ofBytes, Nat.mod_one]
    | succ width ih =>
      have hhead : ofBytes [UInt8.ofNat (n / 256 ^ width)] = n / 256 ^ width % 256 := by
        simp [ofBytes]
      rw [toBytes, ← List.singleton_append, ofBytes_append, ih, length_toBytes, hhead,
        Nat.pow_succ, Nat.mod_mul, Nat.mul_comm, Nat.add_comm]
  rw [hmod, Nat.mod_eq_of_lt h]

/-- What lies above the bytes taken is not seen. -/
theorem toBytes_mul_add (width k n : ℕ) : toBytes width (k * 256 ^ width + n) = toBytes width n := by
  induction width generalizing k with
  | zero => rfl
  | succ width ih =>
    have hshift : k * 256 ^ (width + 1) + n = k * 256 * 256 ^ width + n := by
      rw [Nat.pow_succ, Nat.mul_comm (256 ^ width), Nat.mul_assoc]
    have hhead : (k * 256 * 256 ^ width + n) / 256 ^ width = n / 256 ^ width + 256 * k := by
      rw [Nat.add_comm, Nat.add_mul_div_right _ _ (Nat.pow_pos (by decide)), Nat.mul_comm k]
    have hbyte : UInt8.ofNat (n / 256 ^ width + 256 * k) = UInt8.ofNat (n / 256 ^ width) := by
      apply UInt8.toNat_inj.mp
      rw [UInt8.toNat_ofNat', UInt8.toNat_ofNat', Nat.add_mul_mod_self_left]
    rw [hshift, toBytes, hhead, hbyte, ih, toBytes]

/-- Bytes are those of the number they spell. -/
theorem toBytes_ofBytes (bs : Bytes) : toBytes bs.length (ofBytes bs) = bs := by
  induction bs with
  | nil => rfl
  | cons b bs ih =>
    have hspell : ofBytes (b :: bs) = b.toNat * 256 ^ bs.length + ofBytes bs := by
      have hhead : ofBytes [b] = b.toNat := by simp [ofBytes]
      rw [← List.singleton_append, ofBytes_append, hhead]
    have hdiv : ofBytes (b :: bs) / 256 ^ bs.length = b.toNat := by
      rw [hspell, Nat.add_comm, Nat.add_mul_div_right _ _ (Nat.pow_pos (by decide)),
        Nat.div_eq_of_lt (ofBytes_lt bs), Nat.zero_add]
    rw [List.length_cons, toBytes, hdiv, hspell, toBytes_mul_add, ih, UInt8.ofNat_toNat]

/-- A number moved up past another one that is added below it. -/
theorem shift_or {a b i : ℕ} (h : b < 2 ^ i) : a * 2 ^ i ||| b = a * 2 ^ i + b := by
  rw [Nat.mul_comm, Nat.two_pow_add_eq_or_of_lt h]

theorem toNat_word16 (a b : UInt8) : (a.toUInt16 <<< 8 ||| b.toUInt16).toNat = ofBytes [a, b] := by
  have ha := a.toNat_lt
  have hb := b.toNat_lt
  have hshift : (a.toUInt16 <<< 8).toNat = a.toNat * 2 ^ 8 := by
    simp only [UInt16.toNat_shiftLeft, UInt8.toNat_toUInt16, Nat.shiftLeft_eq]
    exact Nat.mod_eq_of_lt (by simp; omega)
  rw [UInt16.toNat_or, hshift, UInt8.toNat_toUInt16, shift_or (by omega)]
  simp [ofBytes]

theorem toNat_word32 (a b c d : UInt8) :
    (a.toUInt32 <<< 24 ||| b.toUInt32 <<< 16 ||| c.toUInt32 <<< 8 ||| d.toUInt32).toNat =
      ofBytes [a, b, c, d] := by
  have ha := a.toNat_lt
  have hb := b.toNat_lt
  have hc := c.toNat_lt
  have hd := d.toNat_lt
  have hshift : ∀ (x : UInt8) (i : ℕ), i ≤ 24 →
      (x.toUInt32 <<< UInt32.ofNat i).toNat = x.toNat * 2 ^ i := by
    intro x i hi
    have hx := x.toNat_lt
    have hle : 2 ^ i ≤ 2 ^ 24 := Nat.pow_le_pow_right (by omega) hi
    have hmod : (UInt32.ofNat i).toNat % 32 = i := by
      simp only [UInt32.toNat_ofNat']
      omega
    simp only [UInt32.toNat_shiftLeft, UInt8.toNat_toUInt32, Nat.shiftLeft_eq, hmod]
    apply Nat.mod_eq_of_lt
    calc x.toNat * 2 ^ i ≤ 255 * 2 ^ 24 := Nat.mul_le_mul (by omega) hle
      _ < 2 ^ 32 := by decide
  have ha' : (a.toUInt32 <<< 24).toNat = a.toNat * 2 ^ 24 := hshift a 24 (by omega)
  have hb' : (b.toUInt32 <<< 16).toNat = b.toNat * 2 ^ 16 := hshift b 16 (by omega)
  have hc' : (c.toUInt32 <<< 8).toNat = c.toNat * 2 ^ 8 := hshift c 8 (by omega)
  rw [UInt32.toNat_or, UInt32.toNat_or, UInt32.toNat_or, ha', hb', hc', UInt8.toNat_toUInt32]
  -- byte by byte, each below what is there already
  have h₁ : a.toNat * 2 ^ 24 ||| b.toNat * 2 ^ 16 = (a.toNat * 2 ^ 8 + b.toNat) * 2 ^ 16 := by
    rw [shift_or (by omega)]
    omega
  have h₂ : (a.toNat * 2 ^ 8 + b.toNat) * 2 ^ 16 ||| c.toNat * 2 ^ 8 =
      ((a.toNat * 2 ^ 8 + b.toNat) * 2 ^ 8 + c.toNat) * 2 ^ 8 := by
    rw [shift_or (by omega)]
    omega
  rw [h₁, h₂, shift_or (by omega)]
  simp [ofBytes]

theorem toBytes_word16 (a b : UInt8) : toBytes 2 (a.toUInt16 <<< 8 ||| b.toUInt16).toNat = [a, b] := by
  rw [toNat_word16]
  exact toBytes_ofBytes [a, b]

theorem toBytes_word32 (a b c d : UInt8) :
    toBytes 4 (a.toUInt32 <<< 24 ||| b.toUInt32 <<< 16 ||| c.toUInt32 <<< 8 ||| d.toUInt32).toNat =
      [a, b, c, d] := by
  rw [toNat_word32]
  exact toBytes_ofBytes [a, b, c, d]

/-- A 16-bit word is put together from its two bytes. -/
theorem word16_of_bytes (v : UInt16) : ∃ a b : UInt8, toBytes 2 v.toNat = [a, b] ∧
    ofBytes [a, b] = v.toNat ∧ a.toUInt16 <<< 8 ||| b.toUInt16 = v := by
  have hspell : ofBytes (toBytes 2 v.toNat) = v.toNat := ofBytes_toBytes v.toNat_lt
  exact ⟨_, _, rfl, hspell, UInt16.toNat_inj.mp ((toNat_word16 _ _).trans hspell)⟩

/-- A 32-bit word is put together from its four bytes. -/
theorem word32_of_bytes (v : UInt32) : ∃ a b c d : UInt8, toBytes 4 v.toNat = [a, b, c, d] ∧
    a.toUInt32 <<< 24 ||| b.toUInt32 <<< 16 ||| c.toUInt32 <<< 8 ||| d.toUInt32 = v := by
  have hspell : ofBytes (toBytes 4 v.toNat) = v.toNat := ofBytes_toBytes v.toNat_lt
  exact ⟨_, _, _, _, rfl, UInt32.toNat_inj.mp ((toNat_word32 _ _ _ _).trans hspell)⟩

theorem word16_inj {a b c d : UInt8} :
    a.toUInt16 <<< 8 ||| b.toUInt16 = c.toUInt16 <<< 8 ||| d.toUInt16 ↔ a = c ∧ b = d := by
  refine ⟨?_, ?_⟩
  · intro h
    have hbytes := congrArg (fun v : UInt16 => toBytes 2 v.toNat) h
    simp only [toBytes_word16, List.cons.injEq, and_true] at hbytes
    exact hbytes
  · intro h
    obtain ⟨rfl, rfl⟩ := h
    rfl

theorem word32_inj {a b c d a' b' c' d' : UInt8} :
    a.toUInt32 <<< 24 ||| b.toUInt32 <<< 16 ||| c.toUInt32 <<< 8 ||| d.toUInt32 =
        a'.toUInt32 <<< 24 ||| b'.toUInt32 <<< 16 ||| c'.toUInt32 <<< 8 ||| d'.toUInt32 ↔
      a = a' ∧ b = b' ∧ c = c' ∧ d = d' := by
  refine ⟨?_, ?_⟩
  · intro h
    have hbytes := congrArg (fun v : UInt32 => toBytes 4 v.toNat) h
    simp only [toBytes_word32, List.cons.injEq, and_true] at hbytes
    exact hbytes
  · intro h
    obtain ⟨rfl, rfl, rfl, rfl⟩ := h
    rfl

theorem word16_eq_zero {a b : UInt8} :
    a.toUInt16 <<< 8 ||| b.toUInt16 = 0 ↔ a = 0 ∧ b = 0 := @word16_inj a b 0 0

theorem word32_eq_zero {a b c d : UInt8} :
    a.toUInt32 <<< 24 ||| b.toUInt32 <<< 16 ||| c.toUInt32 <<< 8 ||| d.toUInt32 = 0 ↔
      a = 0 ∧ b = 0 ∧ c = 0 ∧ d = 0 := @word32_inj a b c d 0 0 0 0

/-- The bytes of a word, taken off by shifts. -/
theorem bytes16_eq (v : UInt16) : [(v >>> 8).toUInt8, v.toUInt8] = toBytes 2 v.toNat := by
  have hhigh : (v >>> 8).toUInt8 = UInt8.ofNat (v.toNat / 256 ^ 1) := by
    apply UInt8.toNat_inj.mp
    rw [UInt16.toNat_toUInt8, UInt16.toNat_shiftRight, UInt8.toNat_ofNat', Nat.shiftRight_eq_div_pow]
    rfl
  have hlow : v.toUInt8 = UInt8.ofNat (v.toNat / 256 ^ 0) := by
    apply UInt8.toNat_inj.mp
    rw [UInt16.toNat_toUInt8, UInt8.toNat_ofNat', Nat.pow_zero, Nat.div_one]
  rw [hhigh, hlow]
  rfl

theorem bytes32_eq (v : UInt32) :
    [(v >>> 24).toUInt8, (v >>> 16).toUInt8, (v >>> 8).toUInt8, v.toUInt8] = toBytes 4 v.toNat := by
  have hbyte : ∀ i, i < 4 →
      (v >>> UInt32.ofNat (8 * i)).toUInt8 = UInt8.ofNat (v.toNat / 256 ^ i) := by
    intro i hi
    have hshift : (UInt32.ofNat (8 * i)).toNat % 32 = 8 * i := by
      simp only [UInt32.toNat_ofNat']
      omega
    apply UInt8.toNat_inj.mp
    rw [UInt32.toNat_toUInt8, UInt32.toNat_shiftRight, UInt8.toNat_ofNat', Nat.shiftRight_eq_div_pow,
      hshift, Nat.pow_mul]
  have hlow : v.toUInt8 = UInt8.ofNat (v.toNat / 256 ^ 0) := by
    apply UInt8.toNat_inj.mp
    rw [UInt32.toNat_toUInt8, UInt8.toNat_ofNat', Nat.pow_zero, Nat.div_one]
  rw [hlow]
  exact congrArg₂ List.cons (hbyte 3 (by omega)) (congrArg₂ List.cons (hbyte 2 (by omega))
    (congrArg₂ List.cons (hbyte 1 (by omega)) rfl))

end Lib
