import AirPlay2.Lib.Text

/- Base64: bytes cut into groups of six bits, most significant first, each group a
   character. The reader keeps the bits it has not used yet, six more with each group,
   and gives out a byte whenever there are eight; it recovers the bytes whatever their
   number (`regroup_sextets`), and drops the bits that are left over. -/
namespace Lib

/-- The character of a six-bit group. -/
def base64Char (d : ℕ) : UInt8 :=
  if d < 26 then UInt8.ofNat (65 + d)
  else if d < 52 then UInt8.ofNat (97 + (d - 26))
  else if d < 62 then UInt8.ofNat (48 + (d - 52))
  else if d = 62 then 43
  else 47

/-- The six-bit groups of a byte string, the last one filled up with zeros. -/
def sextets : Bytes → List ℕ
  | [] => []
  | [a] => [a.toNat / 4, a.toNat % 4 * 16]
  | [a, b] => [a.toNat / 4, a.toNat % 4 * 16 + b.toNat / 16, b.toNat % 16 * 4]
  | a :: b :: c :: bytes =>
    a.toNat / 4 :: (a.toNat % 4 * 16 + b.toNat / 16) :: (b.toNat % 16 * 4 + c.toNat / 64) ::
      c.toNat % 64 :: sextets bytes

/-- The characters without padding, and the padding that belongs to them. -/
def base64Body (bytes : Bytes) : Bytes := (sextets bytes).map base64Char

def base64Padding (bytes : Bytes) : Bytes := List.replicate ((3 - bytes.length % 3) % 3) 61

def encodeBase64 (bytes : Bytes) : Bytes := base64Body bytes ++ base64Padding bytes

/-- The bytes in a row of six-bit groups, with `bits` bits of `acc` in front of them. -/
def regroup (acc bits : ℕ) : List ℕ → Bytes
  | [] => []
  | d :: ds =>
    if 8 ≤ bits + 6 then
      UInt8.ofNat ((acc * 64 + d) / 2 ^ (bits - 2)) ::
        regroup ((acc * 64 + d) % 2 ^ (bits - 2)) (bits - 2) ds
    else regroup (acc * 64 + d) (bits + 6) ds

theorem sextets_lt (bytes : Bytes) : ∀ d ∈ sextets bytes, d < 64 := by
  induction bytes using sextets.induct with
  | case1 => simp [sextets]
  | case2 a =>
    have ha := a.toNat_lt
    simp only [sextets, List.forall_mem_cons, List.not_mem_nil, false_imp_iff, implies_true, and_true]
    omega
  | case3 a b =>
    have ha := a.toNat_lt
    have hb := b.toNat_lt
    simp only [sextets, List.forall_mem_cons, List.not_mem_nil, false_imp_iff, implies_true, and_true]
    omega
  | case4 a b c bytes ih =>
    have ha := a.toNat_lt
    have hb := b.toNat_lt
    have hc := c.toNat_lt
    simp only [sextets, List.forall_mem_cons]
    exact ⟨by omega, by omega, by omega, by omega, ih⟩

/-! ## The reader, by the number of bits it holds -/

theorem regroup_zero (acc d : ℕ) (ds : List ℕ) :
    regroup acc 0 (d :: ds) = regroup (acc * 64 + d) 6 ds := rfl

theorem regroup_six (acc d : ℕ) (ds : List ℕ) :
    regroup acc 6 (d :: ds) =
      UInt8.ofNat ((acc * 64 + d) / 16) :: regroup ((acc * 64 + d) % 16) 4 ds := rfl

theorem regroup_four (acc d : ℕ) (ds : List ℕ) :
    regroup acc 4 (d :: ds) =
      UInt8.ofNat ((acc * 64 + d) / 4) :: regroup ((acc * 64 + d) % 4) 2 ds := rfl

theorem regroup_two (acc d : ℕ) (ds : List ℕ) :
    regroup acc 2 (d :: ds) =
      UInt8.ofNat ((acc * 64 + d) / 1) :: regroup ((acc * 64 + d) % 1) 0 ds := rfl

theorem ofNat_eq {n : ℕ} {a : UInt8} (h : n = a.toNat) : UInt8.ofNat n = a := by
  rw [h, UInt8.ofNat_toNat]

/-- **Reading undoes writing**, for every number of bytes. -/
theorem regroup_sextets (bytes : Bytes) : regroup 0 0 (sextets bytes) = bytes := by
  induction bytes using sextets.induct with
  | case1 => rfl
  | case2 a =>
    have hfirst : UInt8.ofNat (((0 * 64 + a.toNat / 4) * 64 + a.toNat % 4 * 16) / 16) = a :=
      ofNat_eq (by omega)
    rw [sextets, regroup_zero, regroup_six, hfirst]
    rfl
  | case3 a b =>
    have hb := b.toNat_lt
    have hfirst : UInt8.ofNat
        (((0 * 64 + a.toNat / 4) * 64 + (a.toNat % 4 * 16 + b.toNat / 16)) / 16) = a :=
      ofNat_eq (by omega)
    have hleft : ((0 * 64 + a.toNat / 4) * 64 + (a.toNat % 4 * 16 + b.toNat / 16)) % 16 =
        b.toNat / 16 := by omega
    have hsecond : UInt8.ofNat ((b.toNat / 16 * 64 + b.toNat % 16 * 4) / 4) = b := ofNat_eq (by omega)
    rw [sextets, regroup_zero, regroup_six, hfirst, hleft, regroup_four, hsecond]
    rfl
  | case4 a b c bytes ih =>
    have hb := b.toNat_lt
    have hc := c.toNat_lt
    have hfirst : UInt8.ofNat
        (((0 * 64 + a.toNat / 4) * 64 + (a.toNat % 4 * 16 + b.toNat / 16)) / 16) = a :=
      ofNat_eq (by omega)
    have hleft : ((0 * 64 + a.toNat / 4) * 64 + (a.toNat % 4 * 16 + b.toNat / 16)) % 16 =
        b.toNat / 16 := by omega
    have hsecond : UInt8.ofNat
        ((b.toNat / 16 * 64 + (b.toNat % 16 * 4 + c.toNat / 64)) / 4) = b := ofNat_eq (by omega)
    have hleft' : (b.toNat / 16 * 64 + (b.toNat % 16 * 4 + c.toNat / 64)) % 4 = c.toNat / 64 := by
      omega
    have hthird : UInt8.ofNat ((c.toNat / 64 * 64 + c.toNat % 64) / 1) = c := ofNat_eq (by omega)
    rw [sextets, regroup_zero, regroup_six, hfirst, hleft, regroup_four, hsecond, hleft', regroup_two,
      hthird, Nat.mod_one, ih]

/-! ## Lengths -/

theorem length_sextets (bytes : Bytes) : (sextets bytes).length = (4 * bytes.length + 2) / 3 := by
  induction bytes using sextets.induct with
  | case1 => rfl
  | case2 a => simp [sextets]
  | case3 a b => simp [sextets]
  | case4 a b c bytes ih =>
    simp only [sextets, List.length_cons, ih]
    omega

/-- A byte for each eight bits. -/
theorem length_regroup (acc : ℕ) {bits : ℕ} (h : bits < 8) (ds : List ℕ) :
    (regroup acc bits ds).length = (bits + 6 * ds.length) / 8 := by
  induction ds generalizing acc bits with
  | nil =>
    rw [regroup, List.length_nil, List.length_nil]
    omega
  | cons d ds ih =>
    rw [regroup]
    split_ifs with hbyte
    · rw [List.length_cons, ih _ (by omega), List.length_cons]
      omega
    · rw [ih _ (by omega), List.length_cons]
      omega

end Lib
