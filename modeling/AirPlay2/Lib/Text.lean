import Mathlib.Data.List.TakeWhile
import AirPlay2.Lib.Machine
import AirPlay2.Lib.Search

/- Byte strings and the C and C++ library functions on them, in the C locale:
   character classes, trimming, words and lines of a stream, and the number
   readers `std::stoul` and `std::stoi`. A reader that throws gives `none`. -/
namespace Lib

abbrev Bytes := List UInt8

/-- The bytes of an ASCII literal. -/
def ascii (s : String) : Bytes := s.toList.map (fun c => UInt8.ofNat c.toNat)

def isspace (c : UInt8) : Bool := c == 32 || (9 ≤ c && c ≤ 13)

def isdigit (c : UInt8) : Bool := 48 ≤ c && c ≤ 57

def tolower (c : UInt8) : UInt8 := if 65 ≤ c && c ≤ 90 then c + 32 else c

/-- The string without the whitespace at its two ends. -/
def trim (s : Bytes) : Bytes := ((s.dropWhile isspace).reverse.dropWhile isspace).reverse

/-- `s.substr(pos, len)` with `pos` inside the string. -/
def substr (s : Bytes) (pos len : ℕ) : Bytes := (s.drop pos).take len

/-- `stream >> word`: the next word and the rest, the word empty at the end. -/
def nextWord (s : Bytes) : Bytes × Bytes :=
  let s := s.dropWhile isspace
  (s.takeWhile (!isspace ·), s.dropWhile (!isspace ·))

/-- What repeated `std::getline(stream, line, sep)` reads: no line after a
    separator that ends the input. -/
def getlines (sep : UInt8) : Bytes → List Bytes
  | [] => []
  | c :: cs =>
    if c = sep then [] :: getlines sep cs
    else
      match getlines sep cs with
      | [] => [[c]]
      | line :: lines => (c :: line) :: lines

/-- `std::to_string` of an unsigned number. -/
def toDecimal (n : ℕ) : Bytes := (Nat.toDigits 10 n).map (fun c => UInt8.ofNat c.toNat)

/-! ## Reading numbers -/

/-- The value of a digit or letter as a digit. -/
def digitValue (c : UInt8) : ℕ :=
  if 48 ≤ c && c ≤ 57 then (c - 48).toNat
  else if 97 ≤ c && c ≤ 122 then (c - 97).toNat + 10
  else if 65 ≤ c && c ≤ 90 then (c - 65).toNat + 10
  else 36

def isDigitOf (base : ℕ) (c : UInt8) : Bool := digitValue c < base

def digitsValue (base : ℕ) (ds : Bytes) : ℕ :=
  ds.foldl (fun acc c => acc * base + digitValue c) 0

/-- What `strtoul` and `strtol` see: a sign, a magnitude, and how many characters
    they used up. -/
structure Numeral where
  negative : Bool
  magnitude : ℕ
  consumed : ℕ

/-- The base `strtoul` settles on: as given, and for base 0 by the prefix `0x`
    (if a hexadecimal digit follows) or `0`. The second part is the length of the
    prefix it skips. -/
def resolveBase (base : ℕ) (s : Bytes) : ℕ × ℕ :=
  if base ≠ 0 then (base, 0)
  else
    match s with
    | 48 :: x :: d :: _ => if (x = 120 || x = 88) && isDigitOf 16 d then (16, 2) else (8, 0)
    | 48 :: _ => (8, 0)
    | _ => (10, 0)

/-- Leading whitespace, an optional sign and the longest run of digits; `none`
    where there is no digit (`std::invalid_argument`). -/
def readNumeral (base : ℕ) (s : Bytes) : Option Numeral :=
  let blanks := (s.takeWhile isspace).length
  let s := s.drop blanks
  let negative := s.head? = some 45
  let sign := if negative || s.head? = some 43 then 1 else 0
  let s := s.drop sign
  let (base, skip) := resolveBase base s
  let digits := (s.drop skip).takeWhile (isDigitOf base)
  if digits = [] then none
  else some
    { negative := negative
      magnitude := digitsValue base digits
      consumed := blanks + sign + skip + digits.length }

/-- `std::stoul(s, &consumed, base)` with a 64-bit `unsigned long`: a negative
    numeral wraps, a magnitude past `ULONG_MAX` throws. -/
def stoul (base : ℕ) (s : Bytes) : Option (ℕ × ℕ) :=
  match readNumeral base s with
  | none => none
  | some r =>
    if 2 ^ 64 ≤ r.magnitude then none
    else some (if r.negative then (2 ^ 64 - r.magnitude) % 2 ^ 64 else r.magnitude, r.consumed)

/-- `std::stoi(s)` with a 32-bit `int`. -/
def stoi (s : Bytes) : Option ℤ :=
  match readNumeral 10 s with
  | none => none
  | some r =>
    let value : ℤ := if r.negative then -r.magnitude else r.magnitude
    if -2 ^ 31 ≤ value ∧ value < 2 ^ 31 then some value else none

/-! ## Lines -/

/-- A line in front of a separator is the first one. -/
theorem getlines_append {sep : UInt8} {line : Bytes} (h : sep ∉ line) (rest : Bytes) :
    getlines sep (line ++ sep :: rest) = line :: getlines sep rest := by
  induction line with
  | nil => simp [getlines]
  | cons c cs ih =>
    obtain ⟨hc, hcs⟩ := not_or.mp (mt List.mem_cons.mpr h)
    rw [List.cons_append, getlines, if_neg (Ne.symm hc), ih hcs]

theorem getlines_eq_nil {sep : UInt8} {s : Bytes} (h : getlines sep s = []) : s = [] := by
  cases s with
  | nil => rfl
  | cons c cs =>
    rw [getlines] at h
    split at h
    · cases h
    · split at h <;> cases h

/-- Bytes without a separator in front of a text only lengthen its first line. -/
theorem getlines_front {sep : UInt8} {bytes : Bytes} (h : sep ∉ bytes) (hne : bytes ≠ []) (rest : Bytes) :
    getlines sep (bytes ++ rest) =
      (bytes ++ (getlines sep rest).headD []) :: (getlines sep rest).tail := by
  induction bytes with
  | nil => exact absurd rfl hne
  | cons c cs ih =>
    obtain ⟨hc, hcs⟩ := not_or.mp (mt List.mem_cons.mpr h)
    rw [List.cons_append, getlines, if_neg (Ne.symm hc)]
    by_cases hlast : cs = []
    · subst hlast
      cases hrest : getlines sep rest with
      | nil =>
        rw [List.nil_append, hrest]
        rfl
      | cons line lines =>
        rw [List.nil_append, hrest]
        rfl
    · rw [ih hcs hlast]
      rfl

/-- Bytes without a separator are one line. -/
theorem getlines_of_notMem {sep : UInt8} {line : Bytes} (h : sep ∉ line) (hne : line ≠ []) :
    getlines sep line = [line] := by
  induction line with
  | nil => exact absurd rfl hne
  | cons c cs ih =>
    obtain ⟨hc, hcs⟩ := not_or.mp (mt List.mem_cons.mpr h)
    rw [getlines, if_neg (Ne.symm hc)]
    by_cases hlast : cs = []
    · rw [hlast]
      rfl
    · rw [ih hcs hlast]

/-- The first line has no separator in it; one stands behind it, or it is the last one. -/
theorem getlines_eq_cons {sep : UInt8} {s line : Bytes} {lines : List Bytes}
    (h : getlines sep s = line :: lines) :
    sep ∉ line ∧ ((∃ rest, s = line ++ sep :: rest ∧ getlines sep rest = lines) ∨
      (s = line ∧ lines = [])) := by
  induction s generalizing line lines with
  | nil => cases h
  | cons c cs ih =>
    rw [getlines] at h
    split at h
    · rename_i hc
      obtain ⟨rfl, rfl⟩ := List.cons.inj h
      exact ⟨List.not_mem_nil, Or.inl ⟨cs, by rw [hc, List.nil_append], rfl⟩⟩
    · rename_i hc
      cases hcs : getlines sep cs with
      | nil =>
        rw [hcs] at h
        obtain ⟨rfl, rfl⟩ := List.cons.inj h
        exact ⟨by simpa using Ne.symm hc, Or.inr ⟨by rw [getlines_eq_nil hcs], rfl⟩⟩
      | cons l ls =>
        rw [hcs] at h
        obtain ⟨rfl, rfl⟩ := List.cons.inj h
        obtain ⟨hl, hrest⟩ := ih hcs
        refine ⟨by simp [Ne.symm hc, hl], ?_⟩
        obtain ⟨rest, rfl, hrest⟩ | ⟨rfl, rfl⟩ := hrest
        · exact Or.inl ⟨rest, rfl, hrest⟩
        · exact Or.inr ⟨rfl, rfl⟩

/-! ## Whitespace -/

/-- A word of a line. -/
def IsWord (w : Bytes) : Prop := w ≠ [] ∧ ∀ c ∈ w, isspace c = false

theorem isWord_iff_all {w : Bytes} : IsWord w ↔ (!w.isEmpty && w.all (fun c => !isspace c)) = true := by
  rw [IsWord]
  simp

instance decidableIsWord (w : Bytes) : Decidable (IsWord w) := decidable_of_iff' _ isWord_iff_all

/-- No whitespace at either end. -/
def Trimmed (s : Bytes) : Prop :=
  (∀ c, s.head? = some c → isspace c = false) ∧ (∀ c, s.getLast? = some c → isspace c = false)

theorem trimmed_iff_all {s : Bytes} :
    Trimmed s ↔ (s.head?.all (fun c => !isspace c) && s.getLast?.all (fun c => !isspace c)) = true := by
  rw [Trimmed, Bool.and_eq_true, Option.all_eq_true, Option.all_eq_true]
  simp

instance decidableTrimmed (s : Bytes) : Decidable (Trimmed s) := decidable_of_iff' _ trimmed_iff_all

/-- Whitespace around a string is lost in trimming. -/
theorem trim_append {before after : Bytes} (hbefore : ∀ c ∈ before, isspace c = true)
    (hafter : ∀ c ∈ after, isspace c = true) (s : Bytes) :
    trim (before ++ s ++ after) = trim s := by
  have hnone : after.dropWhile isspace = [] := List.dropWhile_eq_nil_iff.mpr hafter
  rw [trim, trim, List.append_assoc, List.dropWhile_append_of_pos hbefore, List.dropWhile_append]
  by_cases hempty : (s.dropWhile isspace).isEmpty = true
  · rw [if_pos hempty, hnone, List.isEmpty_iff.mp hempty]
  · rw [if_neg hempty, List.reverse_append, List.dropWhile_append_of_pos]
    intro c hc
    exact hafter c (List.mem_reverse.mp hc)

theorem dropWhile_head {p : UInt8 → Bool} {s : Bytes} (h : ∀ c, s.head? = some c → p c = false) :
    s.dropWhile p = s := by
  cases s with
  | nil => rfl
  | cons c s => rw [List.dropWhile_cons_of_neg (by rw [h c rfl]; decide)]

theorem trim_of_trimmed {s : Bytes} (h : Trimmed s) : trim s = s := by
  have hreverse : s.reverse.dropWhile isspace = s.reverse := by
    apply dropWhile_head
    intro c hc
    rw [List.head?_reverse] at hc
    exact h.2 c hc
  rw [trim, dropWhile_head h.1, hreverse, List.reverse_reverse]

/-- Trimming leaves a string that begins with something else its first character. -/
theorem trim_cons {c : UInt8} (h : isspace c = false) (s : Bytes) : ∃ rest, trim (c :: s) = c :: rest := by
  have hlast : [c].dropWhile isspace = [c] := List.dropWhile_cons_of_neg (by simp [h])
  rw [trim, List.dropWhile_cons_of_neg (by simp [h]), List.reverse_cons, List.dropWhile_append]
  by_cases hempty : (s.reverse.dropWhile isspace).isEmpty = true
  · rw [if_pos hempty, hlast]
    exact ⟨[], rfl⟩
  · rw [if_neg hempty, List.reverse_append]
    exact ⟨_, rfl⟩

/-- A trimmed string behind one that begins and ends with something else. -/
theorem trimmed_append {front s : Bytes} (hne : front ≠ []) (hfront : Trimmed front)
    (hs : Trimmed s) : Trimmed (front ++ s) := by
  refine ⟨?_, ?_⟩
  · intro c hc
    rw [List.head?_append_of_ne_nil _ hne] at hc
    exact hfront.1 c hc
  · intro c hc
    rw [List.getLast?_append] at hc
    cases hlast : s.getLast? with
    | none =>
      rw [hlast, Option.none_or] at hc
      exact hfront.2 c hc
    | some d =>
      rw [hlast, Option.some_or] at hc
      exact hs.2 c (hlast.trans hc)

/-- Only the two ends count. -/
theorem trimmed_between {front back : Bytes} (hfront : front ≠ []) (hback : back ≠ [])
    (htrimmed : Trimmed front) (htrimmed' : Trimmed back) (mid : Bytes) :
    Trimmed (front ++ (mid ++ back)) := by
  refine ⟨?_, ?_⟩
  · intro c hc
    rw [List.head?_append_of_ne_nil _ hfront] at hc
    exact htrimmed.1 c hc
  · intro c hc
    rw [← List.append_assoc, List.getLast?_append_of_ne_nil _ hback] at hc
    exact htrimmed'.2 c hc

/-- A string without whitespace is trimmed. -/
theorem trimmed_of_forall {s : Bytes} (h : ∀ c ∈ s, isspace c = false) : Trimmed s :=
  ⟨fun c hc => h c (List.mem_of_mem_head? hc), fun c hc => h c (List.mem_of_mem_getLast? hc)⟩

/-- The reader takes a word and stops behind it. -/
theorem nextWord_word {w : Bytes} (h : IsWord w) {rest : Bytes}
    (hrest : ∀ c, rest.head? = some c → isspace c = true) : nextWord (w ++ rest) = (w, rest) := by
  obtain ⟨hne, hword⟩ := h
  have hstart : (w ++ rest).dropWhile isspace = w ++ rest := by
    apply dropWhile_head
    intro c hc
    rw [List.head?_append_of_ne_nil _ hne] at hc
    exact hword c (List.mem_of_mem_head? hc)
  have hall : ∀ c ∈ w, (!isspace c) = true := fun c hc => by rw [hword c hc]; rfl
  have htake : rest.takeWhile (!isspace ·) = [] := by
    cases rest with
    | nil => rfl
    | cons c rest => exact List.takeWhile_cons_of_neg (by simp [hrest c rfl])
  have hdrop : rest.dropWhile (!isspace ·) = rest :=
    dropWhile_head (fun c hc => by rw [hrest c hc]; rfl)
  rw [nextWord, hstart, List.takeWhile_append_of_pos hall, List.dropWhile_append_of_pos hall, htake,
    hdrop, List.append_nil]

theorem nextWord_space {c : UInt8} (h : isspace c = true) (s : Bytes) : nextWord (c :: s) = nextWord s := by
  rw [nextWord, List.dropWhile_cons_of_pos h, nextWord]

/-! ## Decimal numerals -/

theorem isDigitOf_ten {c : UInt8} (h : isdigit c = true) : isDigitOf 10 c = true := by
  simp only [isdigit, Bool.and_eq_true, decide_eq_true_eq, UInt8.le_iff_toNat_le] at h
  obtain ⟨hlo, hhi⟩ := h
  have hc : (48 ≤ c && c ≤ 57) = true := by
    simp only [Bool.and_eq_true, decide_eq_true_eq, UInt8.le_iff_toNat_le]
    exact ⟨hlo, hhi⟩
  have hsub : (c - 48).toNat = c.toNat - 48 :=
    UInt8.toNat_sub_of_le _ _ (by rw [UInt8.le_iff_toNat_le]; exact hlo)
  have h57 : (57 : UInt8).toNat = 57 := rfl
  simp only [isDigitOf, digitValue, hc, if_true, decide_eq_true_eq, hsub]
  omega

theorem not_isspace_of_isdigit {c : UInt8} (h : isdigit c = true) : isspace c = false := by
  simp only [isdigit, Bool.and_eq_true, decide_eq_true_eq, UInt8.le_iff_toNat_le] at h
  have h48 : (48 : UInt8).toNat = 48 := rfl
  have h13 : (13 : UInt8).toNat = 13 := rfl
  have hne : c ≠ 32 := by
    intro hc
    rw [hc] at h
    exact absurd h.1 (by decide)
  have hgt : ¬ c ≤ 13 := by rw [UInt8.le_iff_toNat_le]; omega
  simp [isspace, hne, hgt]

theorem not_sign_of_isdigit {c : UInt8} (h : isdigit c = true) : c ≠ 45 ∧ c ≠ 43 := by
  refine ⟨?_, ?_⟩ <;> intro hc <;> rw [hc] at h <;> exact absurd h (by decide)

/-- A decimal numeral is read to its end. -/
theorem readNumeral_digits {v : Bytes} (hne : v ≠ []) (hd : ∀ c ∈ v, isdigit c = true) :
    readNumeral 10 v = some
      { negative := false, magnitude := digitsValue 10 v, consumed := v.length } := by
  have hall : v.takeWhile (isDigitOf 10) = v := by
    apply List.takeWhile_eq_self_iff.mpr
    intro c hc
    exact isDigitOf_ten (hd c hc)
  obtain ⟨hblanks, hminus, hplus⟩ :
      v.takeWhile isspace = [] ∧ v.head? ≠ some 45 ∧ v.head? ≠ some 43 := by
    obtain ⟨c, cs, rfl⟩ := List.exists_cons_of_ne_nil hne
    have hc := hd c List.mem_cons_self
    simp [not_isspace_of_isdigit hc, not_sign_of_isdigit hc]
  unfold readNumeral
  simp [hblanks, hminus, hplus, resolveBase, hall, hne]

theorem stoi_digits {v : Bytes} (hne : v ≠ []) (hd : ∀ c ∈ v, isdigit c = true)
    (hsmall : digitsValue 10 v < 2 ^ 31) : stoi v = some (digitsValue 10 v : ℤ) := by
  rw [stoi, readNumeral_digits hne hd]
  apply if_pos
  show -2 ^ 31 ≤ (digitsValue 10 v : ℤ) ∧ (digitsValue 10 v : ℤ) < 2 ^ 31
  omega

theorem toDecimal_digit {d : ℕ} (h : d < 10) : toDecimal d = [UInt8.ofNat (48 + d)] := by
  have hchar : ∀ d < 10, UInt8.ofNat (Nat.digitChar d).toNat = UInt8.ofNat (48 + d) := by decide
  rw [toDecimal, Nat.toDigits_of_lt_base h, List.map_singleton, hchar d h]

/-- The last digit behind the others. -/
theorem toDecimal_of_ten_le {n : ℕ} (h : 10 ≤ n) :
    toDecimal n = toDecimal (n / 10) ++ [UInt8.ofNat (48 + n % 10)] := by
  have hlast := toDecimal_digit (Nat.mod_lt n (show 10 > 0 by decide))
  rw [← hlast]
  simp only [toDecimal]
  rw [Nat.toDigits_of_base_le (by decide) h, List.map_append,
    Nat.toDigits_of_lt_base (Nat.mod_lt n (by decide))]

/-- What is written is digits, and their value is what was written. -/
theorem toDecimal_spec (n : ℕ) : toDecimal n ≠ [] ∧ (∀ c ∈ toDecimal n, isdigit c = true) ∧
    digitsValue 10 (toDecimal n) = n := by
  have hdigit : ∀ d < 10, isdigit (UInt8.ofNat (48 + d)) = true ∧
      digitValue (UInt8.ofNat (48 + d)) = d := by decide
  induction n using Nat.strong_induction_on with
  | _ n ih =>
    by_cases hn : n < 10
    · obtain ⟨hd, hv⟩ := hdigit n hn
      rw [toDecimal_digit hn]
      refine ⟨List.cons_ne_nil _ _, ?_, ?_⟩
      · intro c hc
        rw [List.mem_singleton.mp hc]
        exact hd
      · rw [digitsValue, List.foldl_cons, List.foldl_nil, Nat.zero_mul, Nat.zero_add, hv]
    · obtain ⟨-, hall, hvalue⟩ := ih (n / 10) (by omega)
      obtain ⟨hd, hv⟩ := hdigit (n % 10) (Nat.mod_lt n (by decide))
      rw [toDecimal_of_ten_le (by omega)]
      refine ⟨by simp, ?_, ?_⟩
      · intro c hc
        obtain hc | hc := List.mem_append.mp hc
        · exact hall c hc
        · rw [List.mem_singleton.mp hc]
          exact hd
      · have hfold : digitsValue 10 (toDecimal (n / 10) ++ [UInt8.ofNat (48 + n % 10)]) =
            digitsValue 10 (toDecimal (n / 10)) * 10 + digitValue (UInt8.ofNat (48 + n % 10)) := by
          simp [digitsValue, List.foldl_append]
        rw [hfold, hvalue, hv]
        omega

theorem stoi_toDecimal {n : ℕ} (h : n < 2 ^ 31) : stoi (toDecimal n) = some (n : ℤ) := by
  obtain ⟨hne, hdigits, hvalue⟩ := toDecimal_spec n
  rw [stoi_digits hne hdigits (by rw [hvalue]; exact h), hvalue]

end Lib
