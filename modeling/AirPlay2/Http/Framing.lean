import AirPlay2.Http.Request

/- Exact framing: what `parse_request` has to take and what it does. The length
   goes through `std::stoul`, which accepts a sign, a plus and trailing text and
   wraps negatives, and an empty value counts as no header, so a value need not be
   a decimal number to be used; and the sum with the header's length is not guarded,
   so a length near `2 ^ 64` wraps past the size check and throws. -/
namespace AirPlay2
open Lib

/-- A plain decimal numeral: digits and nothing else. -/
def isDecimal (v : Bytes) : Prop := v ≠ [] ∧ ∀ c ∈ v, isdigit c = true

instance (v : Bytes) : Decidable (isDecimal v) := inferInstanceAs (Decidable (_ ∧ _))

/-- The length the headers give: 0 without the header, else the value of a plain
    decimal numeral. -/
def DeclaresLength (headers : OrdMap Bytes Bytes) (n : ℕ) : Prop :=
  match headerField headers contentLengthName with
  | none => n = 0
  | some v => isDecimal v ∧ n = digitsValue 10 v

/-- Framing is exact for this buffer: nothing is thrown, and a request taken has
    the body and leaves the rest that its declared length says. -/
def FramedExactly (input : Bytes) : Prop :=
  match parseRequest input with
  | .error _ => False
  | .ok none => True
  | .ok (some (taken, rest)) =>
    ∃ headerEnd n, find input blankLine 0 = some headerEnd ∧ DeclaresLength taken.headers n ∧
      headerEnd + 4 + n ≤ input.length ∧ taken.body = substr input (headerEnd + 4) n ∧
      rest = input.drop (headerEnd + 4 + n)

/-- The length value of a complete head cannot mislead the framing: it is a plain
    decimal numeral that the header's length does not carry past `2 ^ 64`, or it is
    some other text that `std::stoul` refuses, or whose wrapped sum the buffer does
    not reach. -/
def LengthSound (input : Bytes) : Prop :=
  ∀ headerEnd request v, parseHead input = some (headerEnd, request) →
    headerField request.headers contentLengthName = some v →
    (isDecimal v ∧ headerEnd + 4 + digitsValue 10 v < 2 ^ 64) ∨
      (v ≠ [] ∧ ∀ n used, stoul 10 v = some (n, used) → input.length < totalSize headerEnd n)

/-! ## `std::stoul` on a decimal numeral -/

/-- A decimal numeral is read to its end. -/
theorem readNumeral_decimal {v : Bytes} (h : isDecimal v) :
    readNumeral 10 v = some
      { negative := false, magnitude := digitsValue 10 v, consumed := v.length } :=
  readNumeral_digits h.1 h.2

theorem stoul_decimal {v : Bytes} (h : isDecimal v) :
    stoul 10 v =
      if 2 ^ 64 ≤ digitsValue 10 v then none else some (digitsValue 10 v, v.length) := by
  simp [stoul, readNumeral_decimal h]

/-! ## Framing, outcome by outcome -/

theorem contentLength_of_field {headers : OrdMap Bytes Bytes} {v : Bytes}
    (h : headerField headers contentLengthName = some v) :
    contentLength headers = if v = [] then some 0 else (stoul 10 v).map Prod.fst := by
  simp [contentLength, headerValue, h]

theorem contentLength_of_no_field {headers : OrdMap Bytes Bytes}
    (h : headerField headers contentLengthName = none) : contentLength headers = some 0 := by
  simp [contentLength, headerValue, h]

section Outcomes

variable {input : Bytes} {headerEnd length : ℕ} {request : HttpRequest}

/-- A request taken is framed exactly if its headers declare the length it was
    taken with. -/
theorem framedExactly_taken (hsize : input.length ≤ maxSize)
    (hh : parseHead input = some (headerEnd, request))
    (hl : contentLength request.headers = some length)
    (hfit : headerEnd + 4 + length ≤ input.length) :
    FramedExactly input ↔ DeclaresLength request.headers length := by
  have htaken := (parseRequest_eq_some hsize).mpr ⟨_, _, _, hh, hl, hfit, rfl, rfl⟩
  have hblank := (parseHead_eq_some.mp hh).1
  unfold FramedExactly
  simp only [htaken]
  refine ⟨?_, ?_⟩
  · intro htaken
    obtain ⟨e, n, he, hn, hle, -, hrest⟩ := htaken
    obtain rfl : headerEnd = e := Option.some.inj (hblank.symm.trans he)
    have hlen := congrArg List.length hrest
    simp only [List.length_drop] at hlen
    obtain rfl : length = n := by omega
    exact hn
  · intro hn
    exact ⟨headerEnd, length, hblank, hn, hfit, rfl, rfl⟩

/-- A wrapped sum the buffer does not reach: not taken. -/
theorem framedExactly_short (hh : parseHead input = some (headerEnd, request))
    (hl : contentLength request.headers = some length)
    (hshort : input.length < totalSize headerEnd length) : FramedExactly input := by
  simp [FramedExactly, parseRequest, hh, hl, hshort]

/-- A length past every string whose wrapped sum the buffer reaches: thrown. -/
theorem not_framedExactly_throw (hh : parseHead input = some (headerEnd, request))
    (hl : contentLength request.headers = some length)
    (hfit : totalSize headerEnd length ≤ input.length) (hmax : maxSize < length) :
    ¬ FramedExactly input := by
  have hthrow := parseRequest_eq_error.mpr ⟨rfl, _, _, _, hh, hl, hfit, hmax⟩
  simp [FramedExactly, hthrow]

/-- With a length value that is not empty. -/
theorem framedExactly_value_iff (hsize : input.length ≤ maxSize)
    (hh : parseHead input = some (headerEnd, request)) {v : Bytes}
    (hv : headerField request.headers contentLengthName = some v) (hne : v ≠ []) :
    FramedExactly input ↔
      (isDecimal v ∧ headerEnd + 4 + digitsValue 10 v < 2 ^ 64) ∨
        ∀ n used, stoul 10 v = some (n, used) → input.length < totalSize headerEnd n := by
  have hcl := contentLength_of_field hv
  rw [if_neg hne] at hcl
  have hhead := blankLine_fits (parseHead_eq_some.mp hh).1
  cases hs : stoul 10 v with
  | none =>
    rw [hs] at hcl
    have : FramedExactly input := by simp [FramedExactly, parseRequest, hh, hcl]
    simp [this]
  | some r =>
    obtain ⟨n, used⟩ := r
    rw [hs] at hcl
    have hcl : contentLength request.headers = some n := hcl
    have hone : (∀ m k, some (n, used) = some (m, k) → input.length < totalSize headerEnd m)
        ↔ input.length < totalSize headerEnd n := by
      simp only [Option.some.injEq, Prod.mk.injEq]
      exact ⟨fun h => h n used ⟨rfl, rfl⟩, fun h m k hm => hm.1 ▸ h⟩
    rw [hone]
    obtain hshort | hreach := Nat.lt_or_ge input.length (totalSize headerEnd n)
    · simp [framedExactly_short hh hcl hshort, hshort]
    · rw [or_iff_left (not_lt.mpr hreach)]
      -- The size check passes: the length is one a string can have, or it throws.
      obtain hmax | hmax := Nat.lt_or_ge maxSize n
      · -- the sum wrapped, so a decimal value is past the bound as well
        apply iff_of_false (not_framedExactly_throw hh hcl hreach hmax)
        intro hvalue
        obtain ⟨hdec, hlt⟩ := hvalue
        rw [stoul_decimal hdec, if_neg (by omega)] at hs
        simp only [Option.some.injEq, Prod.mk.injEq] at hs
        rw [hs.1] at hlt
        rw [totalSize, Nat.mod_eq_of_lt hlt] at hreach
        omega
      · have htotal := totalSize_eq hhead hsize hmax
        rw [htotal] at hreach
        rw [framedExactly_taken hsize hh hcl hreach]
        simp only [DeclaresLength, hv]
        refine ⟨?_, ?_⟩
        · intro hvalue
          obtain ⟨hdec, rfl⟩ := hvalue
          unfold maxSize at hsize
          exact ⟨hdec, by omega⟩
        · intro hvalue
          obtain ⟨hdec, hlt⟩ := hvalue
          rw [stoul_decimal hdec, if_neg (by omega)] at hs
          simp only [Option.some.injEq, Prod.mk.injEq] at hs
          exact ⟨hdec, hs.1.symm⟩

end Outcomes

/-- **When the framing is exact.** For every buffer, a request is taken only with
    the body its decimal length declares and nothing is thrown if and only if the
    length value of a complete head is sound. -/
theorem framedExactly_iff (input : StdString) :
    FramedExactly input.bytes ↔ LengthSound input.bytes := by
  cases hh : parseHead input.bytes with
  | none => simp [FramedExactly, LengthSound, parseRequest, hh]
  | some p =>
    obtain ⟨headerEnd, request⟩ := p
    have hfit := blankLine_fits (parseHead_eq_some.mp hh).1
    have hsound : LengthSound input.bytes ↔
        ∀ v, headerField request.headers contentLengthName = some v →
          (isDecimal v ∧ headerEnd + 4 + digitsValue 10 v < 2 ^ 64) ∨
            (v ≠ [] ∧ ∀ n used, stoul 10 v = some (n, used) →
              input.bytes.length < totalSize headerEnd n) := by
      simp only [LengthSound, hh, Option.some.injEq, Prod.mk.injEq]
      refine ⟨?_, ?_⟩
      · intro h v hv
        exact h _ _ v ⟨rfl, rfl⟩ hv
      · intro h e r v he hv
        obtain ⟨rfl, rfl⟩ := he
        exact h v hv
    rw [hsound]
    cases hv : headerField request.headers contentLengthName with
    | none =>
      have hexact := (framedExactly_taken input.size_le hh (contentLength_of_no_field hv)
        hfit).mpr (by simp [DeclaresLength, hv])
      simp [hexact]
    | some v =>
      simp only [Option.some.injEq, forall_eq']
      by_cases hne : v = []
      · -- an empty value is used as a length of zero, which it does not declare
        subst hne
        have hcl := contentLength_of_field hv
        rw [if_pos rfl] at hcl
        rw [framedExactly_taken input.size_le hh hcl hfit]
        simp [DeclaresLength, hv, isDecimal]
      · rw [framedExactly_value_iff input.size_le hh hv hne]
        simp [hne]

/-- A request with a length of minus one. -/
def minusOne : Bytes := ascii "GET / HTTP/1.1\r\nContent-Length: -1\r\n\r\n"

/-- It is not left alone: the wrapped length throws. -/
theorem minusOne_not_framedExactly :
    parseRequest minusOne = .error .lengthError ∧ ¬ FramedExactly minusOne := by
  have h : parseRequest minusOne = .error .lengthError := by decide +kernel
  exact ⟨h, by simp [FramedExactly, h]⟩

end AirPlay2
