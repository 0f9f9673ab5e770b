import Mathlib.Data.List.Lex
import AirPlay2.Lib.OrdMap
import AirPlay2.Lib.Text

/- Reading one request out of the receive buffer (`parse_request` of
   `http_server.cpp`, which frames RTSP as well as HTTP). `size_t` and
   `unsigned long` are 64-bit. A `false` of the source is `ok none`, a request
   taken is `ok (some (request, rest))` with the bytes left in the buffer, and an
   exception is `error`. -/
namespace AirPlay2
open Lib

/-- The exceptions that can leave the modelled code. -/
inductive StdException where
  | lengthError
  | runtimeError (what : String)
  deriving DecidableEq

/-- The longest `std::string`. -/
def maxSize : ℕ := 2 ^ 63 - 1

/-- A byte string a `std::string` can hold. -/
structure StdString where
  bytes : Bytes
  size_le : bytes.length ≤ maxSize

structure HttpRequest where
  method : Bytes := []
  target : Bytes := []
  protocol : Bytes := ascii "HTTP/1.1"
  headers : OrdMap Bytes Bytes := .empty
  body : Bytes := []
  deriving DecidableEq

structure HttpResponse where
  status : ℤ := 200
  reason : Bytes := ascii "OK"
  protocol : Bytes := ascii "HTTP/1.1"
  contentType : Bytes := ascii "text/plain"
  headers : OrdMap Bytes Bytes := .empty
  body : Bytes := []
  deriving DecidableEq

def crlf : Bytes := [13, 10]

def blankLine : Bytes := [13, 10, 13, 10]

/-! ## Headers by name -/

/-- The names agree up to the case of their letters. -/
def sameName (a b : Bytes) : Bool := a.map tolower == b.map tolower

/-- The first header, in key order, with the name. -/
def headerField (headers : OrdMap Bytes Bytes) (name : Bytes) : Option Bytes :=
  (headers.entries.find? (fun item => sameName item.1 name)).map Prod.snd

/-- `header_value`: empty where there is no such header. -/
def headerValue (headers : OrdMap Bytes Bytes) (name : Bytes) : Bytes :=
  (headerField headers name).getD []

/-! ## The head of a request -/

/-- `first_stream >> method >> target >> protocol`. -/
def requestLine (line : Bytes) : Option HttpRequest :=
  let (method, line) := nextWord line
  let (target, line) := nextWord line
  let (protocol, _) := nextWord line
  if method = [] ∨ target = [] ∨ protocol = [] then none
  else some { method := method, target := target, protocol := protocol }

/-- The header line at `lineStart`: where it ends, its name and its value. -/
def headerLine (input : Bytes) (headerEnd lineStart : ℕ) : Option (ℕ × Bytes × Bytes) := do
  let lineEnd ← find input crlf lineStart
  if headerEnd < lineEnd then none
  else
    let colon ← find input [58] lineStart
    if lineEnd < colon then none
    else some (lineEnd, trim (substr input lineStart (colon - lineStart)),
      trim (substr input (colon + 1) (lineEnd - colon - 1)))

/-- The header lines from `lineStart` up to the blank line. Every line moves the
    start by two at least, so `headerEnd + 1` is fuel enough. -/
def headerLoop (input : Bytes) (headerEnd : ℕ) :
    ℕ → ℕ → OrdMap Bytes Bytes → Option (OrdMap Bytes Bytes)
  | 0, _, _ => none
  | fuel + 1, lineStart, headers =>
    if headerEnd ≤ lineStart then some headers
    else
      match headerLine input headerEnd lineStart with
      | none => none
      | some (lineEnd, name, value) =>
        headerLoop input headerEnd fuel (lineEnd + 2) (headers.assign name value)

/-- The part of `parse_request` before the body: where the blank line stands, and
    the request line and headers before it. -/
def parseHead (input : Bytes) : Option (ℕ × HttpRequest) := do
  let headerEnd ← find input blankLine 0
  let firstEnd ← find input crlf 0
  if headerEnd < firstEnd then none
  else
    let request ← requestLine (input.take firstEnd)
    let headers ← headerLoop input headerEnd (headerEnd + 1) (firstEnd + 2) .empty
    some (headerEnd, { request with headers := headers })

/-! ## The body -/

/-- The name `parse_request` looks the length up under. -/
def contentLengthName : Bytes := ascii "Content-Length"

/-- The length of the body; `none` where `std::stoul` throws. -/
def contentLength (headers : OrdMap Bytes Bytes) : Option ℕ :=
  let length := headerValue headers contentLengthName
  if length = [] then some 0 else (stoul 10 length).map Prod.fst

/-- `header_end + 4 + content_length` in `size_t`. -/
def totalSize (headerEnd contentLength : ℕ) : ℕ := (headerEnd + 4 + contentLength) % 2 ^ 64

def parseRequest (input : Bytes) : Except StdException (Option (HttpRequest × Bytes)) :=
  match parseHead input with
  | none => .ok none
  | some (headerEnd, request) =>
    match contentLength request.headers with
    | none => .ok none
    | some length =>
      if input.length < totalSize headerEnd length then .ok none
      -- `request.body.assign` of more bytes than a string can hold
      else if maxSize < length then .error .lengthError
      else .ok (some ({ request with body := (input.drop (headerEnd + 4)).take length },
        input.drop (totalSize headerEnd length)))

/-! ## Where lines end -/

theorem crlf_prefix_of_blankLine {s : Bytes} (h : blankLine <+: s) : crlf <+: s :=
  (show crlf <+: blankLine from ⟨[13, 10], rfl⟩).trans h

/-- A line that starts before the blank line ends there at the latest. -/
theorem find_crlf_le {input : Bytes} {headerEnd pos : ℕ}
    (h : find input blankLine 0 = some headerEnd) (hpos : pos ≤ headerEnd) :
    ∃ lineEnd, find input crlf pos = some lineEnd ∧ pos ≤ lineEnd ∧ lineEnd ≤ headerEnd := by
  obtain ⟨-, hle, hblank, -⟩ := (find_eq_some (Nat.zero_le _)).mp h
  have hcr := crlf_prefix_of_blankLine hblank
  cases hf : find input crlf pos with
  | none => exact absurd hcr ((find_eq_none (hpos.trans hle)).mp hf headerEnd hpos hle)
  | some lineEnd =>
    obtain ⟨hp, -, -, hmin⟩ := (find_eq_some (hpos.trans hle)).mp hf
    refine ⟨lineEnd, rfl, hp, ?_⟩
    by_contra hlt
    exact hmin headerEnd hpos (not_le.mp hlt) hcr

theorem blankLine_fits {input : Bytes} {headerEnd : ℕ}
    (h : find input blankLine 0 = some headerEnd) : headerEnd + 4 ≤ input.length :=
  find_fits (Nat.zero_le _) h

/-! ## More bytes behind a complete head change nothing in it -/

section Append

variable {input : Bytes} {headerEnd : ℕ} (t : Bytes)

/-- A colon found only after more bytes arrived is behind the old ones. -/
theorem find_append_of_none {s pat : Bytes} {pos i : ℕ} (hpos : pos ≤ s.length)
    (h : find s pat pos = none) (hi : find (s ++ t) pat pos = some i) :
    s.length < i + pat.length := by
  by_contra hle
  have hpos' : pos ≤ (s ++ t).length := by rw [List.length_append]; omega
  obtain ⟨hp, -, hpat, -⟩ := (find_eq_some hpos').mp hi
  rw [prefix_drop_append (not_lt.mp hle)] at hpat
  exact (find_eq_none hpos).mp h i hp (by omega) hpat

theorem substr_append {s : Bytes} {pos len : ℕ} (h : pos + len ≤ s.length) :
    substr (s ++ t) pos len = substr s pos len := by
  unfold substr
  rw [List.drop_append_of_le_length (by omega), List.take_append_of_le_length]
  rw [List.length_drop]; omega

theorem headerLine_append (h : find input blankLine 0 = some headerEnd) {lineStart : ℕ}
    (hlt : lineStart < headerEnd) :
    headerLine (input ++ t) headerEnd lineStart = headerLine input headerEnd lineStart := by
  obtain ⟨lineEnd, hle, -, hend⟩ := find_crlf_le h hlt.le
  have hfits := blankLine_fits h
  have hpos : lineStart ≤ input.length := by omega
  unfold headerLine
  simp only [find_append t hpos hle, hle, if_neg (not_lt.mpr hend), Option.bind_eq_bind,
    Option.bind_some]
  cases hc : find input [58] lineStart with
  | none =>
    -- a colon in the new bytes is behind the line, which is refused as before
    cases hc' : find (input ++ t) [58] lineStart with
    | none => rfl
    | some colon =>
      have hfar := find_append_of_none t hpos hc hc'
      simp only [List.length_singleton] at hfar
      apply if_pos
      omega
  | some colon =>
    obtain ⟨hlc, -⟩ := (find_eq_some hpos).mp hc
    simp only [find_append t hpos hc, Option.bind_some]
    split
    · rfl
    · rw [substr_append t (by omega), substr_append t (by omega)]

theorem headerLoop_append (h : find input blankLine 0 = some headerEnd) (fuel lineStart : ℕ)
    (headers : OrdMap Bytes Bytes) :
    headerLoop (input ++ t) headerEnd fuel lineStart headers
      = headerLoop input headerEnd fuel lineStart headers := by
  induction fuel generalizing lineStart headers with
  | zero => rfl
  | succ fuel ih =>
    simp only [headerLoop]
    split
    · rfl
    · rename_i hlt
      rw [headerLine_append t h (not_le.mp hlt)]
      cases headerLine input headerEnd lineStart with
      | none => rfl
      | some line =>
        apply ih

/-- Once the blank line is there, the head is what it is. -/
theorem parseHead_append (h : find input blankLine 0 = some headerEnd) :
    parseHead (input ++ t) = parseHead input := by
  obtain ⟨firstEnd, hf, -, hle⟩ := find_crlf_le h (Nat.zero_le _)
  have hfits := blankLine_fits h
  unfold parseHead
  simp only [find_append t (Nat.zero_le _) h, find_append t (Nat.zero_le _) hf, h, hf,
    Option.bind_eq_bind, Option.bind_some, headerLoop_append t h,
    List.take_append_of_le_length (show firstEnd ≤ input.length by omega)]

end Append

/-! ## What a parsed head says -/

theorem parseHead_eq_some {input : Bytes} {headerEnd : ℕ} {request : HttpRequest} :
    parseHead input = some (headerEnd, request) ↔
      find input blankLine 0 = some headerEnd ∧
        ∃ firstEnd, find input crlf 0 = some firstEnd ∧
          ∃ line, requestLine (input.take firstEnd) = some line ∧
            ∃ headers, headerLoop input headerEnd (headerEnd + 1) (firstEnd + 2) .empty
                = some headers ∧ request = { line with headers := headers } := by
  unfold parseHead
  simp only [Option.bind_eq_bind, Option.bind_eq_some_iff]
  refine ⟨?_, ?_⟩
  · intro hread
    obtain ⟨e, he, firstEnd, hf, h⟩ := hread
    split at h
    · simp at h
    · simp only [Option.bind_eq_some_iff, Option.some.injEq, Prod.mk.injEq] at h
      obtain ⟨line, hl, headers, hh, rfl, rfl⟩ := h
      exact ⟨he, firstEnd, hf, line, hl, headers, hh, rfl⟩
  · intro hread
    obtain ⟨he, firstEnd, hf, line, hl, headers, hh, rfl⟩ := hread
    obtain ⟨e, hf', -, hle⟩ := find_crlf_le he (Nat.zero_le _)
    obtain rfl : firstEnd = e := Option.some.inj (hf.symm.trans hf')
    refine ⟨headerEnd, he, firstEnd, hf, ?_⟩
    rw [if_neg (not_lt.mpr hle)]
    simp [hl, hh]

/-! ## The outcomes of `parse_request` -/

/-- With a buffer and a body that fit in memory the sum does not wrap. -/
theorem totalSize_eq {headerEnd length size : ℕ} (hfit : headerEnd + 4 ≤ size)
    (hsize : size ≤ maxSize) (hlen : length ≤ maxSize) :
    totalSize headerEnd length = headerEnd + 4 + length := by
  unfold totalSize
  unfold maxSize at hsize hlen
  exact Nat.mod_eq_of_lt (by omega)

/-- A request taken, sizes as the machine computes them. -/
theorem parseRequest_eq_some_wrapped {input rest : Bytes} {taken : HttpRequest} :
    parseRequest input = .ok (some (taken, rest)) ↔
      ∃ headerEnd request length, parseHead input = some (headerEnd, request) ∧
        contentLength request.headers = some length ∧
        totalSize headerEnd length ≤ input.length ∧ length ≤ maxSize ∧
        taken = { request with body := (input.drop (headerEnd + 4)).take length } ∧
        rest = input.drop (totalSize headerEnd length) := by
  unfold parseRequest
  refine ⟨?_, ?_⟩
  · intro h
    split at h
    · simp at h
    · rename_i headerEnd request hh
      split at h
      · simp at h
      · rename_i length hl
        split at h
        · simp at h
        · split at h
          · simp at h
          · rename_i hshort hmax
            simp only [Except.ok.injEq, Option.some.injEq, Prod.mk.injEq] at h
            exact ⟨headerEnd, request, length, hh, hl, not_lt.mp hshort, not_lt.mp hmax,
              h.1.symm, h.2.symm⟩
  · intro htaken
    obtain ⟨headerEnd, request, length, hh, hl, hfit, hmax, rfl, rfl⟩ := htaken
    simp only [hh, hl, if_neg (not_lt.mpr hfit), if_neg (not_lt.mpr hmax)]

/-- A request taken from a buffer that fits in memory: its head and length were read
    and its body is there. -/
theorem parseRequest_eq_some {input rest : Bytes} {taken : HttpRequest}
    (hsize : input.length ≤ maxSize) :
    parseRequest input = .ok (some (taken, rest)) ↔
      ∃ headerEnd request length, parseHead input = some (headerEnd, request) ∧
        contentLength request.headers = some length ∧ headerEnd + 4 + length ≤ input.length ∧
        taken = { request with body := (input.drop (headerEnd + 4)).take length } ∧
        rest = input.drop (headerEnd + 4 + length) := by
  rw [parseRequest_eq_some_wrapped]
  refine ⟨?_, ?_⟩
  · intro htaken
    obtain ⟨headerEnd, request, length, hh, hl, hfit, hmax, hbody, hrest⟩ := htaken
    have ht := totalSize_eq (blankLine_fits (parseHead_eq_some.mp hh).1) hsize hmax
    rw [ht] at hfit hrest
    exact ⟨headerEnd, request, length, hh, hl, hfit, hbody, hrest⟩
  · intro htaken
    obtain ⟨headerEnd, request, length, hh, hl, hfit, hbody, hrest⟩ := htaken
    have hmax : length ≤ maxSize := by omega
    have ht : totalSize headerEnd length = headerEnd + 4 + length :=
      totalSize_eq (by omega) hsize hmax
    exact ⟨headerEnd, request, length, hh, hl, ht ▸ hfit, hmax, hbody, ht ▸ hrest⟩

/-- An exception: the wrapped sum fits the buffer and the length no string. -/
theorem parseRequest_eq_error {input : Bytes} {e : StdException} :
    parseRequest input = .error e ↔
      e = .lengthError ∧ ∃ headerEnd request length,
        parseHead input = some (headerEnd, request) ∧
        contentLength request.headers = some length ∧
        totalSize headerEnd length ≤ input.length ∧ maxSize < length := by
  unfold parseRequest
  refine ⟨?_, ?_⟩
  · intro h
    split at h
    · simp at h
    · rename_i headerEnd request hh
      split at h
      · simp at h
      · rename_i length hl
        split at h
        · simp at h
        · rename_i hshort
          split at h
          · rename_i hmax
            simp only [Except.error.injEq] at h
            exact ⟨h.symm, headerEnd, request, length, hh, hl, not_lt.mp hshort, hmax⟩
          · simp at h
  · intro hthrow
    obtain ⟨rfl, headerEnd, request, length, hh, hl, hfit, hmax⟩ := hthrow
    simp only [hh, hl, if_neg (not_lt.mpr hfit), if_pos hmax]

/-- A request once taken is taken from every longer buffer, and what was appended
    is left behind it. -/
theorem parseRequest_append_some {input rest t : Bytes} {taken : HttpRequest}
    (hsize : (input ++ t).length ≤ maxSize)
    (h : parseRequest input = .ok (some (taken, rest))) :
    parseRequest (input ++ t) = .ok (some (taken, rest ++ t)) := by
  have hle : input.length ≤ maxSize := by rw [List.length_append] at hsize; omega
  obtain ⟨headerEnd, request, length, hh, hl, hfit, rfl, rfl⟩ := (parseRequest_eq_some hle).mp h
  have hblank := (parseHead_eq_some.mp hh).1
  have hfit' : headerEnd + 4 + length ≤ (input ++ t).length := by
    rw [List.length_append]; omega
  apply (parseRequest_eq_some hsize).mpr
  refine ⟨headerEnd, request, length, (parseHead_append t hblank).trans hh, hl, hfit', ?_, ?_⟩
  · have hbody : substr (input ++ t) (headerEnd + 4) length = substr input (headerEnd + 4) length :=
      substr_append t hfit
    unfold substr at hbody
    rw [hbody]
  · rw [List.drop_append_of_le_length hfit]

/-- A buffer that throws throws however much longer it gets. -/
theorem parseRequest_append_error {input t : Bytes} {e : StdException}
    (h : parseRequest input = .error e) : parseRequest (input ++ t) = .error e := by
  obtain ⟨rfl, headerEnd, request, length, hh, hl, hfit, hmax⟩ := parseRequest_eq_error.mp h
  have hblank := (parseHead_eq_some.mp hh).1
  have hfit' : totalSize headerEnd length ≤ (input ++ t).length := by
    rw [List.length_append]; omega
  apply parseRequest_eq_error.mpr
  exact ⟨rfl, headerEnd, request, length, (parseHead_append t hblank).trans hh, hl, hfit', hmax⟩

/-- A request taken makes the buffer shorter. -/
theorem parseRequest_shrinks {input rest : Bytes} {taken : HttpRequest}
    (hsize : input.length ≤ maxSize)
    (h : parseRequest input = .ok (some (taken, rest))) : rest.length < input.length := by
  obtain ⟨headerEnd, request, length, -, -, hfit, -, rfl⟩ := (parseRequest_eq_some hsize).mp h
  rw [List.length_drop]
  omega

end AirPlay2
