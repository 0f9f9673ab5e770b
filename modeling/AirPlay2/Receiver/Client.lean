import AirPlay2.Http.Wire
import AirPlay2.Receiver.Framing

/- The other end of a connection: a client that reads the responses off the stream, each up to
   its blank line and as many bytes after it as its length headers say, which have to agree. A
   response whose parts keep to their lines (`Readable`) is read back as it was written, whatever
   follows it (`readAnswer_responseBytes`), and so is a stream of them
   (`readAnswers_responses`). -/
namespace AirPlay2
open Lib WireRequest

/-! ## The reader -/

/-- A response as a client reads it, its headers in order. -/
structure Answer where
  protocol : Bytes
  status : Bytes
  reason : Bytes
  headers : List (Bytes × Bytes)
  body : Bytes
  deriving DecidableEq

/-- The text up to the next CRLF, and what follows it. -/
def readLine (input : Bytes) : Option (Bytes × Bytes) :=
  (find input crlf 0).map fun i => (input.take i, input.drop (i + 2))

/-- Header lines up to an empty one. -/
def readHeaders : ℕ → Bytes → Option (List (Bytes × Bytes) × Bytes)
  | 0, _ => none
  | fuel + 1, input =>
    match readLine input with
    | none => none
    | some (line, rest) =>
      if line = [] then some ([], rest)
      else
        match find line [58] 0 with
        | none => none
        | some colon =>
          (readHeaders fuel rest).map fun r =>
            ((line.take colon, trim (line.drop (colon + 1))) :: r.1, r.2)

/-- The length the headers give, if there is one and all that are there agree. -/
def agreedLength (headers : List (Bytes × Bytes)) : Option ℕ :=
  match headers.filter (fun h => sameName h.1 contentLengthName) with
  | [] => none
  | h :: hs =>
    if h.2 ≠ [] ∧ h.2.all isdigit = true ∧ ∀ h' ∈ hs, h'.2 = h.2 then some (digitsValue 10 h.2)
    else none

/-- One response, and what follows it. -/
def readAnswer (input : Bytes) : Option (Answer × Bytes) := do
  let (first, rest) ← readLine input
  let (protocol, first) := nextWord first
  let (status, first) := nextWord first
  let (headers, rest) ← readHeaders (rest.length + 1) rest
  let length ← agreedLength headers
  if rest.length < length then none
  else some ({
      protocol := protocol
      status := status
      reason := first.drop 1
      headers := headers
      body := rest.take length }, rest.drop length)

/-- Responses until there is nothing left. -/
def readAnswers : ℕ → Bytes → Option (List Answer)
  | 0, _ => none
  | fuel + 1, input =>
    if input = [] then some []
    else
      match readAnswer input with
      | none => none
      | some (answer, rest) => (readAnswers fuel rest).map (answer :: ·)

/-! ## What is written -/

/-- A header that is read back: its name and its value are on one line and need no trimming, the
    name has no colon, and a length is that of the body. -/
structure ReadableHeader (length : ℕ) (h : Bytes × Bytes) : Prop where
  name : OneLine h.1 ∧ 58 ∉ h.1
  value : OneLine h.2 ∧ Trimmed h.2
  length : sameName h.1 contentLengthName = true → h.2 = toDecimal length

/-- What a response must be like to be read back. -/
structure Readable (response : HttpResponse) : Prop where
  protocol : IsWord response.protocol
  reason : OneLine response.reason
  headers : ∀ h ∈ writtenHeaders response, ReadableHeader response.body.length h

/-- The response as a client reads it. -/
def Answer.of (response : HttpResponse) : Answer :=
  { protocol := response.protocol
    status := statusText response.status
    reason := response.reason
    headers := writtenHeaders response
    body := response.body }

/-! ## Reading it back -/

theorem readLine_line {line : Bytes} (h : OneLine line) (t : Bytes) :
    readLine (line ++ (crlf ++ t)) = some (line, t) := by
  have hfind := find_crlf_line [] h t
  rw [List.nil_append, List.length_nil, Nat.zero_add] at hfind
  rw [readLine, hfind, Option.map_some, List.take_left]
  have hdrop : (line ++ (crlf ++ t)).drop (line.length + 2) = t := by
    rw [← List.append_assoc, show line.length + 2 = (line ++ crlf).length by simp [crlf],
      List.drop_left]
  rw [hdrop]

/-- One line, as a check. -/
theorem oneLine_iff_all {s : Bytes} : OneLine s ↔ s.all (fun c => c != 13 && c != 10) = true := by
  simp [OneLine]

theorem oneLine_append {a b : Bytes} (ha : OneLine a) (hb : OneLine b) : OneLine (a ++ b) := by
  intro c hc
  obtain hc | hc := List.mem_append.mp hc
  · exact ha c hc
  · exact hb c hc

theorem readHeaders_lines {length : ℕ} {hs : List (Bytes × Bytes)}
    (hall : ∀ h ∈ hs, ReadableHeader length h) (t : Bytes) {fuel : ℕ} (hfuel : hs.length < fuel) :
    readHeaders fuel (textLines (hs.map headerText) ++ (crlf ++ t)) = some (hs, t) := by
  induction hs generalizing fuel with
  | nil =>
    obtain ⟨fuel, rfl⟩ := Nat.exists_eq_succ_of_ne_zero (Nat.ne_of_gt hfuel)
    have hnil : OneLine [] := nofun
    have hend : readLine (crlf ++ t) = some ([], t) := readLine_line hnil t
    show readHeaders (fuel + 1) (crlf ++ t) = _
    rw [readHeaders, hend]
    rfl
  | cons h hs ih =>
    obtain ⟨fuel, rfl⟩ := Nat.exists_eq_succ_of_ne_zero (Nat.ne_of_gt (Nat.zero_lt_of_lt hfuel))
    obtain ⟨⟨hname, hcolon⟩, ⟨hvalue, htrimmed⟩, -⟩ := hall h List.mem_cons_self
    have htext : headerText h = h.1 ++ 58 :: 32 :: h.2 := by
      rw [headerText, show ascii ": " = [58, 32] by decide]
      simp
    have hline : OneLine (headerText h) := by
      rw [headerText]
      have hseparator : OneLine (ascii ": ") := oneLine_iff_all.mpr (by decide)
      exact oneLine_append (oneLine_append hname hseparator) hvalue
    -- the empty line that ends the headers is none of them
    have hne : headerText h ≠ [] := by
      rw [htext]
      simp
    have hinput : textLines ((h :: hs).map headerText) ++ (crlf ++ t) =
        headerText h ++ (crlf ++ (textLines (hs.map headerText) ++ (crlf ++ t))) := by
      simp [textLines, List.append_assoc]
    have hfind : find (headerText h) [58] 0 = some h.1.length := by
      rw [htext, find_single_append hcolon, find_single_cons]
      rfl
    have hread : ((headerText h).take h.1.length, trim ((headerText h).drop (h.1.length + 1))) = h := by
      rw [htext, List.take_left, show h.1 ++ 58 :: 32 :: h.2 = (h.1 ++ [58]) ++ 32 :: h.2 by simp,
        show h.1.length + 1 = (h.1 ++ [58]).length by simp, List.drop_left, trim_blank htrimmed]
    have hlt : hs.length < fuel := by
      rw [List.length_cons] at hfuel
      omega
    have hrest := ih (fun k hk => hall k (List.mem_cons_of_mem h hk)) hlt
    rw [hinput, readHeaders, readLine_line hline]
    dsimp only
    rw [if_neg hne, hfind]
    dsimp only
    rw [hrest, Option.map_some, hread]

theorem isWord_statusText (status : ℤ) : IsWord (statusText status) := by
  obtain ⟨hne, hdigits, -⟩ := toDecimal_spec status.natAbs
  unfold statusText
  split
  · refine ⟨List.cons_ne_nil _ _, ?_⟩
    intro c hc
    obtain rfl | hc := List.mem_cons.mp hc
    · decide
    · exact not_isspace_of_isdigit (hdigits c hc)
  · exact ⟨hne, fun c hc => not_isspace_of_isdigit (hdigits c hc)⟩

/-- The server writes the length first, and what the handler writes agrees with it. -/
theorem agreedLength_writtenHeaders {response : HttpResponse} (h : Readable response) :
    agreedLength (writtenHeaders response) = some response.body.length := by
  obtain ⟨hne, hdigits, hvalue⟩ := toDecimal_spec response.body.length
  have hall : ∀ header ∈ (writtenHeaders response).filter (fun h => sameName h.1 contentLengthName),
      header.2 = toDecimal response.body.length := by
    intro header hheader
    obtain ⟨hmem, hname⟩ := List.mem_filter.mp hheader
    exact (h.headers header hmem).length (by simpa using hname)
  have hthere : (contentLengthName, toDecimal response.body.length) ∈
      (writtenHeaders response).filter (fun h => sameName h.1 contentLengthName) := by
    refine List.mem_filter.mpr ⟨List.mem_append_right _ List.mem_cons_self, ?_⟩
    show decide (sameName contentLengthName contentLengthName = true) = true
    decide
  unfold agreedLength
  cases hfilter : (writtenHeaders response).filter (fun h => sameName h.1 contentLengthName) with
  | nil =>
    rw [hfilter] at hthere
    cases hthere
  | cons first others =>
    rw [hfilter] at hall
    have hfirst := hall first List.mem_cons_self
    dsimp only
    rw [if_pos, hfirst, hvalue]
    refine ⟨?_, ?_, ?_⟩
    · rw [hfirst]
      exact hne
    · rw [hfirst]
      exact List.all_eq_true.mpr hdigits
    · intro other hother
      rw [hfirst]
      exact hall other (List.mem_cons_of_mem first hother)

/-- **A response is read back.** Whatever follows it on the stream, the client reads what was
    written and stops behind it. -/
theorem readAnswer_responseBytes {response : HttpResponse} (h : Readable response) (t : Bytes) :
    readAnswer (responseBytes response ++ t) = some (Answer.of response, t) := by
  have hstatus := isWord_statusText response.status
  have hblank : ∀ (s : Bytes) (c : UInt8), ((32 : UInt8) :: s).head? = some c → isspace c = true := by
    intro s c hc
    obtain rfl := Option.some.inj hc
    decide
  generalize hfirst : response.protocol ++ 32 :: (statusText response.status ++ 32 :: response.reason) =
    first
  have hline : OneLine first := by
    rw [← hfirst]
    have hspace : OneLine ((32 : UInt8) :: []) := by
      intro c hc
      obtain rfl := List.mem_singleton.mp hc
      decide
    exact oneLine_append (oneLine_of_word h.protocol) (oneLine_append hspace
      (oneLine_append (oneLine_of_word hstatus) (oneLine_append hspace h.reason)))
  have hwire : responseBytes response ++ t =
      first ++ (crlf ++ (textLines ((writtenHeaders response).map headerText) ++
        (crlf ++ (response.body ++ t)))) := by
    have hblock : (writtenHeaders response).flatMap
        (fun header => header.1 ++ ascii ": " ++ header.2 ++ crlf) =
        textLines ((writtenHeaders response).map headerText) := by
      rw [textLines, List.flatMap_map]
      rfl
    rw [responseBytes_eq, hblock, ← hfirst, show ascii " " = [32] by decide]
    simp only [List.append_assoc, List.cons_append, List.nil_append]
  have hwords : nextWord first = (response.protocol, 32 :: (statusText response.status ++
        32 :: response.reason)) ∧
      nextWord (32 :: (statusText response.status ++ 32 :: response.reason)) =
        (statusText response.status, 32 :: response.reason) := by
    rw [← hfirst]
    exact ⟨nextWord_word h.protocol (hblank _),
      (nextWord_space (by decide) _).trans (nextWord_word hstatus (hblank _))⟩
  -- the fuel is the number of bytes left, and every line has some
  have hlong : (writtenHeaders response).length <
      (textLines ((writtenHeaders response).map headerText) ++ (crlf ++ (response.body ++ t))).length + 1 := by
    have hlines : ∀ ls : List Bytes, ls.length ≤ (textLines ls).length := by
      intro ls
      induction ls with
      | nil => exact Nat.zero_le _
      | cons l ls ih =>
        rw [length_textLines_cons, List.length_cons]
        omega
    have := hlines ((writtenHeaders response).map headerText)
    rw [List.length_map] at this
    rw [List.length_append]
    omega
  rw [hwire]
  unfold readAnswer
  rw [readLine_line hline]
  simp only [Option.bind_eq_bind, Option.bind_some, hwords.1, hwords.2,
    readHeaders_lines h.headers _ hlong, agreedLength_writtenHeaders h]
  rw [if_neg (by rw [List.length_append]; omega), List.take_left, List.drop_left]
  rfl

theorem responseBytes_ne_nil (response : HttpResponse) : responseBytes response ≠ [] := by
  rw [responseBytes_eq]
  simp [crlf]

/-- The stream of the responses is read back, one by one. -/
theorem readAnswers_responses {responses : List HttpResponse} (h : ∀ r ∈ responses, Readable r)
    {fuel : ℕ} (hfuel : responses.length < fuel) :
    readAnswers fuel (responses.flatMap responseBytes) = some (responses.map Answer.of) := by
  induction responses generalizing fuel with
  | nil =>
    obtain ⟨fuel, rfl⟩ := Nat.exists_eq_succ_of_ne_zero (Nat.ne_of_gt hfuel)
    rfl
  | cons r rs ih =>
    obtain ⟨fuel, rfl⟩ := Nat.exists_eq_succ_of_ne_zero (Nat.ne_of_gt (Nat.zero_lt_of_lt hfuel))
    have hne : responseBytes r ++ rs.flatMap responseBytes ≠ [] :=
      List.append_ne_nil_of_left_ne_nil (responseBytes_ne_nil r) _
    rw [List.flatMap_cons, readAnswers, if_neg hne,
      readAnswer_responseBytes (h r List.mem_cons_self)]
    dsimp only
    rw [ih (fun k hk => h k (List.mem_cons_of_mem r hk)) (by rw [List.length_cons] at hfuel; omega)]
    rfl

end AirPlay2
