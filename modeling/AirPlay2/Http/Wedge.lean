import AirPlay2.Http.Lines

/- Which buffers `parse_request` will never take a request from, whatever arrives.
   Its `false` exits do not tell a short buffer from a malformed one, and
   `serve_client` goes on appending to both. A buffer can still be completed exactly
   when what is complete in it is well-formed (`completable_iff`): the end of a
   first line supplies its missing words, a colon the missing one of an open header
   line, a `CONTENT-LENGTH` line the least of all length headers, and zeros a body. -/
namespace AirPlay2
open Lib

/-- Some continuation makes `parse_request` take a request, if memory is no bound. -/
def Completable (input : Bytes) : Prop :=
  ∃ t taken rest, parseRequest (input ++ t) = .ok (some (taken, rest))

/-- What the buffer holds complete is well-formed: a first line that has ended has
    three words, between two line ends of the head stands a colon, and a complete
    head gives a length that a string can have. -/
structure NotMalformed (input : Bytes) : Prop where
  words : ∀ firstEnd, find input crlf 0 = some firstEnd →
    (requestLine (input.take firstEnd)).isSome
  colons : ColonsBetween input 0 ((find input blankLine 0).getD input.length)
  length : ∀ headerEnd request, parseHead input = some (headerEnd, request) →
    ∃ n, contentLength request.headers = some n ∧ n ≤ maxSize

instance (s : Bytes) (i : ℕ) : Decidable (LineEnd s i) := inferInstanceAs (Decidable (_ ∧ _))

/-! ## A buffer with a complete head -/

section Complete

variable {input : Bytes} {headerEnd : ℕ}

/-- A complete head that is refused is refused for good. -/
theorem not_completable_of_head (hblank : find input blankLine 0 = some headerEnd)
    (hh : parseHead input = none) : ¬ Completable input := by
  intro hcompl
  obtain ⟨t, taken, rest, ht⟩ := hcompl
  have hnone := parseHead_append t hblank
  rw [hh] at hnone
  simp [parseRequest, hnone] at ht

theorem completable_of_head {request : HttpRequest} {n : ℕ}
    (hh : parseHead input = some (headerEnd, request))
    (hn : contentLength request.headers = some n) (hmax : n ≤ maxSize) : Completable input := by
  have hblank := (parseHead_eq_some.mp hh).1
  have hfits := blankLine_fits hblank
  have htotal : totalSize headerEnd n ≤ headerEnd + 4 + n := Nat.mod_le _ _
  -- as many zeros as the body has bytes
  have hfit : totalSize headerEnd n ≤ (input ++ List.replicate n 0).length := by
    rw [List.length_append, List.length_replicate]
    omega
  have htaken := parseRequest_eq_some_wrapped.mpr
    ⟨headerEnd, request, n, (parseHead_append _ hblank).trans hh, hn, hfit, hmax, rfl, rfl⟩
  exact ⟨List.replicate n 0, _, _, htaken⟩

/-- With a complete head everything is decided. -/
theorem completable_iff_of_head (hblank : find input blankLine 0 = some headerEnd) :
    Completable input ↔ NotMalformed input := by
  obtain ⟨firstEnd, hfirst, -, -⟩ := find_crlf_le hblank (Nat.zero_le _)
  have hhead := parseHead_isSome_iff hblank hfirst
  refine ⟨?_, ?_⟩
  · intro hcompl
    obtain ⟨t, taken, rest, ht⟩ := hcompl
    obtain ⟨e, request, n, hh, hn, -, hmax, -⟩ := parseRequest_eq_some_wrapped.mp ht
    rw [parseHead_append t hblank] at hh
    obtain ⟨hwords, hcolons⟩ := hhead.mp (by simp [hh])
    refine ⟨?_, by simpa [hblank] using hcolons, ?_⟩
    · intro f hf
      obtain rfl : firstEnd = f := Option.some.inj (hfirst.symm.trans hf)
      exact hwords
    · intro e' r hr
      simp only [hh, Option.some.injEq, Prod.mk.injEq] at hr
      obtain ⟨rfl, rfl⟩ := hr
      exact ⟨n, hn, hmax⟩
  · intro hgood
    obtain ⟨hwords, hcolons, hlength⟩ := hgood
    rw [hblank, Option.getD_some] at hcolons
    obtain ⟨⟨e, request⟩, hh⟩ :=
      Option.isSome_iff_exists.mp (hhead.mpr ⟨hwords firstEnd hfirst, hcolons⟩)
    obtain ⟨n, hn, hmax⟩ := hlength e request hh
    exact completable_of_head hh hn hmax

end Complete

/-! ## Line ends of an appended text -/

section Append

variable {s t : Bytes} {i : ℕ}

theorem LineEnd.append (h : LineEnd s i) : LineEnd (s ++ t) i := by
  have hlt := h.lt_length
  unfold LineEnd
  rw [List.getElem?_append_left (by omega), List.getElem?_append_left hlt]
  exact h

theorem lineEnd_append_right {d : ℕ} : LineEnd (s ++ t) (s.length + d) ↔ LineEnd t d := by
  unfold LineEnd
  rw [List.getElem?_append_right (by omega), List.getElem?_append_right (by omega),
    Nat.add_sub_cancel_left, Nat.add_assoc, Nat.add_sub_cancel_left]

/-- Behind a text that does not start with a line feed, line ends are old or new. -/
theorem lineEnd_append_cases (ht : t.head? ≠ some 10) (h : LineEnd (s ++ t) i) :
    LineEnd s i ∨ ∃ d, i = s.length + d ∧ LineEnd t d := by
  obtain hlt | hge := Nat.lt_or_ge (i + 1) s.length
  · left
    unfold LineEnd at h
    rwa [List.getElem?_append_left (by omega), List.getElem?_append_left hlt] at h
  · obtain heq | hlt := Nat.eq_or_lt_of_le hge
    · -- a CR at the end of the old text is no line end, as no LF follows
      have h10 := h.2
      rw [List.getElem?_append_right (by omega), heq, Nat.sub_self] at h10
      rw [List.head?_eq_getElem?] at ht
      exact absurd h10 ht
    · have hi : i = s.length + (i - s.length) := by omega
      rw [hi] at h
      exact Or.inr ⟨i - s.length, hi, lineEnd_append_right.mp h⟩

end Append

/-! ## Completing a first line -/

/-- `n` words after a space each, at the end of a text. -/
def HasWords (n : ℕ) (s : Bytes) : Prop :=
  ∃ p, s = p ++ (List.replicate n [32, 120]).flatten

theorem HasWords.next {n : ℕ} {s : Bytes} (h : HasWords (n + 1) s) :
    (nextWord s).1 ≠ [] ∧ HasWords n (nextWord s).2 := by
  obtain ⟨p, rfl⟩ := h
  have hrest : ((List.replicate n [32, 120]).flatten : Bytes).dropWhile (!isspace ·)
      = (List.replicate n [32, 120]).flatten := by
    cases n with
    | zero => rfl
    | succ n => rfl
  simp only [nextWord, List.replicate_succ, List.flatten_cons, List.dropWhile_append]
  -- The next word starts in the text before, or it is one of the words at the end.
  cases hp : p.dropWhile isspace with
  | nil =>
    have hx : (([32, 120] : Bytes).dropWhile isspace) = [120] := by decide
    have h120 : (!isspace 120) = true := by decide
    simp only [List.isEmpty_nil, if_true, hx, List.isEmpty_cons, Bool.false_eq_true, if_false,
      List.cons_append, List.nil_append, List.takeWhile_cons, List.dropWhile_cons, h120, hrest]
    exact ⟨by simp, [], rfl⟩
  | cons c q =>
    have hc : isspace c = false := by
      have hhead := List.head_dropWhile_not isspace (show p.dropWhile isspace ≠ [] by simp [hp])
      simpa [hp] using hhead
    simp only [List.isEmpty_cons, Bool.false_eq_true, if_false]
    refine ⟨by simp [hc], ?_⟩
    rw [List.dropWhile_append]
    have h32 : (!isspace 32) = false := by decide
    split
    · exact ⟨[32, 120], by simp [h32]⟩
    · exact ⟨(c :: q).dropWhile (!isspace ·) ++ [32, 120], by simp⟩

/-- Three words at the end are enough for a request line. -/
theorem requestLine_of_hasWords {s : Bytes} (h : HasWords 3 s) : (requestLine s).isSome := by
  obtain ⟨h1, hw1⟩ := h.next
  obtain ⟨h2, hw2⟩ := hw1.next
  obtain ⟨h3, -⟩ := hw2.next
  simp [requestLine, h1, h2, h3]

/-- Three words and a blank line. -/
def wordsTail : Bytes := ascii " x x x\r\n\r\n"

theorem lineEnd_wordsTail {d : ℕ} (h : LineEnd wordsTail d) : d = 6 ∨ d = 8 := by
  have hlt : d + 1 < 10 := h.lt_length
  have hall : ∀ d < 9, LineEnd wordsTail d → d = 6 ∨ d = 8 := by decide
  exact hall d (by omega) h

theorem completable_of_no_line {input : Bytes} (hno : ∀ i, ¬ LineEnd input i) :
    Completable input := by
  have hends : ∀ i, LineEnd (input ++ wordsTail) i → input.length + 6 ≤ i := by
    intro i hi
    obtain h | ⟨d, rfl, h⟩ := lineEnd_append_cases (by decide) hi
    · exact absurd h (hno i)
    · obtain rfl | rfl := lineEnd_wordsTail h <;> omega
  have h6 : LineEnd (input ++ wordsTail) (input.length + 6) :=
    lineEnd_append_right.mpr (by decide)
  have h8 : LineEnd (input ++ wordsTail) (input.length + 6 + 2) :=
    lineEnd_append_right.mpr (show LineEnd wordsTail 8 by decide)
  have hfirst := find_crlf_of_lineEnd (Nat.zero_le _) h6 (fun j _ => hends j)
  have hblank := find_blankLine_of_lineEnd h6 h8 (fun j hj _ => hends j hj)
  have htake : (input ++ wordsTail).take (input.length + 6)
      = input ++ (List.replicate 3 [32, 120]).flatten := by
    rw [List.take_length_add_append]
    exact congrArg (input ++ ·) (by decide)
  have hhead : (parseHead (input ++ wordsTail)).isSome := by
    apply (parseHead_isSome_iff hblank hfirst).mpr
    refine ⟨htake ▸ requestLine_of_hasWords ⟨input, rfl⟩, ?_⟩
    -- the first line end is the blank line, so there are no two to separate
    intro i j _ hij hj hi _
    have := hends i hi
    omega
  obtain ⟨⟨e, request⟩, hh⟩ := Option.isSome_iff_exists.mp hhead
  obtain ⟨he, f, hf, line, -, headers, hloop, rfl⟩ := parseHead_eq_some.mp hh
  obtain rfl := Option.some.inj (hblank.symm.trans he)
  obtain rfl := Option.some.inj (hfirst.symm.trans hf)
  rw [headerLoop, if_pos (Nat.le_add_right _ _)] at hloop
  obtain rfl := Option.some.inj hloop
  have hzero : contentLength .empty = some 0 := by decide
  obtain ⟨t, taken, rest, ht⟩ := completable_of_head hh hzero (Nat.zero_le _)
  exact ⟨wordsTail ++ t, taken, rest, by rwa [← List.append_assoc]⟩

/-! ## Completing the headers -/

/-- Of two texts that differ in the case of letters, one without small letters comes
    first. -/
theorem le_of_sameName {a b : Bytes} (ha : ∀ c ∈ a, ¬ (97 ≤ c ∧ c ≤ 122))
    (h : sameName b a = true) : a ≤ b := by
  simp only [sameName, beq_iff_eq] at h
  induction a generalizing b with
  | nil =>
    simp only [List.map_nil, List.map_eq_nil_iff] at h
    exact le_of_eq h.symm
  | cons c a ih =>
    cases b with
    | nil => simp at h
    | cons d b =>
      simp only [List.map_cons, List.cons.injEq] at h
      have ha' : ∀ x ∈ a, ¬ (97 ≤ x ∧ x ≤ 122) := by
        intro x hx
        exact ha x (List.mem_cons_of_mem _ hx)
      have hrest := ih ha' h.2
      have hcd : c ≤ d := by
        have hc := ha c List.mem_cons_self
        have h1 := h.1
        simp only [tolower, Bool.and_eq_true, decide_eq_true_eq] at h1
        simp only [UInt8.le_iff_toNat_le] at hc ⊢
        have h65 : (65 : UInt8).toNat = 65 := rfl
        have h90 : (90 : UInt8).toNat = 90 := rfl
        have h97 : (97 : UInt8).toNat = 97 := rfl
        have h122 : (122 : UInt8).toNat = 122 := rfl
        have h32 : (32 : UInt8).toNat = 32 := rfl
        simp only [UInt8.le_iff_toNat_le, ← UInt8.toNat_inj] at h1
        split at h1 <;> split at h1 <;> (try simp only [UInt8.toNat_add] at h1) <;> omega
      obtain hlt | rfl := lt_or_eq_of_le hcd
      · exact le_of_lt (List.Lex.rel hlt)
      · exact List.cons_le_cons c hrest

/-- A header whose name has no small letters is the one a lookup finds. -/
theorem headerField_of_least {headers : OrdMap Bytes Bytes} {key name v : Bytes}
    (h : (key, v) ∈ headers.entries) (hsame : sameName key name = true)
    (hkey : ∀ c ∈ key, ¬ (97 ≤ c ∧ c ≤ 122)) : headerField headers name = some v := by
  have hleast : ∀ e ∈ headers.entries, sameName e.1 name = true → key ≤ e.1 := by
    intro e _ he
    apply le_of_sameName hkey
    simp only [sameName, beq_iff_eq] at hsame he ⊢
    rw [he, hsame]
  rw [headerField, OrdMap.find_least (p := (sameName · name)) h hsame hleast]
  rfl

/-- A colon for an open line, a length of zero under the least name, and a blank
    line. -/
def headersTail : Bytes := ascii ":\r\nCONTENT-LENGTH:0\r\n\r\n"

theorem lineEnd_headersTail {d : ℕ} (h : LineEnd headersTail d) : d = 1 ∨ d = 19 ∨ d = 21 := by
  have hlt : d + 1 < 23 := h.lt_length
  have hall : ∀ d < 22, LineEnd headersTail d → d = 1 ∨ d = 19 ∨ d = 21 := by decide
  exact hall d (by omega) h

/-- The last line of the completed head. -/
theorem headerLine_headersTail (s : Bytes) :
    headerLine (s ++ headersTail) (s.length + 19) (s.length + 3)
      = some (s.length + 19, ascii "CONTENT-LENGTH", [48]) := by
  have hend : find headersTail crlf 3 = some 19 := by decide
  have hcolon : find headersTail [58] 3 = some 17 := by decide
  have hsub : ∀ d n, substr (s ++ headersTail) (s.length + d) n = substr headersTail d n := by
    intro d n
    unfold substr
    rw [List.drop_append, List.drop_eq_nil_of_le (by omega), Nat.add_sub_cancel_left,
      List.nil_append]
  have hname : s.length + 17 - (s.length + 3) = 14 := by omega
  have hvalue : s.length + 19 - (s.length + 17) - 1 = 1 := by omega
  simp only [headerLine, find_append_right, hend, hcolon, Option.map_some, Option.bind_eq_bind,
    Option.bind_some, if_neg (Nat.lt_irrefl _), hname, hvalue, Nat.add_assoc, hsub]
  rw [if_neg (by omega)]
  congr 1

section HeadersTail

variable {input : Bytes}

theorem lineEnd_append_headersTail {i : ℕ} (hi : LineEnd (input ++ headersTail) i) :
    LineEnd input i ∨ i = input.length + 1 ∨ i = input.length + 19 ∨ i = input.length + 21 := by
  obtain h | ⟨d, rfl, h⟩ := lineEnd_append_cases (by decide) hi
  · exact Or.inl h
  · right
    rcases lineEnd_headersTail h with rfl | rfl | rfl <;> simp

/-- The head ends with the text that completes it. -/
theorem find_blankLine_headersTail (hno : find input blankLine 0 = none) :
    find (input ++ headersTail) blankLine 0 = some (input.length + 19) := by
  have h19 : LineEnd (input ++ headersTail) (input.length + 19) :=
    lineEnd_append_right.mpr (by decide)
  have h21 : LineEnd (input ++ headersTail) (input.length + 19 + 2) :=
    lineEnd_append_right.mpr (show LineEnd headersTail 21 by decide)
  apply find_blankLine_of_lineEnd h19 h21
  intro j hj hj2
  obtain hj | hj := lineEnd_append_headersTail hj
  · have hlt := hj.lt_length
    obtain hj2 | hj2 := lineEnd_append_headersTail hj2
    · -- two old line ends in a row would be a blank line
      exact absurd (blankLine_iff.mpr ⟨hj, hj2⟩)
        ((find_eq_none (Nat.zero_le _)).mp hno j (Nat.zero_le _) (by omega))
    · omega
  · obtain hj2 | hj2 := lineEnd_append_headersTail hj2
    · have := hj2.lt_length
      omega
    · omega

/-- The open line gets its colon from the new text, and so does the line after it. -/
theorem colonsBetween_headersTail (hcolons : ColonsBetween input 0 input.length) :
    ColonsBetween (input ++ headersTail) 0 (input.length + 19) := by
  have hcolon : ∀ d, headersTail[d]? = some 58 →
      (input ++ headersTail)[input.length + d]? = some 58 := by
    intro d hd
    rwa [List.getElem?_append_right (by omega), Nat.add_sub_cancel_left]
  intro i j _ hij hj hi hlj
  obtain hi | hi := lineEnd_append_headersTail hi
  · have hilt := hi.lt_length
    obtain hlj | hlj := lineEnd_append_headersTail hlj
    · have hjlt := hlj.lt_length
      obtain ⟨k, hik, hkj, hk⟩ := hcolons i j (Nat.zero_le _) hij (by omega) hi hlj
      exact ⟨k, hik, hkj, by rwa [List.getElem?_append_left (by omega)]⟩
    · exact ⟨input.length + 0, by omega, by omega, hcolon 0 (by decide)⟩
  · obtain hlj | hlj := lineEnd_append_headersTail hlj
    · have := hlj.lt_length
      omega
    · exact ⟨input.length + 17, by omega, by omega, hcolon 17 (by decide)⟩

theorem completable_of_open_head {firstEnd : ℕ}
    (hfirst : find input crlf 0 = some firstEnd) (hno : find input blankLine 0 = none)
    (hwords : (requestLine (input.take firstEnd)).isSome)
    (hcolons : ColonsBetween input 0 input.length) : Completable input := by
  have hfirst' : find (input ++ headersTail) crlf 0 = some firstEnd :=
    find_append _ (Nat.zero_le _) hfirst
  have hblank := find_blankLine_headersTail hno
  have hend := (find_crlf_eq_some (Nat.zero_le _) hfirst).2.1
  have hlt := hend.lt_length
  have htake : (input ++ headersTail).take firstEnd = input.take firstEnd :=
    List.take_append_of_le_length (by omega)
  obtain ⟨⟨e, request⟩, hh⟩ := Option.isSome_iff_exists.mp
    ((parseHead_isSome_iff hblank hfirst').mpr
      ⟨htake ▸ hwords, colonsBetween_headersTail hcolons⟩)
  obtain ⟨he, f, hf, line, -, headers, hloop, rfl⟩ := parseHead_eq_some.mp hh
  obtain rfl := Option.some.inj (hblank.symm.trans he)
  obtain rfl := Option.some.inj (hfirst'.symm.trans hf)
  -- The last header line is the length of zero, under the name that is found first.
  have h1 : LineEnd (input ++ headersTail) (input.length + 1) :=
    lineEnd_append_right.mpr (by decide)
  have hlast := headerLoop_last hblank hend.append h1 (by omega) (by omega)
    (headerLine_headersTail input) hloop
  have hfield : headerField headers contentLengthName = some [48] :=
    headerField_of_least hlast (by decide) (by simp [ascii])
  have hzero : contentLength headers = some 0 := by
    have hstoul : stoul 10 [48] = some (0, 1) := by decide
    simp [contentLength, headerValue, hfield, hstoul]
  obtain ⟨t, taken, rest, ht⟩ := completable_of_head hh hzero (Nat.zero_le _)
  exact ⟨headersTail ++ t, taken, rest, by rwa [← List.append_assoc]⟩

end HeadersTail

/-! ## Every buffer -/

/-- A completion settles what the buffer already held complete. -/
theorem notMalformed_of_completion {input t : Bytes} (hno : find input blankLine 0 = none)
    (h : (parseHead (input ++ t)).isSome) : NotMalformed input := by
  obtain ⟨⟨headerEnd, request⟩, hh⟩ := Option.isSome_iff_exists.mp h
  have hblank := (parseHead_eq_some.mp hh).1
  obtain ⟨hend, hend2, -⟩ := find_blankLine_eq_some hblank
  -- the blank line reaches past the old bytes
  have hpast : input.length < headerEnd + 4 := by
    by_contra hle
    have hb := blankLine_iff.mpr ⟨hend, hend2⟩
    rw [prefix_drop_append (show headerEnd + blankLine.length ≤ _ from not_lt.mp hle)] at hb
    exact (find_eq_none (Nat.zero_le _)).mp hno headerEnd (Nat.zero_le _) (by omega) hb
  refine ⟨?_, ?_, ?_⟩
  · intro firstEnd hf
    have hfirst := find_append t (Nat.zero_le _) hf
    have hlt := (find_crlf_eq_some (Nat.zero_le _) hf).2.1.lt_length
    have hwords := ((parseHead_isSome_iff hblank hfirst).mp h).1
    rwa [List.take_append_of_le_length (by omega)] at hwords
  · intro i j _ hij _ hi hj
    have hjlt := hj.lt_length
    obtain ⟨firstEnd, hfirst, -, -⟩ := find_crlf_le hblank (Nat.zero_le _)
    have hle : j ≤ headerEnd := by
      by_contra hlt
      obtain rfl : j = headerEnd + 1 := by omega
      exact hend.not_succ hj.append
    obtain ⟨k, hik, hkj, hk⟩ := ((parseHead_isSome_iff hblank hfirst).mp h).2 i j
      (Nat.zero_le _) hij hle hi.append hj.append
    exact ⟨k, hik, hkj, by rwa [List.getElem?_append_left (by omega)] at hk⟩
  · intro e r hr
    rw [(parseHead_eq_some.mp hr).1] at hno
    exact absurd hno (by simp)

/-- **When a buffer can still be completed.** For every buffer, bytes that make
    `parse_request` take a request exist if and only if what the buffer holds
    complete is well-formed. -/
theorem completable_iff (input : Bytes) : Completable input ↔ NotMalformed input := by
  cases hblank : find input blankLine 0 with
  | some headerEnd => exact completable_iff_of_head hblank
  | none =>
    refine ⟨?_, ?_⟩
    · intro hcompl
      obtain ⟨t, taken, rest, ht⟩ := hcompl
      obtain ⟨e, request, n, hh, -⟩ := parseRequest_eq_some_wrapped.mp ht
      have hhead : (parseHead (input ++ t)).isSome := by rw [hh]; rfl
      exact notMalformed_of_completion hblank hhead
    · intro hgood
      obtain ⟨hwords, hcolons, -⟩ := hgood
      rw [hblank, Option.getD_none] at hcolons
      cases hfirst : find input crlf 0 with
      | none =>
        apply completable_of_no_line
        intro i hi
        have hlt := hi.lt_length
        exact (find_eq_none (Nat.zero_le _)).mp hfirst i (Nat.zero_le _) (by omega)
          (lineEnd_iff.mpr hi)
      | some firstEnd =>
        exact completable_of_open_head hfirst hblank (hwords firstEnd hfirst) hcolons

/-- A complete head with a header line that has no colon. -/
def noColon : Bytes := ascii "GET / HTTP/1.1\r\nbad\r\n\r\n"

/-- It is kept waiting for nothing. -/
theorem noColon_wedged : parseRequest noColon = .ok none ∧ ¬ Completable noColon :=
  ⟨by decide, not_completable_of_head (show find noColon blankLine 0 = some 19 by decide)
    (by decide)⟩

end AirPlay2
