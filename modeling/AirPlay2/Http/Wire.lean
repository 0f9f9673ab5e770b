import AirPlay2.Http.Framing

/- Requests on the wire. A `WireRequest` is a request as a client writes it: three words,
   header lines and a body of any bytes, whose length a header gives. `parse_request` takes
   its wire form off the front of the buffer, whatever follows it (`parseRequest_wire`), so a
   pipeline of requests is recovered one by one (`recover_pipeline`). -/
namespace AirPlay2
open Lib

/-- Text of one line. -/
def OneLine (s : Bytes) : Prop := ∀ c ∈ s, c ≠ 13 ∧ c ≠ 10

/-- A request as it is written, its headers in order. -/
structure WireRequest where
  method : Bytes
  target : Bytes
  protocol : Bytes
  headers : List (Bytes × Bytes)
  body : Bytes
  method_word : IsWord method
  target_word : IsWord target
  protocol_word : IsWord protocol
  names_distinct : headers.Pairwise (fun a b => sameName a.1 b.1 = false)
  name_line : ∀ h ∈ headers, OneLine h.1 ∧ 58 ∉ h.1 ∧ Trimmed h.1
  value_line : ∀ h ∈ headers, OneLine h.2 ∧ Trimmed h.2
  /-- A length header gives the length of the body in decimal. -/
  length_value : ∀ h ∈ headers, sameName h.1 contentLengthName = true →
    isDecimal h.2 ∧ digitsValue 10 h.2 = body.length
  /-- It may be missing when the body is empty. -/
  length_missing : (∀ h ∈ headers, sameName h.1 contentLengthName = false) → body = []

namespace WireRequest

variable (r : WireRequest)

def firstLine : Bytes := r.method ++ 32 :: r.target ++ 32 :: r.protocol

def headerText (h : Bytes × Bytes) : Bytes := h.1 ++ ascii ": " ++ h.2

/-- Lines, each with its CRLF. -/
def textLines (ls : List Bytes) : Bytes := ls.flatMap (· ++ crlf)

def wire : Bytes :=
  r.firstLine ++ crlf ++ textLines (r.headers.map headerText) ++ crlf ++ r.body

/-- The headers as `parse_request` keeps them. -/
def headerMap (hs : List (Bytes × Bytes)) (m : OrdMap Bytes Bytes) : OrdMap Bytes Bytes :=
  hs.foldl (fun m h => m.assign h.1 h.2) m

/-- The request as the handler sees it. -/
def request : HttpRequest :=
  { method := r.method, target := r.target, protocol := r.protocol
    headers := headerMap r.headers .empty, body := r.body }

end WireRequest

/-- Calling `parse_request` until it returns `false`: what it took, and what is left in the
    buffer. A request taken makes the buffer shorter, so its length is fuel enough. -/
def recoverLoop : ℕ → Bytes → Except StdException (List HttpRequest × Bytes)
  | 0, input => .ok ([], input)
  | fuel + 1, input =>
    match parseRequest input with
    | .error e => .error e
    | .ok none => .ok ([], input)
    | .ok (some (request, rest)) =>
      match recoverLoop fuel rest with
      | .error e => .error e
      | .ok (requests, rest) => .ok (request :: requests, rest)

def recover (input : Bytes) : Except StdException (List HttpRequest × Bytes) :=
  recoverLoop (input.length + 1) input

namespace WireRequest

/-! ## Words and trimmed text -/

theorem oneLine_of_word {w : Bytes} (h : IsWord w) : OneLine w := by
  intro c hc
  refine ⟨?_, ?_⟩ <;> intro heq <;> rw [heq] at hc <;> exact absurd (h.2 _ hc) (by decide)

theorem trim_blank {s : Bytes} (h : Trimmed s) : trim (32 :: s) = s := by
  have hskip : trim ([32] ++ s ++ []) = trim s := trim_append (by simp [isspace]) (by simp) s
  rw [List.append_nil] at hskip
  exact hskip.trans (trim_of_trimmed h)

/-- The request line is read back. -/
theorem requestLine_firstLine (r : WireRequest) :
    requestLine r.firstLine =
      some { method := r.method, target := r.target, protocol := r.protocol } := by
  have hblank : ∀ (s : Bytes) (c : UInt8), ((32 : UInt8) :: s).head? = some c → isspace c = true := by
    intro s c hc
    rw [List.head?_cons, Option.some.injEq] at hc
    rw [← hc]
    decide
  have hfirst : nextWord r.firstLine = (r.method, 32 :: r.target ++ 32 :: r.protocol) := by
    rw [firstLine, List.append_assoc]
    exact nextWord_word r.method_word (hblank _)
  have hsecond : nextWord (32 :: r.target ++ 32 :: r.protocol) = (r.target, 32 :: r.protocol) := by
    rw [List.cons_append, nextWord_space rfl]
    exact nextWord_word r.target_word (hblank _)
  have hthird : nextWord (32 :: r.protocol) = (r.protocol, []) := by
    have hend : nextWord (r.protocol ++ []) = (r.protocol, []) :=
      nextWord_word r.protocol_word nofun
    rwa [List.append_nil, ← nextWord_space (show isspace 32 = true from rfl)] at hend
  unfold requestLine
  rw [hfirst]
  dsimp only
  rw [hsecond]
  dsimp only
  rw [hthird]
  dsimp only
  rw [if_neg]
  intro hempty
  obtain hempty | hempty | hempty := hempty
  · exact r.method_word.1 hempty
  · exact r.target_word.1 hempty
  · exact r.protocol_word.1 hempty

/-! ## Where the lines are -/

/-- A pattern is not found among elements none of which starts it. -/
theorem search_skip {a : UInt8} {pat s : Bytes} (h : a ∉ s) (t : Bytes) :
    search (a :: pat) (s ++ t) = (search (a :: pat) t).map (s.length + ·) := by
  induction s with
  | nil =>
    have hid : ((fun n => ([] : Bytes).length + n) : ℕ → ℕ) = id := by
      funext n
      exact Nat.zero_add n
    rw [List.nil_append, hid, Option.map_id, id]
  | cons c s ih =>
    rw [List.mem_cons, not_or] at h
    have hnot : (a :: pat).isPrefixOf (c :: (s ++ t)) = false := by
      rw [List.isPrefixOf, beq_false_of_ne h.1, Bool.false_and]
    rw [List.cons_append, search, hnot, if_neg (by decide), ih h.2, Option.map_map]
    congr 1
    funext n
    rw [Function.comp_apply, List.length_cons]
    omega

theorem not_mem_cr {s : Bytes} (h : OneLine s) : 13 ∉ s := fun hc => (h 13 hc).1 rfl

/-- The end of a line that stands at `pre`. -/
theorem find_crlf_line (pre : Bytes) {line : Bytes} (h : OneLine line) (t : Bytes) :
    find (pre ++ (line ++ (crlf ++ t))) crlf pre.length = some (pre.length + line.length) := by
  have hline : find (line ++ (crlf ++ t)) crlf 0 = some line.length := by
    rw [find, List.drop_zero, crlf, search_skip (not_mem_cr h)]
    show ((some 0).map (line.length + ·)).map (0 + ·) = some line.length
    simp
  have hright : find (pre ++ (line ++ (crlf ++ t))) crlf (pre.length + 0) = _ := find_append_right
  rw [Nat.add_zero, hline] at hright
  exact hright

/-- The blank line stands behind the last of the lines, none of which is empty. -/
theorem search_blankLine_lines {line : Bytes} (h : OneLine line) {ls : List Bytes}
    (hls : ∀ l ∈ ls, OneLine l ∧ l ≠ []) (t : Bytes) :
    search blankLine (line ++ (crlf ++ (textLines ls ++ (crlf ++ t)))) =
      some (line.length + (textLines ls).length) := by
  induction ls generalizing line with
  | nil =>
    rw [blankLine, search_skip (not_mem_cr h)]
    rfl
  | cons l ls ih =>
    obtain ⟨hline, hne⟩ := hls l List.mem_cons_self
    have hrest := ih hline (fun k hk => hls k (List.mem_cons_of_mem l hk))
    obtain ⟨c, cs, rfl⟩ := List.exists_cons_of_ne_nil hne
    have hc := (hline c List.mem_cons_self).1
    have hcr : ∀ u : Bytes, blankLine.isPrefixOf (13 :: 10 :: c :: u) = false := by
      intro u
      simp [blankLine, List.isPrefixOf, beq_false_of_ne hc.symm]
    have hlf : ∀ u : Bytes, blankLine.isPrefixOf (10 :: u) = false := fun u => rfl
    have hlines : textLines ((c :: cs) :: ls) ++ (crlf ++ t) =
        (c :: cs) ++ (crlf ++ (textLines ls ++ (crlf ++ t))) := by
      simp [textLines, List.append_assoc]
    rw [hlines, blankLine, search_skip (not_mem_cr h), ← blankLine]
    -- neither the CRLF of this line nor its second half starts a blank line
    have htwo : search blankLine (crlf ++ ((c :: cs) ++ (crlf ++ (textLines ls ++ (crlf ++ t))))) =
        (search blankLine ((c :: cs) ++ (crlf ++ (textLines ls ++ (crlf ++ t))))).map (2 + ·) := by
      show search blankLine (13 :: 10 :: c :: (cs ++ (crlf ++ (textLines ls ++ (crlf ++ t))))) = _
      rw [search, hcr, if_neg (by decide), search, hlf, if_neg (by decide), Option.map_map]
      congr 1
      funext n
      rw [Function.comp_apply]
      omega
    rw [htwo, hrest]
    simp only [Option.map_some, textLines, List.flatMap_cons, List.length_append,
      List.length_cons, crlf, List.length_nil, Option.some.injEq]
    omega

/-! ## The header lines are read back -/

/-- The text of a header is one line, and not an empty one. -/
theorem oneLine_headerText (r : WireRequest) {h : Bytes × Bytes} (hmem : h ∈ r.headers) :
    OneLine (headerText h) ∧ headerText h ≠ [] := by
  refine ⟨?_, by simp [headerText, ascii]⟩
  intro c hc
  obtain hc | hc := List.mem_append.mp hc
  · obtain hc | hc := List.mem_append.mp hc
    · exact (r.name_line h hmem).1 c hc
    · have hsep : c = 58 ∨ c = 32 := by simpa [ascii] using hc
      obtain rfl | rfl := hsep <;> decide
  · exact (r.value_line h hmem).1 c hc

theorem headerLine_text (r : WireRequest) {h : Bytes × Bytes} (hmem : h ∈ r.headers)
    (pre t : Bytes) (headerEnd : ℕ) (hle : pre.length + (headerText h).length ≤ headerEnd) :
    headerLine (pre ++ (headerText h ++ (crlf ++ t))) headerEnd pre.length =
      some (pre.length + (headerText h).length, h.1, h.2) := by
  obtain ⟨hline, -⟩ := r.oneLine_headerText hmem
  obtain ⟨-, hcolonFree, hname⟩ := r.name_line h hmem
  obtain ⟨-, hvalue⟩ := r.value_line h hmem
  have hcolon : find (pre ++ (headerText h ++ (crlf ++ t))) [58] pre.length =
      some (pre.length + h.1.length) := by
    have hsearch : find (headerText h ++ (crlf ++ t)) [58] 0 = some h.1.length := by
      rw [find, List.drop_zero, headerText, List.append_assoc, List.append_assoc,
        search_skip hcolonFree]
      show ((some 0).map (h.1.length + ·)).map (0 + ·) = some h.1.length
      simp
    have hright : find (pre ++ (headerText h ++ (crlf ++ t))) [58] (pre.length + 0) = _ :=
      find_append_right
    rw [Nat.add_zero, hsearch] at hright
    exact hright
  have hlen : (headerText h).length = h.1.length + 2 + h.2.length := by
    simp [headerText, ascii]
    omega
  have hnameRead : substr (pre ++ (headerText h ++ (crlf ++ t))) pre.length
      (pre.length + h.1.length - pre.length) = h.1 := by
    rw [substr, List.drop_left, Nat.add_sub_cancel_left, headerText, List.append_assoc,
      List.append_assoc, List.take_left]
  have hvalueRead : substr (pre ++ (headerText h ++ (crlf ++ t))) (pre.length + h.1.length + 1)
      (pre.length + (headerText h).length - (pre.length + h.1.length) - 1) = 32 :: h.2 := by
    have hsplit : pre ++ (headerText h ++ (crlf ++ t)) =
        (pre ++ h.1 ++ [58]) ++ ((32 :: h.2) ++ (crlf ++ t)) := by
      simp [headerText, ascii, List.append_assoc]
    have hpos : pre.length + h.1.length + 1 = (pre ++ h.1 ++ [58]).length := by
      simp
      omega
    have hcount : pre.length + (headerText h).length - (pre.length + h.1.length) - 1 =
        ((32 : UInt8) :: h.2).length := by
      rw [hlen, List.length_cons]
      omega
    rw [substr, hsplit, hpos, List.drop_left, hcount, List.take_left]
  unfold headerLine
  simp only [find_crlf_line pre hline t, hcolon, Option.bind_eq_bind, Option.bind_some]
  rw [if_neg (not_lt.mpr hle), if_neg (by omega), hnameRead, hvalueRead, trim_of_trimmed hname,
    trim_blank hvalue]

theorem length_textLines_cons (l : Bytes) (ls : List Bytes) :
    (textLines (l :: ls)).length = l.length + 2 + (textLines ls).length := by
  simp [textLines, crlf]
  omega

/-- The loop over the header lines that are left, behind what was read. -/
theorem headerLoop_text (r : WireRequest) {hs : List (Bytes × Bytes)} (hsub : ∀ h ∈ hs, h ∈ r.headers)
    (pre t : Bytes) (headerEnd fuel : ℕ) (m : OrdMap Bytes Bytes)
    (hend : headerEnd + 2 = pre.length + (textLines (hs.map headerText)).length)
    (hfuel : hs.length < fuel) :
    headerLoop (pre ++ (textLines (hs.map headerText) ++ (crlf ++ t))) headerEnd fuel pre.length m =
      some (headerMap hs m) := by
  induction hs generalizing pre fuel m with
  | nil =>
    obtain ⟨fuel, rfl⟩ := Nat.exists_eq_succ_of_ne_zero (Nat.ne_of_gt hfuel)
    have hdone : headerEnd ≤ pre.length := by
      simp [textLines] at hend
      omega
    rw [headerLoop, if_pos hdone]
    rfl
  | cons h hs ih =>
    obtain ⟨fuel, rfl⟩ := Nat.exists_eq_succ_of_ne_zero (Nat.ne_of_gt (Nat.zero_lt_of_lt hfuel))
    have hmem := hsub h List.mem_cons_self
    rw [List.map_cons, length_textLines_cons] at hend
    have hpos : 0 < (headerText h).length :=
      List.length_pos_iff.mpr (r.oneLine_headerText hmem).2
    have hinput : pre ++ (textLines ((h :: hs).map headerText) ++ (crlf ++ t)) =
        pre ++ (headerText h ++ (crlf ++ (textLines (hs.map headerText) ++ (crlf ++ t)))) := by
      simp [textLines, List.append_assoc]
    have hnext : pre ++ (headerText h ++ (crlf ++ (textLines (hs.map headerText) ++ (crlf ++ t)))) =
        (pre ++ headerText h ++ crlf) ++ (textLines (hs.map headerText) ++ (crlf ++ t)) := by
      simp only [List.append_assoc]
    have hlength : (pre ++ headerText h ++ crlf).length = pre.length + (headerText h).length + 2 := by
      simp [crlf]
      omega
    rw [headerLoop, if_neg (by omega), hinput,
      r.headerLine_text hmem pre _ headerEnd (by omega)]
    dsimp only
    rw [hnext, ← hlength]
    apply ih (fun k hk => hsub k (List.mem_cons_of_mem h hk))
    · rw [hlength]
      omega
    · rw [List.length_cons] at hfuel
      omega

/-! ## The headers by name -/

theorem sameName_comm (a b : Bytes) : sameName a b = sameName b a := by
  rw [Bool.eq_iff_iff, sameName, sameName, beq_iff_eq, beq_iff_eq, eq_comm]

theorem sameName_trans {a b c : Bytes} (hab : sameName a b = true) (hbc : sameName b c = true) :
    sameName a c = true := by
  rw [sameName, beq_iff_eq] at hab hbc ⊢
  exact hab.trans hbc

/-- Headers of distinct names are all kept. -/
theorem headerMap_perm {hs : List (Bytes × Bytes)}
    (hdistinct : hs.Pairwise (fun a b => sameName a.1 b.1 = false)) {m : OrdMap Bytes Bytes}
    (hfresh : ∀ h ∈ hs, ∀ e ∈ m.entries, e.1 ≠ h.1) :
    (headerMap hs m).entries.Perm (hs ++ m.entries) := by
  induction hs generalizing m with
  | nil => exact .refl _
  | cons h hs ih =>
    obtain ⟨hhead, htail⟩ := List.pairwise_cons.mp hdistinct
    have hassign : (m.assign h.1 h.2).entries.Perm (h :: m.entries) :=
      OrdMap.insertEntry_perm (hfresh h List.mem_cons_self)
    have hrest : (headerMap hs (m.assign h.1 h.2)).entries.Perm
        (hs ++ (m.assign h.1 h.2).entries) := by
      apply ih htail
      intro k hk e he heq
      obtain rfl | he := List.mem_cons.mp (hassign.subset he)
      · have hsame := hhead k hk
        rw [heq, sameName, beq_self_eq_true] at hsame
        cases hsame
      · exact hfresh k (List.mem_cons_of_mem h hk) e he heq
    exact (hrest.trans (hassign.append_left hs)).trans List.perm_middle

theorem headers_perm (r : WireRequest) : r.request.headers.entries.Perm r.headers := by
  have hperm := headerMap_perm r.names_distinct (m := .empty) (fun h _ e he => by cases he)
  rwa [OrdMap.entries_empty, List.append_nil] at hperm

/-- A name is that of one header. -/
theorem eq_of_sameName (r : WireRequest) {a b : Bytes × Bytes} (ha : a ∈ r.headers)
    (hb : b ∈ r.headers) (h : sameName a.1 b.1 = true) : a = b := by
  have hone : r.headers.Pairwise (fun a b => sameName a.1 b.1 = true → a = b) := by
    apply r.names_distinct.imp
    intro a b hdistinct hsame
    rw [hdistinct] at hsame
    cases hsame
  have hflip : r.headers.Pairwise (fun a b => sameName b.1 a.1 = true → b = a) := by
    apply hone.imp
    intro a b hab hsame
    rw [sameName_comm] at hsame
    exact (hab hsame).symm
  exact List.Pairwise.forall_of_forall_of_flip (fun _ _ _ => rfl) hone hflip ha hb h

theorem headerField_of_mem (r : WireRequest) {h : Bytes × Bytes} (hmem : h ∈ r.headers)
    {name : Bytes} (hname : sameName h.1 name = true) :
    headerField r.request.headers name = some h.2 := by
  have hperm := r.headers_perm
  rw [headerField]
  cases hfind : r.request.headers.entries.find? (fun item => sameName item.1 name) with
  | none =>
    have hnot := List.find?_eq_none.mp hfind h (hperm.mem_iff.mpr hmem)
    exact absurd hname hnot
  | some item =>
    have hitem : item ∈ r.headers := hperm.subset (List.mem_of_find?_eq_some hfind)
    have hsame : sameName item.1 name = true :=
      List.find?_some (p := fun item : Bytes × Bytes => sameName item.1 name) hfind
    have heq : item = h := by
      apply r.eq_of_sameName hitem hmem
      rw [sameName_comm] at hname
      exact sameName_trans hsame hname
    rw [heq, Option.map_some]

theorem headerField_none (r : WireRequest) {name : Bytes}
    (hname : ∀ h ∈ r.headers, sameName h.1 name = false) :
    headerField r.request.headers name = none := by
  have hfind : r.request.headers.entries.find? (fun item => sameName item.1 name) = none := by
    apply List.find?_eq_none.mpr
    intro item hitem
    rw [hname item (r.headers_perm.subset hitem)]
    decide
  rw [headerField, hfind, Option.map_none]

/-- The length the parser computes is that of the body. -/
theorem contentLength_request (r : WireRequest) (hsize : r.body.length < 2 ^ 64) :
    contentLength r.request.headers = some r.body.length := by
  by_cases hdeclared : ∃ h ∈ r.headers, sameName h.1 contentLengthName = true
  · obtain ⟨h, hmem, hname⟩ := hdeclared
    obtain ⟨hdecimal, hvalue⟩ := r.length_value h hmem hname
    rw [contentLength_of_field (r.headerField_of_mem hmem hname), if_neg hdecimal.1,
      stoul_decimal hdecimal, hvalue, if_neg (not_le.mpr hsize)]
    rfl
  · have hnone : ∀ h ∈ r.headers, sameName h.1 contentLengthName = false := by
      intro h hmem
      rw [← Bool.not_eq_true]
      exact fun hname => hdeclared ⟨h, hmem, hname⟩
    rw [contentLength_of_no_field (r.headerField_none hnone), r.length_missing hnone]
    rfl

/-! ## One request is taken -/

theorem oneLine_firstLine (r : WireRequest) : OneLine r.firstLine := by
  intro c hc
  obtain hc | hc := List.mem_append.mp hc
  · obtain hc | hc := List.mem_append.mp hc
    · exact oneLine_of_word r.method_word c hc
    · obtain rfl | hc := List.mem_cons.mp hc
      · decide
      · exact oneLine_of_word r.target_word c hc
  · obtain rfl | hc := List.mem_cons.mp hc
    · decide
    · exact oneLine_of_word r.protocol_word c hc

/-- The head of a request on the wire is read, whatever follows it. -/
theorem parseHead_wire (r : WireRequest) (t : Bytes) :
    parseHead (r.wire ++ t) =
      some (r.firstLine.length + (textLines (r.headers.map headerText)).length,
        { r.request with body := [] }) := by
  have hlines : ∀ l ∈ r.headers.map headerText, OneLine l ∧ l ≠ [] := by
    intro l hl
    obtain ⟨h, hmem, rfl⟩ := List.mem_map.mp hl
    exact r.oneLine_headerText hmem
  have hinput : r.wire ++ t = r.firstLine ++ (crlf ++
      (textLines (r.headers.map headerText) ++ (crlf ++ (r.body ++ t)))) := by
    simp only [wire, List.append_assoc]
  have hblank : find (r.wire ++ t) blankLine 0 =
      some (r.firstLine.length + (textLines (r.headers.map headerText)).length) := by
    rw [hinput, find, List.drop_zero, search_blankLine_lines r.oneLine_firstLine hlines,
      Option.map_some, Nat.zero_add]
  have hfirst : find (r.wire ++ t) crlf 0 = some r.firstLine.length := by
    have hline := find_crlf_line [] r.oneLine_firstLine
      (textLines (r.headers.map headerText) ++ (crlf ++ (r.body ++ t)))
    rw [List.nil_append, List.length_nil, Nat.zero_add] at hline
    rw [hinput]
    exact hline
  have htake : (r.wire ++ t).take r.firstLine.length = r.firstLine := by
    rw [hinput, List.take_left]
  have hcount : r.headers.length ≤ (textLines (r.headers.map headerText)).length := by
    induction r.headers with
    | nil => exact Nat.zero_le _
    | cons h hs ih =>
      rw [List.map_cons, length_textLines_cons, List.length_cons]
      omega
  have hline : (r.firstLine ++ crlf).length = r.firstLine.length + 2 := by
    simp [crlf]
  have hloop := r.headerLoop_text (fun h hh => hh) (r.firstLine ++ crlf) (r.body ++ t)
    (r.firstLine.length + (textLines (r.headers.map headerText)).length)
    (r.firstLine.length + (textLines (r.headers.map headerText)).length + 1) .empty
    (by rw [hline]; omega) (by omega)
  rw [hline, List.append_assoc, ← hinput] at hloop
  apply parseHead_eq_some.mpr
  refine ⟨hblank, r.firstLine.length, hfirst,
    { method := r.method, target := r.target, protocol := r.protocol }, ?_, _, hloop, rfl⟩
  rw [htake, requestLine_firstLine]

/-- **A request is taken off the front of the buffer**, with its fields, and exactly its own
    bytes with it. -/
theorem parseRequest_wire (r : WireRequest) (t : Bytes) (hsize : (r.wire ++ t).length ≤ maxSize) :
    parseRequest (r.wire ++ t) = .ok (some (r.request, t)) := by
  have hlength : r.wire.length =
      r.firstLine.length + (textLines (r.headers.map headerText)).length + 4 + r.body.length := by
    simp only [wire, List.length_append, crlf, List.length_cons, List.length_nil]
    omega
  have hbody : r.body.length < 2 ^ 64 := by
    rw [List.length_append, hlength] at hsize
    unfold maxSize at hsize
    omega
  have hhead : (r.wire ++ t).drop
      (r.firstLine.length + (textLines (r.headers.map headerText)).length + 4) = r.body ++ t := by
    have hsplit : r.wire ++ t = (r.firstLine ++ crlf ++ textLines (r.headers.map headerText) ++
        crlf) ++ (r.body ++ t) := by
      simp only [wire, List.append_assoc]
    have hpre : (r.firstLine ++ crlf ++ textLines (r.headers.map headerText) ++ crlf).length =
        r.firstLine.length + (textLines (r.headers.map headerText)).length + 4 := by
      simp only [List.length_append, crlf, List.length_cons, List.length_nil]
      omega
    rw [hsplit, ← hpre, List.drop_left]
  apply (parseRequest_eq_some hsize).mpr
  refine ⟨_, _, r.body.length, r.parseHead_wire t, r.contentLength_request hbody, ?_, ?_, ?_⟩
  · rw [List.length_append, hlength]
    omega
  · rw [hhead, List.take_left]
    rfl
  · rw [← hlength, List.drop_left]

theorem wire_ne_nil (r : WireRequest) : r.wire ≠ [] := by
  intro hnil
  have hlen := congrArg List.length hnil
  simp [wire, crlf] at hlen

/-! ## A pipeline -/

/-- The wire forms one after another. -/
def pipeline (rs : List WireRequest) : Bytes := rs.flatMap wire

theorem recoverLoop_pipeline (rs : List WireRequest) {fuel : ℕ} (hfuel : rs.length < fuel)
    (hsize : (pipeline rs).length ≤ maxSize) :
    recoverLoop fuel (pipeline rs) = .ok (rs.map request, []) := by
  induction rs generalizing fuel with
  | nil =>
    obtain ⟨fuel, rfl⟩ := Nat.exists_eq_succ_of_ne_zero (Nat.ne_of_gt hfuel)
    rfl
  | cons r rs ih =>
    obtain ⟨fuel, rfl⟩ := Nat.exists_eq_succ_of_ne_zero (Nat.ne_of_gt (Nat.zero_lt_of_lt hfuel))
    have hpipe : pipeline (r :: rs) = r.wire ++ pipeline rs := List.flatMap_cons
    rw [hpipe] at hsize ⊢
    have hrest : recoverLoop fuel (pipeline rs) = .ok (rs.map request, []) :=
      ih (by rw [List.length_cons] at hfuel; omega) (by rw [List.length_append] at hsize; omega)
    rw [recoverLoop, r.parseRequest_wire _ hsize]
    dsimp only
    rw [hrest, List.map_cons]

theorem length_le_pipeline (rs : List WireRequest) : rs.length ≤ (pipeline rs).length := by
  induction rs with
  | nil => exact Nat.zero_le _
  | cons r rs ih =>
    have hpos : 0 < r.wire.length := List.length_pos_iff.mpr r.wire_ne_nil
    rw [pipeline, List.flatMap_cons, List.length_append, List.length_cons]
    rw [pipeline] at ih
    omega

/-- **Pipelined requests are recovered exactly.** Calling `parse_request` until it returns
    `false` on the wire forms of a list of requests, one behind the other in a string, takes
    that list, every header with it, and leaves an empty buffer. -/
theorem recover_pipeline (rs : List WireRequest) (hsize : (pipeline rs).length ≤ maxSize) :
    recover (pipeline rs) = .ok (rs.map request, []) ∧
      ∀ r ∈ rs, r.request.headers.entries.Perm r.headers := by
  refine ⟨?_, fun r _ => r.headers_perm⟩
  have hle := length_le_pipeline rs
  exact recoverLoop_pipeline rs (by omega) hsize

/-- `G / R` with a length in small letters and a body that is a blank line. -/
def blankBody : WireRequest where
  method := [71]
  target := [47]
  protocol := [82]
  headers := [([99, 111, 110, 116, 101, 110, 116, 45, 108, 101, 110, 103, 116, 104], [52])]
  body := blankLine
  method_word := by simp [IsWord, isspace]
  target_word := by simp [IsWord, isspace]
  protocol_word := by simp [IsWord, isspace]
  names_distinct := List.pairwise_singleton _ _
  name_line := by simp [OneLine, Trimmed, isspace]
  value_line := by simp [OneLine, Trimmed, isspace]
  length_value := by
    intro h hmem _
    obtain rfl := List.mem_singleton.mp hmem
    exact ⟨by simp [isDecimal, isdigit], by decide⟩
  length_missing := by
    intro hnone
    have hname := hnone _ List.mem_cons_self
    exact absurd hname (by decide)

/-- `G / R` and nothing else. -/
def bare : WireRequest where
  method := [71]
  target := [47]
  protocol := [82]
  headers := []
  body := []
  method_word := by simp [IsWord, isspace]
  target_word := by simp [IsWord, isspace]
  protocol_word := by simp [IsWord, isspace]
  names_distinct := List.Pairwise.nil
  name_line := nofun
  value_line := nofun
  length_value := nofun
  length_missing := fun _ => rfl

theorem recover_blankBody : recover (pipeline [blankBody, bare, blankBody]) =
    .ok ([blankBody.request, bare.request, blankBody.request], []) :=
  (recover_pipeline [blankBody, bare, blankBody] (by decide +kernel)).1

end WireRequest
end AirPlay2
