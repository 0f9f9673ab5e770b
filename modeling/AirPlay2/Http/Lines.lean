import AirPlay2.Http.Request

/- The lines of a request head. A line ends wherever CRLF stands, and no two of
   these places overlap, so the header loop succeeds exactly when a colon stands
   between any two line ends from the first one to the blank line
   (`headerLoop_isSome_iff`). -/
namespace AirPlay2
open Lib

/-- A line ends at position `i`. -/
def LineEnd (s : Bytes) (i : ℕ) : Prop := s[i]? = some 13 ∧ s[i + 1]? = some 10

/-- Between any two line ends from `start` to `stop` there is a colon. -/
def ColonsBetween (s : Bytes) (start stop : ℕ) : Prop :=
  ∀ i j, start ≤ i → i < j → j ≤ stop → LineEnd s i → LineEnd s j →
    ∃ k, i < k ∧ k < j ∧ s[k]? = some 58

theorem lineEnd_iff {s : Bytes} {i : ℕ} : crlf <+: s.drop i ↔ LineEnd s i := by
  simp [crlf, LineEnd, cons_prefix_drop]

theorem blankLine_iff {s : Bytes} {i : ℕ} :
    blankLine <+: s.drop i ↔ LineEnd s i ∧ LineEnd s (i + 2) := by
  simp [blankLine, LineEnd, cons_prefix_drop, and_assoc]

/-- No line ends inside a line end. -/
theorem LineEnd.not_succ {s : Bytes} {i : ℕ} (h : LineEnd s i) : ¬ LineEnd s (i + 1) := by
  intro hnext
  obtain ⟨h13, -⟩ := hnext
  exact absurd (h.2.symm.trans h13) (by decide)

theorem LineEnd.lt_length {s : Bytes} {i : ℕ} (h : LineEnd s i) : i + 1 < s.length :=
  (List.getElem?_eq_some_iff.mp h.2).1

/-- The next line end, and none before it. -/
theorem find_crlf_eq_some {s : Bytes} {pos e : ℕ} (hpos : pos ≤ s.length)
    (h : find s crlf pos = some e) :
    pos ≤ e ∧ LineEnd s e ∧ ∀ j, pos ≤ j → LineEnd s j → e ≤ j := by
  obtain ⟨hle, -, hcr, hmin⟩ := (find_eq_some hpos).mp h
  refine ⟨hle, lineEnd_iff.mp hcr, ?_⟩
  intro j hj hend
  by_contra hlt
  exact hmin j hj (not_le.mp hlt) (lineEnd_iff.mpr hend)

theorem find_crlf_of_lineEnd {s : Bytes} {pos e : ℕ} (hle : pos ≤ e) (h : LineEnd s e)
    (hmin : ∀ j, pos ≤ j → LineEnd s j → e ≤ j) : find s crlf pos = some e := by
  have hlt := h.lt_length
  apply (find_eq_some (by omega)).mpr
  refine ⟨hle, by omega, lineEnd_iff.mpr h, ?_⟩
  intro j hj hje hcr
  exact absurd (hmin j hj (lineEnd_iff.mp hcr)) (not_le.mpr hje)

theorem find_blankLine_eq_some {s : Bytes} {e : ℕ} (h : find s blankLine 0 = some e) :
    LineEnd s e ∧ LineEnd s (e + 2) ∧
      ∀ j, LineEnd s j → LineEnd s (j + 2) → e ≤ j := by
  obtain ⟨-, -, hb, hmin⟩ := (find_eq_some (Nat.zero_le _)).mp h
  obtain ⟨h1, h2⟩ := blankLine_iff.mp hb
  refine ⟨h1, h2, ?_⟩
  intro j hj hj2
  by_contra hlt
  exact hmin j (Nat.zero_le _) (not_le.mp hlt) (blankLine_iff.mpr ⟨hj, hj2⟩)

theorem find_blankLine_of_lineEnd {s : Bytes} {e : ℕ} (h : LineEnd s e) (h2 : LineEnd s (e + 2))
    (hmin : ∀ j, LineEnd s j → LineEnd s (j + 2) → e ≤ j) : find s blankLine 0 = some e := by
  have hlt := h.lt_length
  refine (find_eq_some (Nat.zero_le _)).mpr
    ⟨Nat.zero_le _, by omega, blankLine_iff.mpr ⟨h, h2⟩, ?_⟩
  intro j _ hje hb
  obtain ⟨hj, hj2⟩ := blankLine_iff.mp hb
  exact absurd (hmin j hj hj2) (not_le.mpr hje)

/-! ## One header line -/

section Loop

variable {input : Bytes} {headerEnd : ℕ}

/-- A header line is read if a colon stands in it. -/
theorem headerLine_cases (hblank : find input blankLine 0 = some headerEnd) {lineStart lineEnd : ℕ}
    (hlt : lineStart ≤ headerEnd) (hle : find input crlf lineStart = some lineEnd) :
    (∃ k name value, lineStart ≤ k ∧ k < lineEnd ∧ input[k]? = some 58 ∧
        headerLine input headerEnd lineStart = some (lineEnd, name, value)) ∨
      ((∀ k, lineStart ≤ k → k < lineEnd → input[k]? ≠ some 58) ∧
        headerLine input headerEnd lineStart = none) := by
  have hfits := blankLine_fits hblank
  have hpos : lineStart ≤ input.length := by omega
  have hcolon : ∀ k, [58] <+: input.drop k ↔ input[k]? = some 58 := by
    intro k
    simp [cons_prefix_drop]
  obtain ⟨-, hend, hmin⟩ := find_crlf_eq_some hpos hle
  have hstop : lineEnd ≤ headerEnd := hmin headerEnd hlt (find_blankLine_eq_some hblank).1
  simp only [headerLine, hle, Option.bind_eq_bind, Option.bind_some, if_neg (not_lt.mpr hstop)]
  cases hc : find input [58] lineStart with
  | none =>
    refine Or.inr ⟨?_, rfl⟩
    intro k hk _ h58
    have hklt := (List.getElem?_eq_some_iff.mp h58).1
    exact (find_eq_none hpos).mp hc k hk hklt.le ((hcolon k).mpr h58)
  | some colon =>
    obtain ⟨hlc, -, hpat, hfirst⟩ := (find_eq_some hpos).mp hc
    have h58 := (hcolon colon).mp hpat
    rw [Option.bind_some]
    split
    · rename_i hpast
      refine Or.inr ⟨?_, rfl⟩
      intro k hk hke hk58
      exact hfirst k hk (by omega) ((hcolon k).mpr hk58)
    · rename_i hin
      have hne : colon ≠ lineEnd := by
        intro he
        rw [he] at h58
        exact absurd (h58.symm.trans hend.1) (by decide)
      exact Or.inl ⟨colon, _, _, hlc, by omega, h58, rfl⟩

/-! ## The loop -/

/-- From a line end before the blank line, the loop succeeds if every line up to
    the blank line has a colon. -/
theorem headerLoop_isSome_iff (hblank : find input blankLine 0 = some headerEnd)
    {fuel start : ℕ} {headers : OrdMap Bytes Bytes} (hstart : LineEnd input start)
    (hle : start ≤ headerEnd) (hfuel : headerEnd < fuel + start) :
    (headerLoop input headerEnd fuel (start + 2) headers).isSome ↔
      ColonsBetween input start headerEnd := by
  obtain ⟨hend, hend2, hfirst⟩ := find_blankLine_eq_some hblank
  have hfits := blankLine_fits hblank
  induction fuel generalizing start headers with
  | zero => omega
  | succ fuel ih =>
    simp only [headerLoop]
    split
    · rename_i hdone
      apply iff_of_true rfl
      intro i j hi hij hj hli hlj
      -- `start` is the blank line itself: it is no closer to it than that
      have hne1 : start + 1 ≠ headerEnd := by
        intro he
        rw [← he] at hend
        exact hstart.not_succ hend
      have hne2 : start + 2 ≠ headerEnd := by
        intro he
        rw [← he] at hend
        have := hfirst start hstart hend
        omega
      omega
    · rename_i hmore
      obtain ⟨lineEnd, hf, hsl, hls⟩ := find_crlf_le hblank (not_le.mp hmore).le
      obtain ⟨-, hle', hmin⟩ := find_crlf_eq_some (by omega) hf
      -- the line end after `start` is `lineEnd`
      have hnext : ∀ j, start < j → LineEnd input j → lineEnd ≤ j := by
        intro j hj hlj
        obtain h | h := Nat.lt_or_ge j (start + 2)
        · obtain rfl : j = start + 1 := by omega
          exact absurd hlj hstart.not_succ
        · exact hmin j h hlj
      rcases headerLine_cases hblank (not_le.mp hmore).le hf with
        ⟨k, name, value, hk, hke, h58, hline⟩ | ⟨hno, hline⟩
      · rw [hline]
        apply (ih hle' hls (by omega)).trans
        refine ⟨?_, ?_⟩
        · intro h i j hi hij hj hli hlj
          obtain hil | hil := Nat.lt_or_ge i lineEnd
          · have hlj' := hnext j (by omega) hlj
            obtain rfl | hlt := Nat.eq_or_lt_of_le hi
            · exact ⟨k, by omega, by omega, h58⟩
            · exact absurd (hnext i hlt hli) (not_le.mpr hil)
          · exact h i j hil hij hj hli hlj
        · intro h i j hi
          exact h i j (by omega)
      · -- the line after `start` has no colon, so `start` and its end are the witnesses
        rw [hline]
        simp only [Option.isSome_none, Bool.false_eq_true, false_iff]
        intro h
        obtain ⟨k, hk, hke, h58⟩ := h start lineEnd (le_refl _) (by omega) hls hstart hle'
        obtain rfl | hk := Nat.eq_or_lt_of_le hk
        · exact absurd (hstart.2.symm.trans h58) (by decide)
        · exact hno k hk hke h58

/-- The last header line is the last to be assigned. -/
theorem headerLoop_last (hblank : find input blankLine 0 = some headerEnd)
    {fuel start last : ℕ} {headers result : OrdMap Bytes Bytes} {name value : Bytes}
    (hstart : LineEnd input start) (hlast : LineEnd input last) (hsl : start ≤ last)
    (hle : last + 2 < headerEnd)
    (hline : headerLine input headerEnd (last + 2) = some (headerEnd, name, value))
    (h : headerLoop input headerEnd fuel (start + 2) headers = some result) :
    (name, value) ∈ result.entries := by
  have hfits := blankLine_fits hblank
  induction fuel generalizing start headers with
  | zero => simp [headerLoop] at h
  | succ fuel ih =>
    rw [headerLoop, if_neg (by omega)] at h
    obtain ⟨lineEnd, hf, hse, -⟩ :=
      find_crlf_le hblank (show start + 2 ≤ headerEnd by omega)
    obtain ⟨-, hle', hmin⟩ := find_crlf_eq_some (by omega) hf
    obtain rfl | hlt := Nat.eq_or_lt_of_le hsl
    · -- the last line is read here, and the loop ends behind it
      rw [hline] at h
      cases fuel with
      | zero => simp [headerLoop] at h
      | succ fuel =>
        simp only [headerLoop, if_pos (Nat.le_add_right headerEnd 2), Option.some.injEq] at h
        subst h
        exact OrdMap.mem_assign_self _ _ _
    · have hgap : start + 2 ≤ last := by
        by_contra hgap
        obtain rfl : last = start + 1 := by omega
        exact hstart.not_succ hlast
      rcases headerLine_cases hblank (show start + 2 ≤ headerEnd by omega) hf with
        ⟨k, n, v, -, -, -, hl⟩ | ⟨-, hl⟩
      · rw [hl] at h
        exact ih hle' (hmin last hgap hlast) h
      · simp [hl] at h

end Loop

/-! ## The head -/

/-- No line ends before the first line end. -/
theorem colonsBetween_first {s : Bytes} {firstEnd stop : ℕ}
    (h : find s crlf 0 = some firstEnd) :
    ColonsBetween s firstEnd stop ↔ ColonsBetween s 0 stop := by
  obtain ⟨-, -, hmin⟩ := find_crlf_eq_some (Nat.zero_le _) h
  refine ⟨?_, ?_⟩
  · intro hc i j _ hij hj hi hlj
    exact hc i j (hmin i (Nat.zero_le _) hi) hij hj hi hlj
  · intro hc i j _
    exact hc i j (Nat.zero_le _)

/-- A complete head is read if its first line has three words and its other lines a
    colon each. -/
theorem parseHead_isSome_iff {input : Bytes} {headerEnd firstEnd : ℕ}
    (hblank : find input blankLine 0 = some headerEnd)
    (hfirst : find input crlf 0 = some firstEnd) :
    (parseHead input).isSome ↔
      (requestLine (input.take firstEnd)).isSome ∧ ColonsBetween input 0 headerEnd := by
  obtain ⟨-, hle, hmin⟩ := find_crlf_eq_some (Nat.zero_le _) hfirst
  have hstop : firstEnd ≤ headerEnd :=
    hmin headerEnd (Nat.zero_le _) (find_blankLine_eq_some hblank).1
  have hloop : (headerLoop input headerEnd (headerEnd + 1) (firstEnd + 2) .empty).isSome ↔ _ :=
    headerLoop_isSome_iff hblank hle hstop (by omega)
  rw [← colonsBetween_first hfirst, ← hloop]
  simp only [parseHead, hblank, hfirst, Option.bind_eq_bind, Option.bind_some,
    if_neg (not_lt.mpr hstop)]
  cases requestLine (input.take firstEnd) with
  | none => simp
  | some line =>
    cases headerLoop input headerEnd (headerEnd + 1) (firstEnd + 2) .empty <;> simp

end AirPlay2
