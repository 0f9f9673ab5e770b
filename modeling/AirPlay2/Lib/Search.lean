import Mathlib.Data.List.Infix

/- Searching a list for a pattern from a position on, as `std::string::find` does:
   the least position at or after the given one where the pattern stands. What a
   parser that works on a growing buffer needs is that a match, once found, stays
   where it is when more is appended (`find_append`). -/
namespace Lib

variable {α : Type*} [DecidableEq α]

/-- The least position where `pat` stands in the list. -/
def search (pat : List α) : List α → Option ℕ
  | [] => if pat = [] then some 0 else none
  | a :: as => if pat.isPrefixOf (a :: as) then some 0 else (search pat as).map (· + 1)

/-- `s.find(pat, pos)`; `none` is `npos`. -/
def find (s pat : List α) (pos : ℕ) : Option ℕ := (search pat (s.drop pos)).map (pos + ·)

theorem search_eq_some {pat s : List α} {i : ℕ} :
    search pat s = some i ↔
      i ≤ s.length ∧ pat <+: s.drop i ∧ ∀ j < i, ¬ pat <+: s.drop j := by
  induction s generalizing i with
  | nil =>
    simp only [search]
    split
    · rename_i h
      subst h
      refine ⟨?_, ?_⟩
      · intro h
        simp only [Option.some.injEq] at h
        subst h
        simp
      · intro hfound
        obtain ⟨hi, -, -⟩ := hfound
        simp only [List.length_nil, Nat.le_zero] at hi
        rw [hi]
    · rename_i h
      simp [h]
  | cons a s ih =>
    simp only [search]
    split
    · rename_i h
      rw [List.isPrefixOf_iff_prefix] at h
      -- The pattern stands at the head, so no later position is the least one.
      refine ⟨?_, ?_⟩
      · intro hi
        simp only [Option.some.injEq] at hi
        subst hi
        simpa using h
      · intro hfound
        obtain ⟨-, -, hmin⟩ := hfound
        cases i with
        | zero => rfl
        | succ i => exact absurd h (hmin 0 (Nat.succ_pos i))
    · rename_i h
      rw [List.isPrefixOf_iff_prefix] at h
      rw [Option.map_eq_some_iff]
      -- Nothing at the head: the positions are those of the tail, one up.
      refine ⟨?_, ?_⟩
      · intro hfound
        obtain ⟨k, hk, rfl⟩ := hfound
        obtain ⟨hle, hpat, hmin⟩ := ih.mp hk
        refine ⟨by simpa using hle, by simpa using hpat, ?_⟩
        intro j hj
        cases j with
        | zero => exact h
        | succ j => exact hmin j (by omega)
      · intro hfound
        obtain ⟨hle, hpat, hmin⟩ := hfound
        cases i with
        | zero => exact absurd hpat h
        | succ i =>
          refine ⟨i, ih.mpr ⟨by simpa using hle, hpat, ?_⟩, rfl⟩
          intro j hj
          exact hmin (j + 1) (by omega)

theorem search_eq_none {pat s : List α} :
    search pat s = none ↔ ∀ i ≤ s.length, ¬ pat <+: s.drop i := by
  induction s with
  | nil => simp [search]
  | cons a s ih =>
    simp only [search]
    split
    · rename_i h
      rw [List.isPrefixOf_iff_prefix] at h
      simp only [reduceCtorEq, false_iff]
      intro hall
      exact hall 0 (Nat.zero_le _) h
    · rename_i h
      rw [List.isPrefixOf_iff_prefix] at h
      rw [Option.map_eq_none_iff, ih]
      refine ⟨?_, ?_⟩
      · intro hall i hi
        cases i with
        | zero => exact h
        | succ i => exact hall i (by simpa using hi)
      · intro hall i hi
        exact hall (i + 1) (by simpa using hi)

omit [DecidableEq α] in
/-- A pattern that stands in `s ++ t` where it fits into `s` stands there in `s`. -/
theorem prefix_drop_append {pat s t : List α} {i : ℕ} (h : i + pat.length ≤ s.length) :
    pat <+: (s ++ t).drop i ↔ pat <+: s.drop i := by
  rw [List.drop_append_of_le_length (by omega)]
  refine ⟨?_, ?_⟩
  · intro hp
    exact List.prefix_of_prefix_length_le hp (List.prefix_append _ _)
      (by rw [List.length_drop]; omega)
  · intro hp
    exact hp.trans (List.prefix_append _ _)

omit [DecidableEq α] in
/-- A pattern at a position, element by element. -/
theorem cons_prefix_drop {a : α} {pat s : List α} {i : ℕ} :
    a :: pat <+: s.drop i ↔ s[i]? = some a ∧ pat <+: s.drop (i + 1) := by
  obtain h | h := Nat.lt_or_ge i s.length
  · rw [List.drop_eq_getElem_cons h, List.cons_prefix_cons, List.getElem?_eq_getElem h,
      Option.some.injEq, eq_comm]
  · rw [List.drop_eq_nil_of_le h, List.getElem?_eq_none h]
    simp

omit [DecidableEq α] in
/-- An element that the pattern does not have is in none of its places. -/
theorem not_prefix_of_foreign {pat s : List α} {i j : ℕ} {a : α} (hij : i ≤ j)
    (hj : j < i + pat.length) (ha : s[j]? = some a) (hforeign : a ∉ pat) : ¬ pat <+: s.drop i := by
  intro h
  obtain ⟨rest, hrest⟩ := h
  have hsame : (s.drop i)[j - i]? = pat[j - i]? := by
    rw [← hrest, List.getElem?_append_left (by omega)]
  rw [List.getElem?_drop, Nat.add_sub_cancel' hij, ha] at hsame
  exact hforeign (List.mem_of_getElem? hsame.symm)

omit [DecidableEq α] in
/-- A pattern does not see a change at an element that it does not have. -/
theorem prefix_drop_of_foreign {pat s t : List α} {j : ℕ} {a : α} (ha : s[j]? = some a)
    (hforeign : a ∉ pat) (hsame : ∀ k, k ≠ j → s[k]? = t[k]?) {i : ℕ} (h : pat <+: s.drop i) :
    pat <+: t.drop i := by
  rw [List.prefix_iff_getElem?] at h ⊢
  intro k hk
  have hread := h k hk
  rw [List.getElem?_drop] at hread ⊢
  have hother : i + k ≠ j := by
    rintro rfl
    rw [ha, Option.some.injEq] at hread
    exact hforeign (hread ▸ List.getElem_mem hk)
  rw [← hsame _ hother, hread]

theorem find_eq_some {s pat : List α} {pos i : ℕ} (hpos : pos ≤ s.length) :
    find s pat pos = some i ↔
      pos ≤ i ∧ i ≤ s.length ∧ pat <+: s.drop i ∧ ∀ j, pos ≤ j → j < i → ¬ pat <+: s.drop j := by
  unfold find
  rw [Option.map_eq_some_iff]
  refine ⟨?_, ?_⟩
  · intro hfound
    obtain ⟨k, hk, rfl⟩ := hfound
    obtain ⟨hle, hpat, hmin⟩ := search_eq_some.mp hk
    rw [List.length_drop] at hle
    rw [List.drop_drop] at hpat
    refine ⟨by omega, by omega, hpat, ?_⟩
    intro j hj hlt
    have := hmin (j - pos) (by omega)
    rwa [List.drop_drop, Nat.add_sub_cancel' hj] at this
  · intro hfound
    obtain ⟨hle, hi, hpat, hmin⟩ := hfound
    have hk : i - pos ≤ (s.drop pos).length := by rw [List.length_drop]; omega
    refine ⟨i - pos, search_eq_some.mpr ⟨hk, ?_, ?_⟩, by omega⟩
    · rwa [List.drop_drop, Nat.add_sub_cancel' hle]
    · intro j hj
      rw [List.drop_drop]
      exact hmin (pos + j) (by omega) (by omega)

/-- Where a match was found, the pattern fits. -/
theorem find_fits {s pat : List α} {pos i : ℕ} (hpos : pos ≤ s.length)
    (h : find s pat pos = some i) : i + pat.length ≤ s.length := by
  obtain ⟨-, hi, hpat, -⟩ := (find_eq_some hpos).mp h
  have := hpat.length_le
  rw [List.length_drop] at this
  omega

theorem find_eq_none {s pat : List α} {pos : ℕ} (hpos : pos ≤ s.length) :
    find s pat pos = none ↔ ∀ i, pos ≤ i → i ≤ s.length → ¬ pat <+: s.drop i := by
  unfold find
  rw [Option.map_eq_none_iff, search_eq_none]
  refine ⟨?_, ?_⟩
  · intro h i hle hi
    have := h (i - pos) (by rw [List.length_drop]; omega)
    rwa [List.drop_drop, Nat.add_sub_cancel' hle] at this
  · intro h i hi
    rw [List.length_drop] at hi
    rw [List.drop_drop]
    exact h (pos + i) (by omega) (by omega)

/-- A pattern is found if it stands somewhere. -/
theorem find_isSome_iff {s pat : List α} : (find s pat 0).isSome = true ↔ ∃ i, pat <+: s.drop i := by
  rw [← not_iff_not, Bool.not_eq_true, Option.isSome_eq_false_iff, Option.isNone_iff_eq_none,
    find_eq_none (Nat.zero_le _), not_exists]
  refine ⟨?_, ?_⟩
  · intro hnone i
    obtain hi | hi := le_total i s.length
    · exact hnone i (Nat.zero_le _) hi
    · -- behind the end there is what is at the end
      have hend := hnone s.length (Nat.zero_le _) le_rfl
      rwa [List.drop_length, ← List.drop_eq_nil_of_le hi] at hend
  · intro hall i _ _
    exact hall i

/-- From a position behind the first part, the first part does not matter. -/
theorem find_append_right {s t pat : List α} {d : ℕ} :
    find (s ++ t) pat (s.length + d) = (find t pat d).map (s.length + ·) := by
  unfold find
  rw [List.drop_append, List.drop_eq_nil_of_le (by omega), Nat.add_sub_cancel_left,
    List.nil_append, Option.map_map]
  congr 1
  funext k
  exact Nat.add_assoc _ _ _

/-- A match stays where it is when more is appended. -/
theorem find_append {s pat : List α} {pos i : ℕ} (t : List α) (hpos : pos ≤ s.length)
    (h : find s pat pos = some i) : find (s ++ t) pat pos = some i := by
  have hfits := find_fits hpos h
  obtain ⟨hle, hi, hpat, hmin⟩ := (find_eq_some hpos).mp h
  have hi' : i ≤ (s ++ t).length := by rw [List.length_append]; omega
  have hpos' : pos ≤ (s ++ t).length := hle.trans hi'
  -- An earlier match would fit into `s` too, as it starts before one that does.
  apply (find_eq_some hpos').mpr
  refine ⟨hle, hi', ?_, ?_⟩
  · rwa [prefix_drop_append hfits]
  · intro j hj hlt
    rw [prefix_drop_append (by omega)]
    exact hmin j hj hlt

/-! ## A single element -/

theorem search_single_append {c : α} {front : List α} (h : c ∉ front) (rest : List α) :
    search [c] (front ++ rest) = (search [c] rest).map (front.length + ·) := by
  induction front with
  | nil => simp
  | cons a front ih =>
    obtain ⟨ha, hfront⟩ := not_or.mp (mt List.mem_cons.mpr h)
    have hprefix : [c].isPrefixOf (a :: (front ++ rest)) = false := by simp [List.isPrefixOf, ha]
    rw [List.cons_append, search, hprefix, if_neg (by simp), ih hfront, Option.map_map]
    congr 1
    funext i
    simp only [Function.comp_apply, List.length_cons]
    omega

/-- An element is not found in a part without it. -/
theorem find_single_append {c : α} {front : List α} (h : c ∉ front) (rest : List α) :
    find (front ++ rest) [c] 0 = (find rest [c] 0).map (front.length + ·) := by
  rw [find, find, List.drop_zero, List.drop_zero, search_single_append h, Option.map_map,
    Option.map_map]
  congr 1
  funext i
  simp only [Function.comp_apply, Nat.zero_add]

theorem find_single_cons (c : α) (rest : List α) : find (c :: rest) [c] 0 = some 0 := by
  simp [find, search]

theorem find_single_eq_none {c : α} {s : List α} (h : c ∉ s) : find s [c] 0 = none := by
  have hfind := find_single_append h []
  rw [List.append_nil] at hfind
  rw [hfind]
  simp [find, search]

end Lib
