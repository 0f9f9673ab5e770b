import Mathlib.Data.List.Nodup
import Mathlib.Data.List.Range
import Mathlib.Data.List.Perm.Basic

/- In-order delivery of an indexed stream, over any payload and with indices that
   never wrap. The state is the log of first copies, in arrival order, and what
   has been taken out; a structure of this kind cannot hold two copies of an
   index, and what was taken out is the first copies of 0, 1, 2, … in order. This
   is what a reorder buffer is for; an implementation with bounded numbers is
   related to it as long as its numbers stay unambiguous. -/
namespace Lib

/-- First copies by index, and the payloads taken out so far. -/
structure Reorder (α : Type*) where
  log : List (ℕ × α) := []
  out : List α := []
  nodup : (log.map Prod.fst).Nodup := by simp
  served : out.map some = (List.range out.length).map (fun i => log.lookup i) := by simp

namespace Reorder

open scoped List

variable {α : Type*}

def indices (r : Reorder α) : List ℕ := r.log.map Prod.fst

/-- What has arrived and has not been taken out. -/
def pending (r : Reorder α) : List (ℕ × α) := r.log.filter (fun e => r.out.length ≤ e.1)

theorem mem_of_lookup {i : ℕ} {x : α} {l : List (ℕ × α)} (h : l.lookup i = some x) :
    (i, x) ∈ l := by
  induction l with
  | nil => simp at h
  | cons e l ih =>
    rw [List.lookup_cons] at h
    cases he : i == e.1 with
    | true =>
      rw [he] at h
      simp only [beq_iff_eq] at he
      simp only [Option.some.injEq] at h
      subst he h
      exact List.mem_cons_self
    | false =>
      rw [he] at h
      exact List.mem_cons_of_mem _ (ih h)

theorem lookup_of_mem {i : ℕ} {x : α} {l : List (ℕ × α)} (hn : (l.map Prod.fst).Nodup)
    (h : (i, x) ∈ l) : l.lookup i = some x := by
  induction l with
  | nil => simp at h
  | cons e l ih =>
    simp only [List.map_cons, List.nodup_cons] at hn
    rw [List.lookup_cons]
    obtain rfl | h := List.mem_cons.mp h
    · simp
    · have hne : (i == e.1) = false := by
        rw [beq_eq_false_iff_ne]
        intro hi
        apply hn.1
        rw [← hi]
        apply List.mem_map.mpr
        exact ⟨_, h, rfl⟩
      rw [hne]
      exact ih hn.2 h

theorem lookup_append_some {i : ℕ} {x : α} {l m : List (ℕ × α)} (h : l.lookup i = some x) :
    (l ++ m).lookup i = some x := by
  induction l with
  | nil => simp at h
  | cons e l ih =>
    rw [List.lookup_cons] at h
    rw [List.cons_append, List.lookup_cons]
    cases he : i == e.1 with
    | true => rwa [he] at h
    | false =>
      rw [he] at h
      exact ih h

theorem served_lookup (r : Reorder α) {i : ℕ} (h : i < r.out.length) :
    ∃ x, r.log.lookup i = some x := by
  have hs := congrArg (fun l => l[i]?) r.served
  simp only [List.getElem?_map, List.getElem?_range h, Option.map_some,
    List.getElem?_eq_getElem h] at hs
  exact ⟨r.out[i], by simpa using hs.symm⟩

/-- Every index taken out is in the log. -/
theorem taken_mem (r : Reorder α) {i : ℕ} (h : i < r.out.length) : i ∈ r.indices := by
  obtain ⟨x, hx⟩ := r.served_lookup h
  exact List.mem_map_of_mem (mem_of_lookup hx)

/-- The first copy of an index. -/
def arrive (r : Reorder α) (i : ℕ) (x : α) (h : i ∉ r.indices) : Reorder α where
  log := r.log ++ [(i, x)]
  out := r.out
  nodup := by
    rw [List.map_append, List.nodup_append]
    refine ⟨r.nodup, by simp, ?_⟩
    intro j hj k hk hjk
    simp only [List.map_cons, List.map_nil, List.mem_singleton] at hk
    apply h
    rwa [← hk, ← hjk]
  served := by
    rw [r.served]
    apply List.map_congr_left
    intro j hj
    obtain ⟨y, hy⟩ := r.served_lookup (List.mem_range.mp hj)
    rw [hy, lookup_append_some hy]

/-- The next index, taken out. -/
def take (r : Reorder α) (x : α) (h : r.log.lookup r.out.length = some x) : Reorder α where
  log := r.log
  out := r.out ++ [x]
  nodup := r.nodup
  served := by
    rw [List.length_append, List.length_singleton, List.range_succ, List.map_append,
      List.map_append, r.served]
    simp [h]

theorem pending_arrive (r : Reorder α) {i : ℕ} {x : α} (h : i ∉ r.indices) :
    (r.arrive i x h).pending = r.pending ++ [(i, x)] := by
  have hle : r.out.length ≤ i := by
    by_contra hlt
    exact h (r.taken_mem (by omega))
  show (r.log ++ [(i, x)]).filter (fun e => r.out.length ≤ e.1) = r.pending ++ [(i, x)]
  rw [List.filter_append]
  simp [pending, hle]

/-- Taking the next index out removes its entry, and no other, from what is
    pending. -/
theorem pending_take (r : Reorder α) {x : α} (h : r.log.lookup r.out.length = some x) :
    r.pending.Perm ((r.out.length, x) :: (r.take x h).pending) := by
  have hmem := mem_of_lookup h
  have hn := r.nodup
  simp only [pending, take, List.length_append, List.length_singleton]
  generalize r.out.length = k at hmem
  generalize r.log = l at hmem hn
  induction l with
  | nil => simp at hmem
  | cons e l ih =>
    simp only [List.map_cons, List.nodup_cons] at hn
    obtain rfl | hmem := List.mem_cons.mp hmem
    · have hrest : l.filter (fun e => k ≤ e.1) = l.filter (fun e => k + 1 ≤ e.1) := by
        apply List.filter_congr
        intro d hd
        have : d.1 ≠ k := fun he => hn.1 (List.mem_map.mpr ⟨d, hd, he⟩)
        simp only [decide_eq_decide]
        omega
      simp [hrest]
    · have hne : e.1 ≠ k := fun he => hn.1 (List.mem_map.mpr ⟨_, hmem, he.symm⟩)
      have ih := ih hmem hn.2
      by_cases hle : k ≤ e.1
      · have hle' : k + 1 ≤ e.1 := by omega
        simp only [List.filter_cons, hle, hle', decide_true, if_true]
        calc e :: l.filter (fun d => k ≤ d.1)
            ~ e :: (k, x) :: l.filter (fun d => k + 1 ≤ d.1) := ih.cons e
          _ ~ (k, x) :: e :: l.filter (fun d => k + 1 ≤ d.1) := .swap _ _ _
      · have hle' : ¬ k + 1 ≤ e.1 := by omega
        simpa only [List.filter_cons, hle, hle', decide_false, Bool.false_eq_true, if_false]
          using ih

/-- What arrived is what was taken out and what is pending. -/
theorem length_log (r : Reorder α) : r.log.length = r.out.length + r.pending.length := by
  -- The log entries below the next index are one for each index taken out.
  have htaken : (r.log.filter (fun e => ¬ r.out.length ≤ e.1)).length = r.out.length := by
    have hperm : ((r.log.filter (fun e => ¬ r.out.length ≤ e.1)).map Prod.fst).Perm
        (List.range r.out.length) := by
      rw [List.perm_ext_iff_of_nodup]
      · intro i
        simp only [List.mem_map, List.mem_filter, decide_eq_true_eq, not_le, List.mem_range]
        refine ⟨?_, ?_⟩
        · intro hmem
          obtain ⟨e, ⟨-, hlt⟩, rfl⟩ := hmem
          exact hlt
        · intro hlt
          obtain ⟨e, he, rfl⟩ := List.mem_map.mp (r.taken_mem hlt)
          exact ⟨e, ⟨he, hlt⟩, rfl⟩
      · exact r.nodup.sublist (List.filter_sublist.map _)
      · exact List.nodup_range
    simpa using hperm.length_eq
  have hsplit := (List.filter_append_perm (fun e => decide (r.out.length ≤ e.1)) r.log).length_eq
  simp only [List.length_append] at hsplit
  unfold pending
  simp only [decide_not] at htaken
  omega

/-- All indices below `n` arrived, no other did, and the next is not there: the
    whole stream has been taken out, once and in order. -/
theorem all_taken (r : Reorder α) {n : ℕ} (hall : ∀ i < n, i ∈ r.indices)
    (hlt : ∀ i ∈ r.indices, i < n) (hnext : r.log.lookup r.out.length = none) :
    r.out.length = n ∧ r.pending = [] := by
  have hle : r.out.length ≤ n := by
    by_contra hgt
    have := hlt (r.out.length - 1) (r.taken_mem (by omega))
    omega
  have hge : n ≤ r.out.length := by
    by_contra hgt
    obtain ⟨e, he, hek⟩ := List.mem_map.mp (hall r.out.length (by omega))
    have hl := lookup_of_mem r.nodup he
    rw [hek, hnext] at hl
    simp at hl
  refine ⟨Nat.le_antisymm hle hge, ?_⟩
  unfold pending
  rw [List.filter_eq_nil_iff]
  intro e he
  have := hlt e.1 (List.mem_map_of_mem he)
  simp only [decide_eq_true_eq, not_le]
  omega

end Reorder
end Lib
