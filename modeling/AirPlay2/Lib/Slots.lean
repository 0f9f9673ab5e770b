import Mathlib.Data.List.Induction

/- States with named slots, and lists of assignments to them. A slot may refuse
   values (`admits`), and need not be all of the state. After a list of admitted
   assignments each slot holds the last value assigned to it, or else what it held
   before (`get_assign`): what a slot holds depends only on the assignments to it. The
   same for one observation of a state and any steps is `foldl_written`. -/
namespace Lib

variable {α σ κ ν : Type*}

/-- How slots named by `κ`, with values in `ν`, are read and written in `σ`. -/
structure Slots (σ κ ν : Type*) where
  get : σ → κ → ν
  set : σ → κ → ν → σ
  admits : κ → ν → Prop
  get_set : ∀ s k v, admits k v → get (set s k v) k = v
  get_set_of_ne : ∀ s {j k} v, j ≠ k → get (set s k v) j = get s j

/-- The last value assigned to `k`. -/
def lastValue [DecidableEq κ] (k : κ) (as : List (κ × ν)) : Option ν :=
  ((as.filter (fun a => a.1 = k)).getLast?).map Prod.snd

theorem lastValue_append [DecidableEq κ] (k : κ) (as bs : List (κ × ν)) :
    lastValue k (as ++ bs) = (lastValue k bs).or (lastValue k as) := by
  rw [lastValue, List.filter_append, List.getLast?_append, Option.map_or]
  rfl

theorem lastValue_singleton [DecidableEq κ] (k : κ) (a : κ × ν) :
    lastValue k [a] = if a.1 = k then some a.2 else none := by
  unfold lastValue
  by_cases h : a.1 = k
  · rw [List.filter_cons_of_pos (by simpa using h), if_pos h]
    rfl
  · rw [List.filter_cons_of_neg (by simpa using h), if_neg h]
    rfl

theorem lastValue_eq_getLast? [DecidableEq κ] (k : κ) (as : List (κ × ν)) :
    lastValue k as = (as.filterMap (fun a => if a.1 = k then some a.2 else none)).getLast? := by
  rw [lastValue, ← List.getLast?_map, ← List.filterMap_eq_map, List.filterMap_filter]
  simp

theorem lastValue_eq_none [DecidableEq κ] {k : κ} {as : List (κ × ν)} (h : ∀ a ∈ as, a.1 ≠ k) :
    lastValue k as = none := by
  have hfilter : as.filter (fun a => a.1 = k) = [] := by
    apply List.filter_eq_nil_iff.mpr
    intro a ha
    simpa using h a ha
  rw [lastValue, hfilter]
  rfl

theorem exists_lastValue [DecidableEq κ] {k : κ} {v : ν} {as : List (κ × ν)} (h : (k, v) ∈ as) :
    ∃ w, lastValue k as = some w := by
  have hfilter : as.filter (fun a => a.1 = k) ≠ [] := by
    apply List.ne_nil_of_mem
    exact List.mem_filter.mpr ⟨h, by simp⟩
  rw [lastValue, List.getLast?_eq_some_getLast hfilter]
  exact ⟨_, rfl⟩

/-- What every step either writes or leaves is in the end what the last step that writes it
    writes. -/
theorem foldl_written (observe : σ → ν) {step : σ → α → σ} {written : α → Option ν}
    (h : ∀ s a, observe (step s a) = (written a).getD (observe s)) (as : List α) (s : σ) :
    observe (as.foldl step s) = (as.filterMap written).getLast?.getD (observe s) := by
  induction as using List.reverseRecOn with
  | nil => rfl
  | append_singleton as a ih =>
    rw [List.foldl_append, List.foldl_cons, List.foldl_nil, h, ih, List.filterMap_append,
      List.getLast?_append, List.filterMap_cons]
    cases written a <;> rfl

namespace Slots

variable (S : Slots σ κ ν)

def assign (s : σ) (as : List (κ × ν)) : σ := as.foldl (fun s a => S.set s a.1 a.2) s

@[simp] theorem assign_nil (s : σ) : S.assign s [] = s := rfl

@[simp] theorem assign_cons (s : σ) (a : κ × ν) (as : List (κ × ν)) :
    S.assign s (a :: as) = S.assign (S.set s a.1 a.2) as := rfl

theorem assign_append (s : σ) (as bs : List (κ × ν)) :
    S.assign s (as ++ bs) = S.assign (S.assign s as) bs := List.foldl_append

/-- What no assignment touches stays. -/
theorem assign_frame {τ : Type*} {rest : σ → τ} (h : ∀ s k v, rest (S.set s k v) = rest s) (s : σ)
    (as : List (κ × ν)) : rest (S.assign s as) = rest s := by
  induction as generalizing s with
  | nil => rfl
  | cons a as ih => rw [assign_cons, ih, h]

/-- **The last assignment counts.** -/
theorem get_assign [DecidableEq κ] (s : σ) {as : List (κ × ν)} (h : ∀ a ∈ as, S.admits a.1 a.2) (k : κ) :
    S.get (S.assign s as) k = (lastValue k as).getD (S.get s k) := by
  induction as using List.reverseRecOn with
  | nil => rfl
  | append_singleton as a ih =>
    rw [assign_append, assign_cons, assign_nil, lastValue_append, lastValue_singleton]
    by_cases hk : a.1 = k
    · subst hk
      rw [if_pos rfl, S.get_set _ _ _ (h a (by simp))]
      rfl
    · rw [if_neg hk, S.get_set_of_ne _ _ (Ne.symm hk), ih (fun b hb => h b (by simp [hb]))]
      rfl

end Slots
end Lib
