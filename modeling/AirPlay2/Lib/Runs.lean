import Mathlib.Data.List.Infix

/- Runs of a total step function, and the two ways a property can be asked of a
   run: of every state it passes through (`Always`) and of every step it takes
   (`Each`). An invariant that some steps break has an exact condition when the
   condition is enough for one step to keep the invariant and the invariant on
   both sides of a step gives the condition back; `always_iff_each` turns such a
   one-step fact into a fact about whole runs. `I` is what every step keeps
   unconditionally and the one-step facts may use. -/
namespace Lib

variable {σ ι : Type*} (step : σ → ι → σ)

/-- The state a run ends in. -/
def run (s : σ) (is : List ι) : σ := is.foldl step s

@[simp] theorem run_nil (s : σ) : run step s [] = s := rfl

@[simp] theorem run_cons (s : σ) (i : ι) (is : List ι) :
    run step s (i :: is) = run step (step s i) is := rfl

theorem run_append (s : σ) (is js : List ι) :
    run step s (is ++ js) = run step (run step s is) js := List.foldl_append

@[simp] theorem run_snoc (s : σ) (is : List ι) (i : ι) :
    run step s (is ++ [i]) = step (run step s is) i := by
  rw [run_append]; rfl

variable {step} in
/-- A part of the state that takes steps of its own makes a run of them. -/
theorem run_hom {τ : Type*} {step' : τ → ι → τ} (f : σ → τ)
    (h : ∀ s i, f (step s i) = step' (f s) i) (s : σ) (is : List ι) :
    f (run step s is) = run step' (f s) is :=
  (List.foldl_hom f fun s i => (h s i).symm).symm

/-- `P` holds in every state the run passes through, its two ends included. -/
def Always (P : σ → Prop) (s : σ) (is : List ι) : Prop :=
  ∀ pre, pre <+: is → P (run step s pre)

/-- `Q` holds of every step of the run, in the state the step is taken from. -/
def Each (Q : σ → ι → Prop) (s : σ) (is : List ι) : Prop :=
  ∀ pre i, pre ++ [i] <+: is → Q (run step s pre) i

/-- Some step had `Q` of it, and no step after it has `R`. -/
def Since (Q : σ → ι → Prop) (R : ι → Prop) (s : σ) (is : List ι) : Prop :=
  ∃ before i after, is = before ++ i :: after ∧ Q (run step s before) i ∧ ∀ j ∈ after, ¬ R j

variable {step} {P I : σ → Prop} {Q : σ → ι → Prop}

theorem prefix_of_snoc {pre is : List ι} {i : ι} (h : pre ++ [i] <+: is) : pre <+: is :=
  (List.prefix_append pre [i]).trans h

theorem each_nil (s : σ) : Each step Q s [] := by
  intro pre i hp
  simp at hp

theorem each_cons {s : σ} {i : ι} {is : List ι} :
    Each step Q s (i :: is) ↔ Q s i ∧ Each step Q (step s i) is := by
  refine ⟨?_, ?_⟩
  · intro h
    refine ⟨h [] i (List.prefix_append [i] is), ?_⟩
    intro pre j hp
    apply h (i :: pre) j
    apply List.cons_prefix_cons.mpr
    exact ⟨rfl, hp⟩
  · intro hboth pre j hp
    obtain ⟨hi, his⟩ := hboth
    cases pre with
    | nil =>
      obtain ⟨rfl, -⟩ := List.cons_prefix_cons.mp hp
      exact hi
    | cons k pre =>
      obtain ⟨rfl, hrest⟩ := List.cons_prefix_cons.mp hp
      exact his pre j hrest

/-- What one step keeps, a run keeps. -/
theorem run_induction (hstep : ∀ s i, P s → P (step s i)) {s : σ} (h : P s) (is : List ι) :
    P (run step s is) := by
  induction is generalizing s with
  | nil => exact h
  | cons i is ih => exact ih (hstep s i h)

/-- A step that keeps `P` where `Q` holds of it: `P` all along a run of such steps. -/
theorem always_of_each (hI : ∀ s i, I s → I (step s i))
    (hstep : ∀ s i, I s → P s → Q s i → P (step s i)) {s : σ} (hi : I s) (h : P s)
    {is : List ι} (hq : Each step Q s is) : Always step P s is := by
  intro pre
  -- By the last step of the prefix, which is what `Each` speaks of.
  induction pre using List.reverseRecOn with
  | nil =>
    intro _
    exact h
  | append_singleton pre i ih =>
    intro hp
    rw [run_snoc]
    have hpre := ih (prefix_of_snoc hp)
    exact hstep _ _ (run_induction hI hi pre) hpre (hq pre i hp)

/-- Where `P` on both sides of a step gives `Q` of it, `P` all along a run gives
    `Q` of each of its steps. -/
theorem each_of_always (hI : ∀ s i, I s → I (step s i))
    (hstep : ∀ s i, I s → P s → P (step s i) → Q s i) {s : σ} (hi : I s)
    {is : List ι} (hp : Always step P s is) : Each step Q s is := by
  intro pre i hpre
  have hafter := hp _ hpre
  rw [run_snoc] at hafter
  exact hstep _ _ (run_induction hI hi pre) (hp pre (prefix_of_snoc hpre)) hafter

/-- The exact condition on the steps for an invariant to hold all along a run. -/
theorem always_iff_each (hI : ∀ s i, I s → I (step s i))
    (hstep : ∀ s i, I s → P s → (P (step s i) ↔ Q s i)) {s : σ} (hi : I s) (h : P s)
    (is : List ι) : Always step P s is ↔ Each step Q s is :=
  ⟨each_of_always hI (fun s i hi hp => (hstep s i hi hp).mp) hi,
    always_of_each hI (fun s i hi hp => (hstep s i hi hp).mpr) hi h⟩

theorem not_since_nil {R : ι → Prop} (s : σ) : ¬ Since step Q R s [] := by
  intro hsince
  obtain ⟨before, i, after, h, -⟩ := hsince
  simp at h

theorem since_snoc {R : ι → Prop} {s : σ} {is : List ι} {i : ι} :
    Since step Q R s (is ++ [i]) ↔ Q (run step s is) i ∨ (Since step Q R s is ∧ ¬ R i) := by
  refine ⟨?_, ?_⟩
  · intro hsince
    obtain ⟨before, k, after, h, hq, hr⟩ := hsince
    -- The step that counts is the last one, or the last one spares it.
    cases after using List.reverseRecOn with
    | nil =>
      obtain ⟨rfl, h⟩ := List.append_inj' h rfl
      obtain rfl : i = k := by simpa using h
      exact Or.inl hq
    | append_singleton after j =>
      rw [← List.cons_append, ← List.append_assoc] at h
      obtain ⟨rfl, h⟩ := List.append_inj' h rfl
      obtain rfl : i = j := by simpa using h
      refine Or.inr ⟨⟨before, k, after, rfl, hq, ?_⟩, hr i (by simp)⟩
      intro m hm
      exact hr m (List.mem_append_left _ hm)
  · intro hor
    obtain hq | ⟨⟨before, k, after, rfl, hq, hr⟩, hi⟩ := hor
    · exact ⟨is, i, [], rfl, hq, by simp⟩
    · refine ⟨before, k, after ++ [i], by simp, hq, ?_⟩
      intro m hm
      obtain hm | hm := List.mem_append.mp hm
      · exact hr m hm
      · obtain rfl : m = i := by simpa using hm
        exact hi

/-- A property that `Q` switches on and `R` switches off, read off the history. `G` is
    what the run needs to have kept for its steps to be told apart. -/
theorem holds_iff_since {G H : σ → Prop} {R : ι → Prop} (hback : ∀ s i, G (step s i) → G s)
    (hstep : ∀ s i, G (step s i) → (H (step s i) ↔ Q s i ∨ (H s ∧ ¬ R i))) {s : σ} (h0 : ¬ H s)
    (is : List ι) : G (run step s is) → (H (run step s is) ↔ Since step Q R s is) := by
  induction is using List.reverseRecOn with
  | nil =>
    intro _
    exact iff_of_false h0 (not_since_nil s)
  | append_singleton is i ih =>
    intro hg
    rw [run_snoc] at hg ⊢
    rw [hstep _ _ hg, ih (hback _ _ hg), since_snoc]

/-- The same where the steps are known to switch the property only along the run. -/
theorem holds_iff_since_along {H : σ → Prop} {R : ι → Prop} {s : σ} (h0 : ¬ H s) (is : List ι)
    (hstep : ∀ pre i, pre ++ [i] <+: is →
      (H (step (run step s pre) i) ↔ Q (run step s pre) i ∨ (H (run step s pre) ∧ ¬ R i))) :
    H (run step s is) ↔ Since step Q R s is := by
  induction is using List.reverseRecOn with
  | nil => exact iff_of_false h0 (not_since_nil s)
  | append_singleton is i ih =>
    have hpre : H (run step s is) ↔ Since step Q R s is := by
      apply ih
      intro pre j hp
      exact hstep pre j (hp.trans (List.prefix_append is [i]))
    rw [run_snoc, hstep is i (List.prefix_refl _), hpre, since_snoc]

/-- What the steps taken keep, the run keeps. -/
theorem run_induction_along {s : σ} (h : P s) (is : List ι)
    (hstep : ∀ t i, i ∈ is → P t → P (step t i)) : P (run step s is) := by
  induction is generalizing s with
  | nil => exact h
  | cons i is ih =>
    apply ih (hstep s i (by simp) h)
    intro t j hj
    exact hstep t j (List.mem_cons_of_mem i hj)

/-! ## Adding up along a run -/

variable (step) in
/-- The sum of a quantity of each step. -/
def total (f : σ → ι → ℕ) : σ → List ι → ℕ
  | _, [] => 0
  | s, i :: is => f s i + total f (step s i) is

theorem total_add (f g : σ → ι → ℕ) (s : σ) (is : List ι) :
    total step (fun s i => f s i + g s i) s is = total step f s is + total step g s is := by
  induction is generalizing s with
  | nil => rfl
  | cons i is ih =>
    simp only [total, ih]
    omega

/-- What each step adds to a measure, the run adds in total. -/
theorem run_total {m : σ → ℕ} {f : σ → ι → ℕ} (hstep : ∀ s i, m (step s i) = m s + f s i) (s : σ)
    (is : List ι) : m (run step s is) = m s + total step f s is := by
  induction is generalizing s with
  | nil => rfl
  | cons i is ih =>
    rw [run_cons, ih, hstep, total, Nat.add_assoc]

/-- Inputs that add nothing in any state add nothing in total. -/
theorem total_of_forall_zero {f : σ → ι → ℕ} {is : List ι} (h : ∀ i ∈ is, ∀ s, f s i = 0) (s : σ) :
    total step f s is = 0 := by
  induction is generalizing s with
  | nil => rfl
  | cons i is ih =>
    rw [total, h i (by simp) s, ih (fun j hj => h j (List.mem_cons_of_mem i hj))]

theorem total_eq_zero {f : σ → ι → ℕ} {s : σ} {is : List ι} :
    total step f s is = 0 ↔ Each step (fun s i => f s i = 0) s is := by
  induction is generalizing s with
  | nil => exact iff_of_true rfl (each_nil s)
  | cons i is ih => rw [each_cons, ← ih, total, Nat.add_eq_zero_iff]

/-- Properties that agree wherever the invariant holds agree all along a run. -/
theorem each_congr {Q' : σ → ι → Prop} (hI : ∀ s i, I s → I (step s i))
    (h : ∀ s i, I s → (Q s i ↔ Q' s i)) {s : σ} (hi : I s) (is : List ι) :
    Each step Q s is ↔ Each step Q' s is := by
  refine ⟨?_, ?_⟩
  · intro hq pre i hp
    exact (h _ _ (run_induction hI hi pre)).mp (hq pre i hp)
  · intro hq pre i hp
    exact (h _ _ (run_induction hI hi pre)).mpr (hq pre i hp)

end Lib
