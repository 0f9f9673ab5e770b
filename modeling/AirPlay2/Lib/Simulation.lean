import AirPlay2.Lib.Runs
import Mathlib.Data.List.Forall2

/- Two machines side by side. Each gives an observation for every input; related
   states, fed inputs that correspond, give observations that correspond and stay
   related. Then whole runs correspond (`observations_forall₂`). States of one machine
   are indistinguishable if no run tells them apart; every bisimulation is contained in
   this relation (`indistinguishable_of_bisimulation`), and it is one itself. -/
namespace Lib

variable {σ ι ο σ' ι' ο' : Type*}

/-- What is observed of a run, input by input. -/
def observations (step : σ → ι → σ) (observe : σ → ι → ο) : σ → List ι → List ο
  | _, [] => []
  | s, i :: is => observe s i :: observations step observe (step s i) is

variable {step : σ → ι → σ} {observe : σ → ι → ο} {step' : σ' → ι' → σ'}
  {observe' : σ' → ι' → ο'} {R : σ → σ' → Prop} {Inputs : ι → ι' → Prop} {Same : ο → ο' → Prop}

/-- Related options are both there or both not. -/
theorem rel_isSome {α β : Type*} {R : α → β → Prop} {a : Option α} {b : Option β}
    (h : Option.Rel R a b) : a.isSome = b.isSome := by
  cases h <;> rfl

theorem rel_map {α α' β β' : Type*} {R : α → β → Prop} {R' : α' → β' → Prop} {f : α → α'}
    {g : β → β'} (hmap : ∀ a b, R a b → R' (f a) (g b)) {a : Option α} {b : Option β}
    (h : Option.Rel R a b) : Option.Rel R' (a.map f) (b.map g) := by
  cases h with
  | none => exact .none
  | some h => exact .some (hmap _ _ h)

/-- What is done to the right one only. -/
theorem rel_map_right {α β β' : Type*} {R : α → β → Prop} {R' : α → β' → Prop} {g : β → β'}
    (hmap : ∀ a b, R a b → R' a (g b)) {a : Option α} {b : Option β} (h : Option.Rel R a b) :
    Option.Rel R' a (b.map g) := by
  cases h with
  | none => exact .none
  | some h => exact .some (hmap _ _ h)

theorem rel_refl {α : Type*} {R : α → α → Prop} (hrefl : ∀ a, R a a) (a : Option α) :
    Option.Rel R a a := by
  cases a with
  | none => exact .none
  | some a => exact .some (hrefl a)

theorem observations_forall₂
    (hstep : ∀ s s' i i', R s s' → Inputs i i' →
      Same (observe s i) (observe' s' i') ∧ R (step s i) (step' s' i'))
    {s : σ} {s' : σ'} (h : R s s') {is : List ι} {is' : List ι'}
    (hinputs : List.Forall₂ Inputs is is') :
    List.Forall₂ Same (observations step observe s is) (observations step' observe' s' is') := by
  induction hinputs generalizing s s' with
  | nil => exact .nil
  | cons hi _ ih =>
    obtain ⟨hsame, hnext⟩ := hstep _ _ _ _ h hi
    exact .cons hsame (ih hnext)

/-! ## States of one machine -/

/-- No inputs tell the two states apart. -/
def Indistinguishable (step : σ → ι → σ) (observe : σ → ι → ο) (s t : σ) : Prop :=
  ∀ is, observations step observe s is = observations step observe t is

namespace Indistinguishable

variable {s t u : σ}

theorem refl (s : σ) : Indistinguishable step observe s s := fun _ => rfl

theorem symm (h : Indistinguishable step observe s t) : Indistinguishable step observe t s :=
  fun is => (h is).symm

theorem trans (h : Indistinguishable step observe s t) (h' : Indistinguishable step observe t u) :
    Indistinguishable step observe s u := fun is => (h is).trans (h' is)

theorem observe_eq (h : Indistinguishable step observe s t) (i : ι) : observe s i = observe t i :=
  (List.cons.inj (h [i])).1

theorem next (h : Indistinguishable step observe s t) (i : ι) :
    Indistinguishable step observe (step s i) (step t i) := fun is =>
  (List.cons.inj (h (i :: is))).2

end Indistinguishable

/-- Bisimilar states are indistinguishable. -/
theorem indistinguishable_of_bisimulation {R : σ → σ → Prop}
    (hstep : ∀ s t i, R s t → observe s i = observe t i ∧ R (step s i) (step t i)) {s t : σ}
    (h : R s t) : Indistinguishable step observe s t := by
  intro is
  induction is generalizing s t with
  | nil => rfl
  | cons i is ih =>
    obtain ⟨hsame, hnext⟩ := hstep s t i h
    rw [observations, observations, hsame, ih hnext]

/-- A run leads from one state to the other. -/
def Reached (step : σ → ι → σ) (s t : σ) : Prop := ∃ is, run step s is = t

theorem Reached.refl (s : σ) : Reached step s s := ⟨[], rfl⟩

theorem Reached.next {s t : σ} (h : Reached step s t) (i : ι) : Reached step s (step t i) := by
  obtain ⟨is, rfl⟩ := h
  exact ⟨is ++ [i], run_snoc step s is i⟩

theorem Reached.induction {P : σ → Prop} (hstep : ∀ s i, P s → P (step s i)) {s t : σ}
    (h : Reached step s t) (hs : P s) : P t := by
  obtain ⟨is, rfl⟩ := h
  exact run_induction hstep hs is

end Lib
