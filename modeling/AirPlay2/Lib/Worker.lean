import AirPlay2.Lib.Runs

/- A thread that loops while a flag is set, and its owner, who starts it by raising the flag and
   spawning it, and stops it by lowering the flag and joining it. `Worker` is what the two share.
   An owner that keeps to this order is `settled`, has `raised` the flag and not yet spawned, or
   has `lowered` it and not yet joined, and in each of these the flag and the thread fit together
   (`Worker.At`): so no thread is spawned over one that was not joined, and a thread has not ended
   while the flag is up. What a call comes to, said at every point of it, does not change on the way
   (`run_outcome`), and waiting for a thread ends if whatever it does brings it closer to its end
   (`run_waits`, `run_returns`). -/
namespace Lib

variable {π : Type*}

/-- The flag and the thread object, which is empty or stands for a thread at a point of its
    program. Assigning to one that is not empty ends the process; `overwritten` says whether
    this happened. -/
structure Worker (π : Type*) where
  flag : Bool := false
  thread : Option π := none
  overwritten : Bool := false
  deriving DecidableEq

/-- Where the owner is. -/
inductive Station where
  | settled
  | raised
  | lowered
  deriving DecidableEq

namespace Worker

def raise (w : Worker π) : Worker π := { w with flag := true }

def lower (w : Worker π) : Worker π := { w with flag := false }

def spawn (w : Worker π) (entry : π) : Worker π :=
  { w with thread := some entry, overwritten := w.overwritten || w.thread.isSome }

def join (w : Worker π) : Worker π := { w with thread := none }

/-- The thread goes on to another point of its program. -/
def move (w : Worker π) (p : π) : Worker π := { w with thread := some p }

/-- What holds of the flag and the thread where the owner is. -/
structure At (done : π) (station : Station) (w : Worker π) : Prop where
  overwritten : w.overwritten = false
  flag : w.flag = true ↔ station = .raised ∨ station = .settled ∧ w.thread.isSome = true
  alive : station = .settled → w.thread ≠ some done
  empty : station = .raised → w.thread = none

variable {done : π} {w : Worker π}

theorem at_new : ({} : Worker π).At done .settled := by
  refine ⟨rfl, ?_, ?_, ?_⟩ <;> simp

theorem At.raise (h : w.At done .settled) (hlow : w.flag = false) : w.raise.At done .raised := by
  have hnone : w.thread = none := by
    have := h.flag
    simpa [hlow] using this
  refine ⟨h.overwritten, ?_, ?_, fun _ => hnone⟩ <;> simp [Worker.raise]

theorem At.spawn (h : w.At done .raised) {entry : π} (hentry : entry ≠ done) :
    (w.spawn entry).At done .settled := by
  have hflag : w.flag = true := h.flag.mpr (Or.inl rfl)
  refine ⟨?_, ?_, ?_, ?_⟩
  · simp [Worker.spawn, h.overwritten, h.empty rfl]
  · simp [Worker.spawn, hflag]
  · simpa [Worker.spawn] using hentry
  · simp

/-- Giving up between the flag and the thread. -/
theorem At.abandon (h : w.At done .raised) : w.lower.At done .settled := by
  have hnone := h.empty rfl
  refine ⟨h.overwritten, ?_, ?_, ?_⟩ <;> simp [Worker.lower, hnone]

theorem At.lower {station : Station} (h : w.At done station) : w.lower.At done .lowered := by
  refine ⟨h.overwritten, ?_, ?_, ?_⟩ <;> simp [Worker.lower]

theorem At.join (h : w.At done .lowered) : w.join.At done .settled := by
  have hflag : w.flag = false := by
    have := h.flag
    simpa using this
  refine ⟨h.overwritten, ?_, ?_, ?_⟩ <;> simp [Worker.join, hflag]

/-- The thread ends only when the flag is down. -/
theorem At.move {station : Station} (h : w.At done station) {p q : π} (hp : w.thread = some p)
    (hend : q = done → w.flag = false) : (w.move q).At done station := by
  -- where the flag is raised there is no thread yet that could go on
  have hraised : station ≠ .raised := by
    intro hr
    rw [h.empty hr] at hp
    cases hp
  refine ⟨h.overwritten, ?_, ?_, fun hr => absurd hr hraised⟩
  · have := h.flag
    simpa [Worker.move, hp] using this
  · intro hs hq
    have hflag : w.flag = true := h.flag.mpr (Or.inr ⟨hs, by rw [hp]; rfl⟩)
    rw [hend (Option.some.inj hq)] at hflag
    cases hflag

/-- While the owner has something settled, the flag says whether there is a thread. -/
theorem At.flag_eq (h : w.At done .settled) : w.flag = w.thread.isSome := by
  rw [Bool.eq_iff_iff, h.flag]
  simp

theorem At.flag_lowered (h : w.At done .lowered) : w.flag = false := by
  have := h.flag
  simpa using this

@[simp] theorem thread_lower (w : Worker π) : w.lower.thread = w.thread := rfl
@[simp] theorem thread_raise (w : Worker π) : w.raise.thread = w.thread := rfl
@[simp] theorem thread_join (w : Worker π) : w.join.thread = none := rfl
@[simp] theorem thread_move (w : Worker π) (p : π) : (w.move p).thread = some p := rfl
@[simp] theorem thread_spawn (w : Worker π) (p : π) : (w.spawn p).thread = some p := rfl

end Worker

/-! ## Calls -/

section Calls

variable {σ ι α : Type*} {step : σ → ι → σ} {P : σ → Prop} {f : σ → α} {G : ι → Prop}

/-- What will have become of an object when the call that is being made returns is the same after
    every step, and so when it has returned. -/
theorem run_outcome (hkeeps : ∀ s i, P s → P (step s i))
    (hsame : ∀ s i, P s → G i → f (step s i) = f s) {s : σ} (h : P s) {is : List ι}
    (hgoes : ∀ i ∈ is, G i) : P (run step s is) ∧ f (run step s is) = f s := by
  refine run_induction_along (P := fun s' => P s' ∧ f s' = f s) ⟨h, rfl⟩ is ?_
  intro s' i hmem hboth
  obtain ⟨hs', heq⟩ := hboth
  exact ⟨hkeeps s' i hs', (hsame s' i hs' (hgoes i hmem)).trans heq⟩

/-- Inputs that do nothing leave a state alone. -/
theorem run_still {s : σ} {is : List ι} (h : ∀ i ∈ is, step s i = s) : run step s is = s := by
  refine run_induction_along (P := fun s' => s' = s) rfl is ?_
  intro s' i hmem heq
  rw [heq]
  exact h i hmem

end Calls

/-! ## Waiting -/

section Waiting

variable {σ ι : Type*} {step : σ → ι → σ} {Waiting : σ → Prop} {rank : σ → ℕ} {works : ι → Bool}

/-- While one waits for the rank to come down to zero, what works lowers it and nothing else
    raises it: it comes down within as many inputs that work as it is high. -/
theorem run_waits
    (hstep : ∀ s i, Waiting s → rank s ≠ 0 → Waiting (step s i) ∧ rank (step s i) ≤ rank s ∧
      (works i = true → rank (step s i) < rank s))
    {s : σ} (h : Waiting s) {is : List ι} (hlong : rank s ≤ is.countP works) :
    ∃ pre, pre <+: is ∧ Waiting (run step s pre) ∧ rank (run step s pre) = 0 := by
  induction is generalizing s with
  | nil => exact ⟨[], List.prefix_rfl, h, Nat.le_zero.mp hlong⟩
  | cons i is ih =>
    -- it is over as soon as the rank is down, whatever inputs are left
    by_cases hzero : rank s = 0
    · exact ⟨[], List.nil_prefix, h, hzero⟩
    · obtain ⟨hwaiting, hle, hlt⟩ := hstep s i h hzero
      rw [List.countP_cons] at hlong
      have hrest : rank (step s i) ≤ is.countP works := by
        cases hworks : works i with
        | true =>
          have := hlt hworks
          rw [hworks, if_pos rfl] at hlong
          omega
        | false =>
          rw [hworks, if_neg (by decide)] at hlong
          omega
      obtain ⟨pre, hpre, hdone⟩ := ih hwaiting hrest
      exact ⟨i :: pre, (List.prefix_cons_inj i).mpr hpre, hdone⟩

/-- What was waited for stays as it is, whoever is let run before the one that waits for it. -/
theorem run_returns {wakes : ι}
    (hstep : ∀ s i, Waiting s → rank s ≠ 0 → Waiting (step s i) ∧ rank (step s i) ≤ rank s ∧
      (works i = true → rank (step s i) < rank s))
    (hstill : ∀ s i, Waiting s → rank s = 0 → i ≠ wakes → step s i = s)
    {s : σ} (h : Waiting s) {is : List ι} (hlong : rank s ≤ is.countP works) :
    ∃ pre, pre <+: is ∧ Waiting (run step s pre) ∧ rank (run step s pre) = 0 ∧
      ∀ others, (∀ i ∈ others, i ≠ wakes) → run step s (pre ++ others) = run step s pre := by
  obtain ⟨pre, hpre, hwaiting, hzero⟩ := run_waits hstep h hlong
  refine ⟨pre, hpre, hwaiting, hzero, ?_⟩
  intro others hothers
  rw [run_append]
  exact run_still fun i hmem => hstill _ i hwaiting hzero (hothers i hmem)

end Waiting
end Lib
