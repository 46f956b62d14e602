/-
# Runs

A system that takes one step for each thing that happens: `next` is the state after a
step, and a run is a list of happenings.  `AllSteps` says that a condition on the state
and the happening holds at every step of a run, and `AllSteps.keep` is the induction that
every result about runs uses: what each step keeps under the condition, the run keeps.
`runSteps_keep_from` is the same induction from some moment of the run on.
-/

import Mathlib.Tactic.Common

namespace Subly402
namespace Lib

variable {σ α : Type}

/-- The state after a run. -/
def runSteps (next : σ → α → σ) (s : σ) (acts : List α) : σ := acts.foldl next s

/-- The condition holds before every step of a run. -/
def AllSteps (next : σ → α → σ) (cond : σ → α → Prop) : σ → List α → Prop
  | _, [] => True
  | s, act :: acts => cond s act ∧ AllSteps next cond (next s act) acts

instance AllSteps.decidable (next : σ → α → σ) (cond : σ → α → Prop)
    [∀ s act, Decidable (cond s act)] : ∀ s acts, Decidable (AllSteps next cond s acts)
  | _, [] => .isTrue trivial
  | s, act :: acts =>
    have := AllSteps.decidable next cond (next s act) acts
    inferInstanceAs (Decidable (cond s act ∧ _))

/-- **What every step keeps, a run keeps.** -/
theorem runSteps_keep {next : σ → α → σ} {P : σ → Prop} (hstep : ∀ s act, P s → P (next s act))
    {s : σ} (hs : P s) (acts : List α) : P (runSteps next s acts) := by
  induction acts generalizing s with
  | nil => exact hs
  | cons act acts ih => exact ih (hstep s act hs)

/-- **What every step keeps under the condition, a run keeps.** -/
theorem AllSteps.keep {next : σ → α → σ} {cond : σ → α → Prop} {P : σ → Prop}
    (hstep : ∀ s act, P s → cond s act → P (next s act)) {s : σ} {acts : List α} (hs : P s)
    (h : AllSteps next cond s acts) : P (runSteps next s acts) := by
  induction acts generalizing s with
  | nil => exact hs
  | cons act acts ih => exact ih (hstep s act hs h.1) h.2

/-- **A run has a property throughout exactly where each step meets the condition**, if the condition
is what a step needs to come to a state with the property. -/
theorem forall_take_iff_allSteps {next : σ → α → σ} {cond : σ → α → Prop} {I P : σ → Prop}
    (hprop : ∀ s, I s → P s) (hkeep : ∀ s act, I s → cond s act → I (next s act))
    (hneed : ∀ s act, I s → P (next s act) → cond s act) {s : σ} (hs : I s) (acts : List α) :
    (∀ n, P (runSteps next s (acts.take n))) ↔ AllSteps next cond s acts := by
  induction acts generalizing s with
  | nil => exact iff_of_true (fun n => by rw [List.take_nil]; exact hprop s hs) trivial
  | cons act acts ih =>
    constructor
    · intro h
      have hcond : cond s act := hneed s act hs (h 1)
      exact ⟨hcond, (ih (hkeep s act hs hcond)).1 fun n => h (n + 1)⟩
    · rintro ⟨hcond, hrest⟩ n
      cases n with
      | zero => exact hprop s hs
      | succ n => exact (ih (hkeep s act hs hcond)).2 hrest n

/-! ### The states of a run -/

section Prefixes

variable {next : σ → α → σ} {s : σ} {acts : List α} {n : ℕ}

/-- The state before the next step leads to the state after it. -/
theorem runSteps_take_succ {act : α} (h : acts[n]? = some act) :
    runSteps next s (acts.take (n + 1)) = next (runSteps next s (acts.take n)) act := by
  rw [List.take_add_one, h, runSteps, List.foldl_append]
  rfl

theorem runSteps_take_succ_of_none (h : acts[n]? = none) :
    runSteps next s (acts.take (n + 1)) = runSteps next s (acts.take n) := by
  rw [List.take_add_one, h, Option.toList_none, List.append_nil]

/-- The condition holds at every step. -/
theorem AllSteps.at {cond : σ → α → Prop} {act : α} (h : AllSteps next cond s acts)
    (hact : acts[n]? = some act) : cond (runSteps next s (acts.take n)) act := by
  induction acts generalizing s n with
  | nil => cases hact
  | cons first acts ih =>
    cases n with
    | zero =>
      cases hact
      exact h.1
    | succ n => exact ih h.2 hact

/-- A condition that holds at every step holds along the run. -/
theorem AllSteps.of_at {cond : σ → α → Prop}
    (h : ∀ n act, acts[n]? = some act → cond (runSteps next s (acts.take n)) act) :
    AllSteps next cond s acts := by
  induction acts generalizing s with
  | nil => trivial
  | cons first acts ih => exact ⟨h 0 first rfl, ih fun n act hact => h (n + 1) act hact⟩

/-- **What every step from some moment on keeps, holds from then on.** -/
theorem runSteps_keep_from {P : σ → Prop} {k : ℕ} (hk : P (runSteps next s (acts.take k)))
    (hstep : ∀ m act, acts[m]? = some act → P (runSteps next s (acts.take m)) →
      P (next (runSteps next s (acts.take m)) act)) (hkn : k ≤ n) :
    P (runSteps next s (acts.take n)) := by
  obtain ⟨d, rfl⟩ := Nat.exists_eq_add_of_le hkn
  clear hkn
  induction d with
  | zero => exact hk
  | succ d ih =>
    rw [← Nat.add_assoc]
    cases h : acts[k + d]? with
    | none => rwa [runSteps_take_succ_of_none h]
    | some act =>
      rw [runSteps_take_succ h]
      exact hstep (k + d) act h ih

end Prefixes

end Lib
end Subly402
