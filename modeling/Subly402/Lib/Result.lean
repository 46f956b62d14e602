/-
# Results

`Result` of the source is `Except`.  The combinators the readers are written with
(`ok_or`, `map(f).transpose()`), and the lemmas that take a reader that succeeded
apart: each `?` it passed had a value.
-/

import Mathlib.Tactic.Common

namespace Subly402
namespace Lib

variable {ε α β : Type}

/-- `ok_or`. -/
def okOrElse (o : Option α) (error : ε) : Except ε α :=
  match o with
  | some a => .ok a
  | none => .error error

/-- A value is returned. -/
@[simp]
theorem okOrElse_some (a : α) (error : ε) : okOrElse (some a) error = .ok a := rfl

/-- Nothing is the error. -/
@[simp]
theorem okOrElse_none (error : ε) : okOrElse (none : Option α) error = .error error := rfl

/-- A success is a value. -/
@[simp]
theorem okOrElse_eq_ok {o : Option α} {error : ε} {a : α} :
    okOrElse o error = .ok a ↔ o = some a := by
  cases o <;> simp

/-- `if c { return Err(error) }`. -/
def refuseIf (c : Prop) [Decidable c] (error : ε) : Except ε Unit :=
  if c then .error error else .ok ()

/-- A success is a condition that fails. -/
@[simp]
theorem refuseIf_eq_ok {c : Prop} [Decidable c] {error : ε} {u : Unit} :
    refuseIf c error = .ok u ↔ ¬ c := by
  unfold refuseIf
  split <;> simp_all

/-- A reader that succeeded passed its first `?`. -/
theorem bind_eq_ok {r : Except ε α} {f : α → Except ε β} {b : β} :
    (r >>= f) = .ok b ↔ ∃ a, r = .ok a ∧ f a = .ok b := by
  cases r with
  | error e => simp [bind, Except.bind]
  | ok a => simp [bind, Except.bind]

/-- Past a reader that succeeds. -/
theorem ok_bind (a : α) (f : α → Except ε β) : (Except.ok a >>= f) = f a := rfl

/-- A loop with `?` in its body keeps what its body keeps. -/
theorem foldlM_keep {P : β → Prop} {f : β → α → Except ε β}
    (hstep : ∀ b a b', P b → f b a = .ok b' → P b') {items : List α} {b b' : β} (hb : P b)
    (h : items.foldlM f b = .ok b') : P b' := by
  induction items generalizing b with
  | nil =>
    cases h
    exact hb
  | cons a items ih =>
    rw [List.foldlM_cons] at h
    obtain ⟨next, hnext, hrest⟩ := bind_eq_ok.1 h
    exact ih (hstep b a next hb hnext) hrest

/-- `option.map(f).transpose()`. -/
def traverseOption (f : α → Except ε β) : Option α → Except ε (Option β)
  | none => .ok none
  | some a => (f a).map some

/-- Nothing to do. -/
@[simp]
theorem traverseOption_none (f : α → Except ε β) : traverseOption f none = .ok none := rfl

/-- A success inside. -/
theorem traverseOption_some {f : α → Except ε β} {a : α} {b : β} (h : f a = .ok b) :
    traverseOption f (some a) = .ok (some b) := by
  simp [traverseOption, h, Except.map]

/-- Only a field that is not there reads as none. -/
theorem traverseOption_eq_none {f : α → Except ε β} {o : Option α} :
    traverseOption f o = .ok none ↔ o = none := by
  cases o with
  | none => simp
  | some a => cases h : f a <;> simp [traverseOption, h, Except.map]

/-- Two readers of a field that agree on what they read. -/
theorem traverseOption_ok_imp {ε' : Type} {f : α → Except ε β} {g : α → Except ε' β} {o : Option α}
    {o' : Option β} (h : traverseOption f o = .ok o')
    (hfg : ∀ a b, f a = .ok b → g a = .ok b) : traverseOption g o = .ok o' := by
  cases o with
  | none =>
    obtain rfl : none = o' := by simpa using h
    rfl
  | some a =>
    cases hf : f a with
    | error e => simp [traverseOption, hf, Except.map] at h
    | ok b =>
      obtain rfl : some b = o' := by simpa [traverseOption, hf, Except.map] using h
      exact traverseOption_some (hfg a b hf)

end Lib
end Subly402
