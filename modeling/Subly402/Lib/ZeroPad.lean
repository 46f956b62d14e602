/-
# Decimals with leading zeros

`format!("{n:020}")` writes a number with zeros in front, up to a width.  Numbers of one
width are ordered as texts as they are ordered as numbers (`zeroPad_lt_iff`), which is why
names that end in such a number can be sorted as texts.
-/

import Mathlib

namespace Subly402
namespace Lib

/-- The decimal with zeros in front, up to a width. -/
def zeroPad (width n : ℕ) : List Char :=
  List.replicate (width - (Nat.toDigits 10 n).length) '0' ++ Nat.toDigits 10 n

/-- The last digits of a number, as many as the width says. -/
def fixedDigits : ℕ → ℕ → List Char
  | 0, _ => []
  | width + 1, n => fixedDigits width (n / 10) ++ [Nat.digitChar (n % 10)]

/-- The width is the length. -/
@[simp]
theorem length_fixedDigits (width n : ℕ) : (fixedDigits width n).length = width := by
  induction width generalizing n with
  | zero => rfl
  | succ width ih => simp [fixedDigits, ih]

/-- Zero is all zeros. -/
theorem fixedDigits_zero (width : ℕ) : fixedDigits width 0 = List.replicate width '0' := by
  induction width with
  | zero => rfl
  | succ width ih =>
    rw [fixedDigits, Nat.zero_div, ih, List.replicate_succ']
    rfl

/-- Padding gives the fixed digits of a number that fits. -/
theorem zeroPad_eq_fixedDigits {width n : ℕ} (hwidth : 0 < width) (hn : n < 10 ^ width) :
    zeroPad width n = fixedDigits width n := by
  induction width generalizing n with
  | zero => omega
  | succ width ih =>
    by_cases hsmall : n < 10
    · have hdiv : n / 10 = 0 := Nat.div_eq_of_lt hsmall
      rw [zeroPad, Nat.toDigits_of_lt_base hsmall, fixedDigits, hdiv, fixedDigits_zero,
        Nat.mod_eq_of_lt hsmall]
      rfl
    · have hpos : 0 < width := by
        rcases Nat.eq_zero_or_pos width with rfl | hpos
        · omega
        · exact hpos
      have hdiv : n / 10 < 10 ^ width := by
        rw [pow_succ] at hn
        omega
      have hdigits : Nat.toDigits 10 n = Nat.toDigits 10 (n / 10) ++ [Nat.digitChar (n % 10)] :=
        Nat.toDigits_of_base_le (by omega) (by omega)
      rw [fixedDigits, ← ih hpos hdiv, zeroPad, zeroPad, hdigits, List.length_append,
        List.length_singleton, Nat.add_sub_add_right, List.append_assoc]

/-! ### Order -/

/-- Texts that begin with as many characters compare by these, then by the rest. -/
theorem append_lt_append_iff {α : Type} [LinearOrder α] {l₁ l₂ t₁ t₂ : List α}
    (hlength : l₁.length = l₂.length) :
    l₁ ++ t₁ < l₂ ++ t₂ ↔ l₁ < l₂ ∨ l₁ = l₂ ∧ t₁ < t₂ := by
  induction l₁ generalizing l₂ with
  | nil =>
    have hnil : l₂ = [] := List.length_eq_zero_iff.1 hlength.symm
    simp [hnil]
  | cons a l₁ ih =>
    cases l₂ with
    | nil => cases hlength
    | cons b l₂ =>
      rw [List.cons_append, List.cons_append, List.cons_lt_cons_iff, List.cons_lt_cons_iff,
        ih (Nat.succ.inj hlength), List.cons.injEq]
      tauto

/-- Digits are ordered as their characters. -/
theorem digitChar_lt_iff {a b : ℕ} (ha : a < 10) (hb : b < 10) :
    Nat.digitChar a < Nat.digitChar b ↔ a < b := by
  have hval : Nat.digitChar a < Nat.digitChar b ↔
      (Nat.digitChar a).toNat < (Nat.digitChar b).toNat := Iff.rfl
  rw [hval, Nat.toNat_digitChar_of_lt_ten ha, Nat.toNat_digitChar_of_lt_ten hb]
  omega

/-- Fixed digits are ordered as their numbers. -/
theorem fixedDigits_lt_iff {width a b : ℕ} (ha : a < 10 ^ width) (hb : b < 10 ^ width) :
    fixedDigits width a < fixedDigits width b ↔ a < b := by
  induction width generalizing a b with
  | zero =>
    have ha0 : a = 0 := by simpa using ha
    have hb0 : b = 0 := by simpa using hb
    simp [ha0, hb0, fixedDigits]
  | succ width ih =>
    rw [pow_succ] at ha hb
    have ha' : a / 10 < 10 ^ width := by omega
    have hb' : b / 10 < 10 ^ width := by omega
    -- equal texts are of equal numbers, since neither is before the other
    have heq : fixedDigits width (a / 10) = fixedDigits width (b / 10) ↔ a / 10 = b / 10 := by
      refine ⟨fun h => ?_, fun h => by rw [h]⟩
      have hab := (ih ha' hb').not.1 (by rw [h]; exact lt_irrefl _)
      have hba := (ih hb' ha').not.1 (by rw [h]; exact lt_irrefl _)
      omega
    have hlast : [Nat.digitChar (a % 10)] < [Nat.digitChar (b % 10)] ↔ a % 10 < b % 10 := by
      rw [List.cons_lt_cons_iff, digitChar_lt_iff (Nat.mod_lt _ (by omega))
        (Nat.mod_lt _ (by omega))]
      simp
    rw [fixedDigits, fixedDigits, append_lt_append_iff (by simp), ih ha' hb', heq, hlast]
    omega

/-- **Numbers of one width are ordered as their texts are.** -/
theorem zeroPad_lt_iff {width a b : ℕ} (ha : a < 10 ^ width) (hb : b < 10 ^ width) :
    zeroPad width a < zeroPad width b ↔ a < b := by
  rcases Nat.eq_zero_or_pos width with rfl | hwidth
  · have ha0 : a = 0 := by simpa using ha
    have hb0 : b = 0 := by simpa using hb
    simp [ha0, hb0]
  · rw [zeroPad_eq_fixedDigits hwidth ha, zeroPad_eq_fixedDigits hwidth hb,
      fixedDigits_lt_iff ha hb]

/-- Padded numbers that fit are told apart. -/
theorem zeroPad_inj {width a b : ℕ} (ha : a < 10 ^ width) (hb : b < 10 ^ width)
    (h : zeroPad width a = zeroPad width b) : a = b := by
  have hab := (zeroPad_lt_iff ha hb).not.1 (by rw [h]; exact lt_irrefl _)
  have hba := (zeroPad_lt_iff hb ha).not.1 (by rw [h]; exact lt_irrefl _)
  omega

/-- A padded number that fits has the width. -/
theorem length_zeroPad {width n : ℕ} (hwidth : 0 < width) (hn : n < 10 ^ width) :
    (zeroPad width n).length = width := by
  rw [zeroPad_eq_fixedDigits hwidth hn, length_fixedDigits]

end Lib
end Subly402
