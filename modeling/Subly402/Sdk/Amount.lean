/-
# Amounts in a client's policy

`parseAmountToAtomic` in `sdk/src/subly402.ts` turns the amount of a policy into atomic
units of a token.  A text of digits alone is already in atomic units, a text with a
dollar sign or a point is in whole tokens; both are read with a number of decimals that
the caller gives.
-/

import Subly402.Lib.Js

namespace Subly402
namespace Sdk

open Lib

/-- An amount in a configuration, `string | number`. -/
inductive Amount where
  | text (text : String)
  /-- A number, `none` where it is not finite. -/
  | number (value : Option ℚ)

/-- The digits before and after the point, `/^\d+(\.\d+)?$/` and `split(".")`. -/
def splitDecimal (chars : List Char) : Option (List Char × List Char) :=
  let whole := chars.takeWhile (· ≠ '.')
  match chars.dropWhile (· ≠ '.') with
  | [] => if (Json.decimal? whole).isSome then some (whole, []) else none
  | _ :: fraction =>
    if (Json.decimal? whole).isSome ∧ (Json.decimal? fraction).isSome then some (whole, fraction)
    else none

/-- The number that some digits spell, `BigInt(digits || "0")`. -/
def number (digits : List Char) : ℕ := digits.foldl (fun n c => 10 * n + (c.toNat - 48)) 0

/-- The text without its dollar sign. -/
def withoutDollar : List Char → List Char
  | '$' :: chars => chars
  | chars => chars

/-- The number of decimals that an amount is read with.  It is the exponent and the count of
`"0".repeat`, which is where anything that is not a whole number throws. -/
def decimalsOf (E : Js.Engine) (decimals : Option Json) : Except Js.Error ℕ := do
  let e ← Js.bigInt E decimals
  refuseIf (e < 0) .builtin
  return e.toNat

/-- `parseAmountToAtomic`. -/
def parseAmountToAtomic (E : Js.Engine) (amount : Amount) (decimals : Option Json) :
    Except Js.Error ℤ :=
  match amount with
  | .number none => .error (.error "Subly402 amount must be a non-negative number")
  | .number (some value) =>
    if value < 0 then .error (.error "Subly402 amount must be a non-negative number")
    else .ok ⌊value⌋
  | .text text =>
    let trimmed := Js.trim text.toList
    match Json.decimal? trimmed with
    | some n => .ok n
    | none => do
      let (whole, fraction) ← okOrElse (splitDecimal (withoutDollar trimmed))
        (.error ("Unsupported Subly402 amount: " ++ text))
      refuseIf (E.exceeds fraction.length decimals) (.error ("Subly402 amount " ++ text
        ++ " has more than " ++ Js.display E decimals ++ " decimal places"))
      let e ← decimalsOf E decimals
      return number whole * 10 ^ e + number ((fraction ++ List.replicate e '0').take e)

/-- What a dollar or decimal text says, in whole tokens. -/
def policyValue (text : String) : Option ℚ := do
  let (whole, fraction) ← splitDecimal (withoutDollar (Js.trim text.toList))
  return number whole + number fraction / 10 ^ fraction.length

/-! ### The reading and the value -/

/-- The digits that follow move the number up. -/
theorem number_append (digits digits' : List Char) :
    number (digits ++ digits') = number digits * 10 ^ digits'.length + number digits' := by
  induction digits' using List.reverseRecOn with
  | nil => simp [number]
  | append_singleton digits' c ih =>
    have hlast (l : List Char) : number (l ++ [c]) = 10 * number l + (c.toNat - 48) := by
      unfold number
      rw [List.foldl_append]
      rfl
    rw [← List.append_assoc, hlast, hlast, ih, List.length_append, List.length_singleton]
    ring

/-- Zeros spell nothing. -/
theorem number_zeros (k : ℕ) : number (List.replicate k '0') = 0 := by
  induction k with
  | zero => rfl
  | succ k ih =>
    rw [List.replicate_succ', number_append, ih]
    rfl

/-- The number that a text of digits spells. -/
theorem decimal_eq_number {digits : List Char} {n : ℕ} (h : Json.decimal? digits = some n) :
    n = number digits := by
  unfold Json.decimal? at h
  split at h
  · cases h
    rfl
  · cases h

/-- A text of digits has no point and no dollar sign. -/
theorem splitDecimal_of_decimal {digits : List Char} {n : ℕ} (h : Json.decimal? digits = some n) :
    withoutDollar digits = digits ∧ splitDecimal digits = some (digits, []) := by
  obtain ⟨-, hdigits⟩ := Js.digits_of_decimal h
  have hpoint : ∀ c ∈ digits, decide (c ≠ '.') = true := fun c hc => by
    have hc := hdigits c hc
    rw [decide_eq_true_iff]
    rintro rfl
    cases hc
  constructor
  · unfold withoutDollar
    split
    · have hdollar := hdigits '$' (by simp)
      cases hdollar
    · rfl
  · unfold splitDecimal
    rw [List.takeWhile_eq_self_iff.2 hpoint, List.dropWhile_eq_nil_iff.2 hpoint]
    simp [h]

/-- The padded digits after the point, of which only so many are kept. -/
theorem number_padded_le (fraction : List Char) (e : ℕ) :
    (number ((fraction ++ List.replicate e '0').take e) : ℚ)
      ≤ number fraction / 10 ^ fraction.length * 10 ^ e := by
  set padded := fraction ++ List.replicate e '0' with hpadded
  have hdropped : (padded.drop e).length = fraction.length := by simp [hpadded]
  have hkept : number (padded.take e) * 10 ^ fraction.length ≤ number fraction * 10 ^ e := by
    calc number (padded.take e) * 10 ^ fraction.length
        ≤ number (padded.take e) * 10 ^ (padded.drop e).length + number (padded.drop e) := by
          rw [hdropped]
          exact Nat.le_add_right _ _
      _ = number padded := by rw [← number_append, List.take_append_drop]
      _ = number fraction * 10 ^ e := by
          rw [hpadded, number_append, number_zeros, List.length_replicate, Nat.add_zero]
  rw [div_mul_eq_mul_div, le_div_iff₀ (by positivity)]
  exact_mod_cast hkept

/-- **No text is read as more than its value.** -/
theorem parseAmountToAtomic_le {E : Js.Engine} {text : String} {decimals : Option Json} {m : ℤ}
    {v : ℚ} {e : ℕ} (hm : parseAmountToAtomic E (.text text) decimals = .ok m)
    (hv : policyValue text = some v) (he : ∀ e', decimalsOf E decimals = .ok e' → e' ≤ e) :
    (m : ℚ) ≤ v * 10 ^ e := by
  unfold policyValue at hv
  unfold parseAmountToAtomic at hm
  simp only at hm
  split at hm
  · next n hn =>
    obtain ⟨hdollar, hsplit⟩ := splitDecimal_of_decimal hn
    rw [hdollar, hsplit] at hv
    cases hm
    cases hv
    have hone : (1 : ℚ) ≤ 10 ^ e := one_le_pow₀ (by norm_num)
    rw [decimal_eq_number hn]
    simp only [number, List.foldl_nil, Nat.cast_zero, zero_div, add_zero, Int.cast_natCast]
    exact le_mul_of_one_le_right (Nat.cast_nonneg _) hone
  · obtain ⟨⟨whole, fraction⟩, hsplit, hm⟩ := bind_eq_ok.1 hm
    rw [okOrElse_eq_ok] at hsplit
    rw [hsplit] at hv
    cases hv
    obtain ⟨_, -, hm⟩ := bind_eq_ok.1 hm
    obtain ⟨e', he', hm⟩ := bind_eq_ok.1 hm
    cases hm
    have hpow : (10 : ℚ) ^ e' ≤ 10 ^ e := pow_le_pow_right₀ (by norm_num) (he e' he')
    have hnonneg : (0 : ℚ) ≤ number whole + number fraction / 10 ^ fraction.length := by positivity
    calc ((number whole * 10 ^ e' + number ((fraction ++ List.replicate e' '0').take e') : ℤ) : ℚ)
        ≤ (number whole + number fraction / 10 ^ fraction.length) * 10 ^ e' := by
          push_cast
          rw [add_mul]
          exact add_le_add_right (number_padded_le fraction e') _
      _ ≤ (number whole + number fraction / 10 ^ fraction.length) * 10 ^ e :=
          mul_le_mul_of_nonneg_left hpow hnonneg

end Sdk
end Subly402
