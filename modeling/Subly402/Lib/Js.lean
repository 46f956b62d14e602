/-
# JSON values in JavaScript

A program in JavaScript that reads `JSON.parse(text)` under a type it was never checked
against meets every value there is.  A value is an `Option Json`, `none` for `undefined`;
what the language does with it (properties, `===`, truth, `??`, `BigInt`) is defined on
all of them, and an operation that throws is an `Except`.
-/

import Subly402.Lib.Json
import Subly402.Lib.Result

namespace Subly402
namespace Lib
namespace Js

/-- What is thrown. -/
inductive Error where
  /-- `new Error(message)`. -/
  | error (message : String)
  /-- An error of the language, such as a `TypeError`. -/
  | builtin
deriving DecidableEq, Repr

/-- The parts of the language and of its library that are taken as they are. -/
structure Engine where
  /-- `===` of two numbers. -/
  sameNumber : JsonNumber → JsonNumber → Bool
  /-- Whether a number is zero. -/
  isZero : JsonNumber → Bool
  /-- `BigInt(value)` for a value that is not a text, where it does not throw. -/
  bigInt : Json → Option ℤ
  /-- `n > value` for a whole number. -/
  exceeds : ℕ → Option Json → Bool
  /-- `text.toLowerCase()`. -/
  toLowerCase : String → String
  /-- `text.toUpperCase()`. -/
  toUpperCase : String → String
  /-- The text of a value in a template literal, strings apart. -/
  display : Json → String
  /-- `Buffer.from(text, "base64")`. -/
  base64 : String → List UInt8
  /-- `Buffer.from(text, "base64url")`. -/
  base64Url : String → List UInt8
  /-- `Buffer.from(value, "base64")` for a value that is not a text. -/
  buffer : Option Json → Except Error (List UInt8)
  /-- `bytes.toString("base64")`. -/
  toBase64 : List UInt8 → String
  /-- `JSON.parse(bytes.toString("utf8"))`, or the message of its error. -/
  parseJson : List UInt8 → Except String Json
  /-- `Date.parse(value)`, where it is a number. -/
  parseDate : Option Json → Option ℤ
  /-- `new Date(ms).toISOString()`. -/
  toISOString : ℤ → String
  /-- `createHash("sha256").update(bytes).digest("hex")`. -/
  sha256hex : List UInt8 → String
  /-- The `origin`, `pathname` and `search` of `new URL(text)`. -/
  parseUrl : String → Except Error (String × String × String)

/-- The number `1`. -/
def one : JsonNumber := ⟨['1'], by simp, by simp [isNumberChar]⟩

/-! ### Properties -/

/-- `value.key`.  Only `undefined` and `null` have no properties to ask for. -/
def prop (value : Option Json) (key : String) : Except Error (Option Json) :=
  match value with
  | none => .error .builtin
  | some (.scalar .null) => .error .builtin
  | some v => .ok (v.get key)

/-- `value.a.b.c`. -/
def read (value : Option Json) (path : List String) : Except Error (Option Json) :=
  path.foldlM prop value

/-- The text that a method of strings is called on. -/
def text : Option Json → Except Error String
  | some (.string s) => .ok s
  | _ => .error .builtin

theorem text_eq_ok {value : Option Json} {s : String} :
    text value = .ok s ↔ value = some (.string s) := by
  unfold text
  split <;> simp_all

/-- Whether the value is `undefined` or `null`. -/
def isNullish : Option Json → Bool
  | none => true
  | some (.scalar .null) => true
  | _ => false

/-- `a ?? b`. -/
def orElse (a b : Option Json) : Option Json := if isNullish a then b else a

theorem orElse_of_isNullish {a : Option Json} (h : isNullish a) (b : Option Json) :
    orElse a b = b := if_pos h

theorem orElse_of_not_isNullish {a : Option Json} (h : ¬ isNullish a) (b : Option Json) :
    orElse a b = a := if_neg h

/-- `{ ...a, ...b }`: the properties of `b` before those of `a`.  Only objects have properties that
are read by name. -/
def spread (a b : Json) : Json :=
  let entries : Json → List (String × Json)
    | .object es => es
    | _ => []
  .object (entries b ++ entries a)

section
variable (E : Engine)

/-- Whether `if (value)` takes its branch. -/
def truthy : Option Json → Bool
  | none => false
  | some (.scalar .null) => false
  | some (.scalar (.bool b)) => b
  | some (.scalar (.number n)) => !E.isZero n
  | some (.string s) => s ≠ ""
  | some (.array _) => true
  | some (.object _) => true

/-- `a === b` for two values that do not share their parts. -/
def same : Option Json → Option Json → Bool
  | none, none => true
  | some (.scalar .null), some (.scalar .null) => true
  | some (.scalar (.bool b)), some (.scalar (.bool b')) => b = b'
  | some (.scalar (.number n)), some (.scalar (.number n')) => E.sameNumber n n'
  | some (.string s), some (.string s') => s = s'
  | _, _ => false

variable {E}

theorem not_isNullish_of_truthy {value : Option Json} (h : truthy E value) :
    ¬ isNullish value := by
  unfold isNullish
  split <;> simp_all [truthy]

/-- A text is `===` to itself only. -/
theorem same_text_left {s : String} {value : Option Json} (h : same E (some (.string s)) value) :
    value = some (.string s) := by
  unfold same at h
  split at h <;> simp_all

end

/-- A value in a template literal. -/
def display (E : Engine) : Option Json → String
  | none => "undefined"
  | some (.string s) => s
  | some value => E.display value

/-- `Buffer.from(value, "base64")`. -/
def bytes (E : Engine) : Option Json → Except Error (List UInt8)
  | some (.string s) => .ok (E.base64 s)
  | value => E.buffer value

/-! ### `BigInt` of a text -/

/-- `StrWhiteSpaceChar`. -/
def isSpace (c : Char) : Bool :=
  c.toNat ∈ [0x9, 0xa, 0xb, 0xc, 0xd, 0x20, 0xa0, 0x1680, 0x2028, 0x2029, 0x202f, 0x205f, 0x3000,
    0xfeff] || (0x2000 ≤ c.toNat && c.toNat ≤ 0x200a)

/-- `text.trim()`. -/
def trim (chars : List Char) : List Char := (chars.dropWhile isSpace).rdropWhile isSpace

/-- The value of a digit of some base. -/
def digit? (base : ℕ) (c : Char) : Option ℕ :=
  let n := c.toNat
  let value :=
    if 48 ≤ n ∧ n ≤ 57 then some (n - 48)
    else if 97 ≤ n ∧ n ≤ 122 then some (n - 87)
    else if 65 ≤ n ∧ n ≤ 90 then some (n - 55)
    else none
  value.filter (· < base)

/-- The number that the digits of some base spell. -/
def digits? (base : ℕ) (chars : List Char) : Option ℕ :=
  if chars = [] then none
  else chars.foldlM (fun n c => (digit? base c).map (base * n + ·)) 0

/-- `BigInt(text)`, where it does not throw: nothing but blanks is zero, a decimal number may
have a sign, and one of the base that `0x`, `0o` or `0b` names has none. -/
def bigIntOfText (s : String) : Option ℤ :=
  match trim s.toList with
  | [] => some 0
  | '0' :: 'x' :: digits => (digits? 16 digits).map Int.ofNat
  | '0' :: 'X' :: digits => (digits? 16 digits).map Int.ofNat
  | '0' :: 'o' :: digits => (digits? 8 digits).map Int.ofNat
  | '0' :: 'O' :: digits => (digits? 8 digits).map Int.ofNat
  | '0' :: 'b' :: digits => (digits? 2 digits).map Int.ofNat
  | '0' :: 'B' :: digits => (digits? 2 digits).map Int.ofNat
  | '+' :: digits => (Json.decimal? digits).map Int.ofNat
  | '-' :: digits => (Json.decimal? digits).map (-Int.ofNat ·)
  | digits => (Json.decimal? digits).map Int.ofNat

/-- `BigInt(value)`. -/
def bigInt (E : Engine) (value : Option Json) : Except Error ℤ :=
  match value with
  | none => .error .builtin
  | some (.string s) => okOrElse (bigIntOfText s) .builtin
  | some v => okOrElse (E.bigInt v) .builtin

/-- The digits that `decimal?` reads. -/
theorem digits_of_decimal {digits : List Char} {n : ℕ} (h : Json.decimal? digits = some n) :
    digits ≠ [] ∧ ∀ c ∈ digits, c.isDigit := by
  unfold Json.decimal? at h
  split at h
  · next hd => exact ⟨hd.1, List.all_eq_true.1 hd.2⟩
  · cases h

theorem not_isSpace_of_isDigit {c : Char} (h : c.isDigit) : isSpace c = false := by
  have hrange : 48 ≤ c.toNat ∧ c.toNat ≤ 57 := by
    simp only [Char.isDigit, Bool.and_eq_true, decide_eq_true_eq, UInt32.le_iff_toNat_le] at h
    exact h
  unfold isSpace
  generalize c.toNat = n at hrange
  obtain ⟨hlow, hhigh⟩ := hrange
  interval_cases n <;> rfl

/-- A text without blanks at its ends. -/
theorem trim_eq_self {chars : List Char} (hhead : ∀ c ∈ chars.head?, isSpace c = false)
    (hlast : ∀ c ∈ chars.getLast?, isSpace c = false) : trim chars = chars := by
  have hdrop : chars.dropWhile isSpace = chars := by
    cases chars with
    | nil => rfl
    | cons c chars => exact List.dropWhile_cons_of_neg (by simp [hhead c (by simp)])
  unfold trim
  rw [hdrop]
  apply List.rdropWhile_eq_self_iff.2
  intro hne
  have hc := hlast (chars.getLast hne) (by rw [List.getLast?_eq_some_getLast hne]; rfl)
  simp [hc]

/-- `BigInt` reads a decimal number as every reader does. -/
theorem bigIntOfText_of_decimal {s : String} {digits : List Char} {n : ℕ}
    (hs : s.toList = digits ∨ s.toList = '+' :: digits) (h : Json.decimal? digits = some n) :
    bigIntOfText s = some (n : ℤ) := by
  obtain ⟨hne, hdigits⟩ := digits_of_decimal h
  have hlast : ∀ c ∈ digits.getLast?, isSpace c = false := fun c hc =>
    not_isSpace_of_isDigit (hdigits c (List.mem_of_getLast? hc))
  unfold bigIntOfText
  rcases hs with hs | hs
  · rw [hs, trim_eq_self (fun c hc => not_isSpace_of_isDigit (hdigits c (List.mem_of_head? hc))) hlast]
    -- a letter or a sign that would name another reading is not a digit
    split
    case h_1 => exact absurd rfl hne
    case h_10 => rw [h]; rfl
    all_goals
      have hletter := fun c hc => hdigits c hc
      simp only [List.mem_cons, forall_eq_or_imp] at hletter
      simp [Char.isDigit] at hletter
  · have htrim : trim ('+' :: digits) = '+' :: digits := by
      refine trim_eq_self (fun c hc => ?_) fun c hc => ?_
      · obtain rfl : '+' = c := by simpa using hc
        rfl
      · rw [List.getLast?_cons_of_ne_nil hne] at hc
        exact hlast c hc
    rw [hs, htrim]
    change (Json.decimal? digits).map Int.ofNat = _
    rw [h]
    rfl

end Js
end Lib
end Subly402
