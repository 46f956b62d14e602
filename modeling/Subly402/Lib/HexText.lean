/-
# Texts of hexadecimal digits

A text of hexadecimal digits may come with blanks around it, with a marker `0x` in front
and in either case.  Programs bring such texts to a common form in different ways: some
trim blanks, some take away one marker and some all of them, some look for the marker
before and some after they go to lower case.
-/

import Mathlib

namespace Subly402
namespace Lib
namespace HexText

/-- The characters that Unicode calls white space. -/
def isWhitespace (c : Char) : Bool :=
  let n := c.toNat
  (9 ≤ n && n ≤ 13) || n = 32 || n = 0x85 || n = 0xA0 || n = 0x1680 ||
    (0x2000 ≤ n && n ≤ 0x200A) || n = 0x2028 || n = 0x2029 || n = 0x202F || n = 0x205F || n = 0x3000

/-- The text without the blanks around it. -/
def trim (text : List Char) : List Char := (text.dropWhile isWhitespace).rdropWhile isWhitespace

/-- The text without a marker in front. -/
def dropMarker : List Char → List Char
  | '0' :: 'x' :: digits => digits
  | text => text

/-- The text without any markers in front. -/
def dropMarkers : List Char → List Char
  | '0' :: 'x' :: digits => dropMarkers digits
  | text => text

/-- The text in lower case, for the letters of ASCII. -/
def lower (text : List Char) : List Char := text.map Char.toLower

/-- A hexadecimal digit, in either case. -/
def isHexDigit (c : Char) : Bool :=
  c.isDigit || ('a' ≤ c && c ≤ 'f') || ('A' ≤ c && c ≤ 'F')

/-! ### Characters -/

/-- A capital letter goes up by 32, every other character stays. -/
theorem toLower_cases (c : Char) :
    (65 ≤ c.toNat ∧ c.toNat ≤ 90 ∧ c.toLower.toNat = c.toNat + 32) ∨ c.toLower = c := by
  by_cases h : c.val ≥ 'A'.val ∧ c.val ≤ 'Z'.val
  · left
    have hlow : 65 ≤ c.val.toNat := UInt32.le_iff_toNat_le.1 h.1
    have hhigh : c.val.toNat ≤ 90 := UInt32.le_iff_toNat_le.1 h.2
    refine ⟨hlow, hhigh, ?_⟩
    have hsum : (c.val + ('a'.val - 'A'.val)).toNat = (c.val.toNat + 32) % 2 ^ 32 :=
      UInt32.toNat_add ..
    rw [Char.toLower, dif_pos h]
    exact hsum.trans (Nat.mod_eq_of_lt (by omega))
  · right
    rw [Char.toLower, dif_neg h]

theorem toLower_eq_zero {c : Char} : c.toLower = '0' ↔ c = '0' := by
  rcases toLower_cases c with ⟨hlow, hhigh, hval⟩ | hsame
  · refine iff_of_false (fun h => ?_) (fun h => ?_)
    · rw [h] at hval
      simp at hval
      omega
    · rw [h] at hlow
      simp at hlow
  · rw [hsame]

theorem toLower_eq_x {c : Char} : c.toLower = 'x' ↔ c = 'x' ∨ c = 'X' := by
  rcases toLower_cases c with ⟨hlow, hhigh, hval⟩ | hsame
  · constructor
    · intro h
      right
      rw [h] at hval
      exact Char.ext (UInt32.toNat_inj.1 (show c.toNat = 88 by simp at hval; omega))
    · rintro (rfl | rfl)
      · simp at hhigh
      · rfl
  · rw [hsame]
    refine ⟨.inl, ?_⟩
    rintro (rfl | rfl)
    · rfl
    · exact absurd hsame (by decide)

/-- White space has no case. -/
theorem isWhitespace_toLower (c : Char) : isWhitespace c.toLower = isWhitespace c := by
  rcases toLower_cases c with ⟨hlow, hhigh, hval⟩ | hsame
  · have hnot : isWhitespace c = false := by
      unfold isWhitespace
      simp
      omega
    have hnot' : isWhitespace c.toLower = false := by
      unfold isWhitespace
      simp
      omega
    rw [hnot, hnot']
  · rw [hsame]

/-! ### Markers -/

theorem length_dropMarkers_le (text : List Char) : (dropMarkers text).length ≤ text.length := by
  induction text using dropMarkers.induct with
  | case1 digits ih =>
    rw [dropMarkers, List.length_cons, List.length_cons]
    omega
  | case2 text h =>
    rw [dropMarkers.eq_def]
    split
    · next digits => exact absurd rfl (h digits)
    · exact le_rfl

theorem dropMarkers_of_not_marked {text : List Char} (h : ¬['0', 'x'] <+: text) :
    dropMarkers text = text := by
  rw [dropMarkers.eq_def]
  split
  · next digits => exact absurd ⟨digits, rfl⟩ h
  · rfl

theorem dropMarker_of_not_marked {text : List Char} (h : ¬['0', 'x'] <+: text) :
    dropMarker text = text := by
  unfold dropMarker
  split
  · next digits => exact absurd ⟨digits, rfl⟩ h
  · rfl

/-- A text from which nothing was taken has no marker. -/
theorem not_marked_of_length {text : List Char}
    (h : text.length ≤ (dropMarkers text).length) : ¬['0', 'x'] <+: text := by
  rintro ⟨digits, rfl⟩
  have hle := length_dropMarkers_le digits
  simp only [List.cons_append, List.nil_append, dropMarkers, List.length_cons] at h
  omega

/-- A text in lower case has a marker if the text had one, in either case. -/
theorem marked_lower_iff {text : List Char} :
    ['0', 'x'] <+: lower text ↔ ['0', 'x'] <+: text ∨ ['0', 'X'] <+: text := by
  match text with
  | [] => simp [lower]
  | [a] => simp [lower]
  | a :: b :: rest =>
    simp only [lower, List.map_cons, List.cons_prefix_cons, List.nil_prefix, and_true,
      eq_comm (a := '0'), eq_comm (a := 'x'), eq_comm (a := 'X'), toLower_eq_zero, toLower_eq_x]
    tauto

/-! ### Blanks -/

theorem rdropWhile_cons_of_neg {p : Char → Bool} {c : Char} (h : p c = false) (l : List Char) :
    (c :: l).rdropWhile p = c :: l.rdropWhile p := by
  induction l using List.reverseRecOn with
  | nil => simp [List.rdropWhile_singleton, h]
  | append_singleton l last ih =>
    rw [← List.cons_append]
    by_cases hlast : p last
    · rw [List.rdropWhile_concat_pos _ _ _ hlast, List.rdropWhile_concat_pos _ _ _ hlast, ih]
    · rw [List.rdropWhile_concat_neg _ _ _ hlast, List.rdropWhile_concat_neg _ _ _ hlast,
        List.cons_append]

/-- A text of which nothing was trimmed is as it was. -/
theorem trim_eq_of_length {text : List Char} (h : text.length ≤ (trim text).length) :
    trim text = text := by
  have hdrop := List.rdropWhile_prefix isWhitespace (text.dropWhile isWhitespace)
  have hsub : (text.dropWhile isWhitespace).Sublist text := List.dropWhile_sublist _
  have heq : trim text = text.dropWhile isWhitespace :=
    hdrop.eq_of_length_le (hsub.length_le.trans h)
  rw [heq] at h ⊢
  exact hsub.eq_of_length_le h

theorem trim_cons_of_neg {c : Char} (h : isWhitespace c = false) (l : List Char) :
    trim (c :: l) = c :: l.rdropWhile isWhitespace := by
  rw [trim, List.dropWhile_cons_of_neg (by simp [h]), rdropWhile_cons_of_neg h]

/-! ### Two ways to the common form -/

/-- A text that both ways treat alike: no blanks around it, no marker in capitals, and not two
markers. -/
structure Clean (text : List Char) : Prop where
  trimmed : trim text = text
  capital : ¬['0', 'X'] <+: text
  single : ¬['0', 'x', '0', 'x'] <+: text

instance (text : List Char) : Decidable (Clean text) :=
  decidable_of_iff (trim text = text ∧ ¬['0', 'X'] <+: text ∧ ¬['0', 'x', '0', 'x'] <+: text)
    ⟨fun ⟨a, b, c⟩ => ⟨a, b, c⟩, fun ⟨a, b, c⟩ => ⟨a, b, c⟩⟩

/-- Trailing white space has no case. -/
theorem rdropWhile_lower (text : List Char) :
    (lower text).rdropWhile isWhitespace = lower (text.rdropWhile isWhitespace) := by
  have hcomp : isWhitespace ∘ Char.toLower = isWhitespace := funext isWhitespace_toLower
  rw [lower, lower, List.rdropWhile, List.rdropWhile, ← List.map_reverse, List.dropWhile_map, hcomp,
    List.map_reverse]

theorem length_lower (text : List Char) : (lower text).length = text.length := List.length_map _

/-- A capital marker is not taken away by the first way. -/
theorem capital_ne (digits : List Char) :
    lower (dropMarkers (trim ('0' :: 'X' :: digits))) ≠ lower digits := by
  intro h
  have htrim : trim ('0' :: 'X' :: digits) = '0' :: 'X' :: digits.rdropWhile isWhitespace := by
    rw [trim_cons_of_neg (by decide), rdropWhile_cons_of_neg (by decide)]
  rw [htrim, dropMarkers_of_not_marked (by simp)] at h
  -- without the white space at the end, one side is two characters longer
  have hend := congrArg (List.rdropWhile isWhitespace) h
  rw [rdropWhile_lower, rdropWhile_lower, rdropWhile_cons_of_neg (by decide),
    rdropWhile_cons_of_neg (by decide), List.rdropWhile_idempotent] at hend
  have hlength := congrArg List.length hend
  rw [length_lower, length_lower, List.length_cons, List.length_cons] at hlength
  omega

/-- **The two ways agree on clean texts only**: trimming and taking away every marker before going
to lower case, and taking away one marker after it. -/
theorem normal_eq_iff (text : List Char) :
    lower (dropMarkers (trim text)) = dropMarker (lower text) ↔ Clean text := by
  by_cases hmarked : ['0', 'x'] <+: text
  · obtain ⟨digits, rfl⟩ := hmarked
    have htrim : trim ('0' :: 'x' :: digits) = '0' :: 'x' :: digits.rdropWhile isWhitespace := by
      rw [trim_cons_of_neg (by decide), rdropWhile_cons_of_neg (by decide)]
    show lower (dropMarkers (trim ('0' :: 'x' :: digits))) = lower digits ↔ _
    rw [htrim, dropMarkers]
    constructor
    · intro h
      have hlength := congrArg List.length h
      rw [length_lower, length_lower] at hlength
      have hle := length_dropMarkers_le (digits.rdropWhile isWhitespace)
      have hsame : digits.rdropWhile isWhitespace = digits :=
        (List.rdropWhile_prefix isWhitespace digits).eq_of_length_le (by omega)
      rw [hsame] at hlength
      refine ⟨by rw [List.cons_append, List.cons_append, List.nil_append, htrim, hsame],
        by simp, fun hsecond => ?_⟩
      refine not_marked_of_length hlength.ge ?_
      simpa using hsecond
    · intro h
      have hsame : digits.rdropWhile isWhitespace = digits := by
        have htrimmed := h.trimmed
        rw [List.cons_append, List.cons_append, List.nil_append, htrim] at htrimmed
        simpa using htrimmed
      have hsecond : ¬['0', 'x'] <+: digits := by simpa using h.single
      rw [hsame, dropMarkers_of_not_marked hsecond]
  · by_cases hcapital : ['0', 'X'] <+: text
    · obtain ⟨digits, rfl⟩ := hcapital
      exact iff_of_false (capital_ne digits) fun h => h.capital ⟨digits, rfl⟩
    · have hlower : ¬['0', 'x'] <+: lower text := by
        rw [marked_lower_iff]
        tauto
      rw [dropMarker_of_not_marked hlower]
      constructor
      · intro h
        have hlength := congrArg List.length h
        rw [length_lower, length_lower] at hlength
        have hle := length_dropMarkers_le (trim text)
        refine ⟨trim_eq_of_length (by omega), hcapital, fun hsecond => hmarked ?_⟩
        exact List.IsPrefix.trans (by decide) hsecond
      · intro h
        rw [h.trimmed, dropMarkers_of_not_marked hmarked]

/-- Digits have no second marker. -/
theorem dropMarkers_of_digits {text : List Char}
    (h : ∀ c ∈ lower (dropMarker text), isHexDigit c = true) : dropMarkers text = dropMarker text := by
  by_cases hmarked : ['0', 'x'] <+: text
  · obtain ⟨digits, rfl⟩ := hmarked
    have hsecond : ¬['0', 'x'] <+: digits := by
      rintro ⟨rest, rfl⟩
      have hx := h 'x' (by simp [dropMarker, lower])
      exact absurd hx (by decide)
    show dropMarkers digits = digits
    exact dropMarkers_of_not_marked hsecond
  · rw [dropMarkers_of_not_marked hmarked, dropMarker_of_not_marked hmarked]

/-- A digit is no blank. -/
theorem isWhitespace_of_digit {c : Char} (h : isHexDigit c = true) : isWhitespace c = false := by
  have hrange : 48 ≤ c.toNat ∧ c.toNat ≤ 102 := by
    simp only [isHexDigit, Char.isDigit, Bool.or_eq_true, Bool.and_eq_true, decide_eq_true_eq,
      Char.le_def, UInt32.le_iff_toNat_le, ge_iff_le] at h
    have hval : c.toNat = c.val.toNat := rfl
    simp at h
    omega
  unfold isWhitespace
  simp
  omega

/-- Digits in lower case are in the common form already. -/
theorem normal_of_digits {text : List Char} (hdigits : ∀ c ∈ text, isHexDigit c = true)
    (hlower : lower text = text) : lower (dropMarkers (trim text)) = text := by
  have hmarked : ¬['0', 'x'] <+: text := by
    rintro ⟨rest, rfl⟩
    exact absurd (hdigits 'x' (by simp)) (by decide)
  have hblank : ∀ c ∈ text, ¬isWhitespace c = true := by
    intro c hc
    simp [isWhitespace_of_digit (hdigits c hc)]
  have hstart : text.dropWhile isWhitespace = text :=
    List.dropWhile_eq_self_iff.2 fun _ => hblank _ (List.getElem_mem _)
  have hend : text.rdropWhile isWhitespace = text :=
    List.rdropWhile_eq_self_iff.2 fun hne => hblank _ (List.getLast_mem hne)
  rw [trim, hstart, hend, dropMarkers_of_not_marked hmarked, hlower]

end HexText
end Lib
end Subly402
