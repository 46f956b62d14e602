/-
# Cutting a text in two

`split_once` and `rsplit_once` of the standard library, on lists, and the numbers that
`parse::<u16>` reads.
-/

import Mathlib.Tactic.Common

namespace Subly402
namespace Lib

variable {α : Type} [DecidableEq α]

/-- `split_once`: what stands before the first separator, and after it. -/
def splitOnce (separator : List α) : List α → Option (List α × List α)
  | [] => if separator = [] then some ([], []) else none
  | a :: text =>
    if separator.isPrefixOf (a :: text) then some ([], (a :: text).drop separator.length)
    else (splitOnce separator text).map fun parts => (a :: parts.1, parts.2)

/-- A text is cut at the first place with the separator's first character. -/
theorem splitOnce_append {a : α} {front : List α} (h : a ∉ front) (separator rest : List α) :
    splitOnce (a :: separator) (front ++ (a :: separator) ++ rest) = some (front, rest) := by
  induction front with
  | nil => simp [splitOnce]
  | cons b front ih =>
    obtain ⟨hne, hfront⟩ := not_or.1 (List.mem_cons.not.1 h)
    simp [splitOnce, hne, ← ih hfront]

/-- A split at the first occurrence. -/
theorem splitOnce_singleton {a : α} {front : List α} (h : a ∉ front) (rest : List α) :
    splitOnce [a] (front ++ a :: rest) = some (front, rest) := by
  have hcut := splitOnce_append h [] rest
  rwa [List.append_assoc, List.singleton_append] at hcut

/-- A split is at the first occurrence. -/
theorem splitOnce_singleton_eq_some {a : α} {text before after : List α}
    (h : splitOnce [a] text = some (before, after)) : text = before ++ a :: after ∧ a ∉ before := by
  induction text generalizing before with
  | nil => simp [splitOnce] at h
  | cons b text ih =>
    by_cases hb : a = b
    · subst hb
      simp only [splitOnce, List.isPrefixOf, BEq.rfl, Bool.and_true, if_true] at h
      cases h
      exact ⟨rfl, List.not_mem_nil⟩
    · simp only [splitOnce, List.isPrefixOf, beq_eq_false_iff_ne.2 hb, Bool.false_and,
        Bool.false_eq_true, if_false, Option.map_eq_some_iff] at h
      obtain ⟨⟨before', after'⟩, hcut, heq⟩ := h
      cases heq
      obtain ⟨rfl, hbefore⟩ := ih hcut
      exact ⟨rfl, List.mem_cons.not.2 (not_or.2 ⟨hb, hbefore⟩)⟩

/-- No split, no occurrence. -/
theorem not_mem_of_splitOnce_singleton {a : α} {text : List α} (h : splitOnce [a] text = none) :
    a ∉ text := by
  intro hmem
  obtain ⟨before, after, htext, hbefore⟩ := List.eq_append_cons_of_mem hmem
  have hcut := splitOnce_singleton hbefore after
  rw [← htext, h] at hcut
  cases hcut

/-- `rsplit_once`, at a character. -/
def rsplitOnce (separator : α) (text : List α) : Option (List α × List α) :=
  (splitOnce [separator] text.reverse).map fun parts => (parts.2.reverse, parts.1.reverse)

/-- `parse::<u16>`: digits, with a sign if there is one. -/
def parseU16 (text : List Char) : Option ℕ :=
  let digits := if text.head? = some '+' then text.tail else text
  let value := digits.foldl (fun n c => 10 * n + (c.toNat - 48)) 0
  if digits ≠ [] ∧ digits.all Char.isDigit ∧ value < 65536 then some value else none

end Lib
end Subly402
