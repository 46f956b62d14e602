/-
# Texts of lines

A text that is made of fields with a line break after each one does not say where a field
ends when a field has line breaks of its own.  It does say it once the number of line
breaks in each field is known (**`lines_inj`**), and the numbers in all fields but one
settle the last (`breaks_lines`).
-/

import Subly402.Lib.Bytes

namespace Subly402
namespace Lib

/-- The number of line breaks in a text. -/
def breaks (s : String) : ℕ := s.toList.count '\n'

/-- Breaks of an append add. -/
theorem breaks_append (s t : String) : breaks (s ++ t) = breaks s + breaks t := by
  rw [breaks, String.toList_append, List.count_append]
  rfl

/-- No break, no newline. -/
theorem breaks_eq_zero {s : String} : breaks s = 0 ↔ '\n' ∉ s.toList := List.count_eq_zero

/-- The fields with a line break after each one. -/
def lines : List String → String
  | [] => ""
  | field :: fields => field ++ "\n" ++ lines fields

/-- One field, one line. -/
theorem lines_singleton (field : String) : lines [field] = field ++ "\n" := by
  rw [lines, lines, String.append_empty]

/-- The first line of several. -/
theorem lines_cons_cons (field next : String) (fields : List String) :
    lines (field :: next :: fields) = field ++ "\n" ++ lines (next :: fields) := rfl

/-- One break a line beyond the fields' own. -/
theorem breaks_lines (fields : List String) :
    breaks (lines fields) = (fields.map breaks).sum + fields.length := by
  induction fields with
  | nil => rfl
  | cons field fields ih =>
    have hone : breaks "\n" = 1 := by decide
    rw [lines, breaks_append, breaks_append, ih, hone, List.map_cons, List.sum_cons,
      List.length_cons]
    omega

/-- A text with a known number of line breaks ends where that many have passed. -/
theorem append_break_inj {s s' t t' : List Char} (hcount : s.count '\n' = s'.count '\n')
    (h : s ++ '\n' :: t = s' ++ '\n' :: t') : s = s' ∧ t = t' := by
  induction s generalizing s' with
  | nil =>
    cases s' with
    | nil => simpa using h
    | cons c s' =>
      -- the other text would start with the break, and count it
      obtain ⟨rfl, -⟩ := List.cons.inj h
      simp at hcount
  | cons c s ih =>
    cases s' with
    | nil =>
      obtain ⟨rfl, -⟩ := List.cons.inj h
      simp at hcount
    | cons c' s' =>
      obtain ⟨rfl, hrest⟩ := List.cons.inj h
      have hcount' : s.count '\n' = s'.count '\n' := by
        simpa [List.count_cons] using hcount
      obtain ⟨rfl, rfl⟩ := ih hcount' hrest
      exact ⟨rfl, rfl⟩

/-- **Fields with known numbers of line breaks can be read back.** -/
theorem lines_inj : ∀ {fields fields' : List String},
    fields.map breaks = fields'.map breaks → lines fields = lines fields' → fields = fields'
  | [], [], _, _ => rfl
  | [], _ :: _, hbreaks, _ => by simp at hbreaks
  | _ :: _, [], hbreaks, _ => by simp at hbreaks
  | field :: fields, field' :: fields', hbreaks, h => by
    rw [List.map_cons, List.map_cons, List.cons.injEq] at hbreaks
    have hlist := congrArg String.toList h
    simp only [lines, String.toList_append, List.append_assoc] at hlist
    obtain ⟨hfield, hrest⟩ := append_break_inj hbreaks.1 hlist
    rw [String.toList_inj.1 hfield, lines_inj hbreaks.2 (String.toList_inj.1 hrest)]

/-- Texts that begin alike. -/
theorem lines_inj_of_append {front : String} {fields fields' : List String}
    (hbreaks : fields.map breaks = fields'.map breaks)
    (h : front ++ lines fields = front ++ lines fields') : fields = fields' := by
  refine lines_inj hbreaks (String.toList_inj.1 ?_)
  have hlist := congrArg String.toList h
  rw [String.toList_append, String.toList_append] at hlist
  exact List.append_cancel_left hlist

/-- The line breaks of all fields together. -/
theorem sum_breaks_eq {front : String} {fields fields' : List String}
    (hlen : fields.length = fields'.length) (h : front ++ lines fields = front ++ lines fields') :
    (fields.map breaks).sum = (fields'.map breaks).sum := by
  have hcount := congrArg breaks h
  rw [breaks_append, breaks_append, breaks_lines, breaks_lines] at hcount
  omega

/-! ### Texts on one line -/

/-- Digits have no break. -/
theorem breaks_eq_zero_of_digits {cs : List Char} (h : ∀ c ∈ cs, c.isDigit) :
    breaks (String.ofList cs) = 0 := by
  rw [breaks_eq_zero, String.toList_ofList]
  intro hmem
  exact absurd (h _ hmem) (by decide)

/-- Printed numbers have no break. -/
theorem breaks_toString (n : ℕ) : breaks (toString n) = 0 := by
  rw [Nat.toString_eq_ofList_toDigits]
  exact breaks_eq_zero_of_digits fun c hc => Nat.isDigit_of_mem_toDigits (by omega) (by omega) hc

/-- Hex texts have no break. -/
theorem breaks_of_hexDecode {text : String} {bytes : List UInt8}
    (h : hexDecode text = some bytes) : breaks text = 0 := by
  rw [breaks_eq_zero]
  have hpairs : ∀ (cs : List Char) (bytes : List UInt8), hexPairs cs = some bytes → '\n' ∉ cs := by
    intro cs
    induction cs using hexPairs.induct with
    | case1 => intro _ _; simp
    | case2 => intro _ h; cases h
    | case3 hi lo rest ih =>
      intro bytes h
      simp only [hexPairs, Option.bind_eq_bind, Option.bind_eq_some_iff] at h
      obtain ⟨x, hx, y, hy, bs, hbs, -⟩ := h
      have hbreak : hexValue '\n' = none := by decide
      intro hmem
      rcases List.mem_cons.1 hmem with rfl | hmem
      · rw [hbreak] at hx; cases hx
      · rcases List.mem_cons.1 hmem with rfl | hmem
        · rw [hbreak] at hy; cases hy
        · exact ih bs hbs hmem
  exact hpairs _ _ h

end Lib
end Subly402
