/-
# Paging through a log backwards

A log that grows at its end, and a reader that asks for the entries between two marks,
newest first and a page at a time.  `page` is one answer, and `newer` is what all pages
after a mark hold together.  `page_eq` says which part of the log a page is, where
the reader has some entries already and the log has grown meanwhile.
-/

import Mathlib

namespace Subly402
namespace Lib

variable {α : Type} [DecidableEq α]

/-- What follows the first occurrence of an entry. -/
def pastFirst (a : α) (l : List α) : List α := (l.dropWhile fun b => decide (b ≠ a)).drop 1

/-- The entries that are newer than a mark. -/
def newer (log : List α) : Option α → List α
  | none => log
  | some a => pastFirst a log

/-- The entries before a mark. -/
def upTo : Option α → List α → List α
  | none, l => l
  | some a, l => l.takeWhile fun b => decide (b ≠ a)

/-- A page: at most `limit` entries older than `before` and newer than `mark`, newest first. -/
def page (log : List α) (before mark : Option α) (limit : ℕ) : List α :=
  (upTo mark (newer log.reverse before)).take limit

/-- The entries end at the mark. -/
def EndsAt (l : List α) (mark : Option α) : Prop :=
  (mark = none ∧ l = []) ∨ ∃ a l', mark = some a ∧ l = l' ++ [a]

theorem pastFirst_append {a : α} {l l' : List α} (h : a ∉ l) : pastFirst a (l ++ a :: l') = l' := by
  have hdrop : ∀ b ∈ l, decide (b ≠ a) = true := fun b hb => by
    have hne : b ≠ a := fun heq => h (heq ▸ hb)
    simpa using hne
  rw [pastFirst, List.dropWhile_append_of_pos hdrop, List.dropWhile_cons_of_neg (by simp)]
  rfl

theorem takeWhile_ne_append {a : α} {l l' : List α} (h : a ∉ l) :
    (l ++ a :: l').takeWhile (fun b => decide (b ≠ a)) = l := by
  have htake : ∀ b ∈ l, decide (b ≠ a) = true := fun b hb => by
    have hne : b ≠ a := fun heq => h (heq ▸ hb)
    simpa using hne
  rw [List.takeWhile_append_of_pos htake, List.takeWhile_cons_of_neg (by simp), List.append_nil]

/-- **What is newer than the mark at which the read entries end.** -/
theorem newer_eq {read rest : List α} {mark : Option α} (hnodup : (read ++ rest).Nodup)
    (hread : EndsAt read mark) : newer (read ++ rest) mark = rest := by
  obtain ⟨rfl, rfl⟩ | ⟨a, l, rfl, rfl⟩ := hread
  · rfl
  · have ha : a ∉ l := by
      rw [List.append_assoc] at hnodup
      exact fun hmem => (List.nodup_append.1 hnodup).2.2 a hmem a (by simp) rfl
    rw [newer, List.append_assoc]
    exact pastFirst_append ha

/-- **The page before the entries in hand** is the end of what is still missing, and all of it
where the page is not full. -/
theorem page_eq {read missing got new : List α} {mark : Option α} (limit : ℕ)
    (hnodup : (read ++ (missing ++ (got ++ new))).Nodup) (hread : EndsAt read mark)
    (hnew : got = [] → new = []) :
    ∃ missing' chunk, missing = missing' ++ chunk ∧
      page (read ++ (missing ++ (got ++ new))) got.head? mark limit = chunk.reverse ∧
      (chunk.length < limit → missing' = []) := by
  have holder : newer (read ++ (missing ++ (got ++ new))).reverse got.head?
      = (read ++ missing).reverse := by
    cases got with
    | nil => simp [hnew rfl, newer]
    | cons a got =>
      have hsplit : (read ++ (missing ++ (a :: got ++ new))).reverse
          = ((got ++ new).reverse ++ [a]) ++ (read ++ missing).reverse := by simp
      rw [hsplit]
      refine newer_eq ?_ (.inr ⟨a, _, rfl, rfl⟩)
      rw [← hsplit]
      exact List.nodup_reverse.2 hnodup
  have hmissing : upTo mark (read ++ missing).reverse = missing.reverse := by
    obtain ⟨rfl, rfl⟩ | ⟨a, l, rfl, rfl⟩ := hread
    · rfl
    · have ha : a ∉ missing.reverse := by
        rw [List.mem_reverse]
        exact fun hmem => (List.nodup_append.1 hnodup).2.2 a (by simp) a
          (List.mem_append_left _ hmem) rfl
      have hsplit : (l ++ [a] ++ missing).reverse = missing.reverse ++ a :: l.reverse := by simp
      rw [hsplit]
      exact takeWhile_ne_append ha
  refine ⟨missing.take (missing.length - limit), missing.drop (missing.length - limit),
    (List.take_append_drop _ _).symm, ?_, fun hlt => ?_⟩
  · rw [page, holder, hmissing, List.take_reverse]
  · rw [List.length_drop] at hlt
    have hzero : missing.length - limit = 0 := by omega
    rw [hzero, List.take_zero]

end Lib
end Subly402
