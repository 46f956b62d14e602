/-
# Taking turns

Queues with keys, served in turns: turn `k` takes the element at place `k` of every queue
that has one, in the order of the queues.  `rounds n` is what `n` turns take.
-/

import Mathlib.Algebra.BigOperators.Group.List.Basic
import Mathlib.Algebra.GroupWithZero.Nat
import Mathlib.Data.List.Nodup
import Mathlib.Tactic.Common

namespace Subly402
namespace Lib
namespace RoundRobin

variable {κ α : Type}

/-- The element of a queue at a place, with the key. -/
def pick (k : ℕ) (queue : κ × List α) : Option (κ × α) := (queue.2[k]?).map (queue.1, ·)

/-- One turn: the elements at a place, in the order of the queues. -/
def level (queues : List (κ × List α)) (k : ℕ) : List (κ × α) := queues.filterMap (pick k)

/-- What the first turns take. -/
def rounds (n : ℕ) (queues : List (κ × List α)) : List (κ × α) :=
  (List.range n).flatMap (level queues)

/-- A queue after a turn. -/
def advance (queue : κ × List α) : κ × List α := (queue.1, queue.2.tail)

/-- The elements of a key. -/
def ofKey [DecidableEq κ] (key : κ) (taken : List (κ × α)) : List α :=
  taken.filterMap fun e => if e.1 = key then some e.2 else none

variable {queues : List (κ × List α)} {n m : ℕ}

/-! ### Turns -/

theorem level_advance (queues : List (κ × List α)) (k : ℕ) :
    level (queues.map advance) k = level queues (k + 1) := by
  unfold level
  rw [List.filterMap_map]
  refine List.filterMap_congr fun queue _ => ?_
  simp only [Function.comp_apply, pick, advance, List.getElem?_tail]

/-- The first turn, and the others over what it leaves. -/
theorem rounds_succ (n : ℕ) (queues : List (κ × List α)) :
    rounds (n + 1) queues = level queues 0 ++ rounds n (queues.map advance) := by
  unfold rounds
  rw [List.range_succ_eq_map, List.flatMap_cons, List.flatMap_map]
  congr 1
  exact List.flatMap_congr fun k _ => (level_advance queues k).symm

theorem rounds_succ_last (n : ℕ) (queues : List (κ × List α)) :
    rounds (n + 1) queues = rounds n queues ++ level queues n := by
  unfold rounds
  rw [List.range_succ, List.flatMap_append, List.flatMap_singleton]

/-- A turn that takes nothing is one of empty queues. -/
theorem eq_nil_of_level (h : level queues 0 = []) {queue : κ × List α} (hq : queue ∈ queues) :
    queue.2 = [] := by
  have hnone : pick 0 queue = none := List.filterMap_eq_nil_iff.1 h queue hq
  cases hlist : queue.2 with
  | nil => rfl
  | cons a as =>
    unfold pick at hnone
    rw [hlist] at hnone
    cases hnone

theorem rounds_eq_nil (h : ∀ queue ∈ queues, queue.2 = []) (n : ℕ) : rounds n queues = [] := by
  refine List.flatMap_eq_nil_iff.2 fun k _ => List.filterMap_eq_nil_iff.2 fun queue hq => ?_
  unfold pick
  rw [h queue hq, List.getElem?_nil, Option.map_none]

/-- **Enough turns take everything.** -/
theorem length_rounds (h : ∀ queue ∈ queues, queue.2.length ≤ n) :
    (rounds n queues).length = (queues.map (·.2.length)).sum := by
  induction n generalizing queues with
  | zero =>
    have hzero : ∀ x ∈ queues.map (·.2.length), x = 0 := by
      intro x hx
      obtain ⟨queue, hq, rfl⟩ := List.mem_map.1 hx
      have := h queue hq
      omega
    rw [List.sum_eq_zero hzero]
    rfl
  | succ n ih =>
    have hrest : ∀ queue ∈ queues.map advance, queue.2.length ≤ n := by
      intro queue hq
      obtain ⟨queue', hq', rfl⟩ := List.mem_map.1 hq
      have := h queue' hq'
      simp only [advance, List.length_tail]
      omega
    rw [rounds_succ, List.length_append, ih hrest]
    clear h ih hrest
    -- the first turn takes one from every queue that is not empty
    induction queues with
    | nil => rfl
    | cons queue queues ih =>
      obtain ⟨key, list⟩ := queue
      cases list with
      | nil => simpa [level, pick, advance] using ih
      | cons a as =>
        simp only [level, pick, advance, List.filterMap_cons, List.map_cons, List.sum_cons] at ih ⊢
        simp only [List.getElem?_cons_zero, Option.map_some, List.length_cons, List.tail_cons]
        omega

/-! ### Stopping within a turn -/

theorem take_filterMap {β γ : Type} (f : β → Option γ) (l : List β) (p : ℕ) :
    ∃ i, (l.filterMap f).take p = (l.take i).filterMap f := by
  induction l generalizing p with
  | nil => exact ⟨0, by simp⟩
  | cons b l ih =>
    cases hb : f b with
    | none =>
      obtain ⟨i, hi⟩ := ih p
      exact ⟨i + 1, by rw [List.filterMap_cons_none hb, hi, List.take_succ_cons,
        List.filterMap_cons_none hb]⟩
    | some c =>
      cases p with
      | zero => exact ⟨0, rfl⟩
      | succ p =>
        obtain ⟨i, hi⟩ := ih p
        exact ⟨i + 1, by rw [List.filterMap_cons_some hb, List.take_succ_cons, hi,
          List.take_succ_cons, List.filterMap_cons_some hb]⟩

/-- The first elements are whole turns and the front of one more. -/
theorem take_rounds (queues : List (κ × List α)) (n m : ℕ) :
    ∃ t i, (rounds n queues).take m = rounds t queues ++ level (queues.take i) t := by
  induction n with
  | zero => exact ⟨0, 0, by simp [rounds, level]⟩
  | succ n ih =>
    rw [rounds_succ_last, List.take_append]
    rcases Nat.le_total m (rounds n queues).length with hle | hge
    · obtain ⟨t, i, hti⟩ := ih
      refine ⟨t, i, ?_⟩
      rw [Nat.sub_eq_zero_of_le hle, List.take_zero, List.append_nil, hti]
    · obtain ⟨i, hi⟩ := take_filterMap (pick n) queues (m - (rounds n queues).length)
      refine ⟨n, i, ?_⟩
      rw [List.take_of_length_le hge]
      exact congrArg (rounds n queues ++ ·) hi

/-! ### What a queue gets -/

section Key

variable [DecidableEq κ] {queue : κ × List α}

theorem ofKey_append (key : κ) (xs ys : List (κ × α)) :
    ofKey key (xs ++ ys) = ofKey key xs ++ ofKey key ys := List.filterMap_append

/-- A key that no queue has gets nothing. -/
theorem ofKey_level_of_notMem {key : κ} (h : ∀ queue ∈ queues, queue.1 ≠ key) (k : ℕ) :
    ofKey key (level queues k) = [] := by
  refine List.filterMap_eq_nil_iff.2 fun e he => if_neg fun heq => ?_
  obtain ⟨queue, hq, hpick⟩ := List.mem_filterMap.1 he
  obtain ⟨a, -, rfl⟩ := Option.map_eq_some_iff.1 hpick
  exact h queue hq heq

/-- A turn takes one element of a queue, if it has one left. -/
theorem ofKey_level (hnodup : (queues.map Prod.fst).Nodup) (hq : queue ∈ queues) (k : ℕ) :
    ofKey queue.1 (level queues k) = (queue.2[k]?).toList := by
  induction queues with
  | nil => cases hq
  | cons first queues ih =>
    rw [List.map_cons, List.nodup_cons] at hnodup
    have hsplit : level (first :: queues) k = (pick k first).toList ++ level queues k := by
      unfold level
      rw [List.filterMap_cons]
      cases pick k first <;> rfl
    rw [hsplit, ofKey_append]
    rcases List.mem_cons.1 hq with rfl | hq
    · have hother : ∀ other ∈ queues, other.1 ≠ queue.1 := fun other ho heq =>
        hnodup.1 (heq ▸ List.mem_map_of_mem ho)
      rw [ofKey_level_of_notMem hother, List.append_nil]
      unfold pick
      cases queue.2[k]? <;> simp [ofKey]
    · have hne : first.1 ≠ queue.1 := fun heq => hnodup.1 (heq ▸ List.mem_map_of_mem hq)
      rw [ih hnodup.2 hq]
      unfold pick
      cases first.2[k]? <;> simp [ofKey, hne]

/-- **Some turns take the front of a queue.** -/
theorem ofKey_rounds (hnodup : (queues.map Prod.fst).Nodup) (hq : queue ∈ queues) (n : ℕ) :
    ofKey queue.1 (rounds n queues) = queue.2.take n := by
  induction n with
  | zero => rfl
  | succ n ih => rw [rounds_succ_last, ofKey_append, ih, ofKey_level hnodup hq, List.take_add_one]

/-- **What each queue gets of the first elements**: all queues the same number of turns, and those
up to some place one more. -/
theorem ofKey_take (hnodup : (queues.map Prod.fst).Nodup) (n m : ℕ) :
    ∃ t i, (∀ queue ∈ queues.take i,
        ofKey queue.1 ((rounds n queues).take m) = queue.2.take (t + 1)) ∧
      ∀ queue ∈ queues, queue ∉ queues.take i →
        ofKey queue.1 ((rounds n queues).take m) = queue.2.take t := by
  obtain ⟨t, i, hti⟩ := take_rounds queues n m
  have hfront : ((queues.take i).map Prod.fst).Nodup :=
    hnodup.sublist ((List.take_sublist i queues).map Prod.fst)
  refine ⟨t, i, fun queue hq => ?_, fun queue hq hout => ?_⟩
  · have hmem := List.mem_of_mem_take hq
    rw [hti, ofKey_append, ofKey_rounds hnodup hmem, ofKey_level hfront hq, List.take_add_one]
  · have hother : ∀ other ∈ queues.take i, other.1 ≠ queue.1 := by
      intro other ho heq
      have hsame : other = queue :=
        List.inj_on_of_nodup_map hnodup (List.mem_of_mem_take ho) hq heq
      exact hout (hsame ▸ ho)
    rw [hti, ofKey_append, ofKey_rounds hnodup hq, ofKey_level_of_notMem hother, List.append_nil]

end Key

end RoundRobin
end Lib
end Subly402
