/-
# Matching by labels

Two finite families whose members carry labels can be matched one to one, members of
one label with members of the same label, exactly when every label occurs equally often
in both (`exists_equiv_iff`).
-/

import Mathlib

namespace Subly402
namespace Lib

variable {α β κ : Type} [Fintype α] [Fintype β] [DecidableEq κ]

/-- The members with a label. -/
def labelled (f : α → κ) (k : κ) : Finset α := Finset.univ.filter fun a => f a = k

theorem card_labelled (f : α → κ) (k : κ) : (labelled f k).card = Fintype.card {a // f a = k} :=
  (Fintype.card_subtype _).symm

theorem card_labelled_eq_zero {f : α → κ} {k : κ} (h : ∀ a, f a ≠ k) : (labelled f k).card = 0 :=
  Finset.card_eq_zero.2 (Finset.filter_eq_empty_iff.2 fun a _ => h a)

/-- **Families can be matched when every label occurs equally often.** -/
theorem exists_equiv_iff (f : α → κ) (g : β → κ) :
    (∃ e : α ≃ β, ∀ a, g (e a) = f a) ↔ ∀ k, (labelled f k).card = (labelled g k).card := by
  constructor
  · rintro ⟨e, he⟩ k
    rw [card_labelled, card_labelled]
    refine Fintype.card_congr (e.subtypeEquiv fun a => ?_)
    rw [he]
  · intro h
    have hfiber (k : κ) : Nonempty ({a // f a = k} ≃ {b // g b = k}) := by
      refine ⟨Fintype.equivOfCardEq ?_⟩
      rw [← card_labelled, ← card_labelled, h k]
    exact ⟨Equiv.ofFiberEquiv fun k => (hfiber k).some, fun a => Equiv.ofFiberEquiv_map _ a⟩

/-- Labels that occur in one family only where they occur in the other occur equally often, if
they do not occur twice. -/
theorem card_labelled_eq {f : α → κ} {g : β → κ} {k : κ}
    (hf : ∀ a, f a = k → ∃ b, g b = k) (hg : ∀ b, g b = k → ∃ a, f a = k)
    (hone : (labelled f k).card ≤ 1 ∧ (labelled g k).card ≤ 1) :
    (labelled f k).card = (labelled g k).card := by
  have hiff : 0 < (labelled f k).card ↔ 0 < (labelled g k).card := by
    rw [Finset.card_pos, Finset.card_pos]
    constructor
    · rintro ⟨a, ha⟩
      obtain ⟨b, hb⟩ := hf a (Finset.mem_filter.1 ha).2
      exact ⟨b, Finset.mem_filter.2 ⟨Finset.mem_univ b, hb⟩⟩
    · rintro ⟨b, hb⟩
      obtain ⟨a, ha⟩ := hg b (Finset.mem_filter.1 hb).2
      exact ⟨a, Finset.mem_filter.2 ⟨Finset.mem_univ a, ha⟩⟩
  omega

end Lib
end Subly402
