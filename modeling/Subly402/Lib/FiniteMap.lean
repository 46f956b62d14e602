/-
# Finite maps that are equal when their lookups are

A concurrent hash map has no order of its own: two of them are the same map when
every key looks up to the same value.  `Std.ExtTreeMap` is extensional in exactly
that sense, and it can be run, so `FiniteMap` is that type at the keys' own
order.
-/

import Mathlib

namespace Subly402
namespace Lib

/-- A finite map from `K` to `V`, extensional in its lookups. -/
abbrev FiniteMap (K V : Type) [Ord K] : Type := Std.ExtTreeMap K V compare

namespace FiniteMap

variable {K V W : Type} [Ord K] [Std.TransOrd K] [Std.LawfulEqOrd K]

theorem ext {m n : FiniteMap K V} (h : ∀ k : K, m[k]? = n[k]?) : m = n :=
  Std.ExtTreeMap.ext_getElem? h

theorem lookup_insert_of_ne (m : FiniteMap K V) {k a : K} (v : V) (h : a ≠ k) :
    (m.insert k v)[a]? = m[a]? := by
  simp [Std.ExtTreeMap.getElem?_insert, h.symm]

theorem lookup_erase_of_ne (m : FiniteMap K V) {k a : K} (h : a ≠ k) :
    (m.erase k)[a]? = m[a]? := by
  simp [Std.ExtTreeMap.getElem?_erase, h.symm]

theorem lookup_insert [DecidableEq K] (m : FiniteMap K V) (k a : K) (v : V) :
    (m.insert k v)[a]? = if a = k then some v else m[a]? := by
  by_cases h : a = k
  · subst h; simp
  · rw [if_neg h, lookup_insert_of_ne m v h]

theorem lookup_erase [DecidableEq K] (m : FiniteMap K V) (k a : K) :
    (m.erase k)[a]? = if a = k then none else m[a]? := by
  by_cases h : a = k
  · subst h; simp
  · rw [if_neg h, lookup_erase_of_ne m h]

/-! ### Entries after a write -/

section Entries

variable [DecidableEq K] {m : FiniteMap K V} {k a : K} {v w : V}

/-- An entry of a map after a write is the one written, or was there. -/
theorem lookup_insert_cases (h : (m.insert k v)[a]? = some w) : a = k ∧ w = v ∨ m[a]? = some w := by
  rw [lookup_insert] at h
  split at h
  · next ha => exact .inl ⟨ha, (Option.some.inj h).symm⟩
  · exact .inr h

/-- An entry that a removal leaves was there. -/
theorem lookup_of_erase (h : (m.erase k)[a]? = some w) : m[a]? = some w := by
  rw [lookup_erase] at h
  split at h
  · cases h
  · exact h

/-- What holds of the entry written and of all others holds after the write. -/
theorem forall_insert {P : K → V → Prop} (h : ∀ a w, m[a]? = some w → P a w) (hnew : P k v) :
    ∀ a w, (m.insert k v)[a]? = some w → P a w := by
  intro a w hw
  obtain ⟨rfl, rfl⟩ | hw := lookup_insert_cases hw
  · exact hnew
  · exact h a w hw

/-- What holds of all entries holds after a removal. -/
theorem forall_erase {P : K → V → Prop} (h : ∀ a w, m[a]? = some w → P a w) :
    ∀ a w, (m.erase k)[a]? = some w → P a w :=
  fun a w hw => h a w (lookup_of_erase hw)

end Entries

/-! ### Operations that undo each other -/

/-- Writing back what a key already holds changes nothing. -/
theorem insert_lookup {m : FiniteMap K V} {k : K} {v : V} (h : m[k]? = some v) :
    m.insert k v = m := by
  refine ext fun a => ?_
  by_cases ha : a = k
  · subst ha; simpa using h.symm
  · rw [lookup_insert_of_ne _ _ ha]

/-- The later of two writes to a key wins. -/
@[simp]
theorem insert_insert_self (m : FiniteMap K V) (k : K) (v w : V) :
    (m.insert k v).insert k w = m.insert k w := by
  refine ext fun a => ?_
  by_cases ha : a = k
  · subst ha; simp
  · simp only [lookup_insert_of_ne _ _ ha]

/-- Removing a key that was just added leaves the map without it. -/
@[simp]
theorem erase_insert_self (m : FiniteMap K V) (k : K) (v : V) :
    (m.insert k v).erase k = m.erase k := by
  refine ext fun a => ?_
  by_cases ha : a = k
  · subst ha; simp
  · simp only [lookup_erase_of_ne _ ha, lookup_insert_of_ne _ _ ha]

/-- Adding a key that was just removed is a write to it. -/
@[simp]
theorem insert_erase_self (m : FiniteMap K V) (k : K) (v : V) :
    (m.erase k).insert k v = m.insert k v := by
  refine ext fun a => ?_
  by_cases ha : a = k
  · subst ha; simp
  · simp only [lookup_insert_of_ne _ _ ha, lookup_erase_of_ne _ ha]

/-- Removing an absent key changes nothing. -/
theorem erase_absent {m : FiniteMap K V} {k : K} (h : m[k]? = none) : m.erase k = m := by
  refine ext fun a => ?_
  by_cases ha : a = k
  · subst ha; simpa using h.symm
  · rw [lookup_erase_of_ne _ ha]

theorem map_insert (f : V → W) (m : FiniteMap K V) (k : K) (v : V) :
    ((m.insert k v).map (fun _ => f) : FiniteMap K W)
      = (m.map (fun _ => f) : FiniteMap K W).insert k (f v) := by
  refine ext fun a => ?_
  by_cases ha : a = k
  · subst ha; simp
  · simp [lookup_insert_of_ne _ _ ha]

theorem map_erase (f : V → W) (m : FiniteMap K V) (k : K) :
    ((m.erase k).map (fun _ => f) : FiniteMap K W)
      = (m.map (fun _ => f) : FiniteMap K W).erase k := by
  refine ext fun a => ?_
  by_cases ha : a = k
  · subst ha; simp
  · simp [lookup_erase_of_ne _ ha]

/-! ### Sums over the entries -/

theorem mem_toList_iff {m : FiniteMap K V} {e : K × V} : e ∈ m.toList ↔ m[e.1]? = some e.2 :=
  Std.ExtTreeMap.mem_toList_iff_getElem?_eq_some

theorem nodup_toList (m : FiniteMap K V) : m.toList.Nodup := by
  refine Std.ExtTreeMap.distinct_keys_toList.imp ?_
  rintro a b hab rfl
  exact hab Std.ReflCmp.compare_self

/-- The entries after an insertion: the new one, and those of the other keys. -/
theorem toList_insert_perm (m : FiniteMap K V) (k : K) (v : V) :
    (m.insert k v).toList.Perm ((k, v) :: (m.erase k).toList) := by
  refine (List.perm_ext_iff_of_nodup (nodup_toList _) ?_).2 ?_
  · refine List.nodup_cons.2 ⟨fun h => ?_, nodup_toList _⟩
    simp [mem_toList_iff] at h
  · rintro ⟨a, w⟩
    by_cases ha : a = k
    · subst ha; simp [mem_toList_iff, eq_comm]
    · simp only [mem_toList_iff, List.mem_cons, Prod.mk.injEq, ha, false_and, false_or]
      rw [lookup_insert_of_ne _ _ ha, lookup_erase_of_ne _ ha]

/-- Inserting the entries of a map into an empty one gives the map back. -/
theorem foldl_insert_toList [DecidableEq K] (m : FiniteMap K V) :
    m.toList.foldl (fun acc p => acc.insert p.1 p.2) (∅ : FiniteMap K V) = m := by
  rw [← Std.ExtTreeMap.ofList_eq_foldl]
  refine ext fun k => ?_
  cases h : m[k]? with
  | some v =>
    exact Std.ExtTreeMap.getElem?_ofList_of_mem Std.ReflCmp.compare_self
      Std.ExtTreeMap.distinct_keys_toList (mem_toList_iff.2 h)
  | none =>
    refine Std.ExtTreeMap.getElem?_ofList_of_contains_eq_false ?_
    rw [List.contains_eq_mem, decide_eq_false_iff_not]
    intro hmem
    obtain ⟨⟨k', v⟩, hp, rfl⟩ := List.mem_map.1 hmem
    rw [mem_toList_iff.1 hp] at h
    cases h

/-- The sum of `f` over the entries of a map. -/
def total (f : V → ℕ) (m : FiniteMap K V) : ℕ := (m.toList.map fun e => f e.2).sum

/-- What a key contributes to `total`. -/
def weight (f : V → ℕ) (m : FiniteMap K V) (k : K) : ℕ := (m[k]?).elim 0 f

omit [Std.LawfulEqOrd K] in
@[simp]
theorem total_empty (f : V → ℕ) : total f (∅ : FiniteMap K V) = 0 := by
  rw [total, Std.ExtTreeMap.toList_eq_nil_iff.2 rfl]
  rfl

omit [Std.LawfulEqOrd K] in
theorem weight_of_lookup {f : V → ℕ} {m : FiniteMap K V} {k : K} {v : V} (h : m[k]? = some v) :
    weight f m k = f v := by
  simp [weight, h]

omit [Std.LawfulEqOrd K] in
theorem weight_of_absent {f : V → ℕ} {m : FiniteMap K V} {k : K} (h : m[k]? = none) :
    weight f m k = 0 := by
  simp [weight, h]

theorem total_insert_eq (f : V → ℕ) (m : FiniteMap K V) (k : K) (v : V) :
    total f (m.insert k v) = f v + total f (m.erase k) := by
  unfold total
  rw [((toList_insert_perm m k v).map _).sum_eq]
  simp

/-- A removal takes the key's contribution away. -/
theorem total_erase (f : V → ℕ) (m : FiniteMap K V) (k : K) :
    total f (m.erase k) + weight f m k = total f m := by
  cases h : m[k]? with
  | none => simp [weight, h, erase_absent h]
  | some v =>
    have := total_insert_eq f m k v
    rw [insert_lookup h] at this
    rw [weight_of_lookup h]
    omega

/-- A write exchanges the key's old contribution for the new one. -/
theorem total_insert (f : V → ℕ) (m : FiniteMap K V) (k : K) (v : V) :
    total f (m.insert k v) + weight f m k = total f m + f v := by
  have h₁ := total_insert_eq f m k v
  have h₂ := total_erase f m k
  omega

/-- A new key adds its contribution. -/
theorem total_insert_absent {m : FiniteMap K V} {k : K} (h : m[k]? = none) (f : V → ℕ) (v : V) :
    total f (m.insert k v) = total f m + f v := by
  have := total_insert f m k v
  rw [weight_of_absent h] at this
  omega

/-- A write to a present key exchanges one contribution for another. -/
theorem total_insert_present {m : FiniteMap K V} {k : K} {v : V} (h : m[k]? = some v) (f : V → ℕ)
    (w : V) : total f (m.insert k w) + f v = total f m + f w := by
  have := total_insert f m k w
  rwa [weight_of_lookup h] at this

/-- The removal of a present key takes its contribution away. -/
theorem total_erase_present {m : FiniteMap K V} {k : K} {v : V} (h : m[k]? = some v) (f : V → ℕ) :
    total f (m.erase k) + f v = total f m := by
  have := total_erase f m k
  rwa [weight_of_lookup h] at this

/-- Every entry is counted. -/
theorem le_total {m : FiniteMap K V} {k : K} {v : V} (h : m[k]? = some v) (f : V → ℕ) :
    f v ≤ total f m := by
  have := total_erase_present h f
  omega

/-- A sum of nothing but zeros. -/
theorem total_eq_zero {f : V → ℕ} {m : FiniteMap K V}
    (h : ∀ (k : K) (v : V), m[k]? = some v → f v = 0) : total f m = 0 := by
  refine List.sum_eq_zero fun n hn => ?_
  obtain ⟨e, he, rfl⟩ := List.mem_map.1 hn
  exact h e.1 e.2 (mem_toList_iff.1 he)

/-- A sum with one entry that counts. -/
theorem total_eq_of_unique {f : V → ℕ} {m : FiniteMap K V} {k : K} {v : V} (h : m[k]? = some v)
    (hothers : ∀ (k' : K) (v' : V), k' ≠ k → m[k']? = some v' → f v' = 0) : total f m = f v := by
  have hrest : total f (m.erase k) = 0 := by
    refine total_eq_zero fun k' v' hv' => ?_
    by_cases hk : k' = k
    · rw [hk, Std.ExtTreeMap.getElem?_erase_self] at hv'
      cases hv'
    · rw [lookup_erase_of_ne m hk] at hv'
      exact hothers k' v' hk hv'
  have hsplit := total_erase_present h f
  omega

/-- A write that keeps the key's contribution keeps the sum. -/
theorem total_insert_same {f : V → ℕ} {m : FiniteMap K V} {k : K} {v w : V} (h : m[k]? = some v)
    (hf : f w = f v) : total f (m.insert k w) = total f m := by
  have := total_insert_present h f w
  omega

omit [Std.LawfulEqOrd K] in
/-- The sum over the images is the sum of the composition. -/
theorem total_map (f : W → ℕ) (g : V → W) (m : FiniteMap K V) :
    total f (m.map (fun _ => g) : FiniteMap K W) = total (fun v => f (g v)) m := by
  simp [total, Std.ExtTreeMap.toList_map, Function.comp_def]

end FiniteMap

end Lib
end Subly402
