/-
# Sorting the keys of JSON values

A canonical text of a JSON value writes the entries of each object in the order of their
keys, and the order is a choice: `sortKeys rank` sorts by a rank of the key, in every
object of the value, and `write rank` writes the sorted value.
-/

import Subly402.Lib.Json
import Mathlib.Data.List.Sort
import Mathlib.Data.List.Lex

namespace Subly402
namespace Lib

/-! ### Entries by rank -/

section Ranks

variable {α α' β γ : Type} [LinearOrder β] [LinearOrder γ]

/-- An entry may stand before another. -/
def EntryLe (rank : String → β) (e e' : String × α) : Prop := rank e.1 ≤ rank e'.1

instance (rank : String → β) : DecidableRel (EntryLe (α := α) rank) := fun _ _ =>
  inferInstanceAs (Decidable (_ ≤ _))

instance (rank : String → β) : Std.Total (EntryLe (α := α) rank) := ⟨fun _ _ => le_total _ _⟩

instance (rank : String → β) : IsTrans (String × α) (EntryLe rank) := ⟨fun _ _ _ => le_trans⟩

/-- The entries by the rank of their keys. -/
abbrev byRank (rank : String → β) (es : List (String × α)) : List (String × α) :=
  es.insertionSort (EntryLe rank)

/-- Inserting commutes with a map of the values. -/
theorem orderedInsert_map (rank : String → β) (f : α → α') (e : String × α) :
    ∀ es : List (String × α),
      (es.orderedInsert (EntryLe rank) e).map (Prod.map id f)
        = (es.map (Prod.map id f)).orderedInsert (EntryLe rank) (Prod.map id f e)
  | [] => rfl
  | e' :: es => by
    rw [List.orderedInsert_cons, List.map_cons, List.orderedInsert_cons]
    have hle : EntryLe rank (Prod.map id f e) (Prod.map id f e') ↔ EntryLe rank e e' := .rfl
    by_cases h : EntryLe rank e e'
    · rw [if_pos h, if_pos (hle.2 h)]
      rfl
    · rw [if_neg h, if_neg (mt hle.1 h), List.map_cons, orderedInsert_map rank f e es]

/-- Neither rank puts two of the keys the other way round. -/
def RanksAgree (rank : String → β) (rank' : String → γ) (keys : List String) : Prop :=
  ∀ k ∈ keys, ∀ k' ∈ keys, ¬ (rank k < rank k' ∧ rank' k' < rank' k)

instance (rank : String → β) (rank' : String → γ) (keys : List String) :
    Decidable (RanksAgree rank rank' keys) :=
  inferInstanceAs (Decidable (∀ k ∈ keys, ∀ k' ∈ keys, _))

variable {rank : String → β} {rank' : String → γ}

/-- Ranks that agree compare alike. -/
theorem RanksAgree.le_iff {keys : List String} (h : RanksAgree rank rank' keys)
    (hrank : Function.Injective rank) (hrank' : Function.Injective rank') {k k' : String}
    (hk : k ∈ keys) (hk' : k' ∈ keys) : rank k ≤ rank k' ↔ rank' k ≤ rank' k' := by
  rcases eq_or_ne k k' with rfl | hne
  · simp
  · have hr : rank k ≠ rank k' := fun heq => hne (hrank heq)
    have hr' : rank' k ≠ rank' k' := fun heq => hne (hrank' heq)
    constructor
    · intro hle
      by_contra hnot
      exact h k hk k' hk' ⟨lt_of_le_of_ne hle hr, not_le.1 hnot⟩
    · intro hle
      by_contra hnot
      exact h k' hk' k hk ⟨not_le.1 hnot, lt_of_le_of_ne hle hr'⟩

/-- Sorting depends on the order of the items only. -/
theorem insertionSort_congr {r r' : α → α → Prop} [DecidableRel r] [DecidableRel r'] :
    ∀ {l : List α}, (∀ a ∈ l, ∀ b ∈ l, r a b ↔ r' a b) → l.insertionSort r = l.insertionSort r'
  | [], _ => rfl
  | a :: l, h => by
    have ih : l.insertionSort r = l.insertionSort r' := insertionSort_congr fun b hb c hc =>
      h b (List.mem_cons_of_mem _ hb) c (List.mem_cons_of_mem _ hc)
    have hinsert : ∀ m : List α, (∀ b ∈ m, b ∈ l) →
        m.orderedInsert r a = m.orderedInsert r' a := by
      intro m hm
      induction m with
      | nil => rfl
      | cons b m ihm =>
        have hb : b ∈ l := hm b List.mem_cons_self
        have hab := h a List.mem_cons_self b (List.mem_cons_of_mem _ hb)
        rw [List.orderedInsert_cons, List.orderedInsert_cons,
          ihm fun c hc => hm c (List.mem_cons_of_mem _ hc)]
        by_cases hr : r a b
        · rw [if_pos hr, if_pos (hab.1 hr)]
        · rw [if_neg hr, if_neg (mt hab.2 hr)]
    rw [List.insertionSort_cons, List.insertionSort_cons, ← ih]
    exact hinsert _ fun b hb => (List.mem_insertionSort r).1 hb

/-- **When two ranks sort entries into one list**: the entries are the same, and the ranks agree
on the keys. -/
theorem insertionSort_eq_iff (hrank : Function.Injective rank) (hrank' : Function.Injective rank')
    {es es' : List (String × α)} (hkeys : es.map Prod.fst = es'.map Prod.fst)
    (hnodup : (es.map Prod.fst).Nodup) :
    byRank rank es = byRank rank' es' ↔ es = es' ∧ RanksAgree rank rank' (es.map Prod.fst) := by
  constructor
  · intro h
    have hperm : es.Perm es' := by
      refine (List.perm_insertionSort (EntryLe rank) es).symm.trans ?_
      rw [show es.insertionSort (EntryLe rank) = es'.insertionSort (EntryLe rank') from h]
      exact List.perm_insertionSort _ es'
    -- equal keys and the same entries: the lists are equal entry by entry
    have heq : es = es' := by
      refine List.ext_getElem? fun n => ?_
      have hn : (es[n]?).map Prod.fst = (es'[n]?).map Prod.fst := by
        rw [← List.getElem?_map, ← List.getElem?_map, hkeys]
      cases he : es[n]? with
      | none =>
        rw [he] at hn
        exact (Option.map_eq_none_iff.1 hn.symm).symm
      | some e =>
        rw [he] at hn
        obtain ⟨e', he', hkey⟩ := Option.map_eq_some_iff.1 hn.symm
        rw [he', Option.some.injEq]
        have hmem : e ∈ es' := hperm.mem_iff.1 (List.mem_of_getElem? he)
        have hmem' : e' ∈ es' := List.mem_of_getElem? he'
        exact List.inj_on_of_nodup_map (hkeys ▸ hnodup) hmem hmem' hkey.symm
    refine ⟨heq, fun k hk k' hk' hreversed => ?_⟩
    obtain ⟨e, he, rfl⟩ := List.mem_map.1 hk
    obtain ⟨e', he', rfl⟩ := List.mem_map.1 hk'
    have hsorted : (byRank rank es).Pairwise (EntryLe rank) := List.pairwise_insertionSort _ es
    have hsorted' : (byRank rank es).Pairwise (EntryLe rank') :=
      h ▸ List.pairwise_insertionSort _ es'
    -- of two entries, the one that stands first is first by both ranks
    let Kept (a b : String × α) : Prop := ¬ (rank a.1 < rank b.1 ∧ rank' b.1 < rank' a.1) ∧
      ¬ (rank b.1 < rank a.1 ∧ rank' a.1 < rank' b.1)
    have hsymm : Std.Symm Kept := ⟨fun _ _ h => h.symm⟩
    have hkept : (byRank rank es).Pairwise Kept :=
      (hsorted.and hsorted').imp fun {a b} hab =>
        ⟨fun hback => not_lt.2 hab.2 hback.2, fun hback => not_lt.2 hab.1 hback.1⟩
    have hself : ∀ a ∈ byRank rank es, Kept a a := fun a _ =>
      ⟨fun hback => lt_irrefl _ hback.1, fun hback => lt_irrefl _ hback.1⟩
    have hmem : e ∈ byRank rank es := (List.mem_insertionSort _).2 he
    have hmem' : e' ∈ byRank rank es := (List.mem_insertionSort _).2 he'
    exact (List.Pairwise.forall_of_forall hself hkept hmem hmem').1 hreversed
  · rintro ⟨rfl, hagree⟩
    refine insertionSort_congr fun a ha b hb => ?_
    exact hagree.le_iff hrank hrank' (List.mem_map_of_mem ha) (List.mem_map_of_mem hb)

end Ranks

namespace Json

variable {β : Type} [LinearOrder β]

/-! ### Sorted values -/

mutual

/-- The value with the entries of every object by rank. -/
def sortKeys (rank : String → β) : Json → Json
  | .scalar a => .scalar a
  | .string s => .string s
  | .array vs => .array (sortItems rank vs)
  | .object es => .object (sortEntries rank es)

def sortItems (rank : String → β) : List Json → List Json
  | [] => []
  | v :: vs => sortKeys rank v :: sortItems rank vs

def sortEntries (rank : String → β) : List (String × Json) → List (String × Json)
  | [] => []
  | (k, v) :: es => (sortEntries rank es).orderedInsert (EntryLe rank) (k, sortKeys rank v)

end

/-- Sorted entries are the sorted values by rank. -/
theorem sortEntries_eq_byRank (rank : String → β) (es : List (String × Json)) :
    sortEntries rank es = byRank rank (es.map (Prod.map id (sortKeys rank))) := by
  induction es with
  | nil => rfl
  | cons e es ih =>
    obtain ⟨k, v⟩ := e
    rw [sortEntries, ih, List.map_cons]
    rfl

/-! ### Writing a value with sorted keys -/

/-- Texts with commas between them. -/
def joined : List (List Char) → List Char
  | [] => []
  | t :: ts => t ++ ts.flatMap (',' :: ·)

mutual

/-- The text of a value, with strings as `write` is told and entries by rank. -/
def write (str : String → List Char) (rank : String → β) : Json → List Char
  | .scalar a => a.text
  | .string s => str s
  | .array vs => '[' :: (joined (writeItems str rank vs) ++ [']'])
  | .object es =>
    '\x7b' :: (joined ((writeEntries str rank es).map fun e => str e.1 ++ ':' :: e.2) ++ ['\x7d'])

def writeItems (str : String → List Char) (rank : String → β) : List Json → List (List Char)
  | [] => []
  | v :: vs => write str rank v :: writeItems str rank vs

/-- The keys with the texts of their values, by rank. -/
def writeEntries (str : String → List Char) (rank : String → β) :
    List (String × Json) → List (String × List Char)
  | [] => []
  | (k, v) :: es => (writeEntries str rank es).orderedInsert (EntryLe rank) (k, write str rank v)

end

/-- Items joined by commas. -/
theorem joined_render (v : Json) (vs : List Json) :
    joined ((v :: vs).map render) = render v ++ renderItems vs := by
  have hitems : ∀ vs : List Json, (vs.map render).flatMap (',' :: ·) = renderItems vs := by
    intro vs
    induction vs with
    | nil => rfl
    | cons v vs ih => rw [List.map_cons, List.flatMap_cons, ih, renderItems, List.cons_append]
  rw [List.map_cons, joined, hitems]

/-- Entries joined by commas. -/
theorem joined_renderEntry (e : String × Json) (es : List (String × Json)) :
    joined ((e :: es).map fun e => quote e.1 ++ ':' :: render e.2)
      = quote e.1 ++ ':' :: (render e.2 ++ renderEntries es) := by
  have hentries : ∀ es : List (String × Json),
      (es.map fun e => quote e.1 ++ ':' :: render e.2).flatMap (',' :: ·) = renderEntries es := by
    intro es
    induction es with
    | nil => rfl
    | cons e es ih =>
      obtain ⟨k, v⟩ := e
      rw [List.map_cons, List.flatMap_cons, ih, renderEntries]
      simp
  rw [List.map_cons, joined, hentries]
  simp

mutual

/-- **Writing by rank is writing the sorted value.** -/
theorem write_eq_render (rank : String → β) : ∀ v : Json,
    v.write quote rank = (v.sortKeys rank).render
  | .scalar a => by rw [write, sortKeys, render]
  | .string s => by rw [write, sortKeys, render]
  | .array vs => by
    rw [write, sortKeys, writeItems_eq_map]
    cases sortItems rank vs with
    | nil => simp [joined, render]
    | cons v vs => rw [joined_render, render, List.append_assoc]
  | .object es => by
    rw [write, sortKeys, writeEntries_eq_map, List.map_map]
    cases sortEntries rank es with
    | nil => simp [joined, render]
    | cons e es =>
      obtain ⟨k, v⟩ := e
      have hjoined := joined_renderEntry (k, v) es
      simp only [Function.comp_def, Prod.map_fst, Prod.map_snd, id_eq]
      rw [hjoined, render]
      simp

/-- Items are written sorted. -/
theorem writeItems_eq_map (rank : String → β) : ∀ vs : List Json,
    writeItems quote rank vs = (sortItems rank vs).map render
  | [] => rfl
  | v :: vs => by
    rw [writeItems, sortItems, List.map_cons, write_eq_render rank v, writeItems_eq_map rank vs]

/-- Entries are written sorted. -/
theorem writeEntries_eq_map (rank : String → β) : ∀ es : List (String × Json),
    writeEntries quote rank es = (sortEntries rank es).map (Prod.map id render)
  | [] => rfl
  | (k, v) :: es => by
    rw [writeEntries, sortEntries, orderedInsert_map, writeEntries_eq_map rank es,
      write_eq_render rank v]
    rfl

end

/-- Values with one text are one value when they are sorted. -/
theorem sortKeys_eq_of_write {γ : Type} [LinearOrder γ] {rank : String → β} {rank' : String → γ}
    {v v' : Json} (h : v.write quote rank = v'.write quote rank') :
    v.sortKeys rank = v'.sortKeys rank' := by
  rw [write_eq_render, write_eq_render] at h
  exact canonical_injective (congrArg String.ofList h)

/-! ### Equality up to the order of entries -/

mutual

/-- The values differ by the order of entries only. -/
inductive SameUpToOrder : Json → Json → Prop
  | scalar (a : JsonScalar) : SameUpToOrder (.scalar a) (.scalar a)
  | string (s : String) : SameUpToOrder (.string s) (.string s)
  | array {vs ws : List Json} (h : SameItems vs ws) : SameUpToOrder (.array vs) (.array ws)
  | object {es es' fs : List (String × Json)} (hperm : es.Perm es') (h : SameEntries es' fs) :
      SameUpToOrder (.object es) (.object fs)

inductive SameItems : List Json → List Json → Prop
  | nil : SameItems [] []
  | cons {v w : Json} {vs ws : List Json} (h : SameUpToOrder v w) (hs : SameItems vs ws) :
      SameItems (v :: vs) (w :: ws)

inductive SameEntries : List (String × Json) → List (String × Json) → Prop
  | nil : SameEntries [] []
  | cons (k : String) {v w : Json} {es fs : List (String × Json)} (h : SameUpToOrder v w)
      (hs : SameEntries es fs) : SameEntries ((k, v) :: es) ((k, w) :: fs)

end

/-- Entry by entry, as `Forall₂`. -/
theorem sameEntries_iff {es fs : List (String × Json)} : SameEntries es fs ↔
    List.Forall₂ (fun e f => e.1 = f.1 ∧ SameUpToOrder e.2 f.2) es fs := by
  constructor
  · intro h
    induction es generalizing fs with
    | nil =>
      cases h
      exact .nil
    | cons e es ih =>
      cases h with
      | cons k hv hs => exact .cons ⟨rfl, hv⟩ (ih hs)
  · intro h
    induction h with
    | nil => exact .nil
    | @cons e f es fs hef _ ih =>
      obtain ⟨k, v⟩ := e
      obtain ⟨k', w⟩ := f
      obtain ⟨rfl, hv⟩ := hef
      exact .cons k hv ih

/-- Entries whose partners are permuted can be permuted along. -/
theorem SameEntries.perm {es fs fs' : List (String × Json)} (h : SameEntries es fs)
    (hperm : fs.Perm fs') : ∃ es', es.Perm es' ∧ SameEntries es' fs' := by
  have hcomp := congrFun (congrFun (List.forall₂_comp_perm_eq_perm_comp_forall₂
    (r := fun e f : String × Json => e.1 = f.1 ∧ SameUpToOrder e.2 f.2)) es) fs'
  obtain ⟨es', hes, hsame⟩ := hcomp.mp ⟨fs, sameEntries_iff.1 h, hperm⟩
  exact ⟨es', hes, sameEntries_iff.2 hsame⟩

mutual

/-- Symmetry, on values. -/
theorem SameUpToOrder.symm : ∀ {v w : Json}, SameUpToOrder v w → SameUpToOrder w v
  | _, _, .scalar a => .scalar a
  | _, _, .string s => .string s
  | _, _, .array h => .array h.symm
  | _, _, .object hperm h => by
    obtain ⟨fs', hfs, hsame⟩ := h.symm.perm hperm.symm
    exact .object hfs hsame

/-- Symmetry, on items. -/
theorem SameItems.symm : ∀ {vs ws : List Json}, SameItems vs ws → SameItems ws vs
  | _, _, .nil => .nil
  | _, _, .cons h hs => .cons h.symm hs.symm

/-- Symmetry, on entries. -/
theorem SameEntries.symm : ∀ {es fs : List (String × Json)}, SameEntries es fs → SameEntries fs es
  | _, _, .nil => .nil
  | _, _, .cons k h hs => .cons k h.symm hs.symm

end

mutual

/-- Transitivity, on values. -/
theorem SameUpToOrder.trans : ∀ {u v w : Json}, SameUpToOrder u v → SameUpToOrder v w →
    SameUpToOrder u w
  | _, _, _, h, .scalar _ => h
  | _, _, _, h, .string _ => h
  | _, _, _, .array h, .array h' => .array (h.trans h')
  | _, _, _, .object hperm h, .object hperm' h' => by
    obtain ⟨es', hes, hsame⟩ := h.perm hperm'
    exact .object (hperm.trans hes) (hsame.trans h')

/-- Transitivity, on items. -/
theorem SameItems.trans : ∀ {us vs ws : List Json}, SameItems us vs → SameItems vs ws →
    SameItems us ws
  | _, _, _, .nil, .nil => .nil
  | _, _, _, .cons h hs, .cons h' hs' => .cons (h.trans h') (hs.trans hs')

/-- Transitivity, on entries. -/
theorem SameEntries.trans : ∀ {es fs gs : List (String × Json)}, SameEntries es fs →
    SameEntries fs gs → SameEntries es gs
  | _, _, _, .nil, .nil => .nil
  | _, _, _, .cons k h hs, .cons _ h' hs' => .cons k (h.trans h') (hs.trans hs')

end

mutual

/-- A value is its sorted form up to order. -/
theorem sameUpToOrder_sortKeys (rank : String → β) : ∀ v : Json,
    SameUpToOrder v (v.sortKeys rank)
  | .scalar a => by rw [sortKeys]; exact .scalar a
  | .string s => by rw [sortKeys]; exact .string s
  | .array vs => by rw [sortKeys]; exact .array (sameItems_sortItems rank vs)
  | .object es => by
    rw [sortKeys, sortEntries_eq_byRank]
    obtain ⟨es', hes, hsame⟩ := (sameEntries_map rank es).perm
      (List.perm_insertionSort (EntryLe rank) _).symm
    exact .object hes hsame

/-- Sorting changes the order only, on items. -/
theorem sameItems_sortItems (rank : String → β) : ∀ vs : List Json,
    SameItems vs (sortItems rank vs)
  | [] => .nil
  | v :: vs => .cons (sameUpToOrder_sortKeys rank v) (sameItems_sortItems rank vs)

/-- Sorting changes the order only, on entries. -/
theorem sameEntries_map (rank : String → β) : ∀ es : List (String × Json),
    SameEntries es (es.map (Prod.map id (sortKeys rank)))
  | [] => .nil
  | (k, v) :: es => .cons k (sameUpToOrder_sortKeys rank v) (sameEntries_map rank es)

end

/-- **Values with one text are the same up to the order of entries.** -/
theorem write_sameUpToOrder {γ : Type} [LinearOrder γ] {rank : String → β} {rank' : String → γ}
    {v v' : Json} (h : v.write quote rank = v'.write quote rank') : SameUpToOrder v v' := by
  have hsorted := sortKeys_eq_of_write h
  have hv : SameUpToOrder v (v'.sortKeys rank') := hsorted ▸ sameUpToOrder_sortKeys rank v
  exact hv.trans (sameUpToOrder_sortKeys rank' v').symm

mutual

/-- A sorted value stays as it is. -/
theorem sortKeys_sortKeys (rank : String → β) : ∀ v : Json,
    (v.sortKeys rank).sortKeys rank = v.sortKeys rank
  | .scalar a => by rw [sortKeys, sortKeys]
  | .string s => by rw [sortKeys, sortKeys]
  | .array vs => by rw [sortKeys, sortKeys, sortItems_sortItems rank vs]
  | .object es => by
    have hsorted : (sortEntries rank es).Pairwise (EntryLe rank) := by
      rw [sortEntries_eq_byRank]
      exact List.pairwise_insertionSort _ _
    have hkeep : (sortEntries rank es).map (Prod.map id (sortKeys rank)) = sortEntries rank es := by
      conv_rhs => rw [← List.map_id (sortEntries rank es)]
      exact List.map_congr_left fun e he =>
        Prod.ext rfl (sortKeys_sortEntries rank es e he)
    rw [sortKeys, sortKeys, sortEntries_eq_byRank rank (sortEntries rank es), hkeep, byRank,
      hsorted.insertionSort_eq]

/-- Sorting twice sorts once, on items. -/
theorem sortItems_sortItems (rank : String → β) : ∀ vs : List Json,
    sortItems rank (sortItems rank vs) = sortItems rank vs
  | [] => rfl
  | v :: vs => by
    rw [sortItems, sortItems, sortKeys_sortKeys rank v, sortItems_sortItems rank vs]

/-- Sorted entries hold sorted values. -/
theorem sortKeys_sortEntries (rank : String → β) : ∀ es : List (String × Json),
    ∀ e ∈ sortEntries rank es, e.2.sortKeys rank = e.2
  | [] => by simp [sortEntries]
  | (k, v) :: es => by
    intro e he
    rw [sortEntries, List.mem_orderedInsert] at he
    rcases he with rfl | he
    · exact sortKeys_sortKeys rank v
    · exact sortKeys_sortEntries rank es e he

end

end Json

end Lib
end Subly402
