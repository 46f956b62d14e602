/-
# Which settlements a batch takes

`select_batch_settlement_ids` sorts the cursors, oldest first, and takes one settlement of
each in turn until it has enough or none is left.  `selectRounds_eq` says that this is the
beginning of the list that taking turns makes (`Subly402.Lib.RoundRobin`), and
**`select_fair`** what follows for every provider: how many are taken, which, and that no
provider is passed over.
-/

import Subly402.Batch.Cursors
import Subly402.Lib.RoundRobin

namespace Subly402
namespace Batch

open Lib
open Lib.RoundRobin (level rounds advance ofKey)

variable {cursor c d : ProviderBatchCursor}

/-- The settlements that a cursor has left: all of them, where it starts at the first. -/
def ProviderBatchCursor.remaining (cursor : ProviderBatchCursor) : List String :=
  cursor.settlementIds.drop cursor.nextIndex

/-- A cursor as a queue. -/
def ProviderBatchCursor.queue (cursor : ProviderBatchCursor) : String × List String :=
  (cursor.providerId, cursor.remaining)

/-- The settlements of a provider among those selected. -/
def ProviderBatchCursor.share (cursor : ProviderBatchCursor) (selected : List (String × String)) :
    List String := ofKey cursor.providerId selected

/-! ### Turns -/

theorem ProviderBatchCursor.remaining_eq_nil (h : cursor.settlementIds[cursor.nextIndex]? = none) :
    cursor.remaining = [] :=
  List.drop_eq_nil_of_le (List.getElem?_eq_none_iff.1 h)

theorem ProviderBatchCursor.remaining_eq_cons {settlementId : String}
    (h : cursor.settlementIds[cursor.nextIndex]? = some settlementId) :
    cursor.remaining = settlementId ::
      ProviderBatchCursor.remaining { cursor with nextIndex := cursor.nextIndex + 1 } := by
  obtain ⟨hlt, rfl⟩ := List.getElem?_eq_some_iff.1 h
  exact List.drop_eq_getElem_cons hlt

/-- A turn takes the beginning of a level. -/
theorem selectRound_fst : ∀ (cursors : List ProviderBatchCursor) (room : ℕ),
    (selectRound cursors room).1 = (level (cursors.map (·.queue)) 0).take room
  | [], room => by simp [selectRound, level]
  | _ :: _, 0 => rfl
  | cursor :: cursors, room + 1 => by
    unfold selectRound
    split
    · next hnone =>
      have hpick : RoundRobin.pick 0 cursor.queue = none := by
        simp [RoundRobin.pick, ProviderBatchCursor.queue, cursor.remaining_eq_nil hnone]
      simp only [selectRound_fst cursors (room + 1)]
      rw [List.map_cons, level, level, List.filterMap_cons_none hpick]
    · next settlementId hsome =>
      have hpick : RoundRobin.pick 0 cursor.queue = some (cursor.providerId, settlementId) := by
        simp [RoundRobin.pick, ProviderBatchCursor.queue, cursor.remaining_eq_cons hsome]
      simp only [selectRound_fst cursors room]
      rw [List.map_cons, level, level, List.filterMap_cons_some hpick, List.take_succ_cons]

/-- A turn with room for all leaves the queues after it. -/
theorem selectRound_snd : ∀ (cursors : List ProviderBatchCursor) (room : ℕ),
    (level (cursors.map (·.queue)) 0).length ≤ room →
      (selectRound cursors room).2.map (·.queue) = (cursors.map (·.queue)).map advance
  | [], _, _ => rfl
  | cursor :: cursors, 0, h => by
    have hnil : level ((cursor :: cursors).map (·.queue)) 0 = [] :=
      List.length_eq_zero_iff.1 (Nat.le_zero.1 h)
    simp only [selectRound]
    rw [List.map_map]
    refine List.map_congr_left fun c hc => ?_
    have hempty : c.remaining = [] := RoundRobin.eq_nil_of_level hnil (List.mem_map_of_mem hc)
    simp [ProviderBatchCursor.queue, advance, hempty]
  | cursor :: cursors, room + 1, h => by
    unfold selectRound
    split
    · next hnone =>
      have hempty := cursor.remaining_eq_nil hnone
      have hpick : RoundRobin.pick 0 cursor.queue = none := by
        simp [RoundRobin.pick, ProviderBatchCursor.queue, hempty]
      rw [List.map_cons, level, List.filterMap_cons_none hpick] at h
      simp only [List.map_cons]
      rw [selectRound_snd cursors (room + 1) h]
      simp [ProviderBatchCursor.queue, advance, hempty]
    · next settlementId hsome =>
      have hcons := cursor.remaining_eq_cons hsome
      have hpick : RoundRobin.pick 0 cursor.queue = some (cursor.providerId, settlementId) := by
        simp [RoundRobin.pick, ProviderBatchCursor.queue, hcons]
      rw [List.map_cons, level, List.filterMap_cons_some hpick, List.length_cons] at h
      have hrest : (level (cursors.map (·.queue)) 0).length ≤ room := Nat.le_of_succ_le_succ h
      simp only [List.map_cons]
      rw [selectRound_snd cursors room hrest]
      simp [ProviderBatchCursor.queue, advance, hcons]

/-- **The turns of the planner are the beginning of all turns.** -/
theorem selectRounds_eq (fuel : ℕ) (cursors : List ProviderBatchCursor) (room : ℕ)
    (hroom : room ≤ fuel) (n : ℕ) (hn : ∀ cursor ∈ cursors, cursor.remaining.length ≤ n) :
    selectRounds fuel cursors room = (rounds n (cursors.map (·.queue))).take room := by
  induction fuel generalizing cursors room n with
  | zero =>
    obtain rfl : room = 0 := Nat.le_zero.1 hroom
    rw [List.take_zero]
    rfl
  | succ fuel ih =>
    have hfst := selectRound_fst cursors room
    unfold selectRounds
    simp only
    rw [hfst]
    split
    · next hnil =>
      rcases List.take_eq_nil_iff.1 hnil with rfl | hlevel
      · rw [List.take_zero]
      · -- no cursor has anything left
        have hempty : ∀ queue ∈ cursors.map (·.queue), queue.2 = [] := fun queue hq =>
          RoundRobin.eq_nil_of_level hlevel hq
        rw [RoundRobin.rounds_eq_nil hempty, List.take_nil]
    · next hne =>
      have hlevel : level (cursors.map (·.queue)) 0 ≠ [] := fun hnil =>
        hne (by rw [hnil, List.take_nil])
      cases n with
      | zero =>
        refine absurd (List.filterMap_eq_nil_iff.2 fun queue hq => ?_) hlevel
        obtain ⟨cursor, hc, rfl⟩ := List.mem_map.1 hq
        have hempty : cursor.remaining = [] :=
          List.length_eq_zero_iff.1 (Nat.le_zero.1 (hn cursor hc))
        simp [RoundRobin.pick, ProviderBatchCursor.queue, hempty]
      | succ n =>
        have hpos := List.length_pos_of_ne_nil hlevel
        rw [RoundRobin.rounds_succ, List.take_append]
        rcases Nat.le_total (level (cursors.map (·.queue)) 0).length room with hle | hge
        · -- a whole turn, and the others
          have hsnd := selectRound_snd cursors room hle
          have hrest : ∀ cursor ∈ (selectRound cursors room).2, cursor.remaining.length ≤ n := by
            intro cursor hc
            have hmem : cursor.queue ∈ (cursors.map (·.queue)).map advance :=
              hsnd ▸ List.mem_map_of_mem hc
            obtain ⟨_, hq, heq⟩ := List.mem_map.1 hmem
            obtain ⟨old, hold, rfl⟩ := List.mem_map.1 hq
            have htail : old.remaining.tail = cursor.remaining := congrArg Prod.snd heq
            have hlen := hn old hold
            rw [← htail, List.length_tail]
            omega
          rw [List.take_of_length_le hle, ih _ _ (by omega) n hrest, hsnd]
        · -- the room ends within the turn
          have hlast := length_selectRounds fuel (selectRound cursors room).2 0
          rw [List.length_take, min_eq_left hge, Nat.sub_self, Nat.sub_eq_zero_of_le hge,
            List.take_zero, List.append_nil, List.length_eq_zero_iff.1 (Nat.le_zero.1 hlast),
            List.append_nil]

/-! ### The loop of the source -/

/-- The loop of `select_batch_settlement_ids` with a bound on its turns: `none` where they do not
suffice. -/
def selectLoop (maxEntries : ℕ) : ℕ → List ProviderBatchCursor → List (String × String) →
    Option (List (String × String))
  | 0, _, selected => if selected.length < maxEntries then none else some selected
  | turns + 1, cursors, selected =>
    if selected.length < maxEntries then
      let (advanced, cursors) := selectRound cursors (maxEntries - selected.length)
      if advanced = [] then some selected
      else selectLoop maxEntries turns cursors (selected ++ advanced)
    else some selected

/-- **The loop ends**, after as many turns as there is room for entries. -/
theorem selectLoop_eq {maxEntries turns : ℕ} (cursors : List ProviderBatchCursor)
    (selected : List (String × String)) (hturns : maxEntries - selected.length ≤ turns) :
    selectLoop maxEntries turns cursors selected
      = some (selected ++ selectRounds turns cursors (maxEntries - selected.length)) := by
  induction turns generalizing cursors selected with
  | zero =>
    unfold selectLoop
    rw [if_neg (by omega), selectRounds, List.append_nil]
  | succ turns ih =>
    unfold selectLoop selectRounds
    simp only
    split
    · next hlt =>
      split
      · rw [List.append_nil]
      · next hne =>
        have hpos := List.length_pos_of_ne_nil hne
        have hroom : maxEntries - (selected ++ (selectRound cursors
            (maxEntries - selected.length)).1).length = maxEntries - selected.length -
              (selectRound cursors (maxEntries - selected.length)).1.length := by
          rw [List.length_append]
          omega
        rw [ih _ _ (by omega), hroom, List.append_assoc]
    · next hge =>
      have hzero : maxEntries - selected.length = 0 := by omega
      have hround := length_selectRound cursors (maxEntries - selected.length)
      have hnil : (selectRound cursors (maxEntries - selected.length)).1 = [] :=
        List.length_eq_zero_iff.1 (by omega)
      rw [if_pos hnil, List.append_nil]

/-! ### The order of the cursors -/

namespace ProviderBatchCursor

theorem le_total (a b : ProviderBatchCursor) : a.le b ∨ b.le a := by
  unfold le
  rcases lt_trichotomy a.oldestCreditAt b.oldestCreditAt with h | h | h
  · exact .inl (.inl h)
  · rcases String.le_total a.providerId b.providerId with hid | hid
    · exact .inl (.inr ⟨h, hid⟩)
    · exact .inr (.inr ⟨h.symm, hid⟩)
  · exact .inr (.inl h)

theorem le_trans {a b : ProviderBatchCursor} (hab : a.le b) (hbc : b.le c) : a.le c := by
  unfold le at *
  rcases hab with hab | ⟨hab, hid⟩ <;> rcases hbc with hbc | ⟨hbc, hid'⟩
  · exact .inl (hab.trans hbc)
  · exact .inl (hbc ▸ hab)
  · exact .inl (hab ▸ hbc)
  · exact .inr ⟨hab.trans hbc, String.le_trans hid hid'⟩

theorem providerId_eq_of_le {a b : ProviderBatchCursor} (hab : a.le b) (hba : b.le a) :
    a.providerId = b.providerId := by
  unfold le at *
  rcases hab with hab | ⟨hab, hid⟩ <;> rcases hba with hba | ⟨hba, hid'⟩
  · exact (lt_asymm hab hba).elim
  · exact (hab.ne hba.symm).elim
  · exact (hba.ne hab.symm).elim
  · exact String.le_antisymm hid hid'

end ProviderBatchCursor

instance : Std.Total ProviderBatchCursor.le := ⟨ProviderBatchCursor.le_total⟩

instance : IsTrans ProviderBatchCursor ProviderBatchCursor.le :=
  ⟨fun _ _ _ => ProviderBatchCursor.le_trans⟩

/-- The cursors as the loop starts with them. -/
def sortedCursors (cursors : List ProviderBatchCursor) : List ProviderBatchCursor :=
  (cursors.filter fun cursor => cursor.settlementIds ≠ []).insertionSort ProviderBatchCursor.le

theorem mem_sortedCursors {cursors : List ProviderBatchCursor} :
    cursor ∈ sortedCursors cursors ↔ cursor ∈ cursors ∧ cursor.settlementIds ≠ [] := by
  rw [sortedCursors, List.mem_insertionSort, List.mem_filter]
  simp

theorem sum_sortedCursors (cursors : List ProviderBatchCursor) :
    ((sortedCursors cursors).map (·.remaining.length)).sum
      = (cursors.map (·.remaining.length)).sum := by
  rw [sortedCursors, ((List.perm_insertionSort _ _).map _).sum_eq]
  induction cursors with
  | nil => rfl
  | cons cursor cursors ih =>
    rw [List.filter_cons, List.map_cons, List.sum_cons]
    split
    · rw [List.map_cons, List.sum_cons, ih]
    · next hnil =>
      have hempty : cursor.settlementIds = [] := by simpa using hnil
      have hzero : cursor.remaining.length = 0 := by
        rw [ProviderBatchCursor.remaining, hempty, List.drop_nil, List.length_nil]
      rw [ih, hzero, Nat.zero_add]

/-! ### What is selected -/

section Select

variable {cursors : List ProviderBatchCursor} (m : ℕ)

/-- The selection is the beginning of all turns of the sorted cursors. -/
theorem select_eq (cursors : List ProviderBatchCursor) : ∃ n,
    (∀ queue ∈ (sortedCursors cursors).map (·.queue), queue.2.length ≤ n) ∧
      selectBatchSettlementIds cursors m
        = (rounds n ((sortedCursors cursors).map (·.queue))).take m := by
  have hn : ∀ cursor ∈ sortedCursors cursors,
      cursor.remaining.length ≤ ((sortedCursors cursors).map (·.remaining.length)).sum := fun c hc =>
    List.le_sum_of_mem (List.mem_map_of_mem hc)
  refine ⟨_, fun queue hq => ?_, selectRounds_eq m (sortedCursors cursors) m le_rfl _ hn⟩
  obtain ⟨cursor, hc, rfl⟩ := List.mem_map.1 hq
  exact hn cursor hc

theorem length_select (cursors : List ProviderBatchCursor) :
    (selectBatchSettlementIds cursors m).length
      = min m (cursors.map (·.remaining.length)).sum := by
  obtain ⟨n, hn, heq⟩ := select_eq m cursors
  have hmap : ((sortedCursors cursors).map (·.queue)).map (·.2.length)
      = (sortedCursors cursors).map (·.remaining.length) := List.map_map ..
  rw [heq, List.length_take, RoundRobin.length_rounds hn, hmap, sum_sortedCursors]

variable (hdistinct : (cursors.map (·.providerId)).Nodup)

include hdistinct

theorem cursor_eq (hc : c ∈ cursors) (hd : d ∈ cursors) (hid : c.providerId = d.providerId) :
    c = d :=
  List.inj_on_of_nodup_map hdistinct hc hd hid

theorem nodup_keys : (((sortedCursors cursors).map (·.queue)).map Prod.fst).Nodup := by
  have hkeys : ((sortedCursors cursors).map (·.queue)).map Prod.fst
      = (sortedCursors cursors).map (·.providerId) := List.map_map ..
  rw [hkeys, sortedCursors, ((List.perm_insertionSort _ _).map _).nodup_iff]
  exact hdistinct.sublist (List.filter_sublist.map _)

/-- **What each provider gets**: all the same number of turns, and those up to some place one
more. -/
theorem share_select : ∃ t i, ∀ cursor ∈ sortedCursors cursors,
    (cursor ∈ (sortedCursors cursors).take i →
      cursor.share (selectBatchSettlementIds cursors m) = cursor.remaining.take (t + 1)) ∧
    (cursor ∉ (sortedCursors cursors).take i →
      cursor.share (selectBatchSettlementIds cursors m) = cursor.remaining.take t) := by
  obtain ⟨n, -, heq⟩ := select_eq m cursors
  obtain ⟨t, i, hmore, hless⟩ := RoundRobin.ofKey_take (nodup_keys hdistinct) n m
  refine ⟨t, i, fun cursor hc => ⟨fun hin => ?_, fun hout => ?_⟩⟩
  · rw [heq]
    refine hmore cursor.queue ?_
    rw [← List.map_take]
    exact List.mem_map_of_mem hin
  · rw [heq]
    refine hless cursor.queue (List.mem_map_of_mem hc) fun hin => hout ?_
    rw [← List.map_take] at hin
    obtain ⟨other, ho, hqueue⟩ := List.mem_map.1 hin
    have hsame : other = cursor := cursor_eq hdistinct
      (mem_sortedCursors.1 (List.mem_of_mem_take ho)).1 (mem_sortedCursors.1 hc).1
      (congrArg Prod.fst hqueue)
    exact hsame ▸ ho

/-- A cursor that the loop does not start with has nothing to give. -/
theorem share_of_notMem (hc : cursor ∈ cursors) (hout : cursor ∉ sortedCursors cursors) :
    cursor.remaining = [] ∧ cursor.share (selectBatchSettlementIds cursors m) = [] := by
  have hempty : cursor.settlementIds = [] := by
    by_contra hne
    exact hout (mem_sortedCursors.2 ⟨hc, hne⟩)
  constructor
  · rw [ProviderBatchCursor.remaining, hempty, List.drop_nil]
  · refine List.filterMap_eq_nil_iff.2 fun pair hpair => if_neg fun hid => ?_
    obtain ⟨other, ho, hid', hmem⟩ := mem_selectBatchSettlementIds hpair
    obtain rfl := cursor_eq hdistinct ho hc (hid'.trans hid)
    rw [hempty] at hmem
    cases hmem

/-- A cursor that has its turn in the last round has older ones before it. -/
theorem mem_take_of_le {i : ℕ} (hc : c ∈ sortedCursors cursors)
    (hd : d ∈ (sortedCursors cursors).take i) (hle : c.le d) :
    c ∈ (sortedCursors cursors).take i := by
  have hsorted : (sortedCursors cursors).Pairwise ProviderBatchCursor.le :=
    List.pairwise_insertionSort _ _
  rw [← List.take_append_drop i (sortedCursors cursors)] at hc
  rcases List.mem_append.1 hc with hin | hdrop
  · exact hin
  · rw [← List.take_append_drop i (sortedCursors cursors)] at hsorted
    have hback : d.le c := (List.pairwise_append.1 hsorted).2.2 d hd c hdrop
    have hsame : c = d := cursor_eq hdistinct (mem_sortedCursors.1 (List.mem_of_mem_drop hdrop)).1
      (mem_sortedCursors.1 (List.mem_of_mem_take hd)).1
      (ProviderBatchCursor.providerId_eq_of_le hle hback)
    exact hsame ▸ hd

theorem nodup_select (hnodup : ∀ cursor ∈ cursors, cursor.remaining.Nodup) :
    (selectBatchSettlementIds cursors m).Nodup := by
  obtain ⟨left, hperm⟩ := selectBatchSettlementIds_perm cursors m
  have hall : ((cursors.filter fun cursor => cursor.settlementIds ≠ []).flatMap (·.pairs)).Nodup := by
    refine List.nodup_flatMap.2 ⟨fun c hc => ?_, ?_⟩
    · exact (hnodup c (List.mem_of_mem_filter hc)).map fun _ _ h => (Prod.mk.inj h).2
    · have hids : (cursors.filter fun cursor => cursor.settlementIds ≠ []).Pairwise
          fun c d => c.providerId ≠ d.providerId :=
        List.pairwise_map.1 (hdistinct.sublist (List.filter_sublist.map _))
      refine hids.imp fun {c d} hne pair hc hd => hne ?_
      obtain ⟨_, -, rfl⟩ := List.mem_map.1 hc
      obtain ⟨_, -, heq⟩ := List.mem_map.1 hd
      exact (Prod.mk.inj heq).1.symm
  exact (hperm.nodup_iff.2 hall).of_append_left

/-- An older provider that has more gets no fewer than a younger one. -/
theorem older_select (hc : c ∈ cursors) (hd : d ∈ cursors) (hle : c.le d)
    (hmore : c.share (selectBatchSettlementIds cursors m) ≠ c.remaining) :
    (d.share (selectBatchSettlementIds cursors m)).length
      ≤ (c.share (selectBatchSettlementIds cursors m)).length := by
  obtain ⟨t, i, hshare⟩ := share_select m hdistinct
  have hin : c ∈ sortedCursors cursors := by
    by_contra hout
    obtain ⟨hnil, hnone⟩ := share_of_notMem m hdistinct hc hout
    exact hmore (hnone.trans hnil.symm)
  -- with more to give, a share is as long as the turns it had
  have hlong : ∀ k, c.share (selectBatchSettlementIds cursors m) = c.remaining.take k →
      (c.share (selectBatchSettlementIds cursors m)).length = k := by
    intro k hk
    have hlt : k < c.remaining.length := by
      by_contra hge
      exact hmore (hk.trans (List.take_of_length_le (by omega)))
    rw [hk, List.length_take]
    omega
  by_cases hdin : d ∈ sortedCursors cursors
  · obtain ⟨hdmore, hdless⟩ := hshare d hdin
    obtain ⟨hcmore, hcless⟩ := hshare c hin
    by_cases hdtake : d ∈ (sortedCursors cursors).take i
    · have hctake := mem_take_of_le hdistinct hin hdtake hle
      rw [hlong (t + 1) (hcmore hctake), hdmore hdtake]
      exact List.length_take_le (t + 1) d.remaining
    · have hdlen : (d.share (selectBatchSettlementIds cursors m)).length ≤ t := by
        rw [hdless hdtake]
        exact List.length_take_le t d.remaining
      by_cases hctake : c ∈ (sortedCursors cursors).take i
      · rw [hlong (t + 1) (hcmore hctake)]
        omega
      · rw [hlong t (hcless hctake)]
        exact hdlen
  · rw [(share_of_notMem m hdistinct hd hdin).2, List.length_nil]
    exact Nat.zero_le _

end Select

/-- What a selection has to be. -/
structure Selection (cursors : List ProviderBatchCursor) (m : ℕ) (selected : List (String × String)) :
    Prop where
  /-- There are as many as there is room for, or all. -/
  length : selected.length = min m (cursors.map (·.remaining.length)).sum
  /-- Each is one of a provider. -/
  known : ∀ pair ∈ selected, ∃ cursor ∈ cursors, cursor.providerId = pair.1
  /-- A provider's are the first that it has, in order. -/
  front : ∀ cursor ∈ cursors, cursor.share selected <+: cursor.remaining
  /-- None is taken twice, where none is there twice. -/
  nodup : (∀ cursor ∈ cursors, cursor.remaining.Nodup) → selected.Nodup
  /-- Only a provider that has no more gets fewer by more than one. -/
  level : ∀ c ∈ cursors, ∀ d ∈ cursors,
    (c.share selected).length + 1 < (d.share selected).length → c.share selected = c.remaining
  /-- A provider that has more gets no fewer than one with a younger credit. -/
  older : ∀ c ∈ cursors, ∀ d ∈ cursors, c.le d → c.share selected ≠ c.remaining →
    (d.share selected).length ≤ (c.share selected).length

/-- **Round robin is fair**, for every list of cursors and every maximum: the loop of the source
ends, and with the right selection. -/
theorem select_fair (cursors : List ProviderBatchCursor)
    (hdistinct : (cursors.map (·.providerId)).Nodup) (m : ℕ) :
    (∃ turns, selectLoop m turns (sortedCursors cursors) []
      = some (selectBatchSettlementIds cursors m)) ∧
    Selection cursors m (selectBatchSettlementIds cursors m) := by
  obtain ⟨t, i, hshare⟩ := share_select m hdistinct
  -- a share is a front of what is left, of `t` or `t + 1`
  have hcases : ∀ c ∈ cursors, ∃ k, (t ≤ k ∧ k ≤ t + 1) ∧
      c.share (selectBatchSettlementIds cursors m) = c.remaining.take k := by
    intro c hc
    by_cases hin : c ∈ sortedCursors cursors
    · by_cases hmore : c ∈ (sortedCursors cursors).take i
      · exact ⟨t + 1, ⟨by omega, by omega⟩, (hshare c hin).1 hmore⟩
      · exact ⟨t, ⟨by omega, by omega⟩, (hshare c hin).2 hmore⟩
    · obtain ⟨hnil, hnone⟩ := share_of_notMem m hdistinct hc hin
      exact ⟨t, ⟨by omega, by omega⟩, by rw [hnil, hnone, List.take_nil]⟩
  refine ⟨⟨m, selectLoop_eq _ _ (Nat.sub_le _ _)⟩, length_select m cursors, fun pair hpair => ?_,
    fun c hc => ?_, nodup_select m hdistinct, fun c hc d hd hlt => ?_,
    fun c hc d hd => older_select m hdistinct hc hd⟩
  · obtain ⟨cursor, hc, hid, -⟩ := mem_selectBatchSettlementIds hpair
    exact ⟨cursor, hc, hid⟩
  · obtain ⟨k, -, hk⟩ := hcases c hc
    rw [hk]
    exact List.take_prefix k c.remaining
  · obtain ⟨k, hk, hshareC⟩ := hcases c hc
    obtain ⟨l, hl, hshareD⟩ := hcases d hd
    rw [hshareC, hshareD, List.length_take, List.length_take] at hlt
    rw [hshareC]
    refine List.take_of_length_le ?_
    omega

/-- The three providers of the source's test, with room for five. -/
def threeProviders : List ProviderBatchCursor :=
  [⟨"provider-b", 200, ["b-1", "b-2"], 0⟩, ⟨"provider-a", 100, ["a-1", "a-2", "a-3"], 0⟩,
    ⟨"provider-c", 200, ["c-1"], 0⟩]

/-- Three providers take turns. -/
theorem select_fair_three :
    (threeProviders.map (·.providerId)).Nodup ∧
      selectBatchSettlementIds threeProviders 5 = [("provider-a", "a-1"), ("provider-b", "b-1"),
        ("provider-c", "c-1"), ("provider-a", "a-2"), ("provider-b", "b-2")] ∧
      Selection threeProviders 5 (selectBatchSettlementIds threeProviders 5) := by
  have hdistinct : (threeProviders.map (·.providerId)).Nodup := by decide
  exact ⟨hdistinct, by decide +kernel, (select_fair threeProviders hdistinct 5).2⟩

end Batch
end Subly402
