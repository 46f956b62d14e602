/-
# What the planner reads and writes

The planner changes two books of the vault: it files the records it has made, and it takes
settlements without a record out of the credits (`Planned`).  A settlement it has put into
a cursor has a record from then on (`Good`), and `prepare_batch` finds it.
-/

import Subly402.Batch.Plan
import Subly402.Ledger.CreditIds

namespace Subly402
namespace Batch

open Lib

variable {s s' : VaultState} {cursors : List ProviderBatchCursor}

/-! ### The records that are made -/

/-- A credit of the provider names the settlement. -/
def Names (s : VaultState) (providerId settlementId : String) : Prop :=
  ∃ (key : String) (credit : ProviderCredit), s.providerCredits[key]? = some credit ∧
    credit.providerId = providerId ∧ settlementId ∈ credit.settlementIds

/-- The history of the second state has the records of the first, and some that were made for
settlements that are named. -/
structure Completes (named : String → String → Prop) (s s' : VaultState) : Prop where
  same : s' = { s with settlementHistory := s'.settlementHistory }
  old : ∀ (id : String) (record : SettlementRecord), s.settlementHistory[id]? = some record →
    s'.settlementHistory[id]? = some record
  new : ∀ (id : String) (record : SettlementRecord), s'.settlementHistory[id]? = some record →
    s.settlementHistory[id]? = some record ∨
      ∃ providerId, named providerId id ∧
        reconstructSettlementRecord s providerId id = some record

/-- A record is made from the reservations and the registrations. -/
theorem reconstruct_congr (hreservations : s'.reservations = s.reservations)
    (hproviders : s'.providers = s.providers) (providerId settlementId : String) :
    reconstructSettlementRecord s' providerId settlementId
      = reconstructSettlementRecord s providerId settlementId := by
  unfold reconstructSettlementRecord VaultState.reservationOf
  rw [hreservations, hproviders]

namespace Completes

variable {named named' : String → String → Prop} {s s' s'' : VaultState}

/-- Nothing made. -/
theorem refl (s : VaultState) : Completes named s s := ⟨rfl, fun _ _ h => h, fun _ _ h => .inl h⟩

/-- Records are made alike before and after. -/
theorem reconstruct_eq (h : Completes named s s') (providerId settlementId : String) :
    reconstructSettlementRecord s' providerId settlementId
      = reconstructSettlementRecord s providerId settlementId := by
  rw [h.same]
  exact reconstruct_congr rfl rfl providerId settlementId

/-- One after the other. -/
theorem trans (h : Completes named s s') (h' : Completes named s' s'') :
    Completes named s s'' where
  same := by
    rw [h'.same, h.same]
  old id record hrecord := h'.old id record (h.old id record hrecord)
  new id record hrecord := by
    rcases h'.new id record hrecord with hold | ⟨providerId, hnamed, hmade⟩
    · exact h.new id record hold
    · rw [h.reconstruct_eq] at hmade
      exact .inr ⟨providerId, hnamed, hmade⟩

/-- More may be named. -/
theorem mono (h : Completes named s s') (himp : ∀ p id, named p id → named' p id) :
    Completes named' s s' := by
  refine ⟨h.same, h.old, fun id record hrecord => ?_⟩
  rcases h.new id record hrecord with hold | ⟨providerId, hnamed, hmade⟩
  · exact .inl hold
  · exact .inr ⟨providerId, himp providerId id hnamed, hmade⟩

/-- A record that is missing is made. -/
theorem setHistory {providerId settlementId : String} {record : SettlementRecord}
    (hmissing : s.settlementHistory[settlementId]? = none)
    (hmade : reconstructSettlementRecord s providerId settlementId = some record)
    (hnamed : named providerId settlementId) :
    Completes named s (s.setHistory settlementId record) := by
  refine ⟨rfl, fun id record' hrecord => ?_, fun id record' hrecord => ?_⟩
  · rw [VaultState.setHistory_settlementHistory, FiniteMap.lookup_insert]
    split
    · next heq =>
      rw [heq, hmissing] at hrecord
      cases hrecord
    · exact hrecord
  · obtain ⟨rfl, rfl⟩ | hrecord := FiniteMap.lookup_insert_cases hrecord
    · exact .inr ⟨providerId, hnamed, hmade⟩
    · exact .inl hrecord

end Completes

/-! ### The candidates of a credit -/

/-- The candidate has a record in the history. -/
def Candidate.Recorded (s : VaultState) (c : Candidate) : Prop :=
  ∃ record, s.settlementHistory[c.settlementId]? = some record ∧ c.timestamp = record.timestamp ∧
    c.amount = record.amount

/-- A record stays. -/
theorem Candidate.Recorded.completes {named : String → String → Prop} {c : Candidate}
    (hc : c.Recorded s) (h : Completes named s s') : c.Recorded s' := by
  obtain ⟨record, hrecord, hrest⟩ := hc
  exact ⟨record, h.old _ record hrecord, hrest⟩

/-- What the loop over the settlements of a credit comes to. -/
structure Collected (providerId : String) (ids : List String) (s : VaultState)
    (out : VaultState × List Candidate × List String) : Prop where
  completes : Completes (fun p id => p = providerId ∧ id ∈ ids) s out.1
  recorded : ∀ c ∈ out.2.1, c.Recorded out.1
  sublist : (out.2.1.map (·.settlementId)).Sublist ids

/-- What the candidates' loop collects. -/
theorem collected (providerId : String) : ∀ (ids : List String) (s : VaultState),
    Collected providerId ids s (collectCandidates providerId ids s)
  | [], s => ⟨.refl s, fun _ hc => (List.not_mem_nil hc).elim, .refl _⟩
  | id :: rest, s => by
    have hmore : ∀ p i, p = providerId ∧ i ∈ rest → p = providerId ∧ i ∈ id :: rest :=
      fun _ _ h => ⟨h.1, List.mem_cons_of_mem _ h.2⟩
    unfold collectCandidates
    split
    · next record hrecord =>
      have ih := collected providerId rest s
      refine ⟨ih.completes.mono hmore, fun c hc => ?_, ih.sublist.cons_cons id⟩
      rcases List.mem_cons.1 hc with rfl | hc
      · exact ⟨record, ih.completes.old id record hrecord, rfl, rfl⟩
      · exact ih.recorded c hc
    · next hmissing =>
      split
      · next record hmade =>
        have hset : Completes (fun p i => p = providerId ∧ i ∈ id :: rest) s
            (s.setHistory id record) :=
          .setHistory hmissing hmade ⟨rfl, List.mem_cons_self⟩
        have ih := collected providerId rest (s.setHistory id record)
        refine ⟨hset.trans (ih.completes.mono hmore), fun c hc => ?_, ih.sublist.cons_cons id⟩
        rcases List.mem_cons.1 hc with rfl | hc
        · refine ⟨record, ih.completes.old id record ?_, rfl, rfl⟩
          rw [VaultState.setHistory_settlementHistory, FiniteMap.lookup_insert, if_pos rfl]
        · exact ih.recorded c hc
      · have ih := collected providerId rest s
        exact ⟨ih.completes.mono hmore, ih.recorded, ih.sublist.cons id⟩

/-- A selection has the settlements of candidates that are old enough, and at least one. -/
theorem selectProviderBatchEntries_eq_some {candidates : List Candidate} {t : ℤ}
    {mode : BatchBuildMode} {config : BatchPrivacyConfig} {selection : ProviderBatchSelection}
    (h : selectProviderBatchEntries candidates t mode config = some selection) :
    selection.settlementIds ≠ [] ∧
      selection.settlementIds.Sublist (candidates.map (·.settlementId)) ∧
      ∀ id ∈ selection.settlementIds, ∃ c ∈ candidates, c.settlementId = id ∧
        (mode = .flush ∨ settlementIsAgeEligible (t - c.timestamp) config) := by
  unfold selectProviderBatchEntries at h
  simp only at h
  split at h
  · cases h
  next oldest hmin =>
  split at h
  · cases h
  · obtain rfl := Option.some.inj h
    refine ⟨fun hnil => ?_, List.filter_sublist.map _, fun id hid => ?_⟩
    · rw [List.map_eq_nil_iff] at hnil
      rw [hnil] at hmin
      cases hmin
    · obtain ⟨c, hc, rfl⟩ := List.mem_map.1 hid
      obtain ⟨hmem, helig⟩ := List.mem_filter.1 hc
      exact ⟨c, hmem, rfl, by simpa using helig⟩

/-! ### The cursors of the credits -/

/-- The settlements of a cursor that have not had their turn, with the provider. -/
def ProviderBatchCursor.pairs (cursor : ProviderBatchCursor) : List (String × String) :=
  (cursor.settlementIds.drop cursor.nextIndex).map (cursor.providerId, ·)

/-- The cursor is at its beginning, and its settlements have records and are old enough. -/
structure ProviderBatchCursor.Good (s : VaultState) (t : ℤ) (mode : BatchBuildMode)
    (config : BatchPrivacyConfig) (cursor : ProviderBatchCursor) : Prop where
  start : cursor.nextIndex = 0
  nonempty : cursor.settlementIds ≠ []
  records : ∀ id ∈ cursor.settlementIds, ∃ record, s.settlementHistory[id]? = some record ∧
    (mode = .flush ∨ settlementIsAgeEligible (t - record.timestamp) config)

/-- The settlements of a credit, with the provider. -/
def creditPairs (credit : ProviderCredit) : List (String × String) :=
  credit.settlementIds.map (credit.providerId, ·)

/-- What the loop over the credits comes to. -/
structure Gathered (t : ℤ) (mode : BatchBuildMode) (config : BatchPrivacyConfig)
    (credits : List ProviderCredit) (s : VaultState)
    (out : VaultState × List ProviderBatchCursor × List (String × String)) : Prop where
  completes : Completes (fun p id => ∃ c ∈ credits, c.providerId = p ∧ id ∈ c.settlementIds) s out.1
  good : ∀ cursor ∈ out.2.1, cursor.Good out.1 t mode config
  sublist : (out.2.1.flatMap (·.pairs)).Sublist (credits.flatMap creditPairs)

variable {t : ℤ} {mode : BatchBuildMode} {config : BatchPrivacyConfig}

/-- The cursor of a credit. -/
theorem good_of_select {candidates : List Candidate} {providerId : String}
    (hrecorded : ∀ c ∈ candidates, c.Recorded s) {selection : ProviderBatchSelection}
    (h : selectProviderBatchEntries candidates t mode config = some selection) :
    ProviderBatchCursor.Good s t mode config
      { providerId, oldestCreditAt := selection.oldestTimestamp
        settlementIds := selection.settlementIds, nextIndex := 0 } := by
  obtain ⟨hne, -, hmem⟩ := selectProviderBatchEntries_eq_some h
  refine ⟨rfl, hne, fun id hid => ?_⟩
  obtain ⟨c, hc, rfl, helig⟩ := hmem id hid
  obtain ⟨record, hrecord, htime, -⟩ := hrecorded c hc
  exact ⟨record, hrecord, htime ▸ helig⟩

/-- What the credits' loop gathers. -/
theorem gathered : ∀ (credits : List ProviderCredit) (s : VaultState),
    Gathered t mode config credits s (collectCursors t mode config credits s)
  | [], s => ⟨.refl s, fun _ hc => (List.not_mem_nil hc).elim, .refl _⟩
  | credit :: rest, s => by
    have hcollected := collected credit.providerId credit.settlementIds s
    have ih := gathered rest (collectCandidates credit.providerId credit.settlementIds s).1
    have hfirst : Completes
        (fun p id => ∃ c ∈ credit :: rest, c.providerId = p ∧ id ∈ c.settlementIds) s _ :=
      hcollected.completes.mono fun p id h => ⟨credit, List.mem_cons_self, h.1.symm, h.2⟩
    have hlater : Completes
        (fun p id => ∃ c ∈ credit :: rest, c.providerId = p ∧ id ∈ c.settlementIds) _ _ :=
      ih.completes.mono fun p id ⟨c, hc, h⟩ => ⟨c, List.mem_cons_of_mem _ hc, h⟩
    have hrecorded : ∀ c ∈ (collectCandidates credit.providerId credit.settlementIds s).2.1,
        c.Recorded (collectCursors t mode config rest
          (collectCandidates credit.providerId credit.settlementIds s).1).1 := fun c hc =>
      (hcollected.recorded c hc).completes ih.completes
    refine ⟨hfirst.trans hlater, fun cursor hcursor => ?_, ?_⟩
    · rcases List.mem_append.1 hcursor with hnew | hold
      · obtain ⟨selection, hselect, rfl⟩ := Option.map_eq_some_iff.1 (Option.mem_toList.1 hnew)
        exact good_of_select hrecorded hselect
      · exact ih.good cursor hold
    · unfold collectCursors
      simp only [List.flatMap_append, List.flatMap_cons]
      refine List.Sublist.append ?_ ih.sublist
      cases hselect : selectProviderBatchEntries
          (collectCandidates credit.providerId credit.settlementIds s).2.1 t mode config with
      | none => exact List.nil_sublist _
      | some selection =>
        obtain ⟨-, hsub, -⟩ := selectProviderBatchEntries_eq_some hselect
        simp only [Option.map_some, Option.toList_some, List.flatMap_singleton]
        exact (hsub.trans hcollected.sublist).map _

/-! ### The settlements without a record -/

/-- Of the vault, only the history and the credits differ: a record is an old one or was made for a
named settlement, and credits name no more than before. -/
structure Tended (s s' : VaultState) : Prop where
  same : s' = { s with
    settlementHistory := s'.settlementHistory
    providerCredits := s'.providerCredits }
  new : ∀ (id : String) (record : SettlementRecord), s'.settlementHistory[id]? = some record →
    s.settlementHistory[id]? = some record ∨
      ∃ providerId, Names s providerId id ∧
        reconstructSettlementRecord s providerId id = some record
  credits : ∀ (key : String) (c' : ProviderCredit), s'.providerCredits[key]? = some c' →
    ∃ c, s.providerCredits[key]? = some c ∧ c'.SameHolder c ∧
      c'.settlementIds.Sublist c.settlementIds

/-- The planner has only filed records for named settlements and taken settlements out of
credits. -/
structure Planned (s s' : VaultState) : Prop extends Tended s s' where
  old : ∀ (id : String) (record : SettlementRecord), s.settlementHistory[id]? = some record →
    s'.settlementHistory[id]? = some record

/-- A settlement is taken out of a credit. -/
theorem Planned.prune (h : Planned s s') (providerId settlementId : String) :
    Planned s (pruneMissingSettlementReference s' providerId settlementId) := by
  unfold pruneMissingSettlementReference
  split
  · exact h
  next credit hcredit =>
  simp only
  split
  · exact ⟨⟨by rw [h.same]; rfl, h.new, FiniteMap.forall_erase h.credits⟩, h.old⟩
  · obtain ⟨c₀, hc₀, hsame, hsub⟩ := h.credits providerId credit hcredit
    exact ⟨⟨by rw [h.same]; rfl, h.new, FiniteMap.forall_insert h.credits ⟨c₀, hc₀,
      ⟨hsame.providerId, hsame.account⟩, List.filter_sublist.trans hsub⟩⟩, h.old⟩

/-- The credits of a vault, in the order of the map. -/
def creditList (s : VaultState) : List ProviderCredit := s.providerCredits.toList.map (·.2)

theorem mem_creditList {c : ProviderCredit} (h : c ∈ creditList s) :
    ∃ key : String, s.providerCredits[key]? = some c := by
  obtain ⟨⟨key, c'⟩, he, rfl⟩ := List.mem_map.1 h
  exact ⟨key, FiniteMap.mem_toList_iff.1 he⟩

/-- What `build_provider_batch_cursors` comes to. -/
structure Built (t : ℤ) (mode : BatchBuildMode) (config : BatchPrivacyConfig) (s : VaultState)
    (out : List ProviderBatchCursor × VaultState) : Prop where
  planned : Planned s out.2
  good : ∀ cursor ∈ out.1, cursor.Good out.2 t mode config
  sublist : (out.1.flatMap (·.pairs)).Sublist ((creditList s).flatMap creditPairs)

theorem prune_settlementHistory (s : VaultState) (providerId settlementId : String) :
    (pruneMissingSettlementReference s providerId settlementId).settlementHistory
      = s.settlementHistory := by
  unfold pruneMissingSettlementReference
  split
  · rfl
  · simp only
    split <;> rfl

theorem built (t : ℤ) (mode : BatchBuildMode) (config : BatchPrivacyConfig) (s : VaultState) :
    Built t mode config s (buildProviderBatchCursors s t mode config) := by
  have hgathered : Gathered t mode config (creditList s) s
      (collectCursors t mode config (creditList s) s) := gathered (creditList s) s
  have hcredits : (collectCursors t mode config (creditList s) s).1.providerCredits
      = s.providerCredits := by rw [hgathered.completes.same]
  have hstart : Planned s (collectCursors t mode config (creditList s) s).1 := by
    refine ⟨⟨hcredits.symm ▸ hgathered.completes.same, fun id record hrecord => ?_,
      fun key c hc => ⟨c, ?_, ⟨rfl, rfl⟩, .refl _⟩⟩, hgathered.completes.old⟩
    · rcases hgathered.completes.new id record hrecord with hold | ⟨p, ⟨c, hc, hp, hid⟩, hmade⟩
      · exact .inl hold
      · obtain ⟨key, hkey⟩ := mem_creditList hc
        exact .inr ⟨p, ⟨key, c, hkey, hp, hid⟩, hmade⟩
    · rwa [hcredits] at hc
  -- the loop over what is missing leaves the history as it is
  have hprune : ∀ (missing : List (String × String)) (s' : VaultState), Planned s s' →
      Planned s (missing.foldl (fun s pair => pruneMissingSettlementReference s pair.1 pair.2) s') ∧
        (missing.foldl (fun s pair => pruneMissingSettlementReference s pair.1 pair.2)
          s').settlementHistory = s'.settlementHistory := by
    intro missing
    induction missing with
    | nil => exact fun s' h => ⟨h, rfl⟩
    | cons pair rest ih =>
      intro s' h
      obtain ⟨hplanned, hhistory⟩ := ih _ (h.prune pair.1 pair.2)
      exact ⟨hplanned, hhistory.trans (prune_settlementHistory s' pair.1 pair.2)⟩
  obtain ⟨hplanned, hhistory⟩ := hprune _ _ hstart
  refine ⟨hplanned, fun cursor hcursor => ?_, hgathered.sublist⟩
  have hgood := hgathered.good cursor hcursor
  refine ⟨hgood.start, hgood.nonempty, fun id hid => ?_⟩
  obtain ⟨record, hrecord, helig⟩ := hgood.records id hid
  exact ⟨record, hhistory.symm ▸ hrecord, helig⟩

/-! ### The turns -/

theorem ProviderBatchCursor.pairs_of_lookup {cursor : ProviderBatchCursor} {settlementId : String}
    (h : cursor.settlementIds[cursor.nextIndex]? = some settlementId) :
    cursor.pairs = (cursor.providerId, settlementId) ::
      ProviderBatchCursor.pairs { cursor with nextIndex := cursor.nextIndex + 1 } := by
  obtain ⟨hlt, rfl⟩ := List.getElem?_eq_some_iff.1 h
  unfold pairs
  rw [List.drop_eq_getElem_cons hlt, List.map_cons]

/-- **What a turn takes, with what it leaves, is what there was.** -/
theorem selectRound_perm : ∀ (cursors : List ProviderBatchCursor) (room : ℕ),
    ((selectRound cursors room).1 ++ (selectRound cursors room).2.flatMap (·.pairs)).Perm
      (cursors.flatMap (·.pairs))
  | [], _ => .refl _
  | _ :: _, 0 => .refl _
  | cursor :: cursors, room + 1 => by
    unfold selectRound
    split
    · have ih := selectRound_perm cursors (room + 1)
      simp only [List.flatMap_cons]
      refine (List.perm_append_comm_assoc _ _ _).trans ?_
      exact ih.append_left _
    · next settlementId hlookup =>
      have ih := selectRound_perm cursors room
      simp only [List.flatMap_cons, List.cons_append]
      rw [cursor.pairs_of_lookup hlookup, List.cons_append]
      refine .cons _ ((List.perm_append_comm_assoc _ _ _).trans ?_)
      exact ih.append_left _

theorem selectRounds_perm : ∀ (fuel : ℕ) (cursors : List ProviderBatchCursor) (room : ℕ),
    ∃ left, (selectRounds fuel cursors room ++ left).Perm (cursors.flatMap (·.pairs))
  | 0, _, _ => ⟨_, .refl _⟩
  | fuel + 1, cursors, room => by
    unfold selectRounds
    simp only
    split
    · exact ⟨_, .refl _⟩
    · obtain ⟨left, hleft⟩ := selectRounds_perm fuel (selectRound cursors room).2
        (room - (selectRound cursors room).1.length)
      refine ⟨left, ?_⟩
      rw [List.append_assoc]
      exact (hleft.append_left _).trans (selectRound_perm cursors room)

/-- A turn takes the first settlement that is left, if there is room for one. -/
theorem selectRound_ne_nil {cursor : ProviderBatchCursor} {room : ℕ}
    (hlt : cursor.nextIndex < cursor.settlementIds.length) :
    (selectRound (cursor :: cursors) (room + 1)).1 ≠ [] := by
  unfold selectRound
  rw [List.getElem?_eq_getElem hlt]
  exact List.cons_ne_nil _ _

/-- **The selected settlements are settlements of the cursors, each as often as it is there.** -/
theorem selectBatchSettlementIds_perm (cursors : List ProviderBatchCursor) (maxEntries : ℕ) :
    ∃ left, (selectBatchSettlementIds cursors maxEntries ++ left).Perm
      ((cursors.filter fun cursor => cursor.settlementIds ≠ []).flatMap (·.pairs)) := by
  obtain ⟨left, hleft⟩ := selectRounds_perm maxEntries
    ((cursors.filter fun cursor => cursor.settlementIds ≠ []).insertionSort ProviderBatchCursor.le)
    maxEntries
  exact ⟨left, hleft.trans ((List.perm_insertionSort _ _).flatMap_right _)⟩

theorem mem_selectBatchSettlementIds {maxEntries : ℕ} {pair : String × String}
    (h : pair ∈ selectBatchSettlementIds cursors maxEntries) :
    ∃ cursor ∈ cursors, cursor.providerId = pair.1 ∧ pair.2 ∈ cursor.settlementIds := by
  obtain ⟨left, hperm⟩ := selectBatchSettlementIds_perm cursors maxEntries
  obtain ⟨cursor, hcursor, hpair⟩ :=
    List.mem_flatMap.1 (hperm.mem_iff.1 (List.mem_append_left left h))
  obtain ⟨id, hid, rfl⟩ := List.mem_map.1 hpair
  exact ⟨cursor, List.mem_of_mem_filter hcursor, rfl, List.mem_of_mem_drop hid⟩

/-- Where there is a cursor, something is selected. -/
theorem selectBatchSettlementIds_ne_nil (hgood : ∀ cursor ∈ cursors, cursor.Good s t mode config)
    (hne : cursors ≠ []) (maxEntries : ℕ) :
    selectBatchSettlementIds cursors (maxEntries + 1) ≠ [] := by
  unfold selectBatchSettlementIds
  rw [List.filter_eq_self.2 fun cursor hcursor => by simpa using (hgood cursor hcursor).nonempty]
  have hperm := List.perm_insertionSort ProviderBatchCursor.le cursors
  cases hsorted : cursors.insertionSort ProviderBatchCursor.le with
  | nil =>
    rw [hsorted] at hperm
    exact absurd hperm.symm.eq_nil hne
  | cons first rest =>
    have hfirst : first ∈ cursors := hperm.mem_iff.1 (hsorted ▸ List.mem_cons_self)
    have hlt : first.nextIndex < first.settlementIds.length := by
      rw [(hgood first hfirst).start]
      exact List.length_pos_iff.2 (hgood first hfirst).nonempty
    have hround : (selectRound (first :: rest) (maxEntries + 1)).1 ≠ [] := selectRound_ne_nil hlt
    unfold selectRounds
    simp only
    rw [if_neg hround]
    exact fun hnil => hround (List.append_eq_nil_iff.1 hnil).1

/-! ### The entries of a batch -/

variable {auditor : Auditor} {s : VaultState} {time : Timestamp}

/-- Every settlement that is selected is prepared. -/
theorem map_prepareBatch (auditor : Auditor) (s : VaultState) (time : Timestamp)
    (mode : BatchBuildMode) (config : BatchPrivacyConfig) :
    (prepareBatch auditor s time mode config).1.map (fun p => (p.providerId, p.settlementId))
      = selectBatchSettlementIds (buildProviderBatchCursors s time.val mode config).1
          maxSettlementsPerTx := by
  have hbuilt := built time.val mode config s
  unfold prepareBatch
  simp only
  rw [List.map_filterMap]
  refine (List.filterMap_congr fun pair hpair => ?_).trans List.filterMap_some
  obtain ⟨cursor, hcursor, -, hid⟩ := mem_selectBatchSettlementIds hpair
  obtain ⟨record, hrecord, -⟩ := (hbuilt.good cursor hcursor).records pair.2 hid
  simp only [hrecord, Option.map_some]
  rfl

/-- **No settlement is prepared twice**, where the credits name each once. -/
theorem nodup_prepareBatch (hnodup : ((creditList s).flatMap (·.settlementIds)).Nodup) :
    ((prepareBatch auditor s time mode config).1.map (·.settlementId)).Nodup := by
  have hbuilt := built time.val mode config s
  obtain ⟨left, hperm⟩ := selectBatchSettlementIds_perm
    (buildProviderBatchCursors s time.val mode config).1 maxSettlementsPerTx
  have hsub : ((((buildProviderBatchCursors s time.val mode config).1.filter fun cursor =>
      cursor.settlementIds ≠ []).flatMap (·.pairs))).Sublist ((creditList s).flatMap creditPairs) :=
    (List.Sublist.flatMap List.filter_sublist _).trans hbuilt.sublist
  have hids : ((creditList s).flatMap creditPairs).map Prod.snd
      = (creditList s).flatMap (·.settlementIds) := by
    simp [List.map_flatMap, creditPairs]
  have hselected := ((hperm.map Prod.snd).nodup_iff.2
    ((hids ▸ hnodup).sublist (hsub.map Prod.snd)))
  rw [List.map_append, ← map_prepareBatch auditor s time mode config, List.map_map] at hselected
  exact hselected.of_append_left

end Batch
end Subly402
