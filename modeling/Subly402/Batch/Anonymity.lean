/-
# The gates of an automatic batch

What an automatic batch sends to the chain, from the vault it finds: every settlement has
waited for the anonymity window or is overdue, none is paid twice, each is paid what its
record says, and each chunk pays as many accounts as the configuration asks for.
-/

import Subly402.Batch.Privacy
import Subly402.Batch.Turns

namespace Subly402
namespace Batch

open Lib

/-- The record of a settlement: the one in the history, or the one that is made of the
reservation. -/
def settlementRecord (s : VaultState) (providerId settlementId : String) :
    Option SettlementRecord :=
  match s.settlementHistory[settlementId]? with
  | some record => some record
  | none => reconstructSettlementRecord s providerId settlementId

/-- The chunks that an automatic batch submits. -/
def submitted (auditor : Auditor) (s : VaultState) (t : Timestamp) (config : BatchPrivacyConfig) :
    List BatchChunk :=
  privacyFilterBatchChunks (buildBatchChunks (prepareBatch auditor s t .auto config).1) t.val .auto
    config

section Entries

variable {auditor : Auditor} {s : VaultState} {t : Timestamp} {mode : BatchBuildMode}
  {config : BatchPrivacyConfig}

/-- What is known of a settlement of the batch. -/
structure PreparedSettlement.Entered (s : VaultState) (t : ℤ) (mode : BatchBuildMode)
    (config : BatchPrivacyConfig) (p : PreparedSettlement) (record : SettlementRecord) : Prop where
  record_eq : settlementRecord s p.providerId p.settlementId = some record
  named : Names s p.providerId p.settlementId
  amount : p.amount = record.amount
  account : p.providerTokenAccount = record.provider
  aged : mode = .flush ∨ settlementIsAgeEligible (t - record.timestamp) config

/-- The record that the planner leaves for a settlement is the one it has found. -/
theorem settlementRecord_of_planned {s' : VaultState} (hs : CreditsSound s.ledger)
    (hplanned : Planned s s') {providerId id : String} {record : SettlementRecord}
    (hnamed : Names s providerId id) (hrecord : s'.settlementHistory[id]? = some record) :
    settlementRecord s providerId id = some record := by
  unfold settlementRecord
  cases hold : s.settlementHistory[id]? with
  | some record' =>
    have hkept := hplanned.old id record' hold
    rwa [hrecord, eq_comm] at hkept
  | none =>
    rcases hplanned.new id record hrecord with hold' | ⟨providerId', hnamed', hmade⟩
    · rw [hold] at hold'
      cases hold'
    · rw [hs.names_unique hnamed hnamed']
      exact hmade

/-- **A settlement of the batch**: it is one that the credits name, with its own record, and old
enough. -/
theorem mem_prepared (hs : CreditsSound s.ledger) {p : PreparedSettlement}
    (hp : p ∈ (prepareBatch auditor s t mode config).1) :
    ∃ record, p.Entered s t.val mode config record := by
  have hbuilt := built t.val mode config s
  obtain ⟨record, hrecord, heq⟩ := mem_prepareBatch hp
  have hpair : (p.providerId, p.settlementId) ∈ selectBatchSettlementIds
      (buildProviderBatchCursors s t.val mode config).1 maxSettlementsPerTx := by
    rw [← map_prepareBatch auditor s t mode config]
    exact List.mem_map_of_mem hp
  obtain ⟨cursor, hcursor, hprovider, hid⟩ := mem_selectBatchSettlementIds hpair
  have hgood := hbuilt.good cursor hcursor
  have hnamed : Names s p.providerId p.settlementId := by
    have hmem : (p.providerId, p.settlementId) ∈ cursor.pairs := by
      unfold ProviderBatchCursor.pairs
      rw [hgood.start, List.drop_zero, hprovider]
      exact List.mem_map_of_mem hid
    obtain ⟨c, hc, hpairs⟩ := List.mem_flatMap.1
      (hbuilt.sublist.subset (List.mem_flatMap.2 ⟨cursor, hcursor, hmem⟩))
    obtain ⟨id, hid', hpair'⟩ := List.mem_map.1 hpairs
    obtain ⟨key, hkey⟩ := mem_creditList hc
    obtain ⟨hholder, hsettlement⟩ : c.providerId = p.providerId ∧ id = p.settlementId :=
      Prod.ext_iff.1 hpair'
    exact ⟨key, c, hkey, hholder, hsettlement ▸ hid'⟩
  refine ⟨record, settlementRecord_of_planned hs hbuilt.planned hnamed hrecord, hnamed, ?_, ?_, ?_⟩
  · rw [heq]; rfl
  · rw [heq]; rfl
  · obtain ⟨record', hrecord', hage⟩ := hgood.records p.settlementId hid
    have hsame : record = record' := Option.some.inj (hrecord.symm.trans hrecord')
    exact hsame ▸ hage

theorem mem_prepared_of_submitted {chunk : BatchChunk} (hchunk : chunk ∈ submitted auditor s t config)
    {p : PreparedSettlement} (hp : p ∈ chunk.entries) :
    p ∈ (prepareBatch auditor s t .auto config).1 :=
  mem_chunk_iff.2 ⟨chunk, (privacyFilter_prepareBatch.1 hchunk).1, hp⟩

/-- The submitted chunks are some of those that were cut. -/
theorem submitted_sublist (auditor : Auditor) (s : VaultState) (t : Timestamp)
    (config : BatchPrivacyConfig) :
    (submitted auditor s t config).Sublist
      (buildBatchChunks (prepareBatch auditor s t .auto config).1) := by
  unfold submitted privacyFilterBatchChunks
  split
  · exact .refl _
  · exact List.filter_sublist

/-- A chunk pays at least one account. -/
theorem one_le_providerCount {entries : List PreparedSettlement} {chunk : BatchChunk}
    (h : chunk ∈ buildBatchChunks entries) : 1 ≤ chunk.providerCount := by
  obtain ⟨-, -, -, hpos, -⟩ := mem_buildBatchChunks h
  obtain ⟨p, hp⟩ := List.exists_mem_of_length_pos hpos
  exact Finset.card_pos.2 ⟨p.providerTokenAccount,
    List.mem_toFinset.2 (List.mem_map_of_mem (f := PreparedSettlement.providerTokenAccount) hp)⟩

end Entries

/-- The gates of an automatic batch: the age, the single payment, the record and the crowd. -/
structure Anonymous (s : VaultState) (t : ℤ) (config : BatchPrivacyConfig)
    (chunks : List BatchChunk) : Prop where
  recorded : ∀ chunk ∈ chunks, ∀ p ∈ chunk.entries, ∃ record,
    settlementRecord s p.providerId p.settlementId = some record ∧
      min config.minAnonymityWindowSec maxSettlementDelaySec ≤ t - record.timestamp ∧
      p.amount = record.amount ∧ p.providerTokenAccount = record.provider
  once : ((chunks.flatMap (·.entries)).map (·.settlementId)).Nodup
  crowd : ∀ chunk ∈ chunks, config.minBatchProviders ≤ chunk.providerCount ∨
    ∃ p ∈ chunk.entries, ∃ record, settlementRecord s p.providerId p.settlementId = some record ∧
      maxSettlementDelaySec ≤ t - record.timestamp

/-- The gates hold where the credits name each settlement once. -/
theorem anonymous_of_sound (auditor : Auditor) {s : VaultState} (hs : CreditsSound s.ledger)
    (t : Timestamp) (config : BatchPrivacyConfig) :
    Anonymous s t.val config (submitted auditor s t config) where
  recorded chunk hchunk p hp := by
    obtain ⟨record, hentered⟩ := mem_prepared hs (mem_prepared_of_submitted hchunk hp)
    refine ⟨record, hentered.record_eq, ?_, hentered.amount, hentered.account⟩
    have haged := hentered.aged.resolve_left (by decide)
    rcases haged with hoverdue | hwindow
    · exact (min_le_right _ _).trans hoverdue
    · exact (min_le_left _ _).trans hwindow
  once := by
    have hnodup : ((prepareBatch auditor s t .auto config).1.map (·.settlementId)).Nodup :=
      nodup_prepareBatch hs.nodup_ids
    rw [← flatMap_buildBatchChunks (prepareBatch auditor s t .auto config).1] at hnodup
    exact hnodup.sublist (((submitted_sublist auditor s t config).flatMap _).map _)
  crowd chunk hchunk := by
    obtain ⟨hbuilt, hcount⟩ := privacyFilter_prepareBatch.1 hchunk
    have hone := one_le_providerCount hbuilt
    rcases hcount with hfew | hmany
    · exact .inl (hfew.trans hone)
    · exact .inl hmany

/-- **Every automatic batch respects the gates**, in every state that a run reaches. -/
theorem auto_batch_anonymous (env : Env) (turns : List (Turn env)) (auditor : Auditor)
    (t : Timestamp) (config : BatchPrivacyConfig) :
    Anonymous (runTurns env turns).vault t.val config
      (submitted auditor (runTurns env turns).vault t config) :=
  anonymous_of_sound auditor (runTurns_sound env turns).credits t config

/-- **A batch of any mode** has settlements that credits name, each once and as its record says. -/
theorem batch_entered (env : Env) (turns : List (Turn env)) (auditor : Auditor) (t : Timestamp)
    (mode : BatchBuildMode) (config : BatchPrivacyConfig) :
    let s := (runTurns env turns).vault
    let batch := (prepareBatch auditor s t mode config).1
    (batch.map (·.settlementId)).Nodup ∧
      ∀ p ∈ batch, ∃ record, p.Entered s t.val mode config record := by
  have hs := (runTurns_sound env turns).credits
  exact ⟨nodup_prepareBatch hs.nodup_ids, fun _ hp => mem_prepared hs hp⟩

end Batch
end Subly402
