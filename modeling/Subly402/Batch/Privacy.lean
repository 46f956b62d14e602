/-
# Overdue settlements

An automatic batch holds a chunk back that pays fewer than `min_batch_providers`
accounts, unless one of its settlements has waited for `MAX_SETTLEMENT_DELAY_SEC`.
`privacy_filter_batch_chunks` takes the age of a settlement from the audit record that
`prepare_batch` has made for it; and `prepare_batch` gives that record the time of the
batch, so that the public time does not tell when the payment was made.  The age is
always zero.
-/

import Subly402.Batch.Plan
import Subly402.Enclave.Run

namespace Subly402
namespace Batch

open Lib

/-- The settlement was made so long ago that it has to be paid, according to its record. -/
def Overdue (s : VaultState) (batchTimestamp : ℤ) (p : PreparedSettlement) : Prop :=
  ∃ record, s.settlementHistory[p.settlementId]? = some record ∧
    maxSettlementDelaySec ≤ batchTimestamp - record.timestamp

section Filter

variable {auditor : Auditor} {s : VaultState} {t : Timestamp} {config : BatchPrivacyConfig}

/-- **The age that the filter sees is zero.** -/
theorem audit_timestamp {mode : BatchBuildMode} {chunk : BatchChunk}
    (hchunk : chunk ∈ buildBatchChunks (prepareBatch auditor s t mode config).1)
    {p : PreparedSettlement} (hp : p ∈ chunk.entries) : p.audit.timestamp = t.val := by
  obtain ⟨record, -, heq⟩ := mem_prepareBatch (mem_chunk_iff.2 ⟨chunk, hchunk, hp⟩)
  rw [heq]
  rfl

/-- The filter lets a chunk pass for the accounts it pays, and for no other reason. -/
theorem privacyFilter_prepareBatch {chunk : BatchChunk} :
    chunk ∈ privacyFilterBatchChunks (buildBatchChunks (prepareBatch auditor s t .auto config).1)
        t.val .auto config ↔
      chunk ∈ buildBatchChunks (prepareBatch auditor s t .auto config).1 ∧
        (config.minBatchProviders ≤ 1 ∨ config.minBatchProviders ≤ chunk.providerCount) := by
  unfold privacyFilterBatchChunks
  by_cases hone : config.minBatchProviders ≤ 1
  · simp [hone]
  · rw [if_neg (by simpa using hone), List.mem_filter, decide_eq_true_iff]
    refine and_congr_right fun hchunk => ?_
    have hyoung : ¬ ∃ p ∈ chunk.entries, maxSettlementDelaySec ≤ t.val - p.audit.timestamp := by
      rintro ⟨p, hp, hage⟩
      rw [audit_timestamp hchunk hp, Int.sub_self] at hage
      exact absurd hage (by decide)
    simp [hone, hyoung]

/-- **An overdue settlement passes where its chunk pays enough accounts, and only there.** -/
theorem overdue_passes_iff (auditor : Auditor) (s : VaultState) (t : Timestamp)
    (config : BatchPrivacyConfig) :
    let (prepared, s') := prepareBatch auditor s t .auto config
    let chunks := buildBatchChunks prepared
    (∀ p ∈ prepared, Overdue s' t.val p →
        ∃ chunk ∈ privacyFilterBatchChunks chunks t.val .auto config, p ∈ chunk.entries) ↔
      config.minBatchProviders ≤ 1 ∨
        ∀ p ∈ prepared, Overdue s' t.val p →
          ∃ chunk ∈ chunks, p ∈ chunk.entries ∧ config.minBatchProviders ≤ chunk.providerCount := by
  constructor
  · intro h
    by_cases hone : config.minBatchProviders ≤ 1
    · exact .inl hone
    · refine .inr fun p hp hoverdue => ?_
      obtain ⟨chunk, hpasses, hmem⟩ := h p hp hoverdue
      obtain ⟨hchunk, hcount⟩ := privacyFilter_prepareBatch.1 hpasses
      exact ⟨chunk, hchunk, hmem, hcount.resolve_left hone⟩
  · rintro (hone | h) p hp hoverdue
    · obtain ⟨chunk, hchunk, hmem⟩ := mem_chunk_iff.1 hp
      exact ⟨chunk, privacyFilter_prepareBatch.2 ⟨hchunk, .inl hone⟩, hmem⟩
    · obtain ⟨chunk, hchunk, hmem, hcount⟩ := h p hp hoverdue
      exact ⟨chunk, privacyFilter_prepareBatch.2 ⟨hchunk, .inr hcount⟩, hmem⟩

/-- **With a minimum of three accounts no chunk passes.** -/
theorem privacyFilter_eq_nil (auditor : Auditor) (s : VaultState) (t : Timestamp)
    {config : BatchPrivacyConfig} (hthree : 3 ≤ config.minBatchProviders) :
    privacyFilterBatchChunks (buildBatchChunks (prepareBatch auditor s t .auto config).1) t.val .auto
      config = [] := by
  refine List.eq_nil_iff_forall_not_mem.2 fun chunk hpasses => ?_
  obtain ⟨hchunk, hcount⟩ := privacyFilter_prepareBatch.1 hpasses
  obtain ⟨-, -, -, -, htwo, -⟩ := mem_buildBatchChunks hchunk
  have hle : chunk.providerCount ≤ chunk.entries.length := by
    have hcard := List.toFinset_card_le (chunk.entries.map (·.providerTokenAccount))
    rwa [List.length_map] at hcard
  rw [maxAtomicSettlementsWithAudit] at htwo
  omega

end Filter

end Batch

/-! ### A vault with one provider -/

namespace Shop

/-- An auditor whose ciphertexts are zeros. -/
def auditor : Batch.Auditor := fun _ _ _ _ =>
  ⟨List.replicate 64 0, List.replicate 64 0, by decide, by decide⟩

/-- Fifteen minutes after the payment. -/
def overdueTime : Batch.Timestamp := ⟨902, by decide⟩

/-- The batch of that time. -/
def overduePlan : List Batch.PreparedSettlement × VaultState :=
  Batch.prepareBatch auditor (run world (ops.take 4)).vault overdueTime .auto .default

/-- **The only provider of a vault is not paid**: its settlement has waited for fifteen minutes,
the batch selects it, and the filter holds it back. -/
theorem overdue_held_back :
    overduePlan.1.map (fun p =>
        (overduePlan.2.settlementHistory[p.settlementId]?).map (902 - ·.timestamp)) = [some 900] ∧
      Batch.privacyFilterBatchChunks (Batch.buildBatchChunks overduePlan.1) 902 .auto .default
        = [] := by
  decide +kernel

end Shop

end Subly402
