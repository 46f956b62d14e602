/-
# Planning a batch

The planner of `enclave/src/batch.rs`, from the provider credits to the chunks that are
sent to the chain:
-/

import Subly402.Batch.Chunk
import Subly402.Vault.Confirm
import Subly402.Lib.Result
import Mathlib.Data.List.Sort
import Mathlib.Data.Finset.Card

namespace Subly402
namespace Batch

open Lib

/-- `MAX_SETTLEMENT_DELAY_SEC`. -/
def maxSettlementDelaySec : ℤ := 900

/-- `MAX_SETTLEMENTS_PER_TX` of the enclave. -/
def maxSettlementsPerTx : ℕ := 20

/-- `MAX_ATOMIC_SETTLEMENTS_WITH_AUDIT`. -/
def maxAtomicSettlementsWithAudit : ℕ := 2

/-- `BatchPrivacyConfig`, without the cadence of the loop. -/
structure BatchPrivacyConfig where
  autoBatchMinProviderPayoutAtomic : ℕ
  minAnonymityWindowSec : ℤ
  minBatchProviders : ℕ
deriving DecidableEq

/-- `BatchPrivacyConfig::default`. -/
def BatchPrivacyConfig.default : BatchPrivacyConfig :=
  { autoBatchMinProviderPayoutAtomic := 1000000, minAnonymityWindowSec := 300
    minBatchProviders := 2 }

/-- `BatchBuildMode`. -/
inductive BatchBuildMode where
  | auto
  | flush
deriving DecidableEq

/-- A time in an `i64`. -/
structure Timestamp where
  val : ℤ
  bounds : -2 ^ 63 ≤ val ∧ val < 2 ^ 63

/-- `u64::saturating_add`. -/
def saturatingAdd (a b : ℕ) : ℕ := min (a + b) (u64Bound - 1)

/-! ### The candidates -/

/-- A settlement with the time and the amount of its record. -/
structure Candidate where
  settlementId : String
  timestamp : ℤ
  amount : ℕ
deriving DecidableEq

/-- `reconstruct_settlement_record`. -/
def reconstructSettlementRecord (s : VaultState) (providerId settlementId : String) :
    Option SettlementRecord := do
  let (_, reservation) ← s.reservationOf settlementId
  if reservation.providerId ≠ providerId ∨ reservation.status ≠ .settledOffchain then none
  else
    let provider ← s.providers[providerId]?
    return { settlementId, client := reservation.client
             provider := provider.settlementTokenAccount, amount := reservation.amount
             timestamp := reservation.settledAt.getD reservation.createdAt }

/-- The loop over the settlements of a credit: the state with the records made, the candidates,
and the settlements without a record. -/
def collectCandidates (providerId : String) :
    List String → VaultState → VaultState × List Candidate × List String
  | [], s => (s, [], [])
  | settlementId :: rest, s =>
    match s.settlementHistory[settlementId]? with
    | some record =>
      let (s, candidates, missing) := collectCandidates providerId rest s
      (s, ⟨settlementId, record.timestamp, record.amount⟩ :: candidates, missing)
    | none =>
      match reconstructSettlementRecord s providerId settlementId with
      | some record =>
        let (s, candidates, missing) :=
          collectCandidates providerId rest (s.setHistory settlementId record)
        (s, ⟨settlementId, record.timestamp, record.amount⟩ :: candidates, missing)
      | none =>
        let (s, candidates, missing) := collectCandidates providerId rest s
        (s, candidates, settlementId :: missing)

/-- `settlement_is_age_eligible`. -/
def settlementIsAgeEligible (age : ℤ) (config : BatchPrivacyConfig) : Prop :=
  maxSettlementDelaySec ≤ age ∨ config.minAnonymityWindowSec ≤ age

instance (age : ℤ) (config : BatchPrivacyConfig) : Decidable (settlementIsAgeEligible age config) :=
  inferInstanceAs (Decidable (_ ∨ _))

/-- `provider_payout_floor_satisfied`. -/
def providerPayoutFloorSatisfied (eligibleAmount : ℕ) (eligibleOldestAge : ℤ)
    (config : BatchPrivacyConfig) : Prop :=
  eligibleAmount ≠ 0 ∧ (maxSettlementDelaySec ≤ eligibleOldestAge ∨
    config.autoBatchMinProviderPayoutAtomic = 0 ∨
    config.autoBatchMinProviderPayoutAtomic ≤ eligibleAmount)

instance (amount : ℕ) (age : ℤ) (config : BatchPrivacyConfig) :
    Decidable (providerPayoutFloorSatisfied amount age config) := inferInstanceAs (Decidable (_ ∧ _))

/-- `ProviderBatchSelection`. -/
structure ProviderBatchSelection where
  settlementIds : List String
  oldestTimestamp : ℤ
deriving DecidableEq

/-- `select_provider_batch_entries`. -/
def selectProviderBatchEntries (candidates : List Candidate) (batchTimestamp : ℤ)
    (mode : BatchBuildMode) (config : BatchPrivacyConfig) : Option ProviderBatchSelection :=
  let eligible := candidates.filter fun c =>
    mode = .flush ∨ settlementIsAgeEligible (batchTimestamp - c.timestamp) config
  let eligibleAmount := (eligible.map (·.amount)).foldl saturatingAdd 0
  match (eligible.map (·.timestamp)).min? with
  | none => none
  | some oldestTimestamp =>
    if mode = .auto ∧
        ¬ providerPayoutFloorSatisfied eligibleAmount (batchTimestamp - oldestTimestamp) config then
      none
    else some { settlementIds := eligible.map (·.settlementId), oldestTimestamp }

/-! ### The cursors -/

/-- `ProviderBatchCursor`. -/
structure ProviderBatchCursor where
  providerId : String
  oldestCreditAt : ℤ
  settlementIds : List String
  nextIndex : ℕ
deriving DecidableEq

/-- `prune_missing_settlement_reference`. -/
def pruneMissingSettlementReference (s : VaultState) (providerId settlementId : String) :
    VaultState :=
  match s.providerCredits[providerId]? with
  | none => s
  | some credit =>
    let settlementIds := credit.settlementIds.filter (· ≠ settlementId)
    let records := settlementIds.filterMap fun id => s.settlementHistory[id]?
    let creditedAmount := (records.map (·.amount)).foldl saturatingAdd 0
    let oldestCreditAt := ((records.map (·.timestamp)).min?).getD credit.oldestCreditAt
    if creditedAmount = 0 ∨ settlementIds = [] then s.dropCredit providerId
    else s.setCredit providerId { credit with settlementIds, creditedAmount, oldestCreditAt }

/-- The loop over the credits. -/
def collectCursors (batchTimestamp : ℤ) (mode : BatchBuildMode) (config : BatchPrivacyConfig) :
    List ProviderCredit → VaultState →
      VaultState × List ProviderBatchCursor × List (String × String)
  | [], s => (s, [], [])
  | credit :: rest, s =>
    let (s, candidates, missing) := collectCandidates credit.providerId credit.settlementIds s
    let (s, cursors, missing') := collectCursors batchTimestamp mode config rest s
    let cursor := (selectProviderBatchEntries candidates batchTimestamp mode config).map
      fun selection =>
        { providerId := credit.providerId, oldestCreditAt := selection.oldestTimestamp
          settlementIds := selection.settlementIds, nextIndex := 0 }
    (s, cursor.toList ++ cursors, missing.map (credit.providerId, ·) ++ missing')

/-- `build_provider_batch_cursors`. -/
def buildProviderBatchCursors (s : VaultState) (batchTimestamp : ℤ) (mode : BatchBuildMode)
    (config : BatchPrivacyConfig) : List ProviderBatchCursor × VaultState :=
  let (s, cursors, missing) :=
    collectCursors batchTimestamp mode config (s.providerCredits.toList.map (·.2)) s
  (cursors, missing.foldl (fun s (providerId, id) => pruneMissingSettlementReference s providerId id) s)

/-- The order of the cursors: oldest first, then by provider. -/
def ProviderBatchCursor.le (a b : ProviderBatchCursor) : Prop :=
  a.oldestCreditAt < b.oldestCreditAt ∨
    a.oldestCreditAt = b.oldestCreditAt ∧ a.providerId ≤ b.providerId

instance : DecidableRel ProviderBatchCursor.le := fun _ _ => inferInstanceAs (Decidable (_ ∨ _))

/-- One turn of the loop over the cursors, with room for so many more settlements. -/
def selectRound : List ProviderBatchCursor → ℕ →
    List (String × String) × List ProviderBatchCursor
  | [], _ => ([], [])
  | cursor :: cursors, 0 => ([], cursor :: cursors)
  | cursor :: cursors, room + 1 =>
    match cursor.settlementIds[cursor.nextIndex]? with
    | none =>
      let (selected, cursors) := selectRound cursors (room + 1)
      (selected, cursor :: cursors)
    | some settlementId =>
      let (selected, cursors) := selectRound cursors room
      ((cursor.providerId, settlementId) :: selected,
        { cursor with nextIndex := cursor.nextIndex + 1 } :: cursors)

/-- The turns, until there is no room or no cursor advances. -/
def selectRounds : ℕ → List ProviderBatchCursor → ℕ → List (String × String)
  | 0, _, _ => []
  | fuel + 1, cursors, room =>
    let (selected, cursors) := selectRound cursors room
    if selected = [] then [] else selected ++ selectRounds fuel cursors (room - selected.length)

/-- `select_batch_settlement_ids`.  A turn takes one settlement at least, so that there are no
more turns than entries. -/
def selectBatchSettlementIds (cursors : List ProviderBatchCursor) (maxEntries : ℕ) :
    List (String × String) :=
  selectRounds maxEntries
    ((cursors.filter fun cursor => cursor.settlementIds ≠ []).insertionSort ProviderBatchCursor.le)
    maxEntries

/-! ### The prepared settlements -/

/-- The two ciphertexts of an audit record. -/
structure Ciphertexts where
  encryptedSender : List UInt8
  encryptedAmount : List UInt8
  length_sender : encryptedSender.length = 64
  length_amount : encryptedAmount.length = 64

/-- The encryption under the auditor's key, with the randomness that a settlement has: of the
client, the provider and the amount. -/
abbrev Auditor := String → Pubkey → Pubkey → ℕ → Ciphertexts

/-- `generate_audit_record_at`. -/
def generateAuditRecordAt (auditor : Auditor) (settlementId : String) (client provider : Pubkey)
    (amount : ℕ) (timestamp : Timestamp) : BatchAuditEntry :=
  let c := auditor settlementId client provider amount
  { encryptedSender := c.encryptedSender, encryptedAmount := c.encryptedAmount, provider
    timestamp := timestamp.val, length_sender := c.length_sender, length_amount := c.length_amount
    timestamp_bounds := timestamp.bounds }

/-- `PreparedSettlement`, with the two fields of its settlement. -/
structure PreparedSettlement where
  settlementId : String
  providerId : String
  providerTokenAccount : Pubkey
  amount : ℕ
  audit : BatchAuditEntry
deriving DecidableEq

/-- The entry of a selected settlement, from its record. -/
def prepare (auditor : Auditor) (batchTimestamp : Timestamp) (providerId settlementId : String)
    (record : SettlementRecord) : PreparedSettlement :=
  { settlementId, providerId, providerTokenAccount := record.provider, amount := record.amount
    audit := generateAuditRecordAt auditor settlementId record.client record.provider record.amount
      batchTimestamp }

/-- `prepare_batch`: the entries, and the state with the records that were made and without the
settlements that have none. -/
def prepareBatch (auditor : Auditor) (s : VaultState) (batchTimestamp : Timestamp)
    (mode : BatchBuildMode) (config : BatchPrivacyConfig) : List PreparedSettlement × VaultState :=
  let (cursors, s) := buildProviderBatchCursors s batchTimestamp.val mode config
  ((selectBatchSettlementIds cursors maxSettlementsPerTx).filterMap fun (providerId, settlementId) =>
    (s.settlementHistory[settlementId]?).map (prepare auditor batchTimestamp providerId settlementId),
    s)

/-! ### The chunks -/

/-- `BatchChunk`. -/
structure BatchChunk where
  startIndex : ℕ
  entries : List PreparedSettlement
deriving DecidableEq

/-- The loop of `build_batch_chunks`. -/
def cutChunks (entries : List PreparedSettlement) (baseChunkSize extraEntries : ℕ) :
    (left chunkIdx start : ℕ) → List BatchChunk
  | 0, _, _ => []
  | left + 1, chunkIdx, start =>
    let chunkSize := baseChunkSize + if chunkIdx < extraEntries then 1 else 0
    { startIndex := start % 256, entries := (entries.drop start).take chunkSize } ::
      cutChunks entries baseChunkSize extraEntries left (chunkIdx + 1) (start + chunkSize)

/-- `build_batch_chunks`. -/
def buildBatchChunks (entries : List PreparedSettlement) : List BatchChunk :=
  if entries = [] then []
  else
    let chunkCount :=
      (entries.length + maxAtomicSettlementsWithAudit - 1) / maxAtomicSettlementsWithAudit
    cutChunks entries (entries.length / chunkCount) (entries.length % chunkCount) chunkCount 0 0

/-- The number of accounts that a chunk pays. -/
def BatchChunk.providerCount (chunk : BatchChunk) : ℕ :=
  (chunk.entries.map (·.providerTokenAccount)).toFinset.card

/-- `privacy_filter_batch_chunks`. -/
def privacyFilterBatchChunks (chunks : List BatchChunk) (batchTimestamp : ℤ) (mode : BatchBuildMode)
    (config : BatchPrivacyConfig) : List BatchChunk :=
  if mode = .flush ∨ config.minBatchProviders ≤ 1 then chunks
  else chunks.filter fun chunk => config.minBatchProviders ≤ chunk.providerCount ∨
    ∃ entry ∈ chunk.entries, maxSettlementDelaySec ≤ batchTimestamp - entry.audit.timestamp

/-- A total in a `u64`. -/
structure Total where
  val : ℕ
  lt : val < 2 ^ 64

/-- The loop of `aggregate_settlements`. -/
def addSettlements (pubkeyToString : Pubkey → String) :
    List PreparedSettlement → FiniteMap Pubkey Total → Except String (FiniteMap Pubkey Total)
  | [], aggregated => .ok aggregated
  | entry :: rest, aggregated =>
    let total := (aggregated[entry.providerTokenAccount]?).elim 0 Total.val
    if h : total + entry.amount < 2 ^ 64 then
      addSettlements pubkeyToString rest
        (aggregated.insert entry.providerTokenAccount ⟨total + entry.amount, h⟩)
    else
      .error ("aggregated provider amount overflow for " ++ pubkeyToString entry.providerTokenAccount)

/-- `aggregate_settlements`. -/
def aggregateSettlements (pubkeyToString : Pubkey → String) (entries : List PreparedSettlement) :
    Except String (List BatchSettlementEntry) := do
  let aggregated ← addSettlements pubkeyToString entries ∅
  return aggregated.toList.map fun (account, total) => ⟨account, total.val, total.lt⟩

/-! ### What the planner keeps to -/

section Selection

/-- A turn takes no more than there is room for. -/
theorem length_selectRound : ∀ (cursors : List ProviderBatchCursor) (room : ℕ),
    (selectRound cursors room).1.length ≤ room
  | [], _ => Nat.zero_le _
  | _ :: _, 0 => Nat.zero_le _
  | cursor :: cursors, room + 1 => by
    unfold selectRound
    split
    · exact length_selectRound cursors (room + 1)
    · exact Nat.succ_le_succ (length_selectRound cursors room)

theorem length_selectRounds : ∀ (fuel : ℕ) (cursors : List ProviderBatchCursor) (room : ℕ),
    (selectRounds fuel cursors room).length ≤ room
  | 0, _, _ => Nat.zero_le _
  | fuel + 1, cursors, room => by
    have hround := length_selectRound cursors room
    unfold selectRounds
    simp only
    split
    · exact Nat.zero_le _
    · have hrest := length_selectRounds fuel (selectRound cursors room).2
        (room - (selectRound cursors room).1.length)
      rw [List.length_append]
      omega

/-- The entry of a settlement is made from its record, and its audit record has the time of the
batch. -/
theorem mem_prepareBatch {auditor : Auditor} {s : VaultState} {batchTimestamp : Timestamp}
    {mode : BatchBuildMode} {config : BatchPrivacyConfig} {p : PreparedSettlement}
    (h : p ∈ (prepareBatch auditor s batchTimestamp mode config).1) :
    ∃ record, (prepareBatch auditor s batchTimestamp mode config).2.settlementHistory[p.settlementId]?
        = some record ∧
      p = prepare auditor batchTimestamp p.providerId p.settlementId record := by
  obtain ⟨⟨providerId, settlementId⟩, -, h⟩ := List.mem_filterMap.1 h
  obtain ⟨record, hrecord, rfl⟩ := Option.map_eq_some_iff.1 h
  exact ⟨record, hrecord, rfl⟩

end Selection

section Chunks

variable {entries : List PreparedSettlement}

/-- The entries of the chunks from some place on. -/
theorem flatMap_cutChunks (base extra : ℕ) : ∀ (left chunkIdx start : ℕ),
    (cutChunks entries base extra left chunkIdx start).flatMap (·.entries)
      = (entries.drop start).take (left * base + (min (chunkIdx + left) extra - min chunkIdx extra))
  | 0, chunkIdx, start => by simp [cutChunks]
  | left + 1, chunkIdx, start => by
    rw [cutChunks, List.flatMap_cons, flatMap_cutChunks base extra left]
    simp only
    rw [← List.drop_drop, ← List.take_add]
    congr 1
    have hmul : (left + 1) * base = left * base + base := Nat.succ_mul left base
    split <;> omega

/-- **The chunks have all entries, in order.** -/
theorem flatMap_buildBatchChunks (entries : List PreparedSettlement) :
    (buildBatchChunks entries).flatMap (·.entries) = entries := by
  unfold buildBatchChunks
  split
  · next hnil => rw [hnil]; rfl
  · next hne =>
    have hpos := List.length_pos_of_ne_nil hne
    simp only [maxAtomicSettlementsWithAudit]
    obtain ⟨count, hcount⟩ : ∃ count, (entries.length + 2 - 1) / 2 = count := ⟨_, rfl⟩
    have hpos' : 0 < count := by omega
    have hsum : count * (entries.length / count) + entries.length % count = entries.length :=
      Nat.div_add_mod _ _
    have hextra : entries.length % count < count := Nat.mod_lt _ hpos'
    rw [hcount, flatMap_cutChunks, List.drop_zero, Nat.zero_add, Nat.zero_min, Nat.sub_zero,
      min_eq_right hextra.le, hsum, List.take_length]

theorem mem_chunk_iff {p : PreparedSettlement} :
    p ∈ entries ↔ ∃ chunk ∈ buildBatchChunks entries, p ∈ chunk.entries := by
  conv_lhs => rw [← flatMap_buildBatchChunks entries]
  exact List.mem_flatMap

/-- Where a chunk is cut. -/
theorem mem_cutChunks {base extra : ℕ} {chunk : BatchChunk} : ∀ {left chunkIdx start : ℕ},
    chunk ∈ cutChunks entries base extra left chunkIdx start → ∃ start' size,
      chunk = { startIndex := start' % 256, entries := (entries.drop start').take size } ∧
        start' + size
          ≤ start + (left * base + (min (chunkIdx + left) extra - min chunkIdx extra)) ∧
        (size = base ∨ size = base + 1 ∧ 0 < extra)
  | 0, _, _, h => nomatch h
  | left + 1, chunkIdx, start, h => by
    have hmul : (left + 1) * base = left * base + base := Nat.succ_mul left base
    rcases List.mem_cons.1 h with rfl | h
    · refine ⟨start, _, rfl, ?_, ?_⟩ <;> split <;> omega
    · obtain ⟨start', size, rfl, hle, hsize⟩ := mem_cutChunks h
      refine ⟨start', size, rfl, ?_, hsize⟩
      split at hle <;> omega

/-- **A chunk is a piece of the entries, of one or two.** -/
theorem mem_buildBatchChunks {chunk : BatchChunk} (h : chunk ∈ buildBatchChunks entries) :
    ∃ start, chunk.startIndex = start % 256 ∧ start + chunk.entries.length ≤ entries.length ∧
      1 ≤ chunk.entries.length ∧ chunk.entries.length ≤ maxAtomicSettlementsWithAudit ∧
      chunk.entries = (entries.drop start).take chunk.entries.length := by
  unfold buildBatchChunks at h
  split at h
  · cases h
  next hne =>
  have hpos := List.length_pos_of_ne_nil hne
  simp only [maxAtomicSettlementsWithAudit] at h ⊢
  obtain ⟨count, hcount⟩ : ∃ count, (entries.length + 2 - 1) / 2 = count := ⟨_, rfl⟩
  rw [hcount] at h
  have hsum : count * (entries.length / count) + entries.length % count = entries.length :=
    Nat.div_add_mod _ _
  have hextra : entries.length % count < count := Nat.mod_lt _ (by omega)
  have hbase : 1 ≤ entries.length / count := (Nat.one_le_div_iff (by omega)).2 (by omega)
  obtain ⟨start, size, rfl, hle, hsize⟩ := mem_cutChunks h
  rw [Nat.zero_add, Nat.zero_add, Nat.zero_min, Nat.sub_zero, min_eq_right hextra.le, hsum] at hle
  have hlength : ((entries.drop start).take size).length = size := by
    rw [List.length_take, List.length_drop]
    omega
  -- two to a chunk are enough for all, so that no chunk has three
  have htwo : size ≤ 2 := by
    generalize entries.length / count = base at hsum hbase hsize
    generalize entries.length % count = extra at hsum hsize
    by_contra hthree
    have hmul : count * 2 ≤ count * base := Nat.mul_le_mul_left count (by omega)
    rcases hsize with rfl | ⟨-, hextra⟩
    · have := Nat.mul_le_mul_left count (show 3 ≤ size by omega)
      omega
    · omega
  exact ⟨start, rfl, by simp only [hlength]; exact hle, by simp only [hlength]; omega,
    by simp only [hlength]; exact htwo, by simp only [hlength]⟩

end Chunks

end Batch
end Subly402
