/-
# The payout floor

`select_provider_batch_entries` compares the payout floor with all that a provider has
waiting.  What lands on the chain is less: the turns stop after twenty settlements, and a
transaction pays what one chunk of two settlements adds up to.
-/

import Subly402.Batch.Firing
import Subly402.Batch.Payouts

namespace Subly402

open Lib

namespace Batch

/-- The settlement has waited so long that it has to be paid. -/
def OverdueIn (s : VaultState) (t : ℤ) (providerId settlementId : String) : Prop :=
  ∃ record, settlementRecord s providerId settlementId = some record ∧
    maxSettlementDelaySec ≤ t - record.timestamp

instance (s : VaultState) (t : ℤ) (providerId settlementId : String) :
    Decidable (OverdueIn s t providerId settlementId) :=
  decidable_of_iff (∃ record ∈ settlementRecord s providerId settlementId,
    maxSettlementDelaySec ≤ t - record.timestamp) .rfl

/-- Every transfer of the chunks reaches the floor, or pays for an overdue settlement. -/
def TransfersReachFloor (pubkeyToString : Pubkey → String) (s : VaultState) (t : ℤ)
    (config : BatchPrivacyConfig) (chunks : List BatchChunk) : Prop :=
  ∀ chunk ∈ chunks, ∀ transfers, aggregateSettlements pubkeyToString chunk.entries = .ok transfers →
    ∀ transfer ∈ transfers, config.autoBatchMinProviderPayoutAtomic ≤ transfer.amount ∨
      ∃ p ∈ chunk.entries, p.providerTokenAccount = transfer.providerTokenAccount ∧
        OverdueIn s t p.providerId p.settlementId

instance (pubkeyToString : Pubkey → String) (s : VaultState) (t : ℤ) (config : BatchPrivacyConfig)
    (chunks : List BatchChunk) : Decidable (TransfersReachFloor pubkeyToString s t config chunks) :=
  decidable_of_iff (∀ chunk ∈ chunks,
      ∀ transfers ∈ (aggregateSettlements pubkeyToString chunk.entries).toOption,
        ∀ transfer ∈ transfers, config.autoBatchMinProviderPayoutAtomic ≤ transfer.amount ∨
          ∃ p ∈ chunk.entries, p.providerTokenAccount = transfer.providerTokenAccount ∧
            OverdueIn s t p.providerId p.settlementId) <| by
    refine forall₂_congr fun chunk _ => forall_congr' fun transfers => ?_
    cases aggregateSettlements pubkeyToString chunk.entries <;> simp [Except.toOption]

/-! ### The pairs of the selection -/

/-- The selected settlements with the numbers `2k` and `2k + 1`. -/
def pairAt (s : VaultState) (t : ℤ) (config : BatchPrivacyConfig) (k : ℕ) :
    List (String × String) :=
  ((selection s t config).drop (2 * k)).take 2

/-- What the pair pays to the account of a provider, by the records and the registrations. -/
def pairPays (s : VaultState) (pair : List (String × String)) (providerId : String) : ℕ :=
  ((pair.filter fun e => accountOf s e.1 = accountOf s providerId).map fun e =>
    (settlementRecord s e.1 e.2).elim 0 (·.amount)).sum

/-- The pair is sent: it pays as many accounts as the configuration asks for, each with a `u64`. -/
def PairSent (s : VaultState) (config : BatchPrivacyConfig) (pair : List (String × String)) : Prop :=
  (config.minBatchProviders ≤ 1 ∨
      config.minBatchProviders ≤ (pair.map fun e => accountOf s e.1).toFinset.card) ∧
    ∀ e ∈ pair, pairPays s pair e.1 < 2 ^ 64

/-- What a pair pays to each of its accounts reaches the floor, or is overdue in part. -/
def PairReachesFloor (s : VaultState) (t : ℤ) (config : BatchPrivacyConfig)
    (pair : List (String × String)) : Prop :=
  ∀ e ∈ pair, config.autoBatchMinProviderPayoutAtomic ≤ pairPays s pair e.1 ∨
    ∃ e' ∈ pair, accountOf s e'.1 = accountOf s e.1 ∧ OverdueIn s t e'.1 e'.2

/-- Every pair of the selection that is sent reaches the floor. -/
def PairsReachFloor (s : VaultState) (t : ℤ) (config : BatchPrivacyConfig) : Prop :=
  ∀ k < (selection s t config).length, PairSent s config (pairAt s t config k) →
    PairReachesFloor s t config (pairAt s t config k)

instance (s : VaultState) (config : BatchPrivacyConfig) (pair : List (String × String)) :
    Decidable (PairSent s config pair) := inferInstanceAs (Decidable (_ ∧ _))

instance (s : VaultState) (t : ℤ) (config : BatchPrivacyConfig) (pair : List (String × String)) :
    Decidable (PairReachesFloor s t config pair) :=
  inferInstanceAs (Decidable (∀ e ∈ pair, _ ∨ ∃ e' ∈ pair, _))

instance (s : VaultState) (t : ℤ) (config : BatchPrivacyConfig) :
    Decidable (PairsReachFloor s t config) :=
  inferInstanceAs (Decidable (∀ k < _, _ → _))

/-! ### The pairs and the chunks -/

/-- The settlement is paid what its record says, to the account that its provider registered. -/
structure PreparedSettlement.Priced (s : VaultState) (p : PreparedSettlement) : Prop where
  account : accountOf s p.providerId = some p.providerTokenAccount
  amount : (settlementRecord s p.providerId p.settlementId).elim 0 (·.amount) = p.amount

section Pairs

variable {s : VaultState} {t : Timestamp} {config : BatchPrivacyConfig} {auditor : Auditor}
  {entries : List PreparedSettlement}

/-- Every settlement of a batch is priced. -/
theorem priced_of_prepared (hs : CreditsSound s.ledger) {p : PreparedSettlement}
    (hp : p ∈ (prepareBatch auditor s t .auto config).1) : p.Priced s := by
  obtain ⟨record, hentered⟩ := mem_prepared hs hp
  refine ⟨account_of_prepared hs hp, ?_⟩
  rw [hentered.record_eq, Option.elim_some, hentered.amount]

/-- A settlement, as the selection names it. -/
def PreparedSettlement.selected (p : PreparedSettlement) : String × String :=
  (p.providerId, p.settlementId)

/-- A pair of the selection is the chunk with its number. -/
theorem pairAt_eq (auditor : Auditor) (s : VaultState) (t : Timestamp) (config : BatchPrivacyConfig)
    (k : ℕ) : pairAt s t.val config k
      = (pairChunk (prepareBatch auditor s t .auto config).1 k).entries.map (·.selected) := by
  unfold pairAt selection pairChunk
  rw [← map_prepareBatch auditor s t .auto config, ← List.map_drop, ← List.map_take]
  rfl

/-- What a pair pays is what the chunk pays. -/
theorem pairPays_eq (hpriced : ∀ p ∈ entries, p.Priced s) {p : PreparedSettlement}
    (hp : p ∈ entries) :
    pairPays s (entries.map (·.selected)) p.providerId
      = paidTo p.providerTokenAccount entries := by
  unfold pairPays paidTo
  rw [List.filter_map, List.map_map]
  have hfilter : entries.filter ((fun e : String × String =>
        decide (accountOf s e.1 = accountOf s p.providerId)) ∘ (·.selected))
      = entries.filter fun q => q.providerTokenAccount = p.providerTokenAccount := by
    refine List.filter_congr fun q hq => ?_
    simp only [Function.comp_apply, PreparedSettlement.selected, (hpriced q hq).account,
      (hpriced p hp).account, Option.some.injEq]
  rw [hfilter]
  exact congrArg List.sum (List.map_congr_left fun q hq =>
    (hpriced q (List.mem_filter.1 hq).1).amount)

/-- The accounts of a pair are those of the chunk. -/
theorem card_accounts_eq (hpriced : ∀ p ∈ entries, p.Priced s) :
    ((entries.map (·.selected)).map fun e => accountOf s e.1).toFinset.card
      = (entries.map (·.providerTokenAccount)).toFinset.card := by
  have hmap : (entries.map (·.selected)).map (fun e => accountOf s e.1)
      = (entries.map (·.providerTokenAccount)).map some := by
    rw [List.map_map, List.map_map]
    exact List.map_congr_left fun q hq => (hpriced q hq).account
  have himage : ((entries.map (·.providerTokenAccount)).map some).toFinset
      = (entries.map (·.providerTokenAccount)).toFinset.image some := by
    ext account
    simp
  rw [hmap, himage, Finset.card_image_of_injective _ (Option.some_injective _)]

/-- A chunk that adds up in a `u64` transfers to each account of it, and to no other. -/
theorem transfers_reach_iff (pubkeyToString : Pubkey → String) (reaches : ℕ → Pubkey → Prop) :
    (∀ transfers, aggregateSettlements pubkeyToString entries = .ok transfers →
        ∀ transfer ∈ transfers, reaches transfer.amount transfer.providerTokenAccount) ↔
      ((∀ p ∈ entries, paidTo p.providerTokenAccount entries < 2 ^ 64) →
        ∀ p ∈ entries, reaches (paidTo p.providerTokenAccount entries) p.providerTokenAccount) := by
  have herror := aggregateSettlements_error_iff pubkeyToString entries
  cases hout : aggregateSettlements pubkeyToString entries with
  | ok transfers =>
    have htransfers := aggregateSettlements_transfers pubkeyToString hout
    constructor
    · intro h _ p hp
      obtain ⟨transfer, htransfer, haccount⟩ :=
        (htransfers.accounts p.providerTokenAccount).2 ⟨p, hp, rfl⟩
      rw [← haccount, ← htransfers.exact transfer htransfer]
      exact h transfers rfl transfer htransfer
    · rintro h _ ⟨rfl⟩ transfer htransfer
      obtain ⟨p, hp, haccount⟩ := (htransfers.accounts _).1 ⟨transfer, htransfer, rfl⟩
      rw [htransfers.exact transfer htransfer, ← haccount]
      refine h (fun q _ => Nat.lt_of_not_le fun hover => ?_) p hp
      obtain ⟨error, herror⟩ := herror.2 ⟨_, hover⟩
      rw [hout] at herror
      cases herror
  | error error =>
    -- an account that is paid too much is one of a settlement, so nothing is claimed of the chunk
    obtain ⟨account, hover⟩ := herror.1 ⟨error, hout⟩
    refine iff_of_true (fun _ h => by cases h) fun hfits => ?_
    by_cases hentered : ∃ p ∈ entries, p.providerTokenAccount = account
    · obtain ⟨p, hp, rfl⟩ := hentered
      exact absurd (hfits p hp) (Nat.not_lt.2 hover)
    · rw [paidTo_eq_zero hentered] at hover
      exact absurd hover (by decide)

/-- **A chunk transfers what reaches the floor where its pair does.** -/
theorem chunk_reaches_floor_iff (pubkeyToString : Pubkey → String)
    (hpriced : ∀ p ∈ entries, p.Priced s) :
    (∀ transfers, aggregateSettlements pubkeyToString entries = .ok transfers →
        ∀ transfer ∈ transfers, config.autoBatchMinProviderPayoutAtomic ≤ transfer.amount ∨
          ∃ p ∈ entries, p.providerTokenAccount = transfer.providerTokenAccount ∧
            OverdueIn s t.val p.providerId p.settlementId) ↔
      ((∀ e ∈ entries.map (·.selected), pairPays s (entries.map (·.selected)) e.1 < 2 ^ 64) →
        PairReachesFloor s t.val config (entries.map (·.selected))) := by
  rw [transfers_reach_iff pubkeyToString fun amount account =>
    config.autoBatchMinProviderPayoutAtomic ≤ amount ∨
      ∃ p ∈ entries, p.providerTokenAccount = account ∧
        OverdueIn s t.val p.providerId p.settlementId]
  unfold PairReachesFloor
  rw [List.forall_mem_map, List.forall_mem_map]
  refine imp_congr (forall₂_congr fun p hp => ?_) (forall₂_congr fun p hp => ?_)
  · rw [← pairPays_eq hpriced hp]
    rfl
  · rw [← pairPays_eq hpriced hp]
    simp only [List.mem_map, exists_exists_and_eq_and]
    refine or_congr Iff.rfl (exists_congr fun q => and_congr_right fun hq => ?_)
    simp only [PreparedSettlement.selected, (hpriced q hq).account, (hpriced p hp).account,
      Option.some.injEq]

/-- The chunk with a number is submitted where it pays enough accounts. -/
theorem pairChunk_mem_submitted {k : ℕ}
    (hk : 2 * k < (prepareBatch auditor s t .auto config).1.length)
    (hcount : config.minBatchProviders ≤ 1 ∨ config.minBatchProviders
      ≤ (pairChunk (prepareBatch auditor s t .auto config).1 k).providerCount) :
    pairChunk (prepareBatch auditor s t .auto config).1 k ∈ submitted auditor s t config := by
  refine privacyFilter_prepareBatch.2 ⟨?_, hcount⟩
  rw [buildBatchChunks_eq]
  exact List.mem_map_of_mem (List.mem_range'_1.2 ⟨Nat.zero_le k, by omega⟩)

/-- The transfers of an automatic batch, where the credits name each settlement once. -/
theorem submitted_reach_floor_iff (pubkeyToString : Pubkey → String) (auditor : Auditor)
    (hs : CreditsSound s.ledger) :
    TransfersReachFloor pubkeyToString s t.val config (submitted auditor s t config) ↔
      PairsReachFloor s t.val config := by
  have hpriced : ∀ k, ∀ p ∈ (pairChunk (prepareBatch auditor s t .auto config).1 k).entries,
      p.Priced s := fun k p hp =>
    priced_of_prepared hs (List.mem_of_mem_drop (List.mem_of_mem_take hp))
  constructor
  · intro h k _ hsent
    rw [pairAt_eq auditor] at hsent ⊢
    obtain ⟨hcount, hfits⟩ := hsent
    rw [card_accounts_eq (hpriced k)] at hcount
    intro e he
    -- a pair with a settlement in it is a chunk of the batch
    have hk : 2 * k < (prepareBatch auditor s t .auto config).1.length := by
      obtain ⟨p, hp, -⟩ := List.mem_map.1 he
      have hpos := List.length_pos_of_mem (List.mem_of_mem_take hp)
      rw [List.length_drop] at hpos
      omega
    exact (chunk_reaches_floor_iff pubkeyToString (hpriced k)).1
      (h _ (pairChunk_mem_submitted hk hcount)) hfits e he
  · intro h chunk hchunk
    obtain ⟨hbuilt, hcount⟩ := privacyFilter_prepareBatch.1 hchunk
    rw [buildBatchChunks_eq] at hbuilt
    obtain ⟨k, hk, rfl⟩ := List.mem_map.1 hbuilt
    have hreaches := h k (by
      unfold selection
      rw [← map_prepareBatch auditor s t .auto config, List.length_map]
      have hlt := (List.mem_range'_1.1 hk).2
      omega)
    rw [pairAt_eq auditor] at hreaches
    refine (chunk_reaches_floor_iff pubkeyToString (hpriced k)).2 fun hfits => hreaches ⟨?_, hfits⟩
    rw [card_accounts_eq (hpriced k)]
    exact hcount

end Pairs

/-- **When automatic transfers reach the floor**, in every state that a run reaches. -/
theorem auto_transfers_reach_floor_iff (env : Env) (turns : List (Turn env)) (auditor : Auditor)
    (t : Timestamp) (config : BatchPrivacyConfig) :
    TransfersReachFloor env.pubkeyToString (runTurns env turns).vault t.val config
        (submitted auditor (runTurns env turns).vault t config) ↔
      PairsReachFloor (runTurns env turns).vault t.val config :=
  submitted_reach_floor_iff env.pubkeyToString auditor (runTurns_sound env turns).credits

end Batch

namespace Shop

/-- A second seller, with an account of its own. -/
def stall : RegisterProviderRequest :=
  { seller with
    providerId := "stall"
    settlementTokenAccount := hexEncode (Bytes32.fill 4).bytes }

/-- A payment of one. -/
def unitPayment (paymentId providerId : String) : Handlers.VerifyRequest :=
  { payment with paymentId, providerId, amount := 1 }

/-- Two payments of one to each of two sellers. -/
def fourPayments : List (Batch.Turn world) :=
  ([.deposit ⟨deposit, deposit_mem⟩ 0, .registerProvider seller, .registerProvider stall,
    .verify (unitPayment "a" "shop") ⟨1, 1⟩, .settle "ver_" ⟨2, 2⟩,
    .verify (unitPayment "b" "stall") ⟨3, 3⟩, .settle "ver_uuu" ⟨4, 4⟩,
    .verify (unitPayment "c" "shop") ⟨5, 5⟩, .settle "ver_uuuuuu" ⟨6, 6⟩,
    .verify (unitPayment "d" "stall") ⟨7, 7⟩, .settle "ver_uuuuuuuuu" ⟨8, 8⟩] :
      List (Op world)).map .op

/-- After the anonymity window, and before anything is overdue. -/
def windowTime : Batch.Timestamp := ⟨400, by decide⟩

/-- The configuration with a floor. -/
def withFloor (floor : ℕ) : Batch.BatchPrivacyConfig :=
  { Batch.BatchPrivacyConfig.default with autoBatchMinProviderPayoutAtomic := floor }

/-- What the transfers of the batch pay. -/
def transferAmounts (floor : ℕ) : List (Option (List ℕ)) :=
  (Batch.submitted auditor (Batch.runTurns world fourPayments).vault windowTime
    (withFloor floor)).map fun chunk =>
      (Batch.aggregateSettlements world.pubkeyToString chunk.entries).toOption.map
        (·.map (·.amount))

/-- With a floor of one, every pair reaches it. -/
example : Batch.PairsReachFloor (Batch.runTurns world fourPayments).vault 400 (withFloor 1) := by
  decide +kernel

/-- **Transfers below the floor**: with a floor of two, each seller has two waiting, and is paid
one at a time. -/
theorem paid_below_floor :
    transferAmounts 2 = [some [1, 1], some [1, 1]] ∧
      ¬ Batch.TransfersReachFloor world.pubkeyToString (Batch.runTurns world fourPayments).vault 400
        (withFloor 2) (Batch.submitted auditor (Batch.runTurns world fourPayments).vault windowTime
          (withFloor 2)) := by
  decide +kernel

end Shop

end Subly402
