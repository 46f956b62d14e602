/-
# Applying a confirmed batch

`VaultState::apply_batch_confirmation` of `enclave/src/state.rs`: the settlements
of a batch that landed on chain leave the history and the credits, and their
reservations become `BatchedOnchain`.
-/

import Subly402.Vault.Ops

namespace Subly402

open Lib

/-- The reservation that carries a settlement id, with its key. -/
def VaultState.reservationOf (s : VaultState) (settlementId : String) :
    Option (String × Reservation) :=
  s.reservations.toList.find? fun e => e.2.settlementId = some settlementId

/-- The first credit that names a settlement id, with its key. -/
def VaultState.creditNaming (s : VaultState) (settlementId : String) :
    Option (String × ProviderCredit) :=
  s.providerCredits.toList.find? fun e => settlementId ∈ e.2.settlementIds

/-- One turn of the loop over the settlement ids: the state, and the providers affected so
far. -/
def confirmSettlement (batchId : ℕ) (txSignature : String)
    (acc : VaultState × List String) (settlementId : String) : VaultState × List String :=
  let s := (acc.1.dropHistory settlementId).setBatch settlementId { batchId, txSignature }
  match s.reservationOf settlementId with
  | some (verificationId, reservation) =>
    let s := match s.providerCredits[reservation.providerId]? with
      | some credit =>
        s.setCredit reservation.providerId (credit.without settlementId reservation.amount)
      | none => s
    (s.setReservation verificationId { reservation with status := .batchedOnchain },
      acc.2.insert reservation.providerId)
  | none =>
    match s.creditNaming settlementId with
    | some (key, credit) =>
      (s.setCredit key (credit.without settlementId 0), acc.2.insert credit.providerId)
    | none => (s, acc.2)

/-- Whether a provider has a credit with nothing left to pay. -/
def VaultState.hasSpentCredit (s : VaultState) (providerId : String) : Bool :=
  (s.providerCredits[providerId]?).any ProviderCredit.isSpent

/-- The times recorded for the settlements a credit still names. -/
def VaultState.creditTimes (s : VaultState) (credit : ProviderCredit) : List ℤ :=
  credit.settlementIds.filterMap fun settlementId =>
    (s.settlementHistory[settlementId]?).map (·.timestamp)

/-- Set a credit's age to that of the oldest settlement it still names. -/
def refreshOldestCredit (s : VaultState) (providerId : String) : VaultState :=
  match s.providerCredits[providerId]? with
  | some credit =>
    match (s.creditTimes credit).min? with
    | some oldestCreditAt => s.setCredit providerId { credit with oldestCreditAt }
    | none => s
  | none => s

/-- `apply_batch_confirmation`. -/
def applyBatchConfirmation (settlementIds : List String) (batchId : ℕ) (txSignature : String)
    (s : VaultState) : VaultState :=
  let (s, affected) := settlementIds.foldl (confirmSettlement batchId txSignature) (s, [])
  let spent := affected.filter s.hasSpentCredit
  let s := spent.foldl VaultState.dropCredit s
  (affected.filter (· ∉ spent)).foldl refreshOldestCredit s

end Subly402
