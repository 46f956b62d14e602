/-
# Deposits, withdrawals and batches from the chain

What the enclave learns from the chain: `apply_deposit` and `apply_withdrawal` of
`enclave/src/deposit_detector.rs`, and the part of `fire_batch_at` of
`enclave/src/batch.rs` that logs and applies a batch that landed.  The source
returns boxed errors here; the model keeps the error underneath.
-/

import Subly402.Enclave.App
import Subly402.Vault.Confirm

namespace Subly402

open Lib
open Lib.Prog (okOr failIf)

/-- The event states the terms of the withdrawal. -/
def WithdrawEvent.Matches (event : WithdrawEvent) (withdrawal : PendingWithdrawal) : Prop :=
  withdrawal.client = event.client ∧ withdrawal.recipientAta = event.recipientAta ∧
    withdrawal.amount = event.amount ∧ withdrawal.expiresAt = event.expiresAt

instance (event : WithdrawEvent) (withdrawal : PendingWithdrawal) :
    Decidable (event.Matches withdrawal) :=
  inferInstanceAs (Decidable (_ ∧ _))

namespace Detector

/-- Remember a transaction, and the slot it was in. -/
def record (signature : String) (slot : ℕ) : AppM Unit :=
  modify fun s => (s.markProcessed signature).setVault (s.vault.setLastFinalizedSlot slot)

/-- `apply_deposit`. -/
def applyDeposit (env : Env) (deposit : DepositEvent) (now : ℤ) : AppM Unit := do
  if deposit.signature ∈ (← get).processedSignatures then return
  else
    onVault (Subly402.applyDeposit deposit.client deposit.amount)
    appendAs .internal env
      (.depositApplied (env.pubkeyToString deposit.client) deposit.amount deposit.slot
        deposit.signature)
      (rollbackDeposit deposit.client deposit.amount)
    record deposit.signature deposit.slot
    let _ ← issueClientReceiptLocked env deposit.client now

/-- `apply_withdrawal`.  An event that does not match the withdrawal of its nonce is refused
after the withdrawal has been applied. -/
def applyWithdrawal (env : Env) (withdrawal : WithdrawEvent) (now : ℤ) : AppM Unit := do
  if withdrawal.signature ∈ (← get).processedSignatures then return
  else
    let applied ← onVault (Subly402.applyWithdrawal withdrawal.withdrawNonce)
    failIf (¬ withdrawal.Matches applied)
      (.internal ("withdraw event mismatch for nonce " ++ toString withdrawal.withdrawNonce))
    appendAs .internal env
      (.withdrawApplied (env.pubkeyToString withdrawal.client)
        (env.pubkeyToString withdrawal.recipientAta) withdrawal.amount withdrawal.withdrawNonce
        withdrawal.expiresAt withdrawal.slot withdrawal.signature)
      (rollbackAppliedWithdrawal applied)
    record withdrawal.signature withdrawal.slot
    let _ ← onVault (refreshClientMaxLockExpiresAt withdrawal.client)
    let _ ← issueClientReceiptLocked env withdrawal.client now

/-- Log a batch chunk that was confirmed, and apply it (`apply_submitted_chunk`). -/
def confirmBatch (env : Env) (settlementIds : List String) (batchId : ℕ) (txSignature : String) :
    AppM Unit := do
  appendAs (fun error => .internal ("failed to append BatchConfirmed WAL entry: " ++ error)) env
    (.batchConfirmed batchId txSignature settlementIds) (pure ())
  modify fun s => s.setVault (applyBatchConfirmation settlementIds batchId txSignature s.vault)

end Detector

end Subly402
