/-
# Deposits, withdrawals and batches, step by step

What the enclave learns from the chain, as steps of the books.  A deposit and a
confirmed batch are logged steps.  A withdrawal is one where the event states the
terms that were authorised under its nonce; an event with other terms is refused
after the withdrawal was applied, and the log does not tell.
-/

import Subly402.Enclave.Detector
import Subly402.Enclave.PaymentSteps

namespace Subly402

open Lib
open Lib.Prog (okOr failIf Leaves)

variable {env : Env} {s : AppState}

/-- A pending withdrawal can be applied. -/
theorem AppInv.withdrawable (hs : AppInv env s) {n : ℕ}
    {w : PendingWithdrawal} (hw : s.vault.pendingWithdrawals[n]? = some w) :
    ∃ balance, s.vault.clientBalances[w.client]? = some balance ∧ w.amount ≤ balance.locked ∧
      balance.totalWithdrawn + w.amount < u64Bound := by
  obtain ⟨balance, hb, hle⟩ := hs.pending hw
  refine ⟨balance, hb, hle, ?_⟩
  have htotal := hs.sums.total w.client
  have hlt := hs.fits w.client
  rw [VaultState.Known.account hb] at htotal hlt
  simp only [ClientBalance.account] at htotal hlt
  omega

namespace Detector

/-- **A deposit is a logged step.** -/
theorem applyDeposit_logged (s : AppState) {deposit : DepositEvent} (hmem : deposit ∈ env.deposits)
    (now : ℤ) :
    (applyDeposit env deposit now).Leaves s (Logged env s) := by
  refine .get_bind ?_
  split
  · exact .pure (.refl env s)
  · next hnew =>
    refine .onVault_run_bind (run_applyDeposit ..) (.append_bind (run_rollbackDeposit ..) ?_
      (.modify_bind ?_))
    · -- the append failed; a client without a record keeps an all-zero one
      exact .quiet (.of_vault (fun _ h => VaultState.known_setBalance _ h) rfl le_rfl le_rfl rfl rfl)
        (VaultState.ledger_setBalance_balance _) (fun _ h => .inl h) rfl rfl (.skip (.nil _)) (by simp)
    · refine Logged.then (.commit (.deposit deposit.client deposit.amount)
        ⟨.of_vault (fun _ h => VaultState.known_setBalance _ h) rfl le_rfl le_rfl rfl rfl, ?_, trivial,
          .of_none rfl rfl, by rintro _ ⟨⟩, rfl, rfl⟩
        (.deposit _ _ _ (env.pubkeyFromStr_toString _)) rfl ?_
        fun hs => hs.deposit hmem hnew rfl ?_) fun t =>
          .logged_bind (leaves_issueClientReceiptLocked env deposit.client now t) fun _ t =>
            .pure (.refl env t)
      · simp [Ledger.apply]
      · simp [WalEntry.txSignature?]
      · simp [Ledger.apply]

/-- The event states the terms under which its nonce is pending, if it is. -/
def Genuine (s : AppState) (event : WithdrawEvent) : Prop :=
  ∀ w, s.vault.pendingWithdrawals[event.withdrawNonce]? = some w → event.Matches w

/-- **A withdrawal is a sound step, and a logged one where its event is genuine.** -/
theorem applyWithdrawal_effect (hs : AppInv env s) (event : WithdrawEvent) (now : ℤ) :
    (applyWithdrawal env event now).Leaves s (Effect env (Genuine s event) s) := by
  refine .get_bind ?_
  split
  · exact .pure (Logged.refl env s).effect
  cases hw : s.vault.pendingWithdrawals[event.withdrawNonce]? with
  | none =>
    exact .of_run (by rw [Prog.run_bind, run_onVault, run_applyWithdrawal_absent hw]; rfl)
      (Logged.refl env s).effect
  | some w =>
    obtain ⟨balance, hb, hle, hlt⟩ := hs.withdrawable hw
    have hnonce : w.withdrawNonce = event.withdrawNonce := hs.shape.pending_key _ _ hw
    have hbooks : ((((s.vault.dropPending event.withdrawNonce).noteLockedSub balance.locked
        w.amount).setBalance w.client (balance.withdraw w.amount))).ledger
          = s.vault.ledger.apply (.withdraw event.withdrawNonce) := by
      simp [Ledger.apply, hw, VaultState.balance_eq hb]
    refine .onVault_run_bind (run_applyWithdrawal hw hb hlt) ?_
    rw [VaultState.noteLockedSub_of_le hle] at hbooks ⊢
    have hsame : ∀ client, ((((s.vault.dropPending event.withdrawNonce).setBalance w.client
        (balance.withdraw w.amount))).ledger.account client).deposited
          = (s.vault.ledger.account client).deposited := fun client => by
      rw [hbooks, Ledger.deposited_apply (by simp)]
    refine .failIf_bind (fun hmismatch => ⟨?_, fun hgen => (hmismatch (hgen w hw)).elim⟩)
      fun hmatch => ?_
    · -- refused after it was applied, with nothing in the log
      exact .commit (.withdraw event.withdrawNonce)
        ⟨.of_vault (fun _ h => VaultState.known_setBalance _ h) rfl le_rfl le_rfl rfl rfl, hbooks,
          ⟨w, hw⟩, .of_none rfl rfl, by rintro _ ⟨⟩, rfl, rfl⟩ fun hs => hs.keep subset_rfl hsame
    obtain ⟨hclient, hrecipient, hamount, hexpires⟩ := not_not.1 hmatch
    have hroll := run_rollbackAppliedWithdrawal (hnonce ▸ hw) hb hle
    rw [hnonce, VaultState.noteLockedSub_of_le hle] at hroll
    refine .append_bind hroll (Logged.skip env s).effect (.modify_bind ?_)
    refine Leaves.mono (R := Logged env s) (Logged.then (.commit (.withdraw event.withdrawNonce)
      ⟨.of_vault (fun _ h => VaultState.known_setBalance _ h) rfl le_rfl le_rfl rfl rfl, hbooks,
        ⟨w, hw⟩, .of_none rfl rfl, by rintro _ ⟨⟩, rfl, rfl⟩ ?_ rfl ?_
      fun hs => hs.keep (Finset.subset_insert _ _) hsame)
      (leaves_refresh_receipt env event.client now fun t => .pure (.refl env t)))
      fun _ h => h.effect
    · rw [← hclient, ← hrecipient, ← hamount, ← hexpires]
      exact .withdraw _ _ hw (env.pubkeyFromStr_toString _) (env.pubkeyFromStr_toString _)
    · simp [WalEntry.txSignature?]

/-- **A confirmed batch is a logged step.** -/
theorem confirmBatch_logged (s : AppState) (settlementIds : List String) (batchId : ℕ)
    (txSignature : String) :
    (confirmBatch env settlementIds batchId txSignature).Leaves s (Logged env s) := by
  refine .append_bind rfl (.skip env s) (.of_run rfl ?_)
  obtain ⟨hbalances, -, hexact, hnonce, hreceipt⟩ : _ ∧ _ ∧ _ ∧ _ ∧ _ := by
    simpa only [VaultState.outsideBatch, Prod.mk.injEq] using
      VaultState.outsideBatch_applyBatchConfirmation settlementIds batchId txSignature s.vault
  refine .commit_vault (.of_vault (.confirm settlementIds batchId txSignature) (fun client h => ?_)
    hexact hnonce.ge hreceipt (VaultState.ledger_applyBatchConfirmation ..) trivial
    (.of_none rfl rfl) (by rintro _ ⟨⟩)) (.confirm _ _ _) rfl
  rw [VaultState.Known, AppState.setWal_vault, hbalances]
  exact h

end Detector

end Subly402
