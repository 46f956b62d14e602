/-
# The ledger operations of the vault

`VaultState::apply_deposit` to `VaultState::rollback_settle_payment` of
`enclave/src/state.rs`, in the order of the source.  Each keeps the source's
order of reads, writes and error returns, since an operation that fails half way
leaves its first writes behind.
-/

import Subly402.Lib.Prog
import Subly402.Vault.State

namespace Subly402

open Lib
open Lib.Prog (okOr failIf)

variable {balance : ClientBalance} {amount withdrawNonce : ℕ} {client : Pubkey} {s : VaultState}
  {withdrawal : PendingWithdrawal}

/-- A ledger operation. -/
abbrev VaultM : Type → Type := Prog VaultState EnclaveError

/-! ### Nonces -/

/-- `next_receipt_nonce`, for fewer than `2^64` draws. -/
def nextReceiptNonce : VaultM ℕ := do
  let s ← get
  set (s.setReceiptNonce (s.receiptNonce + 1))
  return s.receiptNonce

/-- `next_withdraw_nonce`, for fewer than `2^64` draws. -/
def nextWithdrawNonce : VaultM ℕ := do
  let s ← get
  set (s.setWithdrawNonce (s.withdrawNonce + 1))
  return s.withdrawNonce

/-- The counter of receipts is read and advanced. -/
@[simp]
theorem run_nextReceiptNonce (s : VaultState) :
    nextReceiptNonce.run s = (.ok s.receiptNonce, s.setReceiptNonce (s.receiptNonce + 1)) := rfl

/-- The counter of withdrawals is read and advanced. -/
@[simp]
theorem run_nextWithdrawNonce (s : VaultState) :
    nextWithdrawNonce.run s = (.ok s.withdrawNonce, s.setWithdrawNonce (s.withdrawNonce + 1)) := rfl

/-! ### Moves within one balance record -/

namespace ClientBalance

/-- A deposit arrives. -/
@[simps]
def deposit (balance : ClientBalance) (amount : ℕ) : ClientBalance :=
  { balance with
    free := balance.free + amount
    totalDeposited := balance.totalDeposited + amount }

/-- An amount moves from `free` to `locked`. -/
@[simps]
def reserve (balance : ClientBalance) (amount : ℕ) : ClientBalance :=
  { balance with free := balance.free - amount, locked := balance.locked + amount }

/-- An amount moves from `locked` to `free`, with `saturating_sub`. -/
@[simps]
def release (balance : ClientBalance) (amount : ℕ) : ClientBalance :=
  { balance with locked := balance.locked - amount, free := balance.free + amount }

/-- An amount leaves `locked`, with `saturating_sub`. -/
@[simps]
def spend (balance : ClientBalance) (amount : ℕ) : ClientBalance :=
  { balance with locked := balance.locked - amount }

/-- An amount leaves `locked` for the chain. -/
@[simps]
def withdraw (balance : ClientBalance) (amount : ℕ) : ClientBalance :=
  { balance with
    locked := balance.locked - amount
    totalWithdrawn := balance.totalWithdrawn + amount }

/-- A channel's amount leaves `locked`, and the part of it that is still the client's goes back
to `free`. -/
@[simps]
def closeChannel (balance : ClientBalance) (total remainingFree : ℕ) : ClientBalance :=
  { balance with locked := balance.locked - total, free := balance.free + remainingFree }

/-- A release takes a reservation back. -/
theorem release_reserve (h : amount ≤ balance.free) :
    (balance.reserve amount).release amount = balance := by
  simp [reserve, release, Nat.sub_add_cancel h]

/-- A reservation takes a release back. -/
theorem reserve_release (h : amount ≤ balance.locked) :
    (balance.release amount).reserve amount = balance := by
  simp [reserve, release, Nat.sub_add_cancel h]

end ClientBalance

/-! ### Deposits -/

/-- `apply_deposit`. -/
def applyDeposit (client : Pubkey) (amount : ℕ) : VaultM Unit :=
  modify fun s => s.setBalance client ((s.balance client).deposit amount)

/-- `rollback_deposit`. -/
def rollbackDeposit (client : Pubkey) (amount : ℕ) : VaultM Unit := do
  let balance ← okOr (← get).clientBalances[client]? .clientNotFound
  modify (·.setBalance client
    { balance with
      free := balance.free - amount
      totalDeposited := balance.totalDeposited - amount })

/-- A deposit never fails, and makes a record where there is none. -/
@[simp]
theorem run_applyDeposit (client : Pubkey) (amount : ℕ) (s : VaultState) :
    (applyDeposit client amount).run s
      = (.ok (), s.setBalance client ((s.balance client).deposit amount)) := rfl

/-- A rolled back deposit leaves the client's record as it was, or an all-zero record where
there was none. -/
@[simp]
theorem run_rollbackDeposit (client : Pubkey) (amount : ℕ) (s : VaultState) :
    (rollbackDeposit client amount).run
        (s.setBalance client ((s.balance client).deposit amount))
      = (.ok (), s.setBalance client (s.balance client)) := by
  simp [rollbackDeposit, ClientBalance.deposit, VaultState.setBalance_setBalance]

/-! ### Reserving and releasing -/

/-- `reserve_balance`. -/
def reserveBalance (client : Pubkey) (amount : ℕ) : VaultM Unit := do
  let balance ← okOr (← get).clientBalances[client]? .insufficientBalance
  failIf (balance.free < amount) .insufficientBalance
  modify (·.setBalance client (balance.reserve amount))

/-- `release_balance`. -/
def releaseBalance (client : Pubkey) (amount : ℕ) : VaultM Unit := do
  let balance ← okOr (← get).clientBalances[client]? .clientNotFound
  modify (·.noteLockedSub balance.locked amount)
  modify (·.setBalance client (balance.release amount))

/-- Covered by the free balance, a reservation succeeds. -/
theorem run_reserveBalance (h : s.clientBalances[client]? = some balance)
    (hle : amount ≤ balance.free) :
    (reserveBalance client amount).run s
      = (.ok (), s.setBalance client (balance.reserve amount)) := by
  simp [reserveBalance, h, Nat.not_lt.2 hle]

/-- A refused reservation writes nothing. -/
theorem reserveBalance_clean (client : Pubkey) (amount : ℕ) (s : VaultState) :
    (reserveBalance client amount).Clean s fun _ s' =>
      ∃ balance, s.clientBalances[client]? = some balance ∧ amount ≤ balance.free ∧
        s' = s.setBalance client (balance.reserve amount) := by
  refine .get_bind <| .okOr_bind fun balance hb => .failIf_bind fun hlt => ?_
  exact .of_run rfl ⟨balance, hb, Nat.not_lt.1 hlt, rfl⟩

/-- A release succeeds for every client on record, saturating if it must. -/
theorem run_releaseBalance (h : s.clientBalances[client]? = some balance) :
    (releaseBalance client amount).run s
      = (.ok (), (s.noteLockedSub balance.locked amount).setBalance client
          (balance.release amount)) := by
  simp [releaseBalance, h]

/-- A release undoes the reservation before it. -/
theorem run_releaseBalance_reserved (h : s.clientBalances[client]? = some balance)
    (hle : amount ≤ balance.free) :
    (releaseBalance client amount).run (s.setBalance client (balance.reserve amount))
      = (.ok (), s) := by
  have hb : (s.setBalance client (balance.reserve amount)).clientBalances[client]?
      = some (balance.reserve amount) := by simp
  rw [run_releaseBalance hb, VaultState.noteLockedSub_of_le (by simp),
    ClientBalance.release_reserve hle, VaultState.setBalance_setBalance,
    VaultState.setBalance_self h]

/-- A reservation undoes the release before it. -/
theorem run_reserveBalance_released (h : s.clientBalances[client]? = some balance)
    (hle : amount ≤ balance.locked) :
    (reserveBalance client amount).run (s.setBalance client (balance.release amount))
      = (.ok (), s) := by
  have hb : (s.setBalance client (balance.release amount)).clientBalances[client]?
      = some (balance.release amount) := by simp
  rw [run_reserveBalance hb (by simp), ClientBalance.reserve_release hle,
    VaultState.setBalance_setBalance, VaultState.setBalance_self h]

/-! ### The latest lock expiry -/

/-- `Iterator::max` with `unwrap_or(0)`. -/
def maxOrZero (times : List ℤ) : ℤ := times.max?.getD 0

/-- The value `refresh_client_max_lock_expires_at` computes: the latest expiry among the
client's reserved payments, pending withdrawals and active channel requests. -/
def VaultState.latestLockExpiry (s : VaultState) (client : Pubkey) : ℤ :=
  let reservations := s.reservations.toList.filterMap fun e =>
    if e.2.client = client ∧ e.2.status = .reserved then some e.2.expiresAt else none
  let withdrawals := s.pendingWithdrawals.toList.filterMap fun e =>
    if e.2.client = client then some e.2.expiresAt else none
  let requests := s.activeChannels.toList.filterMap fun e =>
    if e.2.client = client then e.2.activeRequest.map (·.expiresAt) else none
  max (max (maxOrZero reservations) (maxOrZero withdrawals)) (maxOrZero requests)

/-- `refresh_client_max_lock_expires_at`. -/
def refreshClientMaxLockExpiresAt (client : Pubkey) : VaultM ℤ := do
  let maxLockExpiresAt := (← get).latestLockExpiry client
  let balance ← okOr (← get).clientBalances[client]? .clientNotFound
  modify (·.setBalance client { balance with maxLockExpiresAt })
  return maxLockExpiresAt

/-- The refresh stores the latest expiry among the client's locks. -/
theorem run_refreshClientMaxLockExpiresAt (h : s.clientBalances[client]? = some balance) :
    (refreshClientMaxLockExpiresAt client).run s
      = (.ok (s.latestLockExpiry client), s.setBalance client
          { balance with maxLockExpiresAt := s.latestLockExpiry client }) := by
  simp [refreshClientMaxLockExpiresAt, h]

/-- The refresh fails only for a client without a record. -/
theorem refreshClientMaxLockExpiresAt_clean (client : Pubkey) (s : VaultState) :
    (refreshClientMaxLockExpiresAt client).Clean s fun _ s' =>
      ∃ balance, s.clientBalances[client]? = some balance ∧
        s' = s.setBalance client
          { balance with maxLockExpiresAt := s.latestLockExpiry client } := by
  refine .get_bind <| .get_bind <| .okOr_bind fun balance hb => ?_
  exact .of_run rfl ⟨balance, hb, rfl⟩

/-! ### Withdrawals -/

/-- `authorize_withdrawal`. -/
def authorizeWithdrawal (withdrawal : PendingWithdrawal) : VaultM Unit := do
  let balance ← okOr (← get).clientBalances[withdrawal.client]? .clientNotFound
  failIf (balance.free < withdrawal.amount) .insufficientBalance
  modify (·.setBalance withdrawal.client (balance.reserve withdrawal.amount))
  modify (·.setPending withdrawal.withdrawNonce withdrawal)

/-- `expire_pending_withdrawal`.  The withdrawal is removed before the balance is looked up. -/
def expirePendingWithdrawal (withdrawNonce : ℕ) : VaultM PendingWithdrawal := do
  let withdrawal ← okOr (← get).pendingWithdrawals[withdrawNonce]? .reservationNotFound
  modify (·.dropPending withdrawNonce)
  let balance ← okOr (← get).clientBalances[withdrawal.client]? .clientNotFound
  modify (·.noteLockedSub balance.locked withdrawal.amount)
  modify (·.setBalance withdrawal.client (balance.release withdrawal.amount))
  return withdrawal

/-- `rollback_authorized_withdrawal`. -/
def rollbackAuthorizedWithdrawal (withdrawNonce : ℕ) : VaultM PendingWithdrawal :=
  expirePendingWithdrawal withdrawNonce

/-- `apply_withdrawal`.  The lower `locked` is written before `checked_add` can fail. -/
def applyWithdrawal (withdrawNonce : ℕ) : VaultM PendingWithdrawal := do
  let withdrawal ← okOr (← get).pendingWithdrawals[withdrawNonce]? .reservationNotFound
  modify (·.dropPending withdrawNonce)
  let balance ← okOr (← get).clientBalances[withdrawal.client]? .clientNotFound
  modify (·.noteLockedSub balance.locked withdrawal.amount)
  modify (·.setBalance withdrawal.client (balance.spend withdrawal.amount))
  failIf (u64Bound ≤ balance.totalWithdrawn + withdrawal.amount)
    (.internal "Withdrawal total overflow")
  modify (·.setBalance withdrawal.client (balance.withdraw withdrawal.amount))
  return withdrawal

/-- `rollback_applied_withdrawal`. -/
def rollbackAppliedWithdrawal (withdrawal : PendingWithdrawal) : VaultM Unit := do
  let balance ← okOr (← get).clientBalances[withdrawal.client]? .clientNotFound
  modify (·.setBalance withdrawal.client
    { balance with
      locked := balance.locked + withdrawal.amount
      totalWithdrawn := balance.totalWithdrawn - withdrawal.amount })
  modify (·.setPending withdrawal.withdrawNonce withdrawal)

/-- A refused withdrawal writes nothing; one that succeeds locks its amount. -/
theorem authorizeWithdrawal_clean (withdrawal : PendingWithdrawal) (s : VaultState) :
    (authorizeWithdrawal withdrawal).Clean s fun _ s' =>
      ∃ balance, s.clientBalances[withdrawal.client]? = some balance ∧
        withdrawal.amount ≤ balance.free ∧
        s' = (s.setBalance withdrawal.client (balance.reserve withdrawal.amount)).setPending
          withdrawal.withdrawNonce withdrawal := by
  refine .get_bind <| .okOr_bind fun balance hb => .failIf_bind fun hlt => ?_
  exact .of_run rfl ⟨balance, hb, Nat.not_lt.1 hlt, rfl⟩

/-- Covered by the free balance, a withdrawal is authorised. -/
theorem run_authorizeWithdrawal (hb : s.clientBalances[withdrawal.client]? = some balance)
    (hle : withdrawal.amount ≤ balance.free) :
    (authorizeWithdrawal withdrawal).run s
      = (.ok (), (s.setBalance withdrawal.client (balance.reserve withdrawal.amount)).setPending
          withdrawal.withdrawNonce withdrawal) := by
  simp [authorizeWithdrawal, hb, Nat.not_lt.2 hle]

/-- An expired withdrawal goes back to the free balance. -/
theorem run_expirePendingWithdrawal (hw : s.pendingWithdrawals[withdrawNonce]? = some withdrawal)
    (hb : s.clientBalances[withdrawal.client]? = some balance) :
    (expirePendingWithdrawal withdrawNonce).run s
      = (.ok withdrawal,
          ((s.dropPending withdrawNonce).noteLockedSub balance.locked withdrawal.amount).setBalance
            withdrawal.client (balance.release withdrawal.amount)) := by
  simp [expirePendingWithdrawal, hw, hb]

/-- A rolled back authorisation leaves nothing behind, its nonce having been free. -/
theorem run_rollbackAuthorizedWithdrawal (hb : s.clientBalances[withdrawal.client]? = some balance)
    (hle : withdrawal.amount ≤ balance.free)
    (hfree : s.pendingWithdrawals[withdrawal.withdrawNonce]? = none) :
    (rollbackAuthorizedWithdrawal withdrawal.withdrawNonce).run
        ((s.setBalance withdrawal.client (balance.reserve withdrawal.amount)).setPending
          withdrawal.withdrawNonce withdrawal)
      = (.ok withdrawal, s) := by
  refine Prod.ext (by simp [rollbackAuthorizedWithdrawal, expirePendingWithdrawal]) ?_
  ext1 <;> simp [rollbackAuthorizedWithdrawal, expirePendingWithdrawal,
    ClientBalance.release_reserve hle, FiniteMap.insert_lookup hb, FiniteMap.erase_absent hfree]

/-- A withdrawal seen on chain leaves the locked balance. -/
theorem run_applyWithdrawal (hw : s.pendingWithdrawals[withdrawNonce]? = some withdrawal)
    (hb : s.clientBalances[withdrawal.client]? = some balance)
    (hlt : balance.totalWithdrawn + withdrawal.amount < u64Bound) :
    (applyWithdrawal withdrawNonce).run s
      = (.ok withdrawal,
          ((s.dropPending withdrawNonce).noteLockedSub balance.locked withdrawal.amount).setBalance
            withdrawal.client (balance.withdraw withdrawal.amount)) := by
  simp [applyWithdrawal, hw, hb, Nat.not_le.2 hlt, VaultState.setBalance_setBalance]

/-- A withdrawal that is not pending is refused. -/
theorem run_applyWithdrawal_absent (hw : s.pendingWithdrawals[withdrawNonce]? = none) :
    (applyWithdrawal withdrawNonce).run s = (.error .reservationNotFound, s) := by
  simp [applyWithdrawal, hw]

/-- A rolled back application puts the withdrawal back under its own nonce. -/
theorem run_rollbackAppliedWithdrawal
    (hw : s.pendingWithdrawals[withdrawal.withdrawNonce]? = some withdrawal)
    (hb : s.clientBalances[withdrawal.client]? = some balance)
    (hle : withdrawal.amount ≤ balance.locked) :
    (rollbackAppliedWithdrawal withdrawal).run
        (((s.dropPending withdrawal.withdrawNonce).noteLockedSub balance.locked
          withdrawal.amount).setBalance withdrawal.client (balance.withdraw withdrawal.amount))
      = (.ok (), s) := by
  refine Prod.ext (by simp [rollbackAppliedWithdrawal]) ?_
  ext1 <;> simp [rollbackAppliedWithdrawal, ClientBalance.withdraw, Nat.sub_add_cancel hle,
    FiniteMap.insert_lookup hw, FiniteMap.insert_lookup hb, hle]

/-! ### Settlements -/

/-- Add a settlement to a provider's credit, opening the credit at `now` where there is
none. -/
def creditProvider (providerId : String) (settlementTokenAccount : Pubkey) (amount : ℕ)
    (settlementId : String) (now : ℤ) (credit : Option ProviderCredit) : ProviderCredit :=
  match credit with
  | some credit =>
    { credit with
      creditedAmount := credit.creditedAmount + amount
      settlementIds := credit.settlementIds ++ [settlementId] }
  | none =>
    { providerId, settlementTokenAccount, creditedAmount := amount, oldestCreditAt := now,
      settlementIds := [settlementId] }

/-- Credit a settlement to a registered provider. -/
def VaultState.credit (s : VaultState) (provider : ProviderRegistration) (providerId : String)
    (amount : ℕ) (settlementId : String) (now : ℤ) : VaultState :=
  s.setCredit providerId
    (creditProvider providerId provider.settlementTokenAccount amount settlementId now
      s.providerCredits[providerId]?)

/-- `settle_payment`.  The client's `locked` goes down before the provider is looked up. -/
def settlePayment (client : Pubkey) (amount : ℕ) (providerId settlementId : String) (now : ℤ) :
    VaultM Unit := do
  let balance ← okOr (← get).clientBalances[client]? .clientNotFound
  modify (·.noteLockedSub balance.locked amount)
  modify (·.setBalance client (balance.spend amount))
  let provider ← okOr (← get).providers[providerId]? .providerNotFound
  modify (·.credit provider providerId amount settlementId now)

/-- Whether a credit has nothing left to pay, `credited_amount == 0 || settlement_ids.is_empty()`. -/
def ProviderCredit.isSpent (credit : ProviderCredit) : Bool :=
  credit.creditedAmount == 0 || credit.settlementIds.isEmpty

/-- Take a settlement of `amount` back out of a credit. -/
@[simps]
def ProviderCredit.without (credit : ProviderCredit) (settlementId : String) (amount : ℕ) :
    ProviderCredit :=
  { credit with
    creditedAmount := credit.creditedAmount - amount
    settlementIds := credit.settlementIds.filter (· ≠ settlementId) }

/-- `rollback_settle_payment`. -/
def rollbackSettlePayment (client : Pubkey) (amount : ℕ) (providerId settlementId : String) :
    VaultM Unit := do
  let balance ← okOr (← get).clientBalances[client]? .clientNotFound
  modify (·.setBalance client { balance with locked := balance.locked + amount })
  let credit ← okOr (← get).providerCredits[providerId]? .providerNotFound
  let credit := credit.without settlementId amount
  modify (·.setCredit providerId credit)
  if credit.isSpent then modify (·.dropCredit providerId)

/-- A settlement moves the amount from the client to the provider's credit. -/
theorem run_settlePayment {providerId settlementId : String} {now : ℤ}
    {provider : ProviderRegistration} (hb : s.clientBalances[client]? = some balance)
    (hp : s.providers[providerId]? = some provider) :
    (settlePayment client amount providerId settlementId now).run s
      = (.ok (), ((s.noteLockedSub balance.locked amount).setBalance client
          (balance.spend amount)).credit provider providerId amount settlementId now) := by
  simp [settlePayment, hb, hp]

/-- The rollback pays the client back out of the credit. -/
theorem run_rollbackSettlePayment {providerId settlementId : String} {credit : ProviderCredit}
    (hb : s.clientBalances[client]? = some balance)
    (hc : s.providerCredits[providerId]? = some credit) :
    (rollbackSettlePayment client amount providerId settlementId).run s
      = (.ok (),
          let s := s.setBalance client { balance with locked := balance.locked + amount }
          if (credit.without settlementId amount).isSpent then s.dropCredit providerId
          else s.setCredit providerId (credit.without settlementId amount)) := by
  by_cases hspent : (credit.without settlementId amount).isSpent
  · refine Prod.ext (by simp [rollbackSettlePayment, hb, hc, hspent]) ?_
    ext1 <;> simp [rollbackSettlePayment, hb, hc, hspent]
  · simp [rollbackSettlePayment, hb, hc, hspent]

end Subly402
