/-
# Opening and closing a vault

`initialize_vault`, `deposit` and the instructions of the governance key of
`programs/subly402_vault`: a vault is opened `Active`, and is paused, or is given up for
a successor with an exit deadline, and is retired in the end.
-/

import Subly402.Chain.Program

namespace Subly402
namespace Chain

open Lib

/-- `VaultConfig` with the fields that governance uses. -/
structure GovernedVault extends VaultConfig where
  governance : Pubkey
  auditorMasterPubkey : Bytes32
  successorVault : Pubkey
deriving DecidableEq

/-- `initialize_vault`, with the addresses of the vault and of its token account. -/
def initializeVault (governance vaultConfig usdcMint vaultTokenAccount vaultSignerPubkey : Pubkey)
    (auditorMasterPubkey : Bytes32) (tokens : Tokens) :
    Except VaultError (GovernedVault × Tokens) := do
  requireThat (tokens[vaultTokenAccount]? = none) .accountInUse
  return ({ key := vaultConfig, status := vaultStatusActive, vaultSignerPubkey, usdcMint
            vaultTokenAccount, exitDeadline := 0, auditorEpoch := 0, lifetimeDeposited := 0
            lifetimeWithdrawn := 0, lifetimeSettled := 0, governance, auditorMasterPubkey
            successorVault := .fill 0 },
    tokens.insert vaultTokenAccount ⟨usdcMint, vaultConfig, 0⟩)

/-! ### Paying in -/

/-- The accounts and the argument of a call of `deposit`.  The client has signed the
transaction. -/
structure DepositCall where
  client : Pubkey
  clientTokenAccount : Pubkey
  vaultTokenAccount : Pubkey
  amount : ℕ
deriving DecidableEq

/-- `deposit`. -/
def deposit (vault : VaultConfig) (call : DepositCall) (tokens : Tokens) :
    Except VaultError (VaultConfig × Tokens) := do
  requireThat (vault.status = vaultStatusActive) .vaultInactive
  let account ← okOrElse tokens[call.clientTokenAccount]? .constraint
  requireThat (account.mint = vault.usdcMint) .constraint
  requireThat (account.owner = call.client) .constraint
  requireThat (call.vaultTokenAccount = vault.vaultTokenAccount) .constraint
  requireThat (0 < call.amount) .invalidAmount
  let tokens ← tokens.transfer call.clientTokenAccount call.vaultTokenAccount call.amount
  requireThat (vault.lifetimeDeposited + call.amount < u64Bound) .arithmeticOverflow
  return ({ vault with lifetimeDeposited := vault.lifetimeDeposited + call.amount }, tokens)

/-- What a deposit that succeeds did. -/
theorem deposit_ok {vault vault' : VaultConfig} {call : DepositCall} {tokens tokens' : Tokens}
    (h : deposit vault call tokens = .ok (vault', tokens')) :
    vault.status = vaultStatusActive ∧
      (∃ account, tokens[call.clientTokenAccount]? = some account ∧ account.owner = call.client) ∧
      tokens.transfer call.clientTokenAccount vault.vaultTokenAccount call.amount = .ok tokens' ∧
      vault' = { vault with lifetimeDeposited := vault.lifetimeDeposited + call.amount } := by
  simp only [deposit, bind_eq_ok, requireThat_eq_ok, okOrElse_eq_ok] at h
  obtain ⟨_, hactive, account, haccount, _, -, _, howner, _, haddress, _, -, _, htransfer, _, -,
    hout⟩ := h
  cases hout
  rw [haddress] at htransfer
  exact ⟨hactive, ⟨account, haccount, howner⟩, htransfer, rfl⟩

/-! ### Governance -/

/-- `pause_vault`. -/
def pauseVault (vault : GovernedVault) (governance : Pubkey) : Except VaultError GovernedVault := do
  requireThat (vault.governance = governance) .constraint
  requireThat (vault.status = vaultStatusActive) .vaultAlreadyPaused
  return { vault with status := vaultStatusPaused }

/-- `announce_migration`. -/
def announceMigration (vault : GovernedVault) (governance successorVault : Pubkey)
    (exitDeadline clock : ℤ) : Except VaultError GovernedVault := do
  requireThat (vault.governance = governance) .constraint
  requireThat (vault.status = vaultStatusActive) .vaultInactive
  requireThat (clock < exitDeadline) .exitDeadlineExceeded
  return { vault with status := vaultStatusMigrating, successorVault, exitDeadline }

/-- `retire_vault`. -/
def retireVault (vault : GovernedVault) (governance : Pubkey) (clock : ℤ) :
    Except VaultError GovernedVault := do
  requireThat (vault.governance = governance) .constraint
  requireThat (vault.status = vaultStatusPaused ∨ vault.status = vaultStatusMigrating)
    .invalidStatusTransition
  requireThat (vault.status = vaultStatusMigrating → vault.exitDeadline ≤ clock)
    .exitDeadlineNotReached
  return { vault with status := vaultStatusRetired }

/-- `rotate_auditor`. -/
def rotateAuditor (vault : GovernedVault) (governance : Pubkey) (newAuditorMasterPubkey : Bytes32) :
    Except VaultError GovernedVault := do
  requireThat (vault.governance = governance) .constraint
  requireThat (vault.auditorEpoch + 1 < 2 ^ 32) .arithmeticOverflow
  return { vault with
    auditorMasterPubkey := newAuditorMasterPubkey
    auditorEpoch := vault.auditorEpoch + 1 }

section Governance

variable {vault vault' : GovernedVault} {governance successorVault : Pubkey}
  {exitDeadline clock : ℤ} {auditor : Bytes32}

/-- Only an active vault is paused. -/
theorem pauseVault_ok (h : pauseVault vault governance = .ok vault') :
    vault.status = vaultStatusActive ∧ vault' = { vault with status := vaultStatusPaused } := by
  simp only [pauseVault, bind_eq_ok, requireThat_eq_ok] at h
  obtain ⟨_, -, _, hactive, hout⟩ := h
  exact ⟨hactive, (Except.ok.inj hout).symm⟩

/-- A migration is announced from `Active`, with a later deadline. -/
theorem announceMigration_ok
    (h : announceMigration vault governance successorVault exitDeadline clock = .ok vault') :
    vault.status = vaultStatusActive ∧ clock < exitDeadline ∧
      vault' = { vault with status := vaultStatusMigrating, successorVault, exitDeadline } := by
  simp only [announceMigration, bind_eq_ok, requireThat_eq_ok] at h
  obtain ⟨_, -, _, hactive, _, hahead, hout⟩ := h
  exact ⟨hactive, hahead, (Except.ok.inj hout).symm⟩

/-- A vault retires when paused, or migrating past its deadline. -/
theorem retireVault_ok (h : retireVault vault governance clock = .ok vault') :
    (vault.status = vaultStatusPaused ∨
        vault.status = vaultStatusMigrating ∧ vault.exitDeadline ≤ clock) ∧
      vault' = { vault with status := vaultStatusRetired } := by
  simp only [retireVault, bind_eq_ok, requireThat_eq_ok] at h
  obtain ⟨_, -, _, hstatus, _, hreached, hout⟩ := h
  exact ⟨hstatus.imp_right fun hm => ⟨hm, hreached hm⟩, (Except.ok.inj hout).symm⟩

/-- A rotation sets the auditor and raises the epoch. -/
theorem rotateAuditor_ok (h : rotateAuditor vault governance auditor = .ok vault') :
    vault' = { vault with
      auditorMasterPubkey := auditor
      auditorEpoch := vault.auditorEpoch + 1 } := by
  simp only [rotateAuditor, bind_eq_ok, requireThat_eq_ok] at h
  obtain ⟨_, -, _, -, hout⟩ := h
  exact (Except.ok.inj hout).symm

end Governance

end Chain
end Subly402
