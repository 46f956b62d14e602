/-
# Leaving with an authorisation

`withdraw` of `programs/subly402_vault`: a client spends a withdrawal authorisation
that the enclave signed, before it expires.  The account that records the nonce is
created by the instruction, so a nonce pays once.
-/

import Subly402.Chain.Program

namespace Subly402
namespace Chain

open Lib

/-- `build_withdraw_authorization_message` of the enclave, and what `withdraw` expects. -/
def withdrawMessage (client recipientAta : Pubkey) (amount withdrawNonce : ℕ) (expiresAt : ℤ)
    (vaultConfig : Pubkey) : List UInt8 :=
  client.bytes ++ (recipientAta.bytes ++ (leBytes 8 amount ++ (leBytes 8 withdrawNonce ++
    (leBytes 8 (i64Bits expiresAt) ++ vaultConfig.bytes))))

/-- The amounts of an authorisation are what its integers can hold. -/
structure TermsFit (amount withdrawNonce : ℕ) (expiresAt : ℤ) : Prop where
  amount : amount < 2 ^ 64
  withdrawNonce : withdrawNonce < 2 ^ 64
  expiresAt : -2 ^ 63 ≤ expiresAt ∧ expiresAt < 2 ^ 63

instance (amount withdrawNonce : ℕ) (expiresAt : ℤ) :
    Decidable (TermsFit amount withdrawNonce expiresAt) :=
  decidable_of_iff (amount < 2 ^ 64 ∧ withdrawNonce < 2 ^ 64 ∧ -2 ^ 63 ≤ expiresAt ∧
    expiresAt < 2 ^ 63) ⟨fun ⟨h, h', h''⟩ => ⟨h, h', h''⟩, fun ⟨h, h', h''⟩ => ⟨h, h', h''⟩⟩

theorem length_withdrawMessage (client recipientAta : Pubkey) (amount withdrawNonce : ℕ)
    (expiresAt : ℤ) (vaultConfig : Pubkey) :
    (withdrawMessage client recipientAta amount withdrawNonce expiresAt vaultConfig).length
      = 120 := by
  simp [withdrawMessage, client.length_eq, recipientAta.length_eq, vaultConfig.length_eq]

/-- **The message fixes the terms.** -/
theorem withdrawMessage_injective {client client' ata ata' : Pubkey} {amount amount' n n' : ℕ}
    {expiresAt expiresAt' : ℤ} {key key' : Pubkey} (hfit : TermsFit amount n expiresAt)
    (hfit' : TermsFit amount' n' expiresAt')
    (h : withdrawMessage client ata amount n expiresAt key
      = withdrawMessage client' ata' amount' n' expiresAt' key') :
    client = client' ∧ ata = ata' ∧ amount = amount' ∧ n = n' ∧ expiresAt = expiresAt' := by
  have hbytes {a b : ℕ} : (leBytes 8 a).length = (leBytes 8 b).length := by simp
  have hkeys {a b : Pubkey} : a.bytes.length = b.bytes.length := a.length_eq.trans b.length_eq.symm
  obtain ⟨hclient, h⟩ := List.append_inj h hkeys
  obtain ⟨hata, h⟩ := List.append_inj h hkeys
  obtain ⟨hamount, h⟩ := List.append_inj h hbytes
  obtain ⟨hnonce, h⟩ := List.append_inj h hbytes
  obtain ⟨hexpires, -⟩ := List.append_inj h hbytes
  refine ⟨Bytes32.bytes_injective hclient, Bytes32.bytes_injective hata, ?_, ?_, ?_⟩
  · rw [← leNat_leBytes_eight hfit.amount, hamount, leNat_leBytes_eight hfit'.amount]
  · rw [← leNat_leBytes_eight hfit.withdrawNonce, hnonce, leNat_leBytes_eight hfit'.withdrawNonce]
  · have hbits : i64Bits expiresAt = i64Bits expiresAt' := by
      rw [← leNat_leBytes_eight (i64Bits_lt expiresAt), hexpires,
        leNat_leBytes_eight (i64Bits_lt expiresAt')]
    rw [← i64OfBits_i64Bits hfit.expiresAt.1 hfit.expiresAt.2, hbits,
      i64OfBits_i64Bits hfit'.expiresAt.1 hfit'.expiresAt.2]

/-- The accounts and arguments of a call of `withdraw`.  The client has signed the transaction. -/
structure WithdrawCall where
  client : Pubkey
  clientTokenAccount : Pubkey
  vaultTokenAccount : Pubkey
  amount : ℕ
  withdrawNonce : ℕ
  expiresAt : ℤ
  fits : TermsFit amount withdrawNonce expiresAt

/-- `withdraw`, where the nonce accounts with the seeds `used` exist: the vault and the tokens
after it. -/
def withdraw (vault : VaultConfig) (check : Option Ed25519Check) (call : WithdrawCall) (clock : ℤ)
    (tokens : Tokens) (used : List (Pubkey × ℕ)) : Except VaultError (VaultConfig × Tokens) := do
  requireThat (vault.status = vaultStatusActive ∨ vault.status = vaultStatusMigrating) .vaultInactive
  requireThat (call.vaultTokenAccount = vault.vaultTokenAccount) .constraint
  let account ← okOrElse tokens[call.clientTokenAccount]? .constraint
  requireThat (account.mint = vault.usdcMint) .constraint
  requireThat (account.owner = call.client) .constraint
  requireThat ((call.client, call.withdrawNonce) ∉ used) .accountInUse
  requireThat (0 < call.amount) .invalidAmount
  requireThat (vault.status = vaultStatusMigrating → clock ≤ vault.exitDeadline)
    .exitDeadlineExceeded
  requireThat (clock ≤ call.expiresAt) .withdrawExpired
  let verified ← verifyEd25519SignatureDetails check vault.vaultSignerPubkey
  requireThat (verified.message = withdrawMessage call.client call.clientTokenAccount call.amount
    call.withdrawNonce call.expiresAt vault.key) .invalidParticipantReceipt
  let tokens ← tokens.transfer call.vaultTokenAccount call.clientTokenAccount call.amount
  requireThat (vault.lifetimeWithdrawn + call.amount < u64Bound) .arithmeticOverflow
  return ({ vault with lifetimeWithdrawn := vault.lifetimeWithdrawn + call.amount }, tokens)

/-- What a withdrawal that succeeds has shown. -/
theorem withdraw_ok {vault vault' : VaultConfig} {check : Option Ed25519Check} {call : WithdrawCall}
    {clock : ℤ} {tokens tokens' : Tokens} {used : List (Pubkey × ℕ)}
    (h : withdraw vault check call clock tokens used = .ok (vault', tokens')) :
    clock ≤ call.expiresAt ∧ vault'.key = vault.key ∧
      vault'.vaultSignerPubkey = vault.vaultSignerPubkey ∧
      ∃ verified, check = some verified ∧ verified.publicKey = vault.vaultSignerPubkey ∧
        verified.message = withdrawMessage call.client call.clientTokenAccount call.amount
          call.withdrawNonce call.expiresAt vault.key := by
  simp only [withdraw, verifyEd25519SignatureDetails, bind_eq_ok, requireThat_eq_ok,
    okOrElse_eq_ok] at h
  obtain ⟨_, -, _, -, _, -, _, -, _, -, _, -, _, -, _, -, _, htime, verified, ⟨check, hcheck, _, hkey,
    hverified⟩, _, hmessage, _, -, _, -, hout⟩ := h
  cases hverified
  cases hout
  exact ⟨htime, rfl, rfl, verified, hcheck, hkey, hmessage⟩

/-- What a withdrawal that succeeds did. -/
theorem withdraw_paid {vault vault' : VaultConfig} {check : Option Ed25519Check}
    {call : WithdrawCall} {clock : ℤ} {tokens tokens' : Tokens} {used : List (Pubkey × ℕ)}
    (h : withdraw vault check call clock tokens used = .ok (vault', tokens')) :
    (∃ account, tokens[call.clientTokenAccount]? = some account ∧ account.owner = call.client) ∧
      (call.client, call.withdrawNonce) ∉ used ∧
      tokens.transfer vault.vaultTokenAccount call.clientTokenAccount call.amount = .ok tokens' ∧
      vault' = { vault with lifetimeWithdrawn := vault.lifetimeWithdrawn + call.amount } := by
  simp only [withdraw, bind_eq_ok, requireThat_eq_ok, okOrElse_eq_ok] at h
  obtain ⟨_, -, _, haddress, account, haccount, _, -, _, howner, _, hunused, _, -, _, -, _, -, _, -,
    _, -, _, htransfer, _, -, hout⟩ := h
  cases hout
  rw [haddress] at htransfer
  exact ⟨⟨account, haccount, howner⟩, hunused, htransfer, rfl⟩

/-- **While the exit window is open the outcome is that of an active vault.** -/
theorem withdraw_of_migrating {vault : VaultConfig} {clock : ℤ}
    (hstatus : vault.status = vaultStatusMigrating) (hopen : clock ≤ vault.exitDeadline)
    (check : Option Ed25519Check) (call : WithdrawCall) (tokens : Tokens)
    (used : List (Pubkey × ℕ)) :
    withdraw vault check call clock tokens used
      = (fun out => ({ out.1 with status := vault.status }, out.2)) <$>
        withdraw { vault with status := vaultStatusActive } check call clock tokens used := by
  have hmigrating : requireThat (vault.status = vaultStatusActive ∨
      vault.status = vaultStatusMigrating) .vaultInactive = .ok () := if_pos (.inr hstatus)
  have hdeadline (status : ℕ) : requireThat (status = vaultStatusMigrating →
      clock ≤ vault.exitDeadline) .exitDeadlineExceeded = .ok () := if_pos fun _ => hopen
  simp only [withdraw, map_bind, hmigrating, hdeadline, ok_bind]
  rfl

end Chain
end Subly402
