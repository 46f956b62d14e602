/-
# What operations on money leave alone

Most operations of the vault move money: they write balances, pending withdrawals and
channels, and nothing else.  An observation of the vault that does not look at these is the
same before and after, whether the operation succeeds or fails half way.  Each operation of
`Subly402.Vault.Ops` and `Subly402.Asc.Manager` is followed once for all such observations.
-/

import Subly402.Asc.Manager

namespace Subly402

open Lib
open Lib.Prog (Same)

/-- The observation looks neither at balances nor at pending withdrawals nor at channels. -/
structure IgnoresMoney {γ : Type} (f : VaultState → γ) : Prop where
  setBalance : ∀ v client balance, f (v.setBalance client balance) = f v
  noteLockedSub : ∀ v locked amount, f (v.noteLockedSub locked amount) = f v
  setPending : ∀ v nonce withdrawal, f (v.setPending nonce withdrawal) = f v
  dropPending : ∀ v nonce, f (v.dropPending nonce) = f v
  setChannel : ∀ v channelId channel, f (v.setChannel channelId channel) = f v
  dropChannel : ∀ v channelId, f (v.dropChannel channelId) = f v

/-- The operation keeps what is observed. -/
abbrev KeepsView {α γ : Type} (f : VaultState → γ) (p : VaultM α) : Prop := p.Along (Same f)

section Money

variable {γ : Type} {f : VaultState → γ} (hf : IgnoresMoney f)

include hf

/-! ### Balances and withdrawals -/

/-- A deposit writes one balance. -/
theorem applyDeposit_keeps (client : Pubkey) (amount : ℕ) :
    KeepsView f (applyDeposit client amount) :=
  .modify fun v => hf.setBalance v _ _

/-- Taking back a deposit writes one balance. -/
theorem rollbackDeposit_keeps (client : Pubkey) (amount : ℕ) :
    KeepsView f (rollbackDeposit client amount) :=
  .get_bind fun _ => .okOr_bind fun _ _ => .modify fun v => hf.setBalance v _ _

/-- Reserving writes one balance. -/
theorem reserveBalance_keeps (client : Pubkey) (amount : ℕ) :
    KeepsView f (reserveBalance client amount) :=
  .get_bind fun _ => .okOr_bind fun _ _ => .failIf_bind fun _ => .modify fun v =>
    hf.setBalance v _ _

/-- Releasing writes one balance. -/
theorem releaseBalance_keeps (client : Pubkey) (amount : ℕ) :
    KeepsView f (releaseBalance client amount) :=
  .get_bind fun _ => .okOr_bind fun _ _ => .bind (.modify fun v =>
    hf.noteLockedSub v _ _) fun _ => .modify fun v => hf.setBalance v _ _

/-- The lock expiry is part of the balance. -/
theorem refreshClientMaxLockExpiresAt_keeps (client : Pubkey) :
    KeepsView f (refreshClientMaxLockExpiresAt client) :=
  .get_bind fun _ => .get_bind fun _ => .okOr_bind fun _ _ => .bind (.modify fun v =>
    hf.setBalance v _ _)
    fun _ => .pure _

/-- An authorisation writes a balance and a pending withdrawal. -/
theorem authorizeWithdrawal_keeps (withdrawal : PendingWithdrawal) :
    KeepsView f (authorizeWithdrawal withdrawal) :=
  .get_bind fun _ => .okOr_bind fun _ _ => .failIf_bind fun _ => .bind (.modify fun v =>
    hf.setBalance v _ _)
    fun _ => .modify fun v => hf.setPending v _ _

/-- The withdrawal is no longer pending even where its client has no record. -/
theorem expirePendingWithdrawal_keeps (withdrawNonce : ℕ) :
    KeepsView f (expirePendingWithdrawal withdrawNonce) :=
  .get_bind fun _ => .okOr_bind fun _ _ => .bind (.modify fun v => hf.dropPending v _) fun _ =>
    .get_bind fun _ =>
    .okOr_bind fun _ _ => .bind (.modify fun v => hf.noteLockedSub v _ _) fun _ =>
      .bind (.modify fun v => hf.setBalance v _ _)
      fun _ => .pure _

/-- The withdrawal is no longer pending even where the total overflows. -/
theorem applyWithdrawal_keeps (withdrawNonce : ℕ) :
    KeepsView f (applyWithdrawal withdrawNonce) :=
  .get_bind fun _ => .okOr_bind fun _ _ => .bind (.modify fun v => hf.dropPending v _) fun _ =>
    .get_bind fun _ =>
    .okOr_bind fun _ _ => .bind (.modify fun v => hf.noteLockedSub v _ _) fun _ =>
      .bind (.modify fun v => hf.setBalance v _ _)
      fun _ => .failIf_bind fun _ => .bind (.modify fun v => hf.setBalance v _ _) fun _ => .pure _

/-- The withdrawal is pending again, and the balance as before. -/
theorem rollbackAppliedWithdrawal_keeps (withdrawal : PendingWithdrawal) :
    KeepsView f (rollbackAppliedWithdrawal withdrawal) :=
  .get_bind fun _ => .okOr_bind fun _ _ => .bind (.modify fun v => hf.setBalance v _ _) fun _ =>
    .modify fun v => hf.setPending v _ _

/-! ### Channels -/

/-- Opening reserves the deposit and writes the channel. -/
theorem openChannelWithId_keeps (channelId : String) (client : Pubkey) (providerId : String)
    (initialDeposit : ℕ) (now : ℤ) :
    KeepsView f (openChannelWithId channelId client providerId initialDeposit now) :=
  .get_bind fun _ => .okOr_bind fun _ _ => .get_bind fun _ => .okOr_bind fun _ _ =>
    .failIf_bind fun _ => .bind (reserveBalance_keeps hf _ _) fun _ => .modify fun v =>
      hf.setChannel v _ _

/-- The channel goes, and its deposit is released. -/
theorem rollbackOpenChannel_keeps (channelId : String) :
    KeepsView f (rollbackOpenChannel channelId) :=
  .get_bind fun _ => .okOr_bind fun _ _ => .bind (.modify fun v => hf.dropChannel v _) fun _ =>
    .ite (fun _ => releaseBalance_keeps hf _ _) fun _ => .pure _

/-- A request is a write to its channel. -/
theorem submitRequest_keeps (channelId requestId : String) (amount : ℕ) (requestHash : Bytes32)
    (now : ℤ) : KeepsView f (submitRequest channelId requestId amount requestHash now) :=
  .get_bind fun _ => .okOr_bind fun _ _ => .failIf_bind fun _ => .failIf_bind fun _ =>
    .failIf_bind fun _ => .modify fun v => hf.setChannel v _ _

/-- So is taking it back. -/
theorem rollbackSubmitRequest_keeps (channelId requestId : String) (now : ℤ) :
    KeepsView f (rollbackSubmitRequest channelId requestId now) :=
  .get_bind fun _ => .okOr_bind fun _ _ => .okOr_bind fun _ _ => .failIf_bind fun _ =>
    .modify fun v => hf.setChannel v _ _

/-- A delivery is a write to its channel. -/
theorem deliverAdaptor_keeps (curve : Curve) (channelId : String) (delivery : AdaptorDelivery)
    (now : ℤ) : KeepsView f (deliverAdaptor curve channelId delivery now) :=
  .get_bind fun _ => .okOr_bind fun _ _ => .failIf_bind fun _ => .okOr_bind fun _ _ =>
    .failIf_bind fun _ => .okOr_bind fun _ _ => .failIf_bind fun _ => .modify fun v =>
      hf.setChannel v _ _

/-- So is taking it back. -/
theorem rollbackDeliverAdaptor_keeps (channelId requestId : String) (now : ℤ) :
    KeepsView f (rollbackDeliverAdaptor channelId requestId now) :=
  .get_bind fun _ => .okOr_bind fun _ _ => .failIf_bind fun _ => .okOr_bind fun _ _ =>
    .failIf_bind fun _ => .modify fun v => hf.setChannel v _ _

/-- A finalized request is paid within its channel. -/
theorem finalizeWithSecret_keeps (curve : Curve) (channelId : String)
    (adaptorSecret : curve.Scalar) (secretBytes : Bytes32) (now : ℤ) :
    KeepsView f (finalizeWithSecret curve channelId adaptorSecret secretBytes now) :=
  .get_bind fun _ => .okOr_bind fun _ _ => .failIf_bind fun _ => .okOr_bind fun _ _ =>
    .okOr_bind fun _ _ => .okOr_bind fun _ _ => .okOr_bind fun _ _ => .okOr_bind fun _ _ =>
      .failIf_bind fun _ => .okOr_bind fun _ _ => .failIf_bind fun _ => .okOr_bind fun _ _ =>
        .failIf_bind fun _ => .bind (.modify fun v => hf.setChannel v _ _) fun _ => .pure _

/-- A secret brought by the client. -/
theorem finalizeOffchain_keeps (curve : Curve) (channelId : String) (secret : Bytes32)
    (now : ℤ) : KeepsView f (finalizeOffchain curve channelId secret now) :=
  .okOr_bind fun _ _ => finalizeWithSecret_keeps hf _ _ _ _ _

/-- A secret found in a claim on chain. -/
theorem finalizeOnchainClaim_keeps (curve : Curve) (channelId : String)
    (fullSig : AdaptedSignature) (now : ℤ) :
    KeepsView f (finalizeOnchainClaim curve channelId fullSig now) :=
  .get_bind fun _ => .okOr_bind fun _ _ => .failIf_bind fun _ => .okOr_bind fun _ _ =>
    .okOr_bind fun _ _ => .okOr_bind fun _ _ => .okOr_bind fun _ _ => .okOr_bind fun _ _ =>
      .okOr_bind fun _ _ => .okOr_bind fun _ _ => .failIf_bind fun _ => .failIf_bind fun _ =>
        finalizeWithSecret_keeps hf _ _ _ _ _

/-- The payment is taken back within the channel. -/
theorem rollbackFinalizeOffchain_keeps (channelId : String) (request : ChannelRequest)
    (now : ℤ) : KeepsView f (rollbackFinalizeOffchain channelId request now) :=
  .get_bind fun _ => .okOr_bind fun _ _ => .failIf_bind fun _ => .modify fun v =>
    hf.setChannel v _ _

/-- A finalization found in the log. -/
theorem finalizeReplayedRequest_keeps (channelId requestId : String) (amountPaid : ℕ) (now : ℤ) :
    KeepsView f (finalizeReplayedRequest channelId requestId amountPaid now) :=
  .get_bind fun _ => .okOr_bind fun _ _ => .failIf_bind fun _ => .okOr_bind fun _ _ =>
    .failIf_bind fun _ => .failIf_bind fun _ => .modify fun v => hf.setChannel v _ _

/-- An expired request is refunded within its channel. -/
theorem expireRequest_keeps (channelId : String) (now : ℤ) :
    KeepsView f (expireRequest channelId now) :=
  .get_bind fun _ => .okOr_bind fun channel _ => by
    split
    · exact .ite (fun _ => .bind (.modify fun v => hf.setChannel v _ _) fun _ =>
      .pure _) fun _ => .pure _
    · exact .pure _

/-- The refund is taken back within the channel. -/
theorem rollbackExpireRequest_keeps (outcome : ExpiredRequestOutcome) (now : ℤ) :
    KeepsView f (rollbackExpireRequest outcome now) :=
  .get_bind fun _ => .okOr_bind fun _ _ => .failIf_bind fun _ => .modify fun v =>
    hf.setChannel v _ _

/-- An expiry found in the log. -/
theorem expireReplayedRequest_keeps (channelId requestId : String) (amount : ℕ) (now : ℤ) :
    KeepsView f (expireReplayedRequest channelId requestId amount now) :=
  .get_bind fun _ => .okOr_bind fun _ _ => .failIf_bind fun _ => .okOr_bind fun _ _ =>
    .failIf_bind fun _ => .failIf_bind fun _ => .modify fun v => hf.setChannel v _ _

end Money

end Subly402
