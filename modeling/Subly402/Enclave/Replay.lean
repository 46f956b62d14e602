/-
# Replaying the log

`replay_app_state_from` and `replay_entry` of `enclave/src/wal.rs`: an interpreter
that rebuilds the vault from the durable records, by the same ledger operations as
the handlers where it can and by the replayed variants of `asc_manager.rs` where the
live operation needs what the log does not have.
-/

import Subly402.Enclave.App
import Subly402.Enclave.Decode
import Subly402.Vault.Confirm
import Subly402.Asc.Manager

namespace Subly402

open Lib
open Lib.Prog (okOr failIf orReturn)

/-- The texts of `error.rs`. -/
def EnclaveError.display : EnclaveError → String
  | .insufficientBalance => "Insufficient client balance"
  | .clientNotFound => "Client not found"
  | .providerNotFound => "Provider not found"
  | .providerAuthFailed => "Provider authentication failed"
  | .unsupportedProviderAuthMode => "Provider registration has an unsupported auth mode"
  | .invalidProviderAuthConfig => "Provider registration auth material is invalid"
  | .mtlsNotEnabled => "mTLS listener is not enabled on this facilitator"
  | .invalidScheme => "Invalid payment scheme"
  | .paymentDetailsRequired => "paymentDetails is required"
  | .invalidPaymentDetails => "paymentDetails is invalid"
  | .verifyWindowSecRequired => "paymentDetails.verifyWindowSec is required"
  | .invalidVerifyWindowSec => "paymentDetails.verifyWindowSec must be a positive integer"
  | .invalidClientSignature => "Invalid client signature"
  | .clientAuthExpired => "Client request authorization expired"
  | .invalidClientAuthWindow => "Client request authorization window is invalid"
  | .paymentExpired => "Payment expired"
  | .paymentIdReused => "Payment ID already used with different request"
  | .reservationNotFound => "Reservation not found"
  | .reservationExpired => "Reservation expired"
  | .invalidReservationStatus status => "Invalid reservation status: " ++ status
  | .vaultNotActive => "Vault not active"
  | .vaultPaused => "Vault is paused"
  | .vaultMigrating => "Vault is migrating"
  | .vaultRetired => "Vault is retired"
  | .vaultStatusUnavailable => "Vault status is unavailable"
  | .depositSyncInProgress => "Deposit synchronization in progress"
  | .requestHashMismatch => "Request hash mismatch"
  | .paymentDetailsHashMismatch => "Payment details hash mismatch"
  | .providerIdMismatch => "Provider ID mismatch"
  | .providerAlreadyRegistered => "Provider already registered"
  | .channelNotFound => "Channel not found"
  | .invalidChannelStatus message => "Invalid channel status: " ++ message
  | .channelRequestExpired => "Channel request expired"
  | .channelRequestIdReused => "Channel request ID already used"
  | .invalidAdaptorSignature => "Invalid adaptor pre-signature"
  | .receiptWatchtowerUnavailable => "Receipt watchtower is unavailable"
  | .invalidProviderParticipant => "Provider participant pubkey is invalid"
  | .providerParticipantRequired => "Provider participant pubkey is required for ASC"
  | .providerParticipantAttestationRequired =>
    "Provider participant attestation is required for ASC registration"
  | .providerParticipantMismatch => "Provider participant pubkey does not match ASC deliver request"
  | .invalidProviderParticipantAttestation message =>
    "Provider participant attestation is invalid: " ++ message
  | .payToMismatch => "payTo does not match provider registration"
  | .assetMintMismatch => "assetMint does not match provider registration"
  | .networkMismatch => "network does not match provider registration"
  | .originNotAllowed => "Request origin not in provider allowed origins"
  | .internal message => "Internal error: " ++ message

/-- `wal_replay_error`. -/
def walReplayError (error : EnclaveError) : String := "WAL replay failed: " ++ error.display

/-- A step of the replay. -/
abbrev ReplayM : Type → Type := Prog AppState String

/-- A ledger operation during replay. -/
def replaying {α : Type} (p : VaultM α) : ReplayM α := (onVault p).mapError walReplayError

namespace Replay

/-- The `{:?}` text of a pending withdrawal. -/
def debugWithdrawal (env : Env) (w : PendingWithdrawal) : String :=
  "PendingWithdrawal \x7b client: " ++ env.pubkeyToString w.client ++ ", recipient_ata: "
    ++ env.pubkeyToString w.recipientAta ++ ", amount: " ++ toString w.amount
    ++ ", withdraw_nonce: " ++ toString w.withdrawNonce ++ ", issued_at: " ++ toString w.issuedAt
    ++ ", expires_at: " ++ toString w.expiresAt ++ " \x7d"

/-- Remember a transaction and how far the chain was. -/
def markReplayed (txSignature : String) (slot : ℕ) : ReplayM Unit :=
  modify fun s => (s.markProcessed txSignature).setVault
    (s.vault.setLastFinalizedSlot (max s.vault.lastFinalizedSlot slot))

/-- Raise the counter of withdrawal nonces past one that was used. -/
def raiseWithdrawNonce (withdrawNonce : ℕ) : ReplayM Unit :=
  modify fun s => s.setVault
    (s.vault.setWithdrawNonce (max s.vault.withdrawNonce (withdrawNonce + 1)))

/-- Raise the counter of receipt nonces past one that was used. -/
def raiseReceiptNonce (nonce : ℕ) : ReplayM Unit :=
  modify fun s => s.setVault (s.vault.setReceiptNonce (max s.vault.receiptNonce (nonce + 1)))

/-- A field that only legacy entries lack. -/
def legacyField {α : Type} (field : String) (value : Option α) : Except String α :=
  okOrElse value ("legacy ReservationCreated WAL entry missing " ++ field)

/-- A field that every entry of a kind has. -/
def requiredField {α : Type} (kind field : String) (value : Option α) : Except String α :=
  okOrElse value ("missing " ++ field ++ " in " ++ kind ++ " WAL entry")

/-- `ReservationCreated`. -/
def reservationCreated (env : Env) (verificationId : String) (reservationId : Option String)
    (paymentId client providerId : String) (amount : ℕ)
    (requestHash paymentDetailsHash : Option String) (createdAt expiresAt : Option ℤ) :
    ReplayM Unit := do
  let client ← orReturn (parsePubkey env "client" client)
  let reservationId ← orReturn (legacyField "reservation_id" reservationId)
  let requestHash ← orReturn
    (legacyField "request_hash" requestHash >>= decodeFixedHex32 env "request_hash")
  let paymentDetailsHash ← orReturn (legacyField "payment_details_hash" paymentDetailsHash >>=
    decodeFixedHex32 env "payment_details_hash")
  let createdAt ← orReturn (legacyField "created_at" createdAt)
  let expiresAt ← orReturn (legacyField "expires_at" expiresAt)
  replaying (reserveBalance client amount)
  modify fun s => s.setVault ((s.vault.setPaymentId paymentId verificationId).setReservation
    verificationId
    { verificationId, reservationId, paymentId, client, providerId, amount, requestHash
      paymentDetailsHash, status := .reserved, createdAt, expiresAt, settlementId := none
      settledAt := none })

/-- `ReservationCancelled` and `ReservationExpired`. -/
def reservationReleased (kind verificationId : String) (status : ReservationStatus) :
    ReplayM Unit := do
  let reservation ← okOr (← get).vault.reservations[verificationId]?
    ("missing reservation " ++ verificationId ++ " for " ++ kind ++ " WAL entry")
  modify fun s => s.setVault (s.vault.setReservation verificationId { reservation with status })
  if reservation.status = .reserved then
    replaying (releaseBalance reservation.client reservation.amount)

/-- `SettlementCommitted`. -/
def settlementCommitted (settlementId verificationId providerId : String) (amount : ℕ)
    (settledAt : Option ℤ) : ReplayM Unit := do
  let reservation ← okOr (← get).vault.reservations[verificationId]?
    ("missing reservation " ++ verificationId ++ " for SettlementCommitted WAL entry")
  failIf (reservation.providerId ≠ providerId) ("provider_id mismatch for settlement "
    ++ settlementId ++ ": reservation=" ++ reservation.providerId ++ " wal=" ++ providerId)
  failIf (reservation.amount ≠ amount) ("amount mismatch for settlement " ++ settlementId
    ++ ": reservation=" ++ toString reservation.amount ++ " wal=" ++ toString amount)
  let timestamp := settledAt.getD reservation.createdAt
  if reservation.status = .reserved then
    modify fun s => s.setVault (s.vault.setReservation verificationId
      { reservation with
        status := .settledOffchain
        settlementId := some settlementId
        settledAt := some timestamp })
  replaying (settlePayment reservation.client reservation.amount reservation.providerId settlementId
    timestamp)
  let provider ← okOr (← get).vault.providers[reservation.providerId]?
    ("missing provider " ++ reservation.providerId ++ " for SettlementCommitted WAL entry")
  modify fun s => s.setVault (s.vault.setHistory settlementId
    { settlementId, client := reservation.client, provider := provider.settlementTokenAccount
      amount := reservation.amount, timestamp })

/-- `WithdrawApplied`. -/
def withdrawApplied (env : Env) (client recipientAta : String) (amount withdrawNonce : ℕ)
    (expiresAt : ℤ) (slot : ℕ) (txSignature : String) : ReplayM Unit := do
  let client ← orReturn (parsePubkey env "client" client)
  let recipientAta ← orReturn (parsePubkey env "recipient_ata" recipientAta)
  let applied ← replaying (applyWithdrawal withdrawNonce)
  failIf (applied.client ≠ client ∨ applied.recipientAta ≠ recipientAta ∨ applied.amount ≠ amount ∨
      applied.expiresAt ≠ expiresAt)
    ("withdraw replay mismatch for nonce " ++ toString withdrawNonce ++ ": state="
      ++ debugWithdrawal env applied ++ " wal=(" ++ env.pubkeyToString client ++ ", "
      ++ env.pubkeyToString recipientAta ++ ", " ++ toString amount ++ ", " ++ toString expiresAt
      ++ ")")
  markReplayed txSignature slot
  raiseWithdrawNonce withdrawNonce
  let _ ← replaying (refreshClientMaxLockExpiresAt client)

/-- `ChannelAdaptorDelivered`. -/
def channelAdaptorDelivered (env : Env) (channelId : String)
    (adaptorPoint preSigRPrime preSigSPrime encryptedResult resultHash providerPubkey :
      Option String) (now : ℤ) : ReplayM Unit := do
  let field (name : String) (value : Option String) :=
    requiredField "ChannelAdaptorDelivered" name value
  let adaptorPoint ← orReturn
    (field "adaptor_point" adaptorPoint >>= decodeFixedHex32 env "adaptor_point")
  let rPrime ← orReturn
    (field "pre_sig_r_prime" preSigRPrime >>= decodeFixedHex32 env "pre_sig_r_prime")
  let sPrime ← orReturn
    (field "pre_sig_s_prime" preSigSPrime >>= decodeFixedHex32 env "pre_sig_s_prime")
  let encryptedResult ← orReturn (field "encrypted_result" encryptedResult >>= fun value =>
    okOrElse (env.base64Decode value)
      ("invalid encrypted_result base64 in WAL: " ++ env.base64ErrorText value))
  let resultHash ← orReturn (field "result_hash" resultHash >>= decodeFixedHex32 env "result_hash")
  let providerPubkey ← orReturn
    (field "provider_pubkey" providerPubkey >>= decodeFixedHex32 env "provider_pubkey")
  replaying (deliverAdaptor env.curve channelId
    { adaptorPoint, preSig := { rPrime, sPrime }, encryptedResult, resultHash, providerPubkey } now)

end Replay

/-- `replay_entry`. -/
def replayEntry (env : Env) (now : ℤ) : WalEntry → ReplayM Unit
  | .depositApplied client amount slot txSignature => do
    let client ← orReturn (parsePubkey env "client" client)
    replaying (applyDeposit client amount)
    Replay.markReplayed txSignature slot
  | .withdrawAuthorized client recipientAta amount withdrawNonce issuedAt expiresAt => do
    let client ← orReturn (parsePubkey env "client" client)
    let recipientAta ← orReturn (parsePubkey env "recipient_ata" recipientAta)
    replaying (authorizeWithdrawal
      { client, recipientAta, amount, withdrawNonce, issuedAt, expiresAt })
    Replay.raiseWithdrawNonce withdrawNonce
    let _ ← replaying (refreshClientMaxLockExpiresAt client)
  | .withdrawApplied client recipientAta amount withdrawNonce expiresAt slot txSignature =>
    Replay.withdrawApplied env client recipientAta amount withdrawNonce expiresAt slot txSignature
  | .withdrawExpired client withdrawNonce => do
    let client ← orReturn (parsePubkey env "client" client)
    let expired ← replaying (expirePendingWithdrawal withdrawNonce)
    failIf (expired.client ≠ client) ("withdraw expiry client mismatch for nonce "
      ++ toString withdrawNonce ++ ": state=" ++ env.pubkeyToString expired.client ++ " wal="
      ++ env.pubkeyToString client)
    let _ ← replaying (refreshClientMaxLockExpiresAt client)
  | .reservationCreated verificationId reservationId paymentId client providerId amount requestHash
      paymentDetailsHash createdAt expiresAt =>
    Replay.reservationCreated env verificationId reservationId paymentId client providerId amount
      requestHash paymentDetailsHash createdAt expiresAt
  | .reservationCancelled verificationId _ =>
    Replay.reservationReleased "ReservationCancelled" verificationId .cancelled
  | .reservationExpired verificationId =>
    Replay.reservationReleased "ReservationExpired" verificationId .expired
  | .settlementCommitted settlementId verificationId providerId amount settledAt =>
    Replay.settlementCommitted settlementId verificationId providerId amount settledAt
  | .participantReceiptIssued _ _ nonce | .participantReceiptMirrored _ _ nonce =>
    Replay.raiseReceiptNonce nonce
  | entry@(.providerRegistered providerId ..) =>
    match decodeRegistration env entry with
    | some registration => do
      let registration ← orReturn registration
      modify fun s => s.setVault (s.vault.setProvider providerId registration)
    | none => pure ()
  | .clientBalanceSeeded client free locked maxLockExpiresAt totalDeposited totalWithdrawn => do
    let client ← orReturn (parsePubkey env "client" client)
    modify fun s => s.setVault (s.vault.setBalance client
      { free, locked, maxLockExpiresAt, totalDeposited, totalWithdrawn })
  | .batchSubmitted .. => pure ()
  | .batchConfirmed batchId txSignature settlementIds =>
    modify fun s => s.setVault (applyBatchConfirmation settlementIds batchId txSignature s.vault)
  | .channelOpened channelId client providerId initialDeposit => do
    let client ← orReturn (parsePubkey env "client" client)
    let _ ← replaying (openChannelWithId channelId client providerId initialDeposit now)
  | .channelRequestSubmitted channelId requestId amount requestHash => do
    let requestHash ← orReturn
      (Replay.requiredField "ChannelRequestSubmitted" "request_hash" requestHash >>=
        decodeFixedHex32 env "request_hash")
    replaying (submitRequest channelId requestId amount requestHash now)
  | .channelRequestExpired channelId requestId amount =>
    replaying (expireReplayedRequest channelId requestId amount now)
  | .channelAdaptorDelivered channelId _ adaptorPoint preSigRPrime preSigSPrime encryptedResult
      resultHash providerPubkey =>
    Replay.channelAdaptorDelivered env channelId adaptorPoint preSigRPrime preSigSPrime
      encryptedResult resultHash providerPubkey now
  | .channelFinalized channelId requestId amountPaid =>
    replaying (finalizeReplayedRequest channelId requestId amountPaid now)
  | .channelClosed channelId _ _ settlementId => do
    let freshId ← (newId env .channelSettlement).mapError walReplayError
    let _ ← replaying (closeChannelWithSettlementId channelId settlementId freshId now)

/-- The loop of `replay_app_state_from`, from its `i`-th record on. -/
def replayRecords (env : Env) (clock : ℕ → ℤ) : ℕ → List WalRecord → ReplayM Unit
  | _, [] => pure ()
  | i, record :: records => do
    replayEntry env (clock i) record.entry
    replayRecords env clock (i + 1) records

/-- Refresh the lock expiry of each of the clients. -/
def refreshClients : List Pubkey → ReplayM Unit
  | [] => pure ()
  | client :: clients => do
    let _ ← replaying (refreshClientMaxLockExpiresAt client)
    refreshClients clients

/-- `replay_app_state_from`, with the records that `read_records` returned. -/
def replayAppStateFrom (env : Env) (clock : ℕ → ℤ) (minSeqnoExclusive : Option ℕ)
    (records : List WalRecord) : ReplayM Unit := do
  replayRecords env clock 0
    (records.filter fun record => minSeqnoExclusive.all (· < record.seqno))
  refreshClients (← get).vault.clientBalances.keys

/-- `replay_app_state`. -/
def replayAppState (env : Env) (clock : ℕ → ℤ) (records : List WalRecord) : ReplayM Unit :=
  replayAppStateFrom env clock none records

end Subly402
