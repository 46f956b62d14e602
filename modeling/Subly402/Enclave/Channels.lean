/-
# Channel handlers

The handlers of the atomic service channels (`post_channel_open` to
`post_channel_close`) and the expiry of channel requests, of
`enclave/src/handlers.rs`, and the recovery of a channel whose provider claimed on
chain (`recover_pending_channel_claims` of `enclave/src/batch.rs`).  As for the
payment handlers, the checks of signatures and of the vault's lifecycle are not
modelled; the fields of a request are decoded as the source decodes them, since the
log records them undecoded.
-/

import Subly402.Enclave.Handlers
import Subly402.Asc.Manager

namespace Subly402

open Lib
open Lib.Prog (okOr failIf)

namespace Handlers

/-- `registered_provider_participant_pubkey`. -/
def registeredProviderParticipantPubkey (providerId : String) : AppM Pubkey := do
  let provider ← okOr (← get).vault.providers[providerId]? .providerNotFound
  okOr provider.participantPubkey .providerParticipantRequired

/-! ### Open, request -/

/-- `post_channel_open`. -/
def postChannelOpen (env : Env) (clientText providerId : String) (initialDeposit : ℕ) (t : Times) :
    AppM Unit := do
  let client ← okOr (env.pubkeyFromStr clientText) .clientNotFound
  let _ ← registeredProviderParticipantPubkey providerId
  let channelId ← newId env .channel
  onVault (openChannelWithId channelId client providerId initialDeposit t.now)
  appendOr env (.channelOpened channelId clientText providerId initialDeposit)
    (rollbackOpenChannel channelId)
  let _ ← issueClientReceiptLocked env client t.later

/-- `post_channel_request`. -/
def postChannelRequest (env : Env) (channelId requestId : String) (amount : ℕ)
    (requestHashText : String) (t : Times) : AppM Unit := do
  let requestHash ← okOr (hexDecode32 requestHashText) .requestHashMismatch
  onVault (submitRequest channelId requestId amount requestHash t.now)
  appendOr env (.channelRequestSubmitted channelId requestId amount (some requestHashText))
    (rollbackSubmitRequest channelId requestId t.later)
  let channel ← okOr (← get).vault.activeChannels[channelId]? .channelNotFound
  let _ ← onVault (refreshClientMaxLockExpiresAt channel.client)
  let _ ← issueClientReceiptLocked env channel.client t.later

/-! ### Expire -/

/-- `expire_stale_channel_request_with_lock`. -/
def expireStaleChannelRequest (env : Env) (channelId : String) (t : Times) : AppM Bool := do
  match ← onVault (expireRequest channelId t.now) with
  | none => return false
  | some outcome =>
    appendOr env
      (.channelRequestExpired channelId outcome.request.requestId outcome.request.amount)
      (rollbackExpireRequest outcome t.later)
    let _ ← onVault (refreshClientMaxLockExpiresAt outcome.client)
    let _ ← issueClientReceiptLocked env outcome.client t.later
    return true

/-! ### Deliver -/

/-- `ChannelDeliverRequest`. -/
structure ChannelDeliverRequest where
  channelId : String
  adaptorPoint : String
  preSigRPrime : String
  preSigSPrime : String
  encryptedResult : String
  resultHash : String
  providerPubkey : String

/-- Thirty-two bytes in hex, with the error of each step. -/
def decodeHex32 (value : String) (badHex badLength : EnclaveError) : AppM Bytes32 := do
  let bytes ← okOr (hexDecode value) badHex
  okOr (Bytes32.ofList? bytes) badLength

/-- The fields of a delivery, decoded in the order of the source. -/
def ChannelDeliverRequest.decode (env : Env) (req : ChannelDeliverRequest) :
    AppM AdaptorDelivery := do
  let adaptorPoint ←
    decodeHex32 req.adaptorPoint .invalidAdaptorSignature .invalidAdaptorSignature
  let rPrime ← decodeHex32 req.preSigRPrime .invalidAdaptorSignature .invalidAdaptorSignature
  let sPrime ← decodeHex32 req.preSigSPrime .invalidAdaptorSignature .invalidAdaptorSignature
  let encryptedResult ← okOr (env.base64Decode req.encryptedResult)
    (.internal "Invalid encrypted_result base64")
  let resultHash ← decodeHex32 req.resultHash (.internal "Invalid result_hash hex")
    (.internal "result_hash must be 32 bytes")
  let providerPubkey ← decodeHex32 req.providerPubkey (.internal "Invalid provider_pubkey hex")
    (.internal "provider_pubkey must be 32 bytes")
  return { adaptorPoint, preSig := { rPrime, sPrime }, encryptedResult, resultHash, providerPubkey }

/-- The entry of a delivery. -/
def ChannelDeliverRequest.entry (req : ChannelDeliverRequest) (requestId : String) : WalEntry :=
  .channelAdaptorDelivered req.channelId requestId (some req.adaptorPoint) (some req.preSigRPrime)
    (some req.preSigSPrime) (some req.encryptedResult) (some req.resultHash)
    (some req.providerPubkey)

/-- `deliver_adaptor`, where a request found expired is expired durably before the error is
returned. -/
def deliverOrExpire (env : Env) (channelId : String) (delivery : AdaptorDelivery) (t : Times) :
    AppM Unit :=
  tryCatch (onVault (deliverAdaptor env.curve channelId delivery t.now)) fun error => do
    if error = .channelRequestExpired then
      let _ ← expireStaleChannelRequest env channelId { now := t.later, later := t.later }
      throw error
    else throw error

/-- `post_channel_deliver`. -/
def postChannelDeliver (env : Env) (req : ChannelDeliverRequest) (t : Times) : AppM Unit := do
  let delivery ← req.decode env
  let channel ← okOr (← get).vault.activeChannels[req.channelId]? .channelNotFound
  let registered ← registeredProviderParticipantPubkey channel.providerId
  failIf (delivery.providerPubkey ≠ registered) .providerParticipantMismatch
  let request ← okOr channel.activeRequest .channelNotFound
  deliverOrExpire env req.channelId delivery t
  appendOr env (req.entry request.requestId)
    (rollbackDeliverAdaptor req.channelId request.requestId t.later)

/-! ### Finalize, close -/

/-- What follows a finalized request: log it, or take it back. -/
def logFinalized (env : Env) (channelId : String) (outcome : FinalizeOutcome) (t : Times) :
    AppM Unit := do
  appendOr env (.channelFinalized channelId outcome.requestId outcome.amount)
    (rollbackFinalizeOffchain channelId outcome.request t.later)
  let channel ← okOr (← get).vault.activeChannels[channelId]? .channelNotFound
  let _ ← onVault (refreshClientMaxLockExpiresAt channel.client)
  let _ ← issueClientReceiptLocked env channel.client t.later

/-- `post_channel_finalize`. -/
def postChannelFinalize (env : Env) (channelId adaptorSecretText : String) (t : Times) :
    AppM Unit := do
  let adaptorSecret ←
    decodeHex32 adaptorSecretText .invalidAdaptorSignature .invalidAdaptorSignature
  let outcome ← onVault (finalizeOffchain env.curve channelId adaptorSecret t.now)
  logFinalized env channelId outcome t

/-- One channel of `recover_pending_channel_claims`, with the signature of its on-chain claim. -/
def recoverChannelClaim (env : Env) (channelId : String) (fullSig : AdaptedSignature) (t : Times) :
    AppM Unit := do
  let outcome ← onVault (finalizeOnchainClaim env.curve channelId fullSig t.now)
  logFinalized env channelId outcome t

/-- `post_channel_close`. -/
def postChannelClose (env : Env) (channelId : String) (t : Times) : AppM Unit := do
  let freshId ← newId env .channelSettlement
  let outcome ← onVault (closeChannelWithSettlementId channelId none freshId t.now)
  appendOr env
    (.channelClosed channelId outcome.returnedToClient outcome.providerEarned outcome.settlementId)
    (rollbackCloseChannel outcome)
  let _ ← onVault (refreshClientMaxLockExpiresAt outcome.client)
  let _ ← issueClientReceiptLocked env outcome.client t.later
  if 0 < outcome.providerEarned then
    let _ ← issueProviderReceiptLocked env outcome.providerId t.later

end Handlers

end Subly402
