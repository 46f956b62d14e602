/-
# Atomic service channels

`enclave/src/asc_manager.rs`: the operations of a channel and their rollbacks, on
the vault state.  A channel goes from `Open` to `Locked` when a request is
submitted, to `Pending` when the provider's adaptor pre-signature verifies, and
back to `Open` when the request is finalized or expires; it closes from `Open`.
-/

import Subly402.Vault.Ops
import Subly402.Asc.AdaptorSig

namespace Subly402

open Lib
open Lib.Prog (okOr failIf)

variable {channelId providerId : String} {client : Pubkey} {now : ℤ} {s : VaultState}
  {balance : ClientBalance} {provider : ProviderRegistration} {channel : ChannelState}
  {request : ChannelRequest}

/-- `REQUEST_EXPIRY_SEC`. -/
def requestExpirySec : ℤ := 120

/-- `FinalizeOutcome`. -/
structure FinalizeOutcome where
  requestId : String
  resultBytes : List UInt8
  amount : ℕ
  request : ChannelRequest

/-- `CloseOutcome`. -/
structure CloseOutcome where
  client : Pubkey
  providerId : String
  returnedToClient : ℕ
  providerEarned : ℕ
  settlementId : Option String
  closedChannel : ChannelState
  previousProviderCredit : Option ProviderCredit

/-- `ExpiredRequestOutcome`. -/
structure ExpiredRequestOutcome where
  channelId : String
  client : Pubkey
  previousStatus : ChannelStatus
  request : ChannelRequest

/-- What a provider delivers for a request. -/
structure AdaptorDelivery where
  adaptorPoint : Bytes32
  preSig : AdaptorPreSignature
  encryptedResult : List UInt8
  resultHash : Bytes32
  providerPubkey : Bytes32

/-! ### Updates of one channel -/

/-- A request as it was before anything was delivered for it. -/
def ChannelRequest.withoutDelivery (request : ChannelRequest) : ChannelRequest :=
  { request with
    providerPubkey := none
    adaptorPoint := none
    providerPreSig := none
    encryptedResult := none
    resultHash := none }

namespace ChannelState

/-- A request locks its amount. -/
def lockRequest (channel : ChannelState) (requestId : String) (amount : ℕ) (requestHash : Bytes32)
    (now : ℤ) : ChannelState :=
  { channel with
    balance := { channel.balance with
      clientFree := channel.balance.clientFree - amount
      clientLocked := channel.balance.clientLocked + amount }
    status := .locked
    nonce := channel.nonce + 1
    updatedAt := now
    usedRequestIds := insert requestId channel.usedRequestIds
    activeRequest := some
      { requestId, amount, requestHash, providerPubkey := none, adaptorPoint := none,
        providerPreSig := none, encryptedResult := none, resultHash := none, createdAt := now,
        expiresAt := now + requestExpirySec } }

/-- A verified delivery is stored with the request. -/
def storeAdaptor (channel : ChannelState) (request : ChannelRequest) (delivery : AdaptorDelivery)
    (now : ℤ) : ChannelState :=
  { channel with
    activeRequest := some
      { request with
        providerPubkey := some delivery.providerPubkey
        adaptorPoint := some delivery.adaptorPoint
        providerPreSig := some delivery.preSig
        encryptedResult := some delivery.encryptedResult
        resultHash := some delivery.resultHash }
    status := .pending
    nonce := channel.nonce + 1
    updatedAt := now }

/-- The locked amount becomes the provider's. -/
def payProvider (channel : ChannelState) (amount : ℕ) (now : ℤ) : ChannelState :=
  { channel with
    balance := { channel.balance with
      clientLocked := channel.balance.clientLocked - amount
      providerEarned := channel.balance.providerEarned + amount }
    status := .open
    activeRequest := none
    nonce := channel.nonce + 1
    updatedAt := now }

/-- The locked amount goes back to the client. -/
def refundClient (channel : ChannelState) (amount : ℕ) (now : ℤ) : ChannelState :=
  { channel with
    balance := { channel.balance with
      clientLocked := channel.balance.clientLocked - amount
      clientFree := channel.balance.clientFree + amount }
    status := .open
    activeRequest := none
    nonce := channel.nonce + 1
    updatedAt := now }

/-- A rollback leaves its own time on the channel. -/
def touch (channel : ChannelState) (now : ℤ) : ChannelState := { channel with updatedAt := now }

end ChannelState

/-- The error of a channel that is not in the expected status. -/
def wrongStatus (expected : String) (status : ChannelStatus) : EnclaveError :=
  .invalidChannelStatus ("expected " ++ expected ++ ", got " ++ status.debug)

/-! ### Open -/

/-- The channel `open_channel_with_id` inserts. -/
def newChannel (channelId : String) (client : Pubkey) (providerId : String) (initialDeposit : ℕ)
    (now : ℤ) : ChannelState :=
  { channelId, client, providerId
    balance := { clientFree := initialDeposit, clientLocked := 0, providerEarned := 0 }
    status := .open, nonce := 0, createdAt := now, updatedAt := now, usedRequestIds := ∅
    activeRequest := none }

/-- `open_channel_with_id`. -/
def openChannelWithId (channelId : String) (client : Pubkey) (providerId : String)
    (initialDeposit : ℕ) (now : ℤ) : VaultM Unit := do
  let _ ← okOr (← get).providers[providerId]? .providerNotFound
  let balance ← okOr (← get).clientBalances[client]? .insufficientBalance
  failIf (balance.free < initialDeposit) .insufficientBalance
  reserveBalance client initialDeposit
  modify (·.setChannel channelId (newChannel channelId client providerId initialDeposit now))

/-- `rollback_open_channel`. -/
def rollbackOpenChannel (channelId : String) : VaultM Unit := do
  let channel ← okOr (← get).activeChannels[channelId]? .channelNotFound
  modify (·.dropChannel channelId)
  if 0 < channel.balance.sum then releaseBalance channel.client channel.balance.sum

/-- A refused opening writes nothing; one that succeeds locks the deposit. -/
theorem openChannelWithId_clean (channelId : String) (client : Pubkey) (providerId : String)
    (initialDeposit : ℕ) (now : ℤ) (s : VaultState) :
    (openChannelWithId channelId client providerId initialDeposit now).Clean s fun _ s' =>
      ∃ balance provider, s.clientBalances[client]? = some balance ∧
        s.providers[providerId]? = some provider ∧ initialDeposit ≤ balance.free ∧
        s' = (s.setBalance client (balance.reserve initialDeposit)).setChannel channelId
          (newChannel channelId client providerId initialDeposit now) := by
  refine .get_bind <| .okOr_bind fun provider hp => .get_bind <| .okOr_bind fun balance hb =>
    .failIf_bind fun hlt => ?_
  refine .of_run (a := ()) ?_ ⟨balance, provider, hb, hp, Nat.not_lt.1 hlt, rfl⟩
  rw [Prog.run_bind, run_reserveBalance hb (Nat.not_lt.1 hlt)]
  rfl

/-- Covered by the free balance, a channel opens. -/
theorem run_openChannelWithId {initialDeposit : ℕ} (hb : s.clientBalances[client]? = some balance)
    (hp : s.providers[providerId]? = some provider) (hle : initialDeposit ≤ balance.free) :
    (openChannelWithId channelId client providerId initialDeposit now).run s
      = (.ok (), (s.setBalance client (balance.reserve initialDeposit)).setChannel channelId
          (newChannel channelId client providerId initialDeposit now)) := by
  simp [openChannelWithId, hb, hp, Nat.not_lt.2 hle, run_reserveBalance hb hle]

/-- A rolled back open leaves nothing behind, the channel id having been free. -/
theorem run_rollbackOpenChannel {initialDeposit : ℕ} (hb : s.clientBalances[client]? = some balance)
    (hle : initialDeposit ≤ balance.free) (hfree : s.activeChannels[channelId]? = none) :
    (rollbackOpenChannel channelId).run
        ((s.setBalance client (balance.reserve initialDeposit)).setChannel channelId
          (newChannel channelId client providerId initialDeposit now))
      = (.ok (), s) := by
  by_cases hpos : 0 < initialDeposit
  · refine Prod.ext (by simp [rollbackOpenChannel, releaseBalance, ChannelBalance.sum, hpos,
      newChannel]) ?_
    ext1 <;> simp [rollbackOpenChannel, releaseBalance, ChannelBalance.sum, hpos, newChannel,
      ClientBalance.release_reserve hle, FiniteMap.insert_lookup hb, FiniteMap.erase_absent hfree]
  · obtain rfl : initialDeposit = 0 := by omega
    refine Prod.ext (by simp [rollbackOpenChannel, ChannelBalance.sum, newChannel]) ?_
    ext1 <;> simp [rollbackOpenChannel, ChannelBalance.sum, newChannel, ClientBalance.reserve,
      FiniteMap.insert_lookup hb, FiniteMap.erase_absent hfree]

/-! ### Submit -/

/-- `submit_request`. -/
def submitRequest (channelId requestId : String) (amount : ℕ) (requestHash : Bytes32) (now : ℤ) :
    VaultM Unit := do
  let channel ← okOr (← get).activeChannels[channelId]? .channelNotFound
  failIf (channel.status ≠ .open) (wrongStatus "Open" channel.status)
  failIf (requestId ∈ channel.usedRequestIds) .channelRequestIdReused
  failIf (channel.balance.clientFree < amount) .insufficientBalance
  modify (·.setChannel channelId (channel.lockRequest requestId amount requestHash now))

/-- `rollback_submit_request`. -/
def rollbackSubmitRequest (channelId requestId : String) (now : ℤ) : VaultM Unit := do
  let channel ← okOr (← get).activeChannels[channelId]? .channelNotFound
  let request ← okOr channel.activeRequest .channelNotFound
  failIf (request.requestId ≠ requestId) .channelNotFound
  modify (·.setChannel channelId
    { channel with
      balance := { channel.balance with
        clientLocked := channel.balance.clientLocked - request.amount
        clientFree := channel.balance.clientFree + request.amount }
      status := .open
      activeRequest := none
      nonce := channel.nonce - 1
      updatedAt := now
      usedRequestIds := channel.usedRequestIds.erase requestId })

/-- A refused request writes nothing. -/
theorem submitRequest_clean (channelId requestId : String) (amount : ℕ) (requestHash : Bytes32)
    (now : ℤ) (s : VaultState) :
    (submitRequest channelId requestId amount requestHash now).Clean s fun _ s' =>
      ∃ channel, s.activeChannels[channelId]? = some channel ∧ channel.status = .open ∧
        requestId ∉ channel.usedRequestIds ∧ amount ≤ channel.balance.clientFree ∧
        s' = s.setChannel channelId (channel.lockRequest requestId amount requestHash now) := by
  refine .get_bind <| .okOr_bind fun channel hch => .failIf_bind fun hst =>
    .failIf_bind fun hused => .failIf_bind fun hlt => ?_
  exact .of_run rfl ⟨channel, hch, not_not.1 hst, hused, Nat.not_lt.1 hlt, rfl⟩

/-- An open channel takes a new request that it can pay. -/
theorem run_submitRequest {requestId : String} {amount : ℕ} {requestHash : Bytes32}
    (h : s.activeChannels[channelId]? = some channel) (hst : channel.status = .open)
    (hused : requestId ∉ channel.usedRequestIds) (hle : amount ≤ channel.balance.clientFree) :
    (submitRequest channelId requestId amount requestHash now).run s
      = (.ok (), s.setChannel channelId
          (channel.lockRequest requestId amount requestHash now)) := by
  simp [submitRequest, h, hst, hused, Nat.not_lt.2 hle]

/-! ### Deliver -/

/-- `deliver_adaptor`. -/
def deliverAdaptor (curve : Curve) (channelId : String) (delivery : AdaptorDelivery) (now : ℤ) :
    VaultM Unit := do
  let channel ← okOr (← get).activeChannels[channelId]? .channelNotFound
  failIf (channel.status ≠ .locked) (wrongStatus "Locked" channel.status)
  let request ← okOr channel.activeRequest .channelNotFound
  failIf (request.expiresAt < now) .channelRequestExpired
  let adaptorPoint ← okOr (curve.decompress delivery.adaptorPoint) .invalidAdaptorSignature
  let message := curve.buildPaymentMessage channel.channelId request.requestId request.amount
    request.requestHash
  failIf (¬ curve.preVerify delivery.providerPubkey message adaptorPoint delivery.preSig)
    .invalidAdaptorSignature
  modify (·.setChannel channelId (channel.storeAdaptor request delivery now))

/-- `rollback_deliver_adaptor`. -/
def rollbackDeliverAdaptor (channelId requestId : String) (now : ℤ) : VaultM Unit := do
  let channel ← okOr (← get).activeChannels[channelId]? .channelNotFound
  failIf (channel.status ≠ .pending) (wrongStatus "Pending" channel.status)
  let request ← okOr channel.activeRequest .channelNotFound
  failIf (request.requestId ≠ requestId) .channelNotFound
  modify (·.setChannel channelId
    { channel with
      activeRequest := some request.withoutDelivery
      status := .locked
      nonce := channel.nonce - 1
      updatedAt := now })

/-- The checks of `deliver_adaptor` on the delivery itself. -/
def DeliveryVerifies (curve : Curve) (channel : ChannelState) (request : ChannelRequest)
    (delivery : AdaptorDelivery) : Prop :=
  ∃ adaptorPoint, curve.decompress delivery.adaptorPoint = some adaptorPoint ∧
    curve.preVerify delivery.providerPubkey
      (curve.buildPaymentMessage channel.channelId request.requestId request.amount
        request.requestHash) adaptorPoint delivery.preSig = true

/-- A locked request takes an adaptor signature that verifies, in time. -/
theorem run_deliverAdaptor {curve : Curve} {delivery : AdaptorDelivery}
    (h : s.activeChannels[channelId]? = some channel) (hst : channel.status = .locked)
    (hr : channel.activeRequest = some request) (hnow : now ≤ request.expiresAt)
    (hv : DeliveryVerifies curve channel request delivery) :
    (deliverAdaptor curve channelId delivery now).run s
      = (.ok (), s.setChannel channelId (channel.storeAdaptor request delivery now)) := by
  obtain ⟨point, hpoint, hver⟩ := hv
  simp [deliverAdaptor, h, hst, hr, not_lt.2 hnow, hpoint, hver]

/-- A refused delivery writes nothing. -/
theorem deliverAdaptor_clean (curve : Curve) (channelId : String) (delivery : AdaptorDelivery)
    (now : ℤ) (s : VaultState) :
    (deliverAdaptor curve channelId delivery now).Clean s fun _ s' =>
      ∃ channel request, s.activeChannels[channelId]? = some channel ∧ channel.status = .locked ∧
        channel.activeRequest = some request ∧ now ≤ request.expiresAt ∧
        DeliveryVerifies curve channel request delivery ∧
        s' = s.setChannel channelId (channel.storeAdaptor request delivery now) := by
  refine .get_bind <| .okOr_bind fun channel hch => .failIf_bind fun hst =>
    .okOr_bind fun request hr => .failIf_bind fun hnow => .okOr_bind fun point hpoint =>
    .failIf_bind fun hver => ?_
  exact .of_run rfl ⟨channel, request, hch, not_not.1 hst, hr, not_lt.1 hnow,
    ⟨point, hpoint, not_not.1 hver⟩, rfl⟩

/-! ### Finalize -/

/-- `finalize_with_secret`.  The source subtracts the amount from `client_locked` with a
checked `-`; an active request's amount is always locked there. -/
def finalizeWithSecret (curve : Curve) (channelId : String) (adaptorSecret : curve.Scalar)
    (secretBytes : Bytes32) (now : ℤ) : VaultM FinalizeOutcome := do
  let channel ← okOr (← get).activeChannels[channelId]? .channelNotFound
  failIf (channel.status ≠ .pending) (wrongStatus "Pending" channel.status)
  let request ← okOr channel.activeRequest .channelNotFound
  let preSig ← okOr request.providerPreSig .invalidAdaptorSignature
  let adaptorPointBytes ← okOr request.adaptorPoint .invalidAdaptorSignature
  let adaptorPoint ← okOr (curve.decompress adaptorPointBytes) .invalidAdaptorSignature
  let providerPubkey ← okOr request.providerPubkey .invalidAdaptorSignature
  failIf (adaptorPoint ≠ adaptorSecret • curve.basepoint) .invalidAdaptorSignature
  let fullSig ← okOr (curve.adapt preSig adaptorSecret adaptorPoint) .invalidAdaptorSignature
  let message := curve.buildPaymentMessage channel.channelId request.requestId request.amount
    request.requestHash
  failIf (¬ curve.verifyAdapted providerPubkey message fullSig) .invalidAdaptorSignature
  let encryptedResult ← okOr request.encryptedResult .channelNotFound
  let decrypted := curve.decryptWithScalar encryptedResult secretBytes
  failIf (∃ expectedHash ∈ request.resultHash, curve.sha256 decrypted ≠ expectedHash)
    (.internal "Result hash mismatch after decryption")
  modify (·.setChannel channelId (channel.payProvider request.amount now))
  return { requestId := request.requestId, resultBytes := decrypted, amount := request.amount
           request := request }

/-- `finalize_offchain`. -/
def finalizeOffchain (curve : Curve) (channelId : String) (adaptorSecretBytes : Bytes32)
    (now : ℤ) : VaultM FinalizeOutcome := do
  let t ← okOr (curve.scalarFromCanonicalBytes adaptorSecretBytes) .invalidAdaptorSignature
  finalizeWithSecret curve channelId t adaptorSecretBytes now

/-- `finalize_onchain_claim`. -/
def finalizeOnchainClaim (curve : Curve) (channelId : String) (fullSig : AdaptedSignature)
    (now : ℤ) : VaultM FinalizeOutcome := do
  let channel ← okOr (← get).activeChannels[channelId]? .channelNotFound
  failIf (channel.status ≠ .pending) (wrongStatus "Pending" channel.status)
  let request ← okOr channel.activeRequest .channelNotFound
  let preSig ← okOr request.providerPreSig .invalidAdaptorSignature
  let adaptorPointBytes ← okOr request.adaptorPoint .invalidAdaptorSignature
  let adaptorPoint ← okOr (curve.decompress adaptorPointBytes) .invalidAdaptorSignature
  let providerPubkey ← okOr request.providerPubkey .invalidAdaptorSignature
  let extracted ← okOr (curve.extract fullSig preSig) .invalidAdaptorSignature
  let rPrime ← okOr (curve.decompress preSig.rPrime) .invalidAdaptorSignature
  failIf (curve.compress (rPrime + adaptorPoint) ≠ fullSig.rBytes) .invalidAdaptorSignature
  let message := curve.buildPaymentMessage channelId request.requestId request.amount
    request.requestHash
  failIf (¬ curve.verifyAdapted providerPubkey message fullSig) .invalidAdaptorSignature
  finalizeWithSecret curve channelId extracted (curve.scalarToBytes extracted) now

/-- `rollback_finalize_offchain`. -/
def rollbackFinalizeOffchain (channelId : String) (request : ChannelRequest) (now : ℤ) :
    VaultM Unit := do
  let channel ← okOr (← get).activeChannels[channelId]? .channelNotFound
  failIf (channel.status ≠ .open ∨ channel.activeRequest.isSome)
    (wrongStatus "Open without active request" channel.status)
  modify (·.setChannel channelId
    { channel with
      balance := { channel.balance with
        clientLocked := channel.balance.clientLocked + request.amount
        providerEarned := channel.balance.providerEarned - request.amount }
      status := .pending
      activeRequest := some request
      nonce := channel.nonce - 1
      updatedAt := now })

/-- `finalize_replayed_request`. -/
def finalizeReplayedRequest (channelId requestId : String) (amountPaid : ℕ) (now : ℤ) :
    VaultM Unit := do
  let channel ← okOr (← get).activeChannels[channelId]? .channelNotFound
  failIf (channel.status ≠ .pending) (wrongStatus "Pending" channel.status)
  let request ← okOr channel.activeRequest .channelNotFound
  failIf (request.requestId ≠ requestId) .channelNotFound
  failIf (request.amount ≠ amountPaid)
    (.internal "WAL replay amount mismatch for finalized channel request")
  modify (·.setChannel channelId (channel.payProvider amountPaid now))

/-- What a finalization did: it paid the pending request of the channel. -/
abbrev FinalizeOutcome.Pays (outcome : FinalizeOutcome) (channelId : String) (now : ℤ)
    (s s' : VaultState) : Prop :=
  ∃ channel request, s.activeChannels[channelId]? = some channel ∧ channel.status = .pending ∧
    channel.activeRequest = some request ∧ outcome.requestId = request.requestId ∧
    outcome.amount = request.amount ∧ outcome.request = request ∧
    s' = s.setChannel channelId (channel.payProvider request.amount now)

/-- A secret pays the pending request or writes nothing. -/
theorem finalizeWithSecret_clean (curve : Curve) (channelId : String)
    (adaptorSecret : curve.Scalar) (secretBytes : Bytes32) (now : ℤ) (s : VaultState) :
    (finalizeWithSecret curve channelId adaptorSecret secretBytes now).Clean s fun outcome s' =>
      outcome.Pays channelId now s s' := by
  refine .get_bind <| .okOr_bind fun channel hch => .failIf_bind fun hst =>
    .okOr_bind fun request hr => .okOr_bind fun preSig _ => .okOr_bind fun pointBytes _ =>
    .okOr_bind fun point _ => .okOr_bind fun pubkey _ => .failIf_bind fun _ =>
    .okOr_bind fun fullSig _ => .failIf_bind fun _ => .okOr_bind fun encrypted _ =>
    .failIf_bind fun _ => ?_
  exact .of_run rfl ⟨channel, request, hch, not_not.1 hst, hr, rfl, rfl, rfl, rfl⟩

/-- So does a secret that has to be decoded. -/
theorem finalizeOffchain_clean (curve : Curve) (channelId : String) (adaptorSecretBytes : Bytes32)
    (now : ℤ) (s : VaultState) :
    (finalizeOffchain curve channelId adaptorSecretBytes now).Clean s fun outcome s' =>
      outcome.Pays channelId now s s' :=
  .okOr_bind fun t _ => finalizeWithSecret_clean curve channelId t adaptorSecretBytes now s

/-- So does a secret taken out of a signature. -/
theorem finalizeOnchainClaim_clean (curve : Curve) (channelId : String)
    (fullSig : AdaptedSignature) (now : ℤ) (s : VaultState) :
    (finalizeOnchainClaim curve channelId fullSig now).Clean s fun outcome s' =>
      outcome.Pays channelId now s s' :=
  .get_bind <| .okOr_bind fun _ _ => .failIf_bind fun _ => .okOr_bind fun _ _ =>
    .okOr_bind fun _ _ => .okOr_bind fun _ _ => .okOr_bind fun _ _ => .okOr_bind fun _ _ =>
    .okOr_bind fun extracted _ => .okOr_bind fun _ _ => .failIf_bind fun _ =>
    .failIf_bind fun _ => finalizeWithSecret_clean curve channelId extracted _ now s

/-- Replay pays the pending request without its secret. -/
theorem run_finalizeReplayedRequest (h : s.activeChannels[channelId]? = some channel)
    (hst : channel.status = .pending) (hr : channel.activeRequest = some request) :
    (finalizeReplayedRequest channelId request.requestId request.amount now).run s
      = (.ok (), s.setChannel channelId (channel.payProvider request.amount now)) := by
  simp [finalizeReplayedRequest, h, hst, hr]

/-! ### Close -/

/-- `close_channel_with_settlement_id`.  `freshId` is the `asc_…` id drawn where no override is
given.  The channel is removed before the balance and the provider are looked up. -/
def closeChannelWithSettlementId (channelId : String) (settlementIdOverride : Option String)
    (freshId : String) (now : ℤ) : VaultM CloseOutcome := do
  let channel ← okOr (← get).activeChannels[channelId]? .channelNotFound
  failIf (channel.status ≠ .open) (.invalidChannelStatus
    ("expected Open, got " ++ channel.status.debug ++ " (close only from Open)"))
  let remainingFree := channel.balance.clientFree
  let providerEarned := channel.balance.providerEarned
  let credits := (← get).providerCredits
  let previousProviderCredit := if 0 < providerEarned then credits[channel.providerId]? else none
  let settlementId := if 0 < providerEarned then some (settlementIdOverride.getD freshId) else none
  modify (·.dropChannel channelId)
  releaseClosed channel.client (remainingFree + providerEarned) remainingFree
  creditClosed channel.providerId providerEarned (settlementIdOverride.getD freshId) now
  modify (·.pushClosed
    { channelId, client := channel.client, providerId := channel.providerId, providerEarned,
      settlementId })
  return { client := channel.client, providerId := channel.providerId
           returnedToClient := remainingFree, providerEarned, settlementId
           closedChannel := channel, previousProviderCredit }
where
  /-- The channel's amount leaves `locked`, and its free part goes back to the client. -/
  releaseClosed (client : Pubkey) (totalChannelAmount remainingFree : ℕ) : VaultM Unit := do
    if 0 < totalChannelAmount then
      let balance ← okOr (← get).clientBalances[client]? .clientNotFound
      modify (·.noteLockedSub balance.locked totalChannelAmount)
      modify (·.setBalance client (balance.closeChannel totalChannelAmount remainingFree))
  /-- The channel's earnings become the provider's credit. -/
  creditClosed (providerId : String) (providerEarned : ℕ) (settlementId : String) (now : ℤ) :
      VaultM Unit := do
    if 0 < providerEarned then
      let provider ← okOr (← get).providers[providerId]? .providerNotFound
      modify (·.credit provider providerId providerEarned settlementId now)

/-- `rollback_close_channel`. -/
def rollbackCloseChannel (outcome : CloseOutcome) : VaultM Unit := do
  relock (outcome.returnedToClient + outcome.providerEarned)
  if 0 < outcome.providerEarned then
    modify fun s => match outcome.previousProviderCredit with
      | some previousCredit => s.setCredit outcome.providerId previousCredit
      | none => s.dropCredit outcome.providerId
  modify (·.setChannel outcome.closedChannel.channelId outcome.closedChannel)
  modify (·.popClosed)
where
  /-- The channel's amount goes back into `locked`. -/
  relock (totalChannelAmount : ℕ) : VaultM Unit := do
    if 0 < totalChannelAmount then
      let balance ← okOr (← get).clientBalances[outcome.client]? .clientNotFound
      modify (·.setBalance outcome.client
        { balance with
          locked := balance.locked + totalChannelAmount
          free := balance.free - outcome.returnedToClient })

/-- What a channel that closed tells the ghost. -/
def ChannelState.closedAs (channel : ChannelState) (channelId settlementId : String) :
    ClosedChannel :=
  { channelId, client := channel.client, providerId := channel.providerId
    providerEarned := channel.balance.providerEarned
    settlementId := if 0 < channel.balance.providerEarned then some settlementId else none }

/-- The vault after a channel closed with the given settlement id. -/
def VaultState.afterClose (s : VaultState) (channelId : String) (channel : ChannelState)
    (balance : ClientBalance) (provider : ProviderRegistration) (settlementId : String) (now : ℤ) :
    VaultState :=
  let total := channel.balance.clientFree + channel.balance.providerEarned
  let released := ((s.dropChannel channelId).noteLockedSub balance.locked total).setBalance
    channel.client (balance.closeChannel total channel.balance.clientFree)
  let credited :=
    if 0 < channel.balance.providerEarned then
      released.credit provider channel.providerId channel.balance.providerEarned settlementId now
    else released
  credited.pushClosed (channel.closedAs channelId settlementId)

/-- What is left of the deposit goes back to the client. -/
theorem run_releaseClosed {total remainingFree : ℕ} (hb : s.clientBalances[client]? = some balance)
    (hle : remainingFree ≤ total) :
    (closeChannelWithSettlementId.releaseClosed client total remainingFree).run s
      = (.ok (), (s.noteLockedSub balance.locked total).setBalance client
          (balance.closeChannel total remainingFree)) := by
  by_cases hpos : 0 < total
  · simp [closeChannelWithSettlementId.releaseClosed, hpos, hb]
  · obtain rfl : total = 0 := by omega
    obtain rfl : remainingFree = 0 := by omega
    simp [closeChannelWithSettlementId.releaseClosed, ClientBalance.closeChannel,
      VaultState.noteLockedSub_of_le, VaultState.setBalance_self hb]

/-- What was earned goes to the provider, if anything was. -/
theorem run_creditClosed {settlementId : String} {providerEarned : ℕ}
    (hp : s.providers[providerId]? = some provider) :
    (closeChannelWithSettlementId.creditClosed providerId providerEarned settlementId now).run s
      = (.ok (), if 0 < providerEarned then
          s.credit provider providerId providerEarned settlementId now else s) := by
  by_cases hpos : 0 < providerEarned
  · simp [closeChannelWithSettlementId.creditClosed, hpos, hp]
  · simp [closeChannelWithSettlementId.creditClosed, hpos]

/-- The outcome of closing a channel. -/
@[simps]
def ChannelState.closeOutcome (channel : ChannelState) (settlementId : String)
    (credit : Option ProviderCredit) : CloseOutcome :=
  { client := channel.client, providerId := channel.providerId
    returnedToClient := channel.balance.clientFree
    providerEarned := channel.balance.providerEarned
    settlementId := if 0 < channel.balance.providerEarned then some settlementId else none
    closedChannel := channel
    previousProviderCredit := if 0 < channel.balance.providerEarned then credit else none }

/-- Closing an open channel whose client and provider are on record. -/
theorem run_closeChannelWithSettlementId (settlementIdOverride : Option String) (freshId : String)
    (now : ℤ) (hch : s.activeChannels[channelId]? = some channel) (hst : channel.status = .open)
    (hb : s.clientBalances[channel.client]? = some balance)
    (hp : s.providers[channel.providerId]? = some provider) :
    (closeChannelWithSettlementId channelId settlementIdOverride freshId now).run s
      = (.ok (channel.closeOutcome (settlementIdOverride.getD freshId)
            s.providerCredits[channel.providerId]?),
          s.afterClose channelId channel balance provider (settlementIdOverride.getD freshId)
            now) := by
  simp only [closeChannelWithSettlementId, Prog.run_bind, Prog.run_get, Prog.run_modify, hch,
    Prog.run_okOr_some, Prog.run_failIf, hst, ne_eq, not_true_eq_false, if_false,
    run_releaseClosed (s := s.dropChannel channelId) hb (Nat.le_add_right _ _)]
  rw [run_creditClosed (by exact hp)]
  rfl

/-- **Closing fails cleanly or pays out**, for a channel whose client and provider are on
record. -/
theorem closeChannelWithSettlementId_clean (channelId : String)
    (settlementIdOverride : Option String) (freshId : String) (now : ℤ) (s : VaultState)
    (hrec : ∀ channel, s.activeChannels[channelId]? = some channel →
      (∃ balance, s.clientBalances[channel.client]? = some balance) ∧
        ∃ provider, s.providers[channel.providerId]? = some provider) :
    (closeChannelWithSettlementId channelId settlementIdOverride freshId now).Clean s
      fun outcome s' => ∃ channel balance provider,
        s.activeChannels[channelId]? = some channel ∧ channel.status = .open ∧
        s.clientBalances[channel.client]? = some balance ∧
        s.providers[channel.providerId]? = some provider ∧
        outcome = channel.closeOutcome (settlementIdOverride.getD freshId)
          s.providerCredits[channel.providerId]? ∧
        s' = s.afterClose channelId channel balance provider
          (settlementIdOverride.getD freshId) now := by
  cases hch : s.activeChannels[channelId]? with
  | none => exact .fail (by simp [closeChannelWithSettlementId, hch]; rfl)
  | some channel =>
    by_cases hst : channel.status = .open
    · obtain ⟨⟨balance, hb⟩, provider, hp⟩ := hrec channel hch
      exact .of_run (run_closeChannelWithSettlementId settlementIdOverride freshId now hch hst hb hp)
        ⟨channel, balance, provider, rfl, hst, hb, hp, rfl, rfl⟩
    · exact .fail (by simp [closeChannelWithSettlementId, hch, hst]; rfl)

/-- The rollback locks the whole deposit again. -/
theorem run_relock {outcome : CloseOutcome} {total : ℕ}
    (hb : s.clientBalances[outcome.client]? = some (balance.closeChannel total outcome.returnedToClient))
    (hle : total ≤ balance.locked) (hfree : outcome.returnedToClient ≤ total) :
    (rollbackCloseChannel.relock outcome total).run s
      = (.ok (), s.setBalance outcome.client balance) := by
  by_cases hpos : 0 < total
  · simp [rollbackCloseChannel.relock, hpos, hb, Nat.sub_add_cancel hle]
  · obtain rfl : total = 0 := by omega
    have hzero : outcome.returnedToClient = 0 := by omega
    have hsame : balance.closeChannel 0 outcome.returnedToClient = balance := by
      simp [ClientBalance.closeChannel, hzero]
    rw [hsame] at hb
    simp [rollbackCloseChannel.relock, VaultState.setBalance_self hb]

/-- A rolled back close restores the channel, the balance and the credit. -/
theorem run_rollbackCloseChannel {settlementId : String}
    (hch : s.activeChannels[channelId]? = some channel) (hid : channel.channelId = channelId)
    (hb : s.clientBalances[channel.client]? = some balance)
    (hle : channel.balance.clientFree + channel.balance.providerEarned ≤ balance.locked) :
    (rollbackCloseChannel (channel.closeOutcome settlementId
          s.providerCredits[channel.providerId]?)).run
        (s.afterClose channelId channel balance provider settlementId now)
      = (.ok (), s) := by
  subst hid
  have hrelock : (rollbackCloseChannel.relock
      (channel.closeOutcome settlementId s.providerCredits[channel.providerId]?)
      (channel.balance.clientFree + channel.balance.providerEarned)).run
      (s.afterClose channel.channelId channel balance provider settlementId now) = _ :=
    run_relock (by
      simp only [VaultState.afterClose, ChannelState.closeOutcome]
      split <;> simp [VaultState.credit]) hle (Nat.le_add_right _ _)
  simp only [rollbackCloseChannel, Prog.run_bind, ChannelState.closeOutcome_returnedToClient,
    ChannelState.closeOutcome_providerEarned, hrelock]
  by_cases hearned : 0 < channel.balance.providerEarned
  · cases hc : s.providerCredits[channel.providerId]? with
    | none =>
      refine Prod.ext (by simp [hearned]) ?_
      ext1 <;> simp [hearned, VaultState.afterClose, VaultState.credit, hle,
        FiniteMap.insert_lookup hb, FiniteMap.insert_lookup hch, FiniteMap.erase_absent hc]
    | some credit =>
      refine Prod.ext (by simp [hearned]) ?_
      ext1 <;> simp [hearned, VaultState.afterClose, VaultState.credit, hle,
        FiniteMap.insert_lookup hb, FiniteMap.insert_lookup hch, FiniteMap.insert_lookup hc]
  · refine Prod.ext (by simp [hearned]) ?_
    ext1 <;> simp [hearned, VaultState.afterClose, hle, FiniteMap.insert_lookup hb,
      FiniteMap.insert_lookup hch]

/-! ### Expire -/

/-- `expire_request`. -/
def expireRequest (channelId : String) (now : ℤ) : VaultM (Option ExpiredRequestOutcome) := do
  let channel ← okOr (← get).activeChannels[channelId]? .channelNotFound
  match channel.activeRequest with
  | some request =>
    if (channel.status = .locked ∨ channel.status = .pending) ∧ request.expiresAt < now then
      modify (·.setChannel channelId (channel.refundClient request.amount now))
      return some { channelId := channel.channelId, client := channel.client
                    previousStatus := channel.status, request }
    else return none
  | none => return none

/-- `rollback_expire_request`. -/
def rollbackExpireRequest (outcome : ExpiredRequestOutcome) (now : ℤ) : VaultM Unit := do
  let channel ← okOr (← get).activeChannels[outcome.channelId]? .channelNotFound
  failIf (channel.status ≠ .open ∨ channel.activeRequest.isSome)
    (wrongStatus "Open without active request" channel.status)
  modify (·.setChannel outcome.channelId
    { channel with
      balance := { channel.balance with
        clientFree := channel.balance.clientFree - outcome.request.amount
        clientLocked := channel.balance.clientLocked + outcome.request.amount }
      status := outcome.previousStatus
      activeRequest := some outcome.request
      nonce := channel.nonce - 1
      updatedAt := now })

/-- `expire_replayed_request`. -/
def expireReplayedRequest (channelId requestId : String) (amount : ℕ) (now : ℤ) :
    VaultM Unit := do
  let channel ← okOr (← get).activeChannels[channelId]? .channelNotFound
  failIf (channel.status ≠ .locked ∧ channel.status ≠ .pending)
    (wrongStatus "Locked or Pending" channel.status)
  let request ← okOr channel.activeRequest .channelNotFound
  failIf (request.requestId ≠ requestId) .channelNotFound
  failIf (request.amount ≠ amount)
    (.internal "WAL replay amount mismatch for expired channel request")
  modify (·.setChannel channelId (channel.refundClient amount now))

/-- Expiring a request does nothing, or refunds a request whose time has passed. -/
theorem expireRequest_clean (channelId : String) (now : ℤ) (s : VaultState) :
    (expireRequest channelId now).Clean s fun outcome s' =>
      outcome = none ∧ s' = s ∨
      ∃ channel request, s.activeChannels[channelId]? = some channel ∧
        (channel.status = .locked ∨ channel.status = .pending) ∧
        channel.activeRequest = some request ∧ request.expiresAt < now ∧
        outcome = some { channelId := channel.channelId, client := channel.client
                         previousStatus := channel.status, request } ∧
        s' = s.setChannel channelId (channel.refundClient request.amount now) := by
  refine .get_bind <| .okOr_bind fun channel hch => ?_
  cases hr : channel.activeRequest with
  | none => exact .of_run rfl (.inl ⟨rfl, rfl⟩)
  | some request =>
    by_cases hc : (channel.status = .locked ∨ channel.status = .pending) ∧ request.expiresAt < now
    · refine .of_run (s := s) ?_ (.inr ⟨channel, request, hch, hc.1, hr, hc.2, rfl, rfl⟩)
      simp [hc]
    · exact .of_run (a := none) (by simp [hc]) (.inl ⟨rfl, rfl⟩)

/-- Replay refunds the active request whatever the time. -/
theorem run_expireReplayedRequest (h : s.activeChannels[channelId]? = some channel)
    (hst : channel.status = .locked ∨ channel.status = .pending)
    (hr : channel.activeRequest = some request) :
    (expireReplayedRequest channelId request.requestId request.amount now).run s
      = (.ok (), s.setChannel channelId (channel.refundClient request.amount now)) := by
  have hst' : ¬ (channel.status ≠ .locked ∧ channel.status ≠ .pending) := by tauto
  simp [expireReplayedRequest, h, hst', hr]

/-! ### Rollbacks

Each rollback, run directly after the operation it undoes, leaves the channel as it was but for
`updatedAt`. -/

section Rollback

variable {channelId : String} {now now' : ℤ} {s : VaultState} {channel : ChannelState}
  {request : ChannelRequest}

/-- A request that was taken back leaves a touched channel. -/
theorem run_rollbackSubmitRequest {requestId : String} {amount : ℕ} {requestHash : Bytes32}
    (hst : channel.status = .open) (hidle : channel.activeRequest = none)
    (hused : requestId ∉ channel.usedRequestIds) (hle : amount ≤ channel.balance.clientFree) :
    (rollbackSubmitRequest channelId requestId now').run
        (s.setChannel channelId (channel.lockRequest requestId amount requestHash now))
      = (.ok (), s.setChannel channelId (channel.touch now')) := by
  refine Prod.ext (by simp [rollbackSubmitRequest, ChannelState.lockRequest]) ?_
  simp [rollbackSubmitRequest, VaultState.setChannel, ChannelState.touch, ChannelState.lockRequest,
    Finset.erase_insert hused, Nat.sub_add_cancel hle, hst, hidle]

/-- A delivery that was taken back leaves a touched channel. -/
theorem run_rollbackDeliverAdaptor {delivery : AdaptorDelivery} (hst : channel.status = .locked)
    (hr : channel.activeRequest = some request)
    (hfresh : request.withoutDelivery = request) :
    (rollbackDeliverAdaptor channelId request.requestId now').run
        (s.setChannel channelId (channel.storeAdaptor request delivery now))
      = (.ok (), s.setChannel channelId (channel.touch now')) := by
  have hback : (channel.storeAdaptor request delivery now).activeRequest.map
      ChannelRequest.withoutDelivery = some request := congrArg some hfresh
  refine Prod.ext (by simp [rollbackDeliverAdaptor, ChannelState.storeAdaptor]) ?_
  simp_all [rollbackDeliverAdaptor, VaultState.setChannel, ChannelState.touch,
    ChannelState.storeAdaptor]

/-- A payment that was taken back leaves a touched channel. -/
theorem run_rollbackFinalizeOffchain (hst : channel.status = .pending)
    (hr : channel.activeRequest = some request) (hle : request.amount ≤ channel.balance.clientLocked) :
    (rollbackFinalizeOffchain channelId request now').run
        (s.setChannel channelId (channel.payProvider request.amount now))
      = (.ok (), s.setChannel channelId (channel.touch now')) := by
  refine Prod.ext (by simp [rollbackFinalizeOffchain, ChannelState.payProvider]) ?_
  simp [rollbackFinalizeOffchain, VaultState.setChannel, ChannelState.touch,
    ChannelState.payProvider, Nat.sub_add_cancel hle, hst, hr]

/-- A refund that was taken back leaves a touched channel. -/
theorem run_rollbackExpireRequest (hid : channel.channelId = channelId)
    (hr : channel.activeRequest = some request) (hle : request.amount ≤ channel.balance.clientLocked) :
    (rollbackExpireRequest { channelId := channel.channelId, client := channel.client
                             previousStatus := channel.status, request } now').run
        (s.setChannel channelId (channel.refundClient request.amount now))
      = (.ok (), s.setChannel channelId (channel.touch now')) := by
  subst hid
  refine Prod.ext (by simp [rollbackExpireRequest, ChannelState.refundClient]) ?_
  simp [rollbackExpireRequest, VaultState.setChannel, ChannelState.touch,
    ChannelState.refundClient, Nat.sub_add_cancel hle, hr]

end Rollback

end Subly402
