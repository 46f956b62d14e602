/-
# Payment and withdrawal handlers

`post_verify`, `post_settle`, `post_cancel`, `post_withdraw_auth` and the expiry of
reservations and withdrawals, of `enclave/src/handlers.rs`, each from where it looks
at the vault: the checks of the request itself (signatures, hashes, the vault's
lifecycle) only refuse requests and are not modelled here.
-/

import Subly402.Enclave.App

namespace Subly402

open Lib
open Lib.Prog (okOr failIf)

/-- The clock readings of one call: at its decisions, and after its append. -/
structure Times where
  now : ℤ
  later : ℤ

namespace Handlers

/-! ### Verify -/

/-- What `post_verify` takes from the payment payload and details. -/
structure VerifyRequest where
  paymentId : String
  client : String
  providerId : String
  amount : ℕ
  requestHash : Bytes32
  paymentDetailsHash : Bytes32
  verifyWindowSec : ℤ
deriving DecidableEq

/-- The reservation of a payment id that was used before. -/
def existingReservation (vault : VaultState) (paymentId : String) : Option Reservation :=
  (vault.paymentIdIndex[paymentId]?).bind fun verificationId => vault.reservations[verificationId]?

/-- The reservation a request makes. -/
@[simps]
def VerifyRequest.reservation (req : VerifyRequest) (client : Pubkey)
    (verificationId reservationId : String) (now : ℤ) : Reservation :=
  { verificationId, reservationId, paymentId := req.paymentId, client, providerId := req.providerId
    amount := req.amount, requestHash := req.requestHash
    paymentDetailsHash := req.paymentDetailsHash, status := .reserved, createdAt := now
    expiresAt := now + req.verifyWindowSec, settlementId := none, settledAt := none }

/-- The entry `post_verify` logs.  The client is logged as the request spells it. -/
def VerifyRequest.entry (req : VerifyRequest) (verificationId reservationId : String) (now : ℤ) :
    WalEntry :=
  .reservationCreated verificationId (some reservationId) req.paymentId req.client req.providerId
    req.amount (some (hexEncode req.requestHash.bytes))
    (some (hexEncode req.paymentDetailsHash.bytes)) (some now) (some (now + req.verifyWindowSec))

/-- The largest `i64`. -/
def i64Max : ℤ := 2 ^ 63 - 1

/-- What `issue_verification_receipt` signs. -/
structure VerificationReceipt where
  verificationId : String
  reservationId : String
  paymentId : String
  client : Pubkey
  providerId : String
  amount : ℕ
  requestHash : Bytes32
  paymentDetailsHash : Bytes32
  reservationExpiresAt : ℤ
deriving DecidableEq

/-- `issue_verification_receipt`. -/
def issueVerificationReceipt (r : Reservation) : VerificationReceipt :=
  { verificationId := r.verificationId, reservationId := r.reservationId, paymentId := r.paymentId
    client := r.client, providerId := r.providerId, amount := r.amount, requestHash := r.requestHash
    paymentDetailsHash := r.paymentDetailsHash, reservationExpiresAt := r.expiresAt }

/-- `VerifyResponse`. -/
structure VerifyResponse where
  verificationId : String
  reservationId : String
  reservationExpiresAt : ℤ
  providerId : String
  amount : ℕ
  verificationReceipt : VerificationReceipt
deriving DecidableEq

/-- The answer to a request whose payment id was used before. -/
def VerifyResponse.again (existing : Reservation) : VerifyResponse :=
  { verificationId := existing.verificationId, reservationId := existing.reservationId
    reservationExpiresAt := existing.expiresAt, providerId := existing.providerId
    amount := existing.amount, verificationReceipt := issueVerificationReceipt existing }

/-- The part of `post_verify` that reserves. -/
def reserveAndLog (env : Env) (req : VerifyRequest) (client : Pubkey) (t : Times) :
    AppM VerifyResponse := do
  let verificationId ← newId env .verification
  let reservationId ← newId env .reservation
  failIf (i64Max < t.now + req.verifyWindowSec) .invalidVerifyWindowSec
  onVault (reserveBalance client req.amount)
  appendOr env (req.entry verificationId reservationId t.now) (releaseBalance client req.amount)
  let reservation := req.reservation client verificationId reservationId t.now
  modify fun s => s.setVault ((s.vault.setReservation verificationId reservation).setPaymentId
    req.paymentId verificationId)
  let _ ← onVault (refreshClientMaxLockExpiresAt client)
  let _ ← issueClientReceiptLocked env client t.later
  let stored ← okOr (← get).vault.reservations[verificationId]? .reservationNotFound
  return { verificationId, reservationId, reservationExpiresAt := t.now + req.verifyWindowSec
           providerId := req.providerId, amount := req.amount
           verificationReceipt := issueVerificationReceipt stored }

/-- `post_verify`. -/
def postVerify (env : Env) (req : VerifyRequest) (t : Times) : AppM VerifyResponse := do
  let client ← okOr (env.pubkeyFromStr req.client) .invalidClientSignature
  let _ ← okOr (← get).vault.providers[req.providerId]? .providerNotFound
  match existingReservation (← get).vault req.paymentId with
  | some existing =>
    if existing.requestHash = req.requestHash then return .again existing
    else throw .paymentIdReused
  | none => reserveAndLog env req client t

/-! ### Expiry -/

/-- `expire_reserved_reservation_with_lock`. -/
def expireReservedReservation (env : Env) (verificationId : String) (t : Times) : AppM Bool := do
  let reservation ← okOr (← get).vault.reservations[verificationId]? .reservationNotFound
  if reservation.status ≠ .reserved ∨ t.now ≤ reservation.expiresAt then return false
  else
    append env (.reservationExpired verificationId)
    let reservation ← okOr (← get).vault.reservations[verificationId]? .reservationNotFound
    expireStored env verificationId reservation t
where
  /-- From the second look at the reservation on. -/
  expireStored (env : Env) (verificationId : String) (reservation : Reservation) (t : Times) :
      AppM Bool := do
    if reservation.status ≠ .reserved then return false
    else
      modify fun s => s.setVault
        (s.vault.setReservation verificationId { reservation with status := .expired })
      onVault (releaseBalance reservation.client reservation.amount)
      let _ ← onVault (refreshClientMaxLockExpiresAt reservation.client)
      let _ ← issueClientReceiptLocked env reservation.client t.later
      return true

/-- `expire_pending_withdrawal`. -/
def expirePending (env : Env) (withdrawNonce : ℕ) (t : Times) : AppM Bool := do
  match (← get).vault.pendingWithdrawals[withdrawNonce]? with
  | none => return false
  | some withdrawal =>
    if t.now ≤ withdrawal.expiresAt then return false
    else
      append env (.withdrawExpired (env.pubkeyToString withdrawal.client) withdrawNonce)
      let expired ← onVault (expirePendingWithdrawal withdrawNonce)
      let _ ← onVault (refreshClientMaxLockExpiresAt expired.client)
      let _ ← issueClientReceiptLocked env expired.client t.later
      return true

/-! ### Settle -/

/-- A settlement whose entry is not in the log yet. -/
structure PendingSettlement where
  verificationId : String
  client : Pubkey
  amount : ℕ
  providerId : String
  settlementId : String
  settledAt : ℤ

/-- The settlement of a reservation. -/
@[simps]
def PendingSettlement.of (reservation : Reservation) (verificationId settlementId : String)
    (now : ℤ) : PendingSettlement :=
  { verificationId, client := reservation.client, amount := reservation.amount
    providerId := reservation.providerId, settlementId, settledAt := now }

/-- `post_settle` up to its append: `none` where the reservation was settled before. -/
def settleBegin (env : Env) (verificationId settlementId : String) (t : Times) :
    AppM (Option PendingSettlement) := do
  let reservation ← okOr (← get).vault.reservations[verificationId]? .reservationNotFound
  match reservation.status with
  | .settledOffchain => return none
  | .expired => throw .reservationExpired
  | .reserved =>
    if reservation.expiresAt < t.now then
      let _ ← expireReservedReservation env verificationId t
      throw .reservationExpired
    else
      onVault (settlePayment reservation.client reservation.amount reservation.providerId
        settlementId t.now)
      let s ← get
      let provider := ((s.vault.providers[reservation.providerId]?).map
        (·.settlementTokenAccount)).getD (Bytes32.fill 0)
      set (s.setVault (s.vault.setHistory settlementId
        { settlementId, client := reservation.client, provider, amount := reservation.amount
          timestamp := t.now }))
      return some (.of reservation verificationId settlementId t.now)
  | other => throw (.invalidReservationStatus other.debug)

/-- What undoes `settleBegin`. -/
def rollbackSettle (p : PendingSettlement) : VaultM Unit := do
  modify (·.dropHistory p.settlementId)
  rollbackSettlePayment p.client p.amount p.providerId p.settlementId

/-- `SettleResponse`. -/
structure SettleResponse where
  settlementId : String
  offchainSettledAt : ℤ
  providerCreditAmount : ℕ
  participantReceipt : ParticipantReceipt
deriving DecidableEq

/-- `post_settle` from its append on. -/
def settleEnd (env : Env) (p : PendingSettlement) (t : Times) : AppM SettleResponse := do
  appendOr env
    (.settlementCommitted p.settlementId p.verificationId p.providerId p.amount (some p.settledAt))
    (rollbackSettle p)
  let reservation ← okOr (← get).vault.reservations[p.verificationId]? .reservationNotFound
  modify fun s => s.setVault (s.vault.setReservation p.verificationId
    { reservation with
      status := .settledOffchain
      settlementId := some p.settlementId
      settledAt := some p.settledAt })
  let _ ← onVault (refreshClientMaxLockExpiresAt p.client)
  let _ ← issueClientReceiptLocked env p.client t.later
  let participantReceipt ← issueProviderReceiptLocked env p.providerId t.later
  return { settlementId := p.settlementId, offchainSettledAt := p.settledAt
           providerCreditAmount := p.amount, participantReceipt }

/-- `post_settle`.  A repeated request gets a new provider receipt. -/
def postSettle (env : Env) (verificationId : String) (t : Times) : AppM SettleResponse := do
  let reservation ← okOr (← get).vault.reservations[verificationId]? .reservationNotFound
  let settlementId ← newId env .settlement
  match ← settleBegin env verificationId settlementId t with
  | none =>
    let participantReceipt ← issueProviderReceiptLocked env reservation.providerId t.later
    return { settlementId := reservation.settlementId.getD ""
             offchainSettledAt := reservation.settledAt.getD 0
             providerCreditAmount := reservation.amount, participantReceipt }
  | some p => settleEnd env p t

/-! ### Cancel -/

/-- `post_cancel`. -/
def postCancel (env : Env) (verificationId reason : String) (t : Times) : AppM Unit := do
  let reservation ← okOr (← get).vault.reservations[verificationId]? .reservationNotFound
  if reservation.status = .cancelled then return
  else
    failIf (reservation.status ≠ .reserved)
      (.invalidReservationStatus reservation.status.debug)
    onVault (releaseBalance reservation.client reservation.amount)
    appendOr env (.reservationCancelled verificationId reason)
      (reserveBalance reservation.client reservation.amount)
    let stored ← okOr (← get).vault.reservations[verificationId]? .reservationNotFound
    modify fun s => s.setVault
      (s.vault.setReservation verificationId { stored with status := .cancelled })
    let _ ← onVault (refreshClientMaxLockExpiresAt reservation.client)
    let _ ← issueClientReceiptLocked env reservation.client t.later

/-! ### Withdraw -/

/-- The seconds a withdrawal authorisation is valid. -/
def withdrawAuthWindowSec : ℤ := 300

/-- The withdrawal that `post_withdraw_auth` authorises. -/
@[simps]
def newWithdrawal (client recipientAta : Pubkey) (amount withdrawNonce : ℕ) (now : ℤ) :
    PendingWithdrawal :=
  { client, recipientAta, amount, withdrawNonce, issuedAt := now
    expiresAt := now + withdrawAuthWindowSec }

/-- `post_withdraw_auth`, for a request whose client and recipient parsed.  The signature over
the authorisation goes to the client where the handler succeeds. -/
def postWithdrawAuth (env : Env) (client recipientAta : Pubkey) (amount : ℕ) (t : Times) :
    AppM Unit := do
  let withdrawNonce ← onVault nextWithdrawNonce
  let withdrawal := newWithdrawal client recipientAta amount withdrawNonce t.now
  onVault (authorizeWithdrawal withdrawal)
  appendOr env
    (.withdrawAuthorized (env.pubkeyToString client) (env.pubkeyToString recipientAta) amount
      withdrawNonce withdrawal.issuedAt withdrawal.expiresAt)
    (rollbackAuthorizedWithdrawal withdrawNonce)
  let _ ← onVault (refreshClientMaxLockExpiresAt client)
  let _ ← issueClientReceiptLocked env client t.later
  modify (·.pushReleased withdrawal)

end Handlers

end Subly402
