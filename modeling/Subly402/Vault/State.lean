/-
# The enclave's vault state

The records of `enclave/src/state.rs`, field for field, and the maps that
`VaultState` keeps them in.  Every `DashMap` is a `FiniteMap`, every `HashSet` a
`Finset`, amounts (`u64`) are natural numbers and times (`i64`) integers; the
balances stay below `2^64` whenever the deposits do, which the conservation law of
`Subly402.Ledger.Conservation` shows, so no sum of the source overflows.  The nonce
counters (`AtomicU64`) are natural numbers too.  Their `fetch_add` wraps, so the model is
the code for runs that draw fewer than `2^64` nonces from a counter.
-/

import Subly402.Lib.FiniteMap
import Subly402.Lib.Bytes

namespace Subly402

open Lib

/-- A Solana public key. -/
abbrev Pubkey : Type := Bytes32

/-- The bound of a `u64`. -/
def u64Bound : ℕ := 2 ^ 64

/-- The errors of `error.rs` that the modelled functions return. -/
inductive EnclaveError where
  | insufficientBalance
  | clientNotFound
  | providerNotFound
  | providerAuthFailed
  | unsupportedProviderAuthMode
  | invalidProviderAuthConfig
  | mtlsNotEnabled
  | invalidScheme
  | paymentDetailsRequired
  | invalidPaymentDetails
  | verifyWindowSecRequired
  | invalidVerifyWindowSec
  | invalidClientSignature
  | paymentExpired
  | paymentIdReused
  | reservationNotFound
  | reservationExpired
  | invalidReservationStatus (status : String)
  | vaultNotActive
  | vaultPaused
  | vaultMigrating
  | vaultRetired
  | vaultStatusUnavailable
  | depositSyncInProgress
  | requestHashMismatch
  | paymentDetailsHashMismatch
  | providerIdMismatch
  | providerAlreadyRegistered
  | channelNotFound
  | invalidChannelStatus (message : String)
  | channelRequestExpired
  | channelRequestIdReused
  | invalidAdaptorSignature
  | receiptWatchtowerUnavailable
  | invalidProviderParticipant
  | providerParticipantRequired
  | providerParticipantAttestationRequired
  | providerParticipantMismatch
  | invalidProviderParticipantAttestation (message : String)
  | payToMismatch
  | assetMintMismatch
  | networkMismatch
  | originNotAllowed
  | clientAuthExpired
  | invalidClientAuthWindow
  | internal (message : String)
deriving DecidableEq, Repr

/-! ### Atomic service channels -/

/-- `ChannelStatus`. -/
inductive ChannelStatus where
  | «open»
  | locked
  | pending
  | closed
deriving DecidableEq, Repr

/-- The `{:?}` text of a channel status. -/
def ChannelStatus.debug : ChannelStatus → String
  | .open => "Open"
  | .locked => "Locked"
  | .pending => "Pending"
  | .closed => "Closed"

/-- `ChannelBalance`. -/
structure ChannelBalance where
  clientFree : ℕ
  clientLocked : ℕ
  providerEarned : ℕ
deriving DecidableEq

/-- Everything a channel holds of its client's locked balance. -/
def ChannelBalance.sum (b : ChannelBalance) : ℕ := b.clientFree + b.clientLocked + b.providerEarned

/-- `AdaptorPreSignature`, `(R', s')`. -/
structure AdaptorPreSignature where
  rPrime : Bytes32
  sPrime : Bytes32
deriving DecidableEq

/-- `ChannelRequest`. -/
structure ChannelRequest where
  requestId : String
  amount : ℕ
  requestHash : Bytes32
  providerPubkey : Option Bytes32
  adaptorPoint : Option Bytes32
  providerPreSig : Option AdaptorPreSignature
  encryptedResult : Option (List UInt8)
  resultHash : Option Bytes32
  createdAt : ℤ
  expiresAt : ℤ
deriving DecidableEq

/-- `ChannelState`. -/
structure ChannelState where
  channelId : String
  client : Pubkey
  providerId : String
  balance : ChannelBalance
  status : ChannelStatus
  nonce : ℕ
  createdAt : ℤ
  updatedAt : ℤ
  usedRequestIds : Finset String
  activeRequest : Option ChannelRequest
deriving DecidableEq

/-- What a closed channel returned and paid (ghost). -/
structure ClosedChannel where
  channelId : String
  client : Pubkey
  providerId : String
  providerEarned : ℕ
  settlementId : Option String
deriving DecidableEq

/-! ### Payments -/

/-- `ReservationStatus`. -/
inductive ReservationStatus where
  | reserved
  | settledOffchain
  | cancelled
  | expired
  | batchedOnchain
deriving DecidableEq, Repr

/-- The `{:?}` text of a reservation status. -/
def ReservationStatus.debug : ReservationStatus → String
  | .reserved => "Reserved"
  | .settledOffchain => "SettledOffchain"
  | .cancelled => "Cancelled"
  | .expired => "Expired"
  | .batchedOnchain => "BatchedOnchain"

/-- Whether a reservation's amount has gone to its provider. -/
def ReservationStatus.isPaid (st : ReservationStatus) : Bool :=
  st = .settledOffchain || st = .batchedOnchain

/-- `ClientBalance`. -/
structure ClientBalance where
  free : ℕ
  locked : ℕ
  maxLockExpiresAt : ℤ
  totalDeposited : ℕ
  totalWithdrawn : ℕ
deriving DecidableEq

/-- `ClientBalance::default`. -/
def ClientBalance.zero : ClientBalance :=
  { free := 0, locked := 0, maxLockExpiresAt := 0, totalDeposited := 0, totalWithdrawn := 0 }

/-- `ProviderRegistration`. -/
structure ProviderRegistration where
  providerId : String
  displayName : String
  participantPubkey : Option Pubkey
  participantAttestationPolicyHash : Option Bytes32
  participantAttestationVerifiedAtMs : Option ℤ
  participantAttestationMode : Option String
  settlementTokenAccount : Pubkey
  network : String
  assetMint : Pubkey
  allowedOrigins : List String
  authMode : String
  apiKeyHash : Option (List UInt8)
  mtlsCertFingerprint : Option (List UInt8)
deriving DecidableEq

/-- `Reservation`. -/
structure Reservation where
  verificationId : String
  reservationId : String
  paymentId : String
  client : Pubkey
  providerId : String
  amount : ℕ
  requestHash : Bytes32
  paymentDetailsHash : Bytes32
  status : ReservationStatus
  createdAt : ℤ
  expiresAt : ℤ
  settlementId : Option String
  settledAt : Option ℤ
deriving DecidableEq

/-- `ProviderCredit`. -/
structure ProviderCredit where
  providerId : String
  settlementTokenAccount : Pubkey
  creditedAmount : ℕ
  oldestCreditAt : ℤ
  settlementIds : List String
deriving DecidableEq

/-- `PendingWithdrawal`. -/
structure PendingWithdrawal where
  client : Pubkey
  recipientAta : Pubkey
  amount : ℕ
  withdrawNonce : ℕ
  issuedAt : ℤ
  expiresAt : ℤ
deriving DecidableEq

/-- `SettlementRecord`. -/
structure SettlementRecord where
  settlementId : String
  client : Pubkey
  provider : Pubkey
  amount : ℕ
  timestamp : ℤ
deriving DecidableEq

/-- `SettlementBatchInfo`. -/
structure SettlementBatchInfo where
  batchId : ℕ
  txSignature : String
deriving DecidableEq

/-! ### The state -/

/-- `VaultState`, with the two ghosts of the header. -/
structure VaultState where
  clientBalances : FiniteMap Pubkey ClientBalance
  reservations : FiniteMap String Reservation
  paymentIdIndex : FiniteMap String String
  providerCredits : FiniteMap String ProviderCredit
  providers : FiniteMap String ProviderRegistration
  settlementHistory : FiniteMap String SettlementRecord
  settlementBatches : FiniteMap String SettlementBatchInfo
  pendingWithdrawals : FiniteMap ℕ PendingWithdrawal
  activeChannels : FiniteMap String ChannelState
  receiptNonce : ℕ
  withdrawNonce : ℕ
  snapshotSeqno : ℕ
  lastFinalizedSlot : ℕ
  lockedSaturated : Bool
  closedChannels : List ClosedChannel

attribute [ext] VaultState

/-- `VaultState::new`: empty maps, and both nonce counters at one. -/
def VaultState.new : VaultState :=
  { clientBalances := ∅, reservations := ∅, paymentIdIndex := ∅, providerCredits := ∅,
    providers := ∅, settlementHistory := ∅, settlementBatches := ∅, pendingWithdrawals := ∅,
    activeChannels := ∅, receiptNonce := 1, withdrawNonce := 1, snapshotSeqno := 0,
    lastFinalizedSlot := 0, lockedSaturated := false, closedChannels := [] }

namespace VaultState

variable (s : VaultState)

/-- The balance record of a client, all zero where there is none. -/
def balance (client : Pubkey) : ClientBalance := (s.clientBalances[client]?).getD .zero

/-- A client with a record has its balance. -/
theorem balance_eq {s : VaultState} {client : Pubkey} {balance : ClientBalance}
    (h : s.clientBalances[client]? = some balance) : s.balance client = balance := by
  simp [VaultState.balance, h]

/-! ### One write to each map

The operations are compositions of these writes.  `simps` states what each does to every
field, so a field of a composed state simplifies to the writes that touch it. -/

@[simps]
def setBalance (client : Pubkey) (balance : ClientBalance) : VaultState :=
  { s with clientBalances := s.clientBalances.insert client balance }

/-- A write to one balance leaves the others. -/
theorem balance_setBalance (s : VaultState) (client c : Pubkey) (balance : ClientBalance) :
    (s.setBalance client balance).balance c = if c = client then balance else s.balance c := by
  rw [VaultState.balance, setBalance_clientBalances, FiniteMap.lookup_insert]
  split <;> rfl

@[simps]
def setReservation (verificationId : String) (reservation : Reservation) : VaultState :=
  { s with reservations := s.reservations.insert verificationId reservation }

@[simps]
def setPaymentId (paymentId verificationId : String) : VaultState :=
  { s with paymentIdIndex := s.paymentIdIndex.insert paymentId verificationId }

@[simps]
def setCredit (providerId : String) (credit : ProviderCredit) : VaultState :=
  { s with providerCredits := s.providerCredits.insert providerId credit }

@[simps]
def dropCredit (providerId : String) : VaultState :=
  { s with providerCredits := s.providerCredits.erase providerId }

@[simps]
def setProvider (providerId : String) (provider : ProviderRegistration) : VaultState :=
  { s with providers := s.providers.insert providerId provider }

@[simps]
def setHistory (settlementId : String) (record : SettlementRecord) : VaultState :=
  { s with settlementHistory := s.settlementHistory.insert settlementId record }

@[simps]
def dropHistory (settlementId : String) : VaultState :=
  { s with settlementHistory := s.settlementHistory.erase settlementId }

@[simps]
def setBatch (settlementId : String) (info : SettlementBatchInfo) : VaultState :=
  { s with settlementBatches := s.settlementBatches.insert settlementId info }

@[simps]
def setPending (withdrawNonce : ℕ) (withdrawal : PendingWithdrawal) : VaultState :=
  { s with pendingWithdrawals := s.pendingWithdrawals.insert withdrawNonce withdrawal }

@[simps]
def dropPending (withdrawNonce : ℕ) : VaultState :=
  { s with pendingWithdrawals := s.pendingWithdrawals.erase withdrawNonce }

@[simps]
def setChannel (channelId : String) (channel : ChannelState) : VaultState :=
  { s with activeChannels := s.activeChannels.insert channelId channel }

@[simps]
def dropChannel (channelId : String) : VaultState :=
  { s with activeChannels := s.activeChannels.erase channelId }

@[simps]
def setReceiptNonce (nonce : ℕ) : VaultState := { s with receiptNonce := nonce }

@[simps]
def setWithdrawNonce (nonce : ℕ) : VaultState := { s with withdrawNonce := nonce }

@[simps]
def setLastFinalizedSlot (slot : ℕ) : VaultState := { s with lastFinalizedSlot := slot }

/-- Note in the ghost that `locked.saturating_sub(amount)` is evaluated. -/
@[simps]
def noteLockedSub (locked amount : ℕ) : VaultState :=
  { s with lockedSaturated := s.lockedSaturated || decide (locked < amount) }

/-- Note in the ghost that a channel closed. -/
@[simps]
def pushClosed (closed : ClosedChannel) : VaultState :=
  { s with closedChannels := s.closedChannels ++ [closed] }

/-- Take the last closed channel back out of the ghost. -/
@[simps]
def popClosed : VaultState := { s with closedChannels := s.closedChannels.dropLast }

/-! ### Writes that undo each other -/

variable {s}

/-- Of two writes to one balance the second stays. -/
theorem setBalance_setBalance (client : Pubkey) (b b' : ClientBalance) :
    (s.setBalance client b).setBalance client b' = s.setBalance client b' := by
  simp [setBalance]

/-- Writing a record back changes nothing. -/
theorem setBalance_self {client : Pubkey} {b : ClientBalance}
    (h : s.clientBalances[client]? = some b) : s.setBalance client b = s := by
  simp [setBalance, FiniteMap.insert_lookup h]

/-- A subtraction that does not saturate is not noted. -/
theorem noteLockedSub_of_le {locked amount : ℕ} (h : amount ≤ locked) :
    s.noteLockedSub locked amount = s := by
  simp [noteLockedSub, Nat.not_lt.2 h]

end VaultState

end Subly402
