/-
# What the records of the log mean

The abstract layer of the development: the books of the vault with nothing in
them but what a crash may not lose, and the events that change them.
-/

import Subly402.Vault.Confirm
import Subly402.Asc.Manager

namespace Subly402

open Lib

/-! ### Books without clocks -/

/-- A client's account: its balance record without the lock expiry. -/
@[ext]
structure Account where
  free : ℕ
  locked : ℕ
  deposited : ℕ
  withdrawn : ℕ
deriving DecidableEq

/-- The account a balance record holds. -/
@[simps]
def ClientBalance.account (balance : ClientBalance) : Account :=
  { free := balance.free, locked := balance.locked, deposited := balance.totalDeposited
    withdrawn := balance.totalWithdrawn }

/-- A credit without its age. -/
@[simps]
def ProviderCredit.untimed (credit : ProviderCredit) : ProviderCredit :=
  { credit with oldestCreditAt := 0 }

/-- A channel request without its times. -/
@[simps]
def ChannelRequest.untimed (request : ChannelRequest) : ChannelRequest :=
  { request with createdAt := 0, expiresAt := 0 }

/-- A channel without its times. -/
@[simps]
def ChannelState.untimed (channel : ChannelState) : ChannelState :=
  { channel with
    createdAt := 0
    updatedAt := 0
    activeRequest := channel.activeRequest.map ChannelRequest.untimed }

/-- A new channel without its times. -/
@[simp]
theorem untimed_newChannel (channelId : String) (client : Pubkey) (providerId : String)
    (initialDeposit : ℕ) (now : ℤ) :
    (newChannel channelId client providerId initialDeposit now).untimed
      = newChannel channelId client providerId initialDeposit 0 := rfl

/-- The books. -/
@[ext]
structure Ledger where
  account : Pubkey → Account
  reservations : FiniteMap String Reservation
  paymentIdIndex : FiniteMap String String
  credits : FiniteMap String ProviderCredit
  providers : FiniteMap String ProviderRegistration
  history : FiniteMap String SettlementRecord
  batches : FiniteMap String SettlementBatchInfo
  pending : FiniteMap ℕ PendingWithdrawal
  channels : FiniteMap String ChannelState
  closed : List ClosedChannel

/-- The books of a vault. -/
@[simps]
def VaultState.ledger (s : VaultState) : Ledger where
  account client := (s.balance client).account
  reservations := s.reservations
  paymentIdIndex := s.paymentIdIndex
  credits := s.providerCredits.map fun _ => ProviderCredit.untimed
  providers := s.providers
  history := s.settlementHistory
  batches := s.settlementBatches
  pending := s.pendingWithdrawals
  channels := s.activeChannels.map fun _ => ChannelState.untimed
  closed := s.closedChannels

/-! ### Moves within one account -/

namespace Account

variable (a : Account) (amount : ℕ)

@[simps]
def deposit : Account := { a with free := a.free + amount, deposited := a.deposited + amount }

@[simps]
def reserve : Account := { a with free := a.free - amount, locked := a.locked + amount }

@[simps]
def release : Account := { a with locked := a.locked - amount, free := a.free + amount }

@[simps]
def spend : Account := { a with locked := a.locked - amount }

@[simps]
def withdraw : Account :=
  { a with locked := a.locked - amount, withdrawn := a.withdrawn + amount }

end Account

/-! ### Events -/

/-- What a record of the log stands for. -/
inductive LedgerEvent where
  | deposit (client : Pubkey) (amount : ℕ)
  | authorize (withdrawal : PendingWithdrawal)
  | withdraw (withdrawNonce : ℕ)
  | expireWithdrawal (withdrawNonce : ℕ)
  | reserve (reservation : Reservation)
  | release (verificationId : String) (status : ReservationStatus)
  | settle (verificationId settlementId : String) (settledAt : ℤ)
  | register (provider : ProviderRegistration)
  | confirm (settlementIds : List String) (batchId : ℕ) (txSignature : String)
  | openChannel (channelId : String) (client : Pubkey) (providerId : String) (initialDeposit : ℕ)
  | submit (channelId requestId : String) (amount : ℕ) (requestHash : Bytes32)
  | deliver (channelId : String) (delivery : AdaptorDelivery)
  | finalize (channelId : String)
  | expireRequest (channelId : String)
  | close (channelId settlementId : String)

namespace Ledger

variable (l : Ledger)

@[simps]
def setAccount (client : Pubkey) (a : Account) : Ledger :=
  { l with account := Function.update l.account client a }

@[simps]
def setReservation (verificationId : String) (reservation : Reservation) : Ledger :=
  { l with reservations := l.reservations.insert verificationId reservation }

@[simps]
def setPaymentId (paymentId verificationId : String) : Ledger :=
  { l with paymentIdIndex := l.paymentIdIndex.insert paymentId verificationId }

@[simps]
def setCredit (providerId : String) (credit : ProviderCredit) : Ledger :=
  { l with credits := l.credits.insert providerId credit }

@[simps]
def dropCredit (providerId : String) : Ledger := { l with credits := l.credits.erase providerId }

@[simps]
def setProvider (providerId : String) (provider : ProviderRegistration) : Ledger :=
  { l with providers := l.providers.insert providerId provider }

@[simps]
def setHistory (settlementId : String) (record : SettlementRecord) : Ledger :=
  { l with history := l.history.insert settlementId record }

@[simps]
def dropHistory (settlementId : String) : Ledger :=
  { l with history := l.history.erase settlementId }

@[simps]
def setBatch (settlementId : String) (info : SettlementBatchInfo) : Ledger :=
  { l with batches := l.batches.insert settlementId info }

@[simps]
def setPending (withdrawNonce : ℕ) (withdrawal : PendingWithdrawal) : Ledger :=
  { l with pending := l.pending.insert withdrawNonce withdrawal }

@[simps]
def dropPending (withdrawNonce : ℕ) : Ledger := { l with pending := l.pending.erase withdrawNonce }

@[simps]
def setChannel (channelId : String) (channel : ChannelState) : Ledger :=
  { l with channels := l.channels.insert channelId channel }

@[simps]
def dropChannel (channelId : String) : Ledger := { l with channels := l.channels.erase channelId }

@[simps]
def pushClosed (closed : ClosedChannel) : Ledger := { l with closed := l.closed ++ [closed] }

/-- Credit a settlement to a registered provider. -/
@[simps!]
def credit (provider : ProviderRegistration) (providerId : String) (amount : ℕ)
    (settlementId : String) : Ledger :=
  l.setCredit providerId
    (creditProvider providerId provider.settlementTokenAccount amount settlementId 0
      l.credits[providerId]?)

/-! ### A confirmed batch -/

/-- The reservation that carries a settlement id, with its key. -/
def reservationOf (settlementId : String) : Option (String × Reservation) :=
  l.reservations.toList.find? fun e => e.2.settlementId = some settlementId

/-- The first credit that names a settlement id, with its key. -/
def creditNaming (settlementId : String) : Option (String × ProviderCredit) :=
  l.credits.toList.find? fun e => settlementId ∈ e.2.settlementIds

/-- One settlement of the batch: the books, and the providers affected so far. -/
def confirmSettlement (batchId : ℕ) (txSignature : String) (acc : Ledger × List String)
    (settlementId : String) : Ledger × List String :=
  let l := (acc.1.dropHistory settlementId).setBatch settlementId { batchId, txSignature }
  match l.reservationOf settlementId with
  | some (verificationId, reservation) =>
    let l := match l.credits[reservation.providerId]? with
      | some credit =>
        l.setCredit reservation.providerId (credit.without settlementId reservation.amount)
      | none => l
    (l.setReservation verificationId { reservation with status := .batchedOnchain },
      acc.2.insert reservation.providerId)
  | none =>
    match l.creditNaming settlementId with
    | some (key, credit) =>
      (l.setCredit key (credit.without settlementId 0), acc.2.insert credit.providerId)
    | none => (l, acc.2)

/-- Whether a provider has a credit with nothing left to pay. -/
def hasSpentCredit (providerId : String) : Bool :=
  (l.credits[providerId]?).any ProviderCredit.isSpent

/-- A batch with these settlements was confirmed. -/
def confirm (settlementIds : List String) (batchId : ℕ) (txSignature : String) : Ledger :=
  let acc := settlementIds.foldl (confirmSettlement batchId txSignature) (l, [])
  (acc.2.filter acc.1.hasSpentCredit).foldl Ledger.dropCredit acc.1

/-! ### The meaning of an event -/

/-- Replace a channel of the books. -/
def updateChannel (channelId : String) (f : ChannelState → ChannelState) : Ledger :=
  match l.channels[channelId]? with
  | some channel => l.setChannel channelId (f channel).untimed
  | none => l

/-- The amount of a channel's active request. -/
def activeAmount (channel : ChannelState) : ℕ := (channel.activeRequest.map (·.amount)).getD 0

/-- A settled reservation pays its provider. -/
def settle (verificationId settlementId : String) (settledAt : ℤ) : Ledger :=
  match l.reservations[verificationId]? with
  | none => l
  | some reservation =>
    match l.providers[reservation.providerId]? with
    | none => l
    | some provider =>
      (((l.setAccount reservation.client
          ((l.account reservation.client).spend reservation.amount)).credit provider
            reservation.providerId reservation.amount settlementId).setHistory settlementId
          { settlementId, client := reservation.client, provider := provider.settlementTokenAccount
            amount := reservation.amount, timestamp := settledAt }).setReservation verificationId
        { reservation with
          status := .settledOffchain
          settlementId := some settlementId
          settledAt := some settledAt }

/-- A closed channel pays its provider and returns the rest. -/
def close (channelId settlementId : String) : Ledger :=
  match l.channels[channelId]? with
  | none => l
  | some channel =>
    match l.providers[channel.providerId]? with
    | none => l
    | some provider =>
      let free := channel.balance.clientFree
      let earned := channel.balance.providerEarned
      let a := l.account channel.client
      let released := (l.dropChannel channelId).setAccount channel.client
        { a with locked := a.locked - (free + earned), free := a.free + free }
      let credited :=
        if 0 < earned then released.credit provider channel.providerId earned settlementId
        else released
      credited.pushClosed (channel.closedAs channelId settlementId)

/-- What an event does to the books. -/
def apply : LedgerEvent → Ledger
  | .deposit client amount => l.setAccount client ((l.account client).deposit amount)
  | .authorize withdrawal =>
    (l.setAccount withdrawal.client
      ((l.account withdrawal.client).reserve withdrawal.amount)).setPending
        withdrawal.withdrawNonce withdrawal
  | .withdraw withdrawNonce =>
    match l.pending[withdrawNonce]? with
    | some withdrawal => (l.dropPending withdrawNonce).setAccount withdrawal.client
        ((l.account withdrawal.client).withdraw withdrawal.amount)
    | none => l
  | .expireWithdrawal withdrawNonce =>
    match l.pending[withdrawNonce]? with
    | some withdrawal => (l.dropPending withdrawNonce).setAccount withdrawal.client
        ((l.account withdrawal.client).release withdrawal.amount)
    | none => l
  | .reserve reservation =>
    ((l.setAccount reservation.client
      ((l.account reservation.client).reserve reservation.amount)).setReservation
        reservation.verificationId reservation).setPaymentId reservation.paymentId
          reservation.verificationId
  | .release verificationId status =>
    match l.reservations[verificationId]? with
    | some reservation => (l.setAccount reservation.client
        ((l.account reservation.client).release reservation.amount)).setReservation verificationId
          { reservation with status }
    | none => l
  | .settle verificationId settlementId settledAt => l.settle verificationId settlementId settledAt
  | .register provider => l.setProvider provider.providerId provider
  | .confirm settlementIds batchId txSignature => l.confirm settlementIds batchId txSignature
  | .openChannel channelId client providerId initialDeposit =>
    (l.setAccount client ((l.account client).reserve initialDeposit)).setChannel channelId
      (newChannel channelId client providerId initialDeposit 0)
  | .submit channelId requestId amount requestHash =>
    l.updateChannel channelId fun channel => channel.lockRequest requestId amount requestHash 0
  | .deliver channelId delivery =>
    l.updateChannel channelId fun channel =>
      match channel.activeRequest with
      | some request => channel.storeAdaptor request delivery 0
      | none => channel
  | .finalize channelId =>
    l.updateChannel channelId fun channel => channel.payProvider (activeAmount channel) 0
  | .expireRequest channelId =>
    l.updateChannel channelId fun channel => channel.refundClient (activeAmount channel) 0
  | .close channelId settlementId => l.close channelId settlementId

/-- No book mentions the settlement id yet. -/
structure FreshSettlement (settlementId : String) : Prop where
  reservations : ∀ (key : String) (r : Reservation), l.reservations[key]? = some r →
    r.settlementId ≠ some settlementId
  credits : ∀ (key : String) (c : ProviderCredit), l.credits[key]? = some c →
    settlementId ∉ c.settlementIds
  history : l.history[settlementId]? = none
  closed : ∀ c ∈ l.closed, c.settlementId ≠ some settlementId

/-- What is checked before an event is logged. -/
def Enabled (curve : Curve) : LedgerEvent → Prop
  | .deposit _ _ => True
  | .authorize withdrawal =>
    withdrawal.amount ≤ (l.account withdrawal.client).free ∧
      l.pending[withdrawal.withdrawNonce]? = none
  | .withdraw withdrawNonce | .expireWithdrawal withdrawNonce =>
    ∃ withdrawal, l.pending[withdrawNonce]? = some withdrawal
  | .reserve reservation =>
    reservation.amount ≤ (l.account reservation.client).free ∧ reservation.status = .reserved ∧
      reservation.settlementId = none ∧ l.reservations[reservation.verificationId]? = none ∧
      ∃ provider, l.providers[reservation.providerId]? = some provider
  | .release verificationId status =>
    (status = .cancelled ∨ status = .expired) ∧
      ∃ reservation, l.reservations[verificationId]? = some reservation ∧
        reservation.status = .reserved
  | .settle verificationId settlementId _ =>
    l.FreshSettlement settlementId ∧
      ∃ reservation provider, l.reservations[verificationId]? = some reservation ∧
        reservation.status = .reserved ∧ l.providers[reservation.providerId]? = some provider
  | .register provider => l.providers[provider.providerId]? = none
  | .confirm _ _ _ => True
  | .openChannel channelId client providerId initialDeposit =>
    initialDeposit ≤ (l.account client).free ∧ l.channels[channelId]? = none ∧
      ∃ provider, l.providers[providerId]? = some provider
  | .submit channelId requestId amount _ =>
    ∃ channel, l.channels[channelId]? = some channel ∧ channel.status = .open ∧
      requestId ∉ channel.usedRequestIds ∧ amount ≤ channel.balance.clientFree
  | .deliver channelId delivery =>
    ∃ channel request, l.channels[channelId]? = some channel ∧ channel.status = .locked ∧
      channel.activeRequest = some request ∧ DeliveryVerifies curve channel request delivery
  | .finalize channelId =>
    ∃ channel request, l.channels[channelId]? = some channel ∧ channel.status = .pending ∧
      channel.activeRequest = some request
  | .expireRequest channelId =>
    ∃ channel request, l.channels[channelId]? = some channel ∧
      (channel.status = .locked ∨ channel.status = .pending) ∧
      channel.activeRequest = some request
  | .close channelId settlementId =>
    l.FreshSettlement settlementId ∧
      ∃ channel provider, l.channels[channelId]? = some channel ∧ channel.status = .open ∧
        l.providers[channel.providerId]? = some provider

end Ledger

end Subly402
