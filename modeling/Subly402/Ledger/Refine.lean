/-
# The books of a vault under its writes

Each write to the vault is one write to its books, or none (`ledger_*`), so the
outcome of a vault operation, a composition of writes, becomes an event of the books
by simplification.  A confirmed batch is a loop in both, and
`ledger_applyBatchConfirmation` follows the two loops together.
-/

import Subly402.Ledger.WellFormed

namespace Subly402

open Lib

/-! ### Moves within one record -/

namespace ClientBalance

variable (balance : ClientBalance) (amount : ℕ)

/-- Deposits commute with dropping the lock expiry. -/
@[simp]
theorem account_deposit : (balance.deposit amount).account = balance.account.deposit amount := rfl

/-- Reservations commute with it. -/
@[simp]
theorem account_reserve : (balance.reserve amount).account = balance.account.reserve amount := rfl

/-- Releases commute with it. -/
@[simp]
theorem account_release : (balance.release amount).account = balance.account.release amount := rfl

/-- Spending commutes with it. -/
@[simp]
theorem account_spend : (balance.spend amount).account = balance.account.spend amount := rfl

/-- Withdrawals commute with it. -/
@[simp]
theorem account_withdraw : (balance.withdraw amount).account = balance.account.withdraw amount := rfl

end ClientBalance

namespace VaultState

variable (s : VaultState)

/-- The client has a balance record. -/
def Known (client : Pubkey) : Prop := ∃ balance, s.clientBalances[client]? = some balance

variable {s}

/-- The account of a client on record. -/
theorem Known.account {client : Pubkey} {balance : ClientBalance}
    (h : s.clientBalances[client]? = some balance) : s.ledger.account client = balance.account := by
  simp [VaultState.balance, h]

/-- No write to a balance removes a record. -/
theorem known_setBalance {client client' : Pubkey} (balance : ClientBalance)
    (h : s.Known client) : (s.setBalance client' balance).Known client := by
  obtain ⟨b, hb⟩ := h
  rw [Known, setBalance_clientBalances, FiniteMap.lookup_insert]
  split
  · exact ⟨_, rfl⟩
  · exact ⟨b, hb⟩

/-- Whose balance was written is on record. -/
theorem known_setBalance_self (client : Pubkey) (balance : ClientBalance) :
    (s.setBalance client balance).Known client :=
  ⟨balance, by simp⟩

variable (s)

/-! ### Lookups -/

/-- A credit of the books is one of the vault without its times. -/
@[simp]
theorem ledger_credits_lookup (key : String) :
    s.ledger.credits[key]? = (s.providerCredits[key]?).map ProviderCredit.untimed := by
  rw [ledger_credits, Std.ExtTreeMap.getElem?_map]

/-- A channel of the books is one of the vault without its times. -/
@[simp]
theorem ledger_channels_lookup (key : String) :
    s.ledger.channels[key]? = (s.activeChannels[key]?).map ChannelState.untimed := by
  rw [ledger_channels, Std.ExtTreeMap.getElem?_map]

/-! ### Writes -/

/-- A balance is an account of the books. -/
@[simp]
theorem ledger_setBalance (client : Pubkey) (balance : ClientBalance) :
    (s.setBalance client balance).ledger = s.ledger.setAccount client balance.account := by
  refine Ledger.ext (funext fun c => ?_) rfl rfl rfl rfl rfl rfl rfl rfl rfl
  by_cases hc : c = client
  · subst hc
    simp [VaultState.balance]
  · simp [VaultState.balance, FiniteMap.lookup_insert, hc]

/-- Reservations are in the books as they are. -/
@[simp]
theorem ledger_setReservation (key : String) (r : Reservation) :
    (s.setReservation key r).ledger = s.ledger.setReservation key r := rfl

/-- So is the index of payment ids. -/
@[simp]
theorem ledger_setPaymentId (paymentId verificationId : String) :
    (s.setPaymentId paymentId verificationId).ledger
      = s.ledger.setPaymentId paymentId verificationId := rfl

/-- A credit is written without its times. -/
@[simp]
theorem ledger_setCredit (key : String) (credit : ProviderCredit) :
    (s.setCredit key credit).ledger = s.ledger.setCredit key credit.untimed :=
  Ledger.ext rfl rfl rfl (FiniteMap.map_insert ..) rfl rfl rfl rfl rfl rfl

/-- A dropped credit is dropped. -/
@[simp]
theorem ledger_dropCredit (key : String) : (s.dropCredit key).ledger = s.ledger.dropCredit key :=
  Ledger.ext rfl rfl rfl (FiniteMap.map_erase ..) rfl rfl rfl rfl rfl rfl

/-- Providers are in the books as they are. -/
@[simp]
theorem ledger_setProvider (key : String) (provider : ProviderRegistration) :
    (s.setProvider key provider).ledger = s.ledger.setProvider key provider := rfl

/-- So is the settlement history. -/
@[simp]
theorem ledger_setHistory (key : String) (record : SettlementRecord) :
    (s.setHistory key record).ledger = s.ledger.setHistory key record := rfl

/-- So is a history that loses a record. -/
@[simp]
theorem ledger_dropHistory (key : String) :
    (s.dropHistory key).ledger = s.ledger.dropHistory key := rfl

/-- So are the batches. -/
@[simp]
theorem ledger_setBatch (key : String) (info : SettlementBatchInfo) :
    (s.setBatch key info).ledger = s.ledger.setBatch key info := rfl

/-- So are the pending withdrawals. -/
@[simp]
theorem ledger_setPending (key : ℕ) (w : PendingWithdrawal) :
    (s.setPending key w).ledger = s.ledger.setPending key w := rfl

/-- So is a withdrawal that goes. -/
@[simp]
theorem ledger_dropPending (key : ℕ) : (s.dropPending key).ledger = s.ledger.dropPending key := rfl

/-- A channel is written without its times. -/
@[simp]
theorem ledger_setChannel (key : String) (channel : ChannelState) :
    (s.setChannel key channel).ledger = s.ledger.setChannel key channel.untimed :=
  Ledger.ext rfl rfl rfl rfl rfl rfl rfl rfl (FiniteMap.map_insert ..) rfl

/-- A dropped channel is dropped. -/
@[simp]
theorem ledger_dropChannel (key : String) :
    (s.dropChannel key).ledger = s.ledger.dropChannel key :=
  Ledger.ext rfl rfl rfl rfl rfl rfl rfl rfl (FiniteMap.map_erase ..) rfl

/-- Closed channels are in the books as they are. -/
@[simp]
theorem ledger_pushClosed (c : ClosedChannel) :
    (s.pushClosed c).ledger = s.ledger.pushClosed c := rfl

/-- The counter of receipts is not in the books. -/
@[simp]
theorem ledger_setReceiptNonce (n : ℕ) : (s.setReceiptNonce n).ledger = s.ledger := rfl

/-- The counter of withdrawals is not in the books. -/
@[simp]
theorem ledger_setWithdrawNonce (n : ℕ) : (s.setWithdrawNonce n).ledger = s.ledger := rfl

/-- The last slot is not in the books. -/
@[simp]
theorem ledger_setLastFinalizedSlot (n : ℕ) : (s.setLastFinalizedSlot n).ledger = s.ledger := rfl

/-- The saturation flag is not in the books. -/
@[simp]
theorem ledger_noteLockedSub (locked amount : ℕ) :
    (s.noteLockedSub locked amount).ledger = s.ledger := rfl

/-- Crediting a provider is the same operation in both. -/
@[simp]
theorem ledger_credit (provider : ProviderRegistration) (providerId : String) (amount : ℕ)
    (settlementId : String) (now : ℤ) :
    (s.credit provider providerId amount settlementId now).ledger
      = s.ledger.credit provider providerId amount settlementId := by
  rw [VaultState.credit, Ledger.credit, ledger_setCredit, ledger_credits_lookup]
  cases s.providerCredits[providerId]? <;> rfl

variable {s}

/-- Writing back what a client owns, be it nothing, changes nothing in the books. -/
theorem ledger_setBalance_balance (client : Pubkey) :
    (s.setBalance client (s.balance client)).ledger = s.ledger := by
  rw [ledger_setBalance]
  exact Ledger.ext (Function.update_eq_self client s.ledger.account) rfl rfl rfl rfl rfl rfl rfl rfl
    rfl

/-- A write that keeps a client's account is no write to the books. -/
theorem ledger_setBalance_same {client : Pubkey} {balance balance' : ClientBalance}
    (h : s.clientBalances[client]? = some balance) (hsame : balance'.account = balance.account) :
    (s.setBalance client balance').ledger = s.ledger := by
  rw [ledger_setBalance, hsame, ← Known.account h]
  exact Ledger.ext (Function.update_eq_self _ _) rfl rfl rfl rfl rfl rfl rfl rfl rfl

/-- A channel that is only touched is the same in the books. -/
theorem ledger_setChannel_touch {channelId : String} {channel : ChannelState} (now : ℤ)
    (h : s.activeChannels[channelId]? = some channel) :
    (s.setChannel channelId (channel.touch now)).ledger = s.ledger := by
  have hlookup : s.ledger.channels[channelId]? = some channel.untimed := by simp [h]
  rw [ledger_setChannel]
  refine Ledger.ext rfl rfl rfl rfl rfl rfl rfl rfl ?_ rfl
  exact FiniteMap.insert_lookup hlookup

/-- A channel's transition is the event of the books, whenever it is the same but for times. -/
theorem ledger_setChannel_update {channelId : String} {channel channel' : ChannelState}
    {f : ChannelState → ChannelState} (h : s.activeChannels[channelId]? = some channel)
    (hf : channel'.untimed = (f channel.untimed).untimed) :
    (s.setChannel channelId channel').ledger = s.ledger.updateChannel channelId f := by
  have hlookup : s.ledger.channels[channelId]? = some channel.untimed := by simp [h]
  rw [ledger_setChannel, Ledger.updateChannel, hlookup, hf]

/-! ### A closed channel -/

section Close

variable {channelId : String} {channel : ChannelState} {balance : ClientBalance}
  {provider : ProviderRegistration} {settlementId : String} {now : ℤ}

/-- Closing a channel is the event of the books. -/
theorem ledger_afterClose (hch : s.activeChannels[channelId]? = some channel)
    (hb : s.clientBalances[channel.client]? = some balance)
    (hp : s.providers[channel.providerId]? = some provider) :
    (s.afterClose channelId channel balance provider settlementId now).ledger
      = s.ledger.close channelId settlementId := by
  have hlookup : s.ledger.channels[channelId]? = some channel.untimed := by simp [hch]
  have hprovider : s.ledger.providers[channel.untimed.providerId]? = some provider := hp
  have hacc : s.ledger.account channel.untimed.client = balance.account := Known.account hb
  rw [Ledger.close, hlookup, VaultState.afterClose]
  simp only [hprovider, hacc]
  by_cases hearned : 0 < channel.balance.providerEarned
  · simp only [ChannelState.untimed_balance, hearned, if_true, ledger_pushClosed, ledger_credit,
      ledger_setBalance, ledger_noteLockedSub, ledger_dropChannel]
    rfl
  · simp only [ChannelState.untimed_balance, hearned, if_false, ledger_pushClosed,
      ledger_setBalance, ledger_noteLockedSub, ledger_dropChannel]
    rfl

/-- Closing a channel removes it. -/
theorem afterClose_activeChannels (s : VaultState) :
    (s.afterClose channelId channel balance provider settlementId now).activeChannels
      = s.activeChannels.erase channelId := by
  rw [VaultState.afterClose]
  split <;> rfl

/-- What closing a channel leaves of the rest of the vault. -/
theorem afterClose_frame (s : VaultState) (channelId : String) (provider : ProviderRegistration)
    (settlementId : String) (now : ℤ)
    (hle : channel.balance.clientFree + channel.balance.providerEarned ≤ balance.locked) :
    (∀ client, s.Known client →
      (s.afterClose channelId channel balance provider settlementId now).Known client) ∧
    (s.afterClose channelId channel balance provider settlementId now).lockedSaturated
      = s.lockedSaturated ∧
    (s.afterClose channelId channel balance provider settlementId now).withdrawNonce
      = s.withdrawNonce ∧
    (s.afterClose channelId channel balance provider settlementId now).receiptNonce
      = s.receiptNonce := by
  rw [VaultState.afterClose, noteLockedSub_of_le hle]
  have hknown : ∀ client, s.Known client →
      ((s.dropChannel channelId).setBalance channel.client
        (balance.closeChannel (channel.balance.clientFree + channel.balance.providerEarned)
          channel.balance.clientFree)).Known client := fun client h =>
    known_setBalance (s := s.dropChannel channelId) _ h
  split <;> exact ⟨hknown, rfl, rfl, rfl⟩

end Close

/-! ### A confirmed batch -/

/-- What a confirmed batch does not look at. -/
def outsideBatch (s : VaultState) :
    FiniteMap Pubkey ClientBalance × FiniteMap String ChannelState × Bool × ℕ × ℕ :=
  (s.clientBalances, s.activeChannels, s.lockedSaturated, s.withdrawNonce, s.receiptNonce)

/-- One turn of the first loop. -/
theorem outsideBatch_confirmSettlement (batchId : ℕ) (txSignature : String)
    (acc : VaultState × List String) (settlementId : String) :
    (confirmSettlement batchId txSignature acc settlementId).1.outsideBatch
      = acc.1.outsideBatch := by
  rw [confirmSettlement]
  split
  · split <;> rfl
  · split <;> rfl

/-- One turn of the last loop. -/
theorem outsideBatch_refreshOldestCredit (s : VaultState) (providerId : String) :
    (refreshOldestCredit s providerId).outsideBatch = s.outsideBatch := by
  rw [refreshOldestCredit]
  split
  · split <;> rfl
  · rfl

/-- A confirmed batch leaves the balances, the channels and the counters alone. -/
theorem outsideBatch_applyBatchConfirmation (settlementIds : List String) (batchId : ℕ)
    (txSignature : String) (s : VaultState) :
    (applyBatchConfirmation settlementIds batchId txSignature s).outsideBatch = s.outsideBatch := by
  have hconfirm : ∀ (ids : List String) (acc : VaultState × List String),
      (ids.foldl (confirmSettlement batchId txSignature) acc).1.outsideBatch
        = acc.1.outsideBatch := fun ids acc =>
    List.foldlRecOn (motive := fun b : VaultState × List String =>
        b.1.outsideBatch = acc.1.outsideBatch) ids _ rfl
      fun b hb id _ => (outsideBatch_confirmSettlement batchId txSignature b id).trans hb
  have hdrop : ∀ (ids : List String) (s : VaultState),
      (ids.foldl VaultState.dropCredit s).outsideBatch = s.outsideBatch := fun ids s =>
    List.foldlRecOn (motive := fun b : VaultState => b.outsideBatch = s.outsideBatch) ids _ rfl
      fun _ hb _ _ => hb
  have hrefresh : ∀ (ids : List String) (s : VaultState),
      (ids.foldl refreshOldestCredit s).outsideBatch = s.outsideBatch := fun ids s =>
    List.foldlRecOn (motive := fun b : VaultState => b.outsideBatch = s.outsideBatch) ids _ rfl
      fun b hb id _ => (outsideBatch_refreshOldestCredit b id).trans hb
  rw [applyBatchConfirmation, hrefresh, hdrop, hconfirm]

/-- Both find the same reservation. -/
theorem ledger_reservationOf (settlementId : String) :
    s.ledger.reservationOf settlementId = s.reservationOf settlementId := rfl

/-- Both find the same credit. -/
theorem ledger_creditNaming (settlementId : String) :
    s.ledger.creditNaming settlementId
      = (s.creditNaming settlementId).map fun e => (e.1, e.2.untimed) := by
  rw [Ledger.creditNaming, VaultState.creditNaming, ledger_credits, Std.ExtTreeMap.toList_map,
    List.find?_map]
  rfl

/-- The two loops take the same turn. -/
theorem ledger_confirmSettlement (batchId : ℕ) (tx : String) (acc : VaultState × List String)
    (settlementId : String) :
    Ledger.confirmSettlement batchId tx (acc.1.ledger, acc.2) settlementId
      = ((confirmSettlement batchId tx acc settlementId).1.ledger,
          (confirmSettlement batchId tx acc settlementId).2) := by
  have hbase : (acc.1.ledger.dropHistory settlementId).setBatch settlementId ⟨batchId, tx⟩
      = ((acc.1.dropHistory settlementId).setBatch settlementId ⟨batchId, tx⟩).ledger := rfl
  rw [Ledger.confirmSettlement, confirmSettlement]
  simp only [hbase]
  generalize (acc.1.dropHistory settlementId).setBatch settlementId ⟨batchId, tx⟩ = s
  rw [ledger_reservationOf]
  cases s.reservationOf settlementId with
  | some found =>
    obtain ⟨key, r⟩ := found
    simp only [ledger_credits_lookup]
    cases s.providerCredits[r.providerId]? with
    | none => rfl
    | some credit =>
      simp only [Option.map_some, ledger_setReservation, ledger_setCredit]
      rfl
  | none =>
    simp only [ledger_creditNaming]
    cases s.creditNaming settlementId with
    | none => rfl
    | some found =>
      simp only [Option.map_some, ledger_setCredit]
      rfl

/-- The two loops end in the same books and providers. -/
theorem ledger_confirmSettlement_foldl (batchId : ℕ) (tx : String) (settlementIds : List String)
    (acc : VaultState × List String) :
    settlementIds.foldl (Ledger.confirmSettlement batchId tx) (acc.1.ledger, acc.2)
      = ((settlementIds.foldl (confirmSettlement batchId tx) acc).1.ledger,
          (settlementIds.foldl (confirmSettlement batchId tx) acc).2) := by
  induction settlementIds generalizing acc with
  | nil => rfl
  | cons settlementId rest ih =>
    rw [List.foldl_cons, List.foldl_cons, ledger_confirmSettlement]
    exact ih _

/-- A credit is spent in both or in neither. -/
theorem ledger_hasSpentCredit (providerId : String) :
    s.ledger.hasSpentCredit providerId = s.hasSpentCredit providerId := by
  rw [Ledger.hasSpentCredit, VaultState.hasSpentCredit, ledger_credits_lookup, Option.any_map]
  rfl

/-- Both drop the same credits. -/
theorem ledger_dropCredit_foldl (providerIds : List String) (s : VaultState) :
    (providerIds.foldl VaultState.dropCredit s).ledger
      = providerIds.foldl Ledger.dropCredit s.ledger := by
  induction providerIds generalizing s with
  | nil => rfl
  | cons providerId rest ih => rw [List.foldl_cons, List.foldl_cons, ih, ledger_dropCredit]

/-- The age of a credit is not in the books. -/
theorem ledger_refreshOldestCredit (s : VaultState) (providerId : String) :
    (refreshOldestCredit s providerId).ledger = s.ledger := by
  rw [refreshOldestCredit]
  split
  · next credit hc =>
    split
    · have hlookup : s.ledger.credits[providerId]? = some credit.untimed := by simp [hc]
      rw [ledger_setCredit]
      refine Ledger.ext rfl rfl rfl ?_ rfl rfl rfl rfl rfl rfl
      exact FiniteMap.insert_lookup hlookup
    · rfl
  · rfl

/-- The last loop is not in the books. -/
theorem ledger_refreshOldestCredit_foldl (providerIds : List String) (s : VaultState) :
    (providerIds.foldl refreshOldestCredit s).ledger = s.ledger := by
  induction providerIds generalizing s with
  | nil => rfl
  | cons providerId rest ih => rw [List.foldl_cons, ih, ledger_refreshOldestCredit]

/-- **A confirmed batch is the event it is logged as.** -/
theorem ledger_applyBatchConfirmation (settlementIds : List String) (batchId : ℕ) (tx : String)
    (s : VaultState) :
    (applyBatchConfirmation settlementIds batchId tx s).ledger
      = s.ledger.confirm settlementIds batchId tx := by
  have hfold := ledger_confirmSettlement_foldl batchId tx settlementIds (s, [])
  rw [applyBatchConfirmation, Ledger.confirm]
  simp only [hfold, ledger_refreshOldestCredit_foldl, ledger_dropCredit_foldl]
  congr 1
  exact List.filter_congr fun providerId _ => ledger_hasSpentCredit providerId |>.symm

end VaultState

end Subly402
