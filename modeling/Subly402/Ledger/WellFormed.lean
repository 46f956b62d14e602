/-
# What the books look like

Every entry of the books is filed under its own id, a reservation with a
settlement id has been paid, the status of a channel agrees with what it holds,
and the provider of a reservation or a channel is registered.
-/

import Subly402.Ledger.Model

namespace Subly402

open Lib

/-- What the status of a channel says about the rest of it: an open channel has no request and
nothing locked, a busy one has locked exactly its request's amount, and nothing is delivered
before the request is pending. -/
structure ChannelState.Ok (channel : ChannelState) : Prop where
  idle : channel.status = .open → channel.activeRequest = none ∧ channel.balance.clientLocked = 0
  busy : channel.status = .locked ∨ channel.status = .pending →
    ∃ request, channel.activeRequest = some request ∧
      channel.balance.clientLocked = request.amount
  undelivered : channel.status = .locked → ∀ request, channel.activeRequest = some request →
    request.withoutDelivery = request
  live : channel.status ≠ .closed

namespace ChannelState.Ok

variable {channel : ChannelState}

/-- A new channel is idle. -/
theorem new (channelId : String) (client : Pubkey) (providerId : String) (amount : ℕ) (now : ℤ) :
    (newChannel channelId client providerId amount now).Ok := by
  constructor <;> simp [newChannel]

/-- Dropping the times keeps a channel in order. -/
theorem untimed (h : channel.Ok) : channel.untimed.Ok := by
  refine ⟨fun hst => ?_, fun hst => ?_, fun hst request hr => ?_, h.live⟩
  · obtain ⟨hnone, hzero⟩ := h.idle hst
    exact ⟨by simp [hnone], hzero⟩
  · obtain ⟨request, hr, hamount⟩ := h.busy hst
    exact ⟨request.untimed, by simp [hr], hamount⟩
  · obtain ⟨request', hr', rfl⟩ := Option.map_eq_some_iff.1 hr
    have := h.undelivered hst request' hr'
    exact congrArg ChannelRequest.untimed this

/-- Only the times were dropped. -/
theorem of_untimed (h : channel.untimed.Ok) : channel.Ok := by
  refine ⟨fun hst => ?_, fun hst => ?_, fun hst request hr => ?_, h.live⟩
  · obtain ⟨hnone, hzero⟩ := h.idle hst
    exact ⟨Option.map_eq_none_iff.1 hnone, hzero⟩
  · obtain ⟨request, hr, hamount⟩ := h.busy hst
    obtain ⟨request', hr', rfl⟩ := Option.map_eq_some_iff.1 hr
    exact ⟨request', hr', hamount⟩
  · have := h.undelivered hst request.untimed (by simp [hr])
    simp only [ChannelRequest.withoutDelivery, ChannelRequest.untimed,
      ChannelRequest.mk.injEq, true_and, and_true] at this
    cases request
    obtain ⟨rfl, rfl, rfl, rfl, rfl⟩ := this
    rfl

/-- An idle channel that takes a request. -/
theorem lockRequest (h : channel.Ok) (hst : channel.status = .open) (requestId : String)
    (amount : ℕ) (requestHash : Bytes32) (now : ℤ) :
    (channel.lockRequest requestId amount requestHash now).Ok := by
  obtain ⟨-, hzero⟩ := h.idle hst
  constructor <;> simp [ChannelState.lockRequest, hzero, ChannelRequest.withoutDelivery]

/-- What a busy channel has locked is the amount of its request. -/
theorem clientLocked_eq (h : channel.Ok)
    (hst : channel.status = .locked ∨ channel.status = .pending) {request : ChannelRequest}
    (hr : channel.activeRequest = some request) :
    channel.balance.clientLocked = request.amount := by
  obtain ⟨request', hr', hamount⟩ := h.busy hst
  rw [hamount, Option.some.inj (hr.symm.trans hr')]

/-- A locked request that takes a delivery. -/
theorem storeAdaptor (h : channel.Ok) (hst : channel.status = .locked) {request : ChannelRequest}
    (hr : channel.activeRequest = some request) (delivery : AdaptorDelivery) (now : ℤ) :
    (channel.storeAdaptor request delivery now).Ok := by
  have hamount := h.clientLocked_eq (.inl hst) hr
  constructor <;> simp [ChannelState.storeAdaptor, hamount]

/-- A request that is paid leaves an idle channel. -/
theorem payProvider (h : channel.Ok) (hst : channel.status = .locked ∨ channel.status = .pending)
    {request : ChannelRequest} (hr : channel.activeRequest = some request) (now : ℤ) :
    (channel.payProvider request.amount now).Ok := by
  have hamount := h.clientLocked_eq hst hr
  constructor <;> simp [ChannelState.payProvider, hamount]

/-- A request that is refunded leaves an idle channel. -/
theorem refundClient (h : channel.Ok) (hst : channel.status = .locked ∨ channel.status = .pending)
    {request : ChannelRequest} (hr : channel.activeRequest = some request) (now : ℤ) :
    (channel.refundClient request.amount now).Ok := by
  have hamount := h.clientLocked_eq hst hr
  constructor <;> simp [ChannelState.refundClient, hamount]

end ChannelState.Ok

namespace Ledger

/-- The amount of the active request. -/
theorem activeAmount_eq {channel : ChannelState} {request : ChannelRequest}
    (hr : channel.activeRequest = some request) : activeAmount channel = request.amount := by
  simp [activeAmount, hr]

/-- The shape of the entries of the books. -/
structure WellFormed (l : Ledger) : Prop where
  reservation_key : ∀ (key : String) (r : Reservation), l.reservations[key]? = some r →
    r.verificationId = key
  reservation_paid : ∀ (key : String) (r : Reservation), l.reservations[key]? = some r →
    r.settlementId.isSome → r.status.isPaid
  reservation_provider : ∀ (key : String) (r : Reservation), l.reservations[key]? = some r →
    ∃ provider, l.providers[r.providerId]? = some provider
  pending_key : ∀ (key : ℕ) (w : PendingWithdrawal), l.pending[key]? = some w →
    w.withdrawNonce = key
  channel_key : ∀ (key : String) (channel : ChannelState), l.channels[key]? = some channel →
    channel.channelId = key
  channel_ok : ∀ (key : String) (channel : ChannelState), l.channels[key]? = some channel →
    channel.Ok
  channel_provider : ∀ (key : String) (channel : ChannelState), l.channels[key]? = some channel →
    ∃ provider, l.providers[channel.providerId]? = some provider

namespace WellFormed

variable {l : Ledger}

/-! ### Writes -/

section Writes

variable (h : l.WellFormed)
include h

/-- Accounts are outside the invariant. -/
theorem setAccount (client : Pubkey) (a : Account) :
    (l.setAccount client a).WellFormed := ⟨h.1, h.2, h.3, h.4, h.5, h.6, h.7⟩

/-- The index of payment ids is outside it. -/
theorem setPaymentId (paymentId verificationId : String) :
    (l.setPaymentId paymentId verificationId).WellFormed := ⟨h.1, h.2, h.3, h.4, h.5, h.6, h.7⟩

/-- Credits are outside it. -/
theorem setCredit (providerId : String) (credit : ProviderCredit) :
    (l.setCredit providerId credit).WellFormed := ⟨h.1, h.2, h.3, h.4, h.5, h.6, h.7⟩

/-- So are credits that go. -/
theorem dropCredit (providerId : String) :
    (l.dropCredit providerId).WellFormed := ⟨h.1, h.2, h.3, h.4, h.5, h.6, h.7⟩

/-- The history is outside it. -/
theorem setHistory (settlementId : String) (record : SettlementRecord) :
    (l.setHistory settlementId record).WellFormed := ⟨h.1, h.2, h.3, h.4, h.5, h.6, h.7⟩

/-- Closed channels are outside it. -/
theorem pushClosed (closed : ClosedChannel) :
    (l.pushClosed closed).WellFormed := ⟨h.1, h.2, h.3, h.4, h.5, h.6, h.7⟩

/-- A reservation under its own id, settled where it has a settlement. -/
theorem setReservation {key : String} {r : Reservation}
    (hkey : r.verificationId = key) (hpaid : r.settlementId.isSome → r.status.isPaid)
    (hprovider : ∃ provider, l.providers[r.providerId]? = some provider) :
    (l.setReservation key r).WellFormed :=
  ⟨FiniteMap.forall_insert h.1 hkey, FiniteMap.forall_insert h.2 hpaid,
    FiniteMap.forall_insert h.3 hprovider, h.4, h.5, h.6, h.7⟩

/-- A withdrawal under its own nonce. -/
theorem setPending {key : ℕ} {w : PendingWithdrawal}
    (hkey : w.withdrawNonce = key) : (l.setPending key w).WellFormed :=
  ⟨h.1, h.2, h.3, FiniteMap.forall_insert h.4 hkey, h.5, h.6, h.7⟩

/-- A withdrawal that goes. -/
theorem dropPending (key : ℕ) : (l.dropPending key).WellFormed :=
  ⟨h.1, h.2, h.3, FiniteMap.forall_erase h.4, h.5, h.6, h.7⟩

/-- A channel under its own id, with a registered provider. -/
theorem setChannel {key : String} {channel : ChannelState}
    (hkey : channel.channelId = key) (hok : channel.Ok)
    (hprovider : ∃ provider, l.providers[channel.providerId]? = some provider) :
    (l.setChannel key channel).WellFormed :=
  ⟨h.1, h.2, h.3, h.4, FiniteMap.forall_insert h.5 hkey, FiniteMap.forall_insert h.6 hok,
    FiniteMap.forall_insert h.7 hprovider⟩

/-- A channel that goes. -/
theorem dropChannel (key : String) : (l.dropChannel key).WellFormed :=
  ⟨h.1, h.2, h.3, h.4, FiniteMap.forall_erase h.5, FiniteMap.forall_erase h.6,
    FiniteMap.forall_erase h.7⟩

/-- A registration takes no provider away. -/
theorem setProvider (key : String) (provider : ProviderRegistration) :
    (l.setProvider key provider).WellFormed := by
  have hmono : ∀ id : String, (∃ p, l.providers[id]? = some p) →
      ∃ p, (l.setProvider key provider).providers[id]? = some p := fun id ⟨p, hp⟩ => by
    rw [setProvider_providers, FiniteMap.lookup_insert]
    split
    · exact ⟨_, rfl⟩
    · exact ⟨p, hp⟩
  exact ⟨h.1, h.2, fun k r hr => hmono _ (h.reservation_provider k r hr), h.4, h.5, h.6,
    fun k ch hch => hmono _ (h.channel_provider k ch hch)⟩

end Writes

end WellFormed

/-! ### A confirmed batch -/

/-- The reservation found for a settlement id is one of the books, and carries the id. -/
theorem reservationOf_eq_some {l : Ledger} {settlementId key : String} {r : Reservation}
    (h : l.reservationOf settlementId = some (key, r)) :
    l.reservations[key]? = some r ∧ r.settlementId = some settlementId := by
  refine ⟨FiniteMap.mem_toList_iff.1 (List.mem_of_find?_eq_some h), ?_⟩
  simpa using List.find?_some h

/-- The credit found holds the settlement. -/
theorem creditNaming_eq_some {l : Ledger} {settlementId key : String} {c : ProviderCredit}
    (h : l.creditNaming settlementId = some (key, c)) :
    l.credits[key]? = some c ∧ settlementId ∈ c.settlementIds := by
  refine ⟨FiniteMap.mem_toList_iff.1 (List.mem_of_find?_eq_some h), ?_⟩
  simpa using List.find?_some h

/-- **What one settlement of a batch can do.**  It writes to the history, the batches and the
credits; and it may mark one paid reservation, the one that carries its id. -/
theorem confirmSettlement_cases (batchId : ℕ) (tx : String) (acc : Ledger × List String)
    (settlementId : String) :
    ∃ history batches credits reservations,
      (confirmSettlement batchId tx acc settlementId).1
        = { acc.1 with history, batches, credits, reservations } ∧
      (reservations = acc.1.reservations ∨
        ∃ key r, acc.1.reservations[key]? = some r ∧ r.settlementId = some settlementId ∧
          reservations = acc.1.reservations.insert key { r with status := .batchedOnchain }) := by
  rw [confirmSettlement]
  simp only
  split
  · next key r hr =>
    obtain ⟨hkey, hid⟩ := reservationOf_eq_some hr
    split <;> exact ⟨_, _, _, _, rfl, .inr ⟨key, r, hkey, hid, rfl⟩⟩
  · split <;> exact ⟨_, _, _, _, rfl, .inl rfl⟩

/-- A property of the books that each settlement of a batch and each dropped credit keep is kept
by the batch. -/
theorem confirm_induction {motive : Ledger → Prop} {l : Ledger} (settlementIds : List String)
    (batchId : ℕ) (tx : String) (start : motive l)
    (settlement : ∀ acc settlementId, motive acc.1 →
      motive (confirmSettlement batchId tx acc settlementId).1)
    (drop : ∀ l providerId, motive l → motive (l.dropCredit providerId)) :
    motive (l.confirm settlementIds batchId tx) := by
  rw [confirm]
  have hfold : motive (settlementIds.foldl (confirmSettlement batchId tx) (l, [])).1 :=
    List.foldlRecOn settlementIds (motive := fun acc => motive acc.1) _ start
      fun acc hacc settlementId _ => settlement acc settlementId hacc
  exact List.foldlRecOn _ (motive := motive) _ hfold fun l hl providerId _ => drop l providerId hl

namespace WellFormed

variable {l : Ledger}

/-- One turn of the batch loop keeps the invariant. -/
theorem confirmSettlement {acc : Ledger × List String} (h : acc.1.WellFormed) (batchId : ℕ)
    (tx settlementId : String) :
    (Ledger.confirmSettlement batchId tx acc settlementId).1.WellFormed := by
  obtain ⟨history, batches, credits, reservations, heq, hres⟩ :=
    confirmSettlement_cases batchId tx acc settlementId
  rw [heq]
  obtain rfl | ⟨key, r, hr, hid, rfl⟩ := hres
  · exact ⟨h.1, h.2, h.3, h.4, h.5, h.6, h.7⟩
  · have := h.setReservation (r := { r with status := .batchedOnchain }) (h.reservation_key key r hr)
      (fun _ => rfl) (h.reservation_provider key r hr)
    exact ⟨this.1, this.2, this.3, this.4, this.5, this.6, this.7⟩

/-- A confirmed batch keeps the invariant. -/
theorem confirm (h : l.WellFormed) (settlementIds : List String) (batchId : ℕ) (tx : String) :
    (l.confirm settlementIds batchId tx).WellFormed :=
  confirm_induction settlementIds batchId tx h
    (fun _ settlementId hacc => hacc.confirmSettlement batchId tx settlementId)
    fun _ providerId hl => hl.dropCredit providerId

/-! ### Events -/

/-- A transition of one channel. -/
theorem updateChannel (h : l.WellFormed) {channelId : String} {channel : ChannelState}
    {f : ChannelState → ChannelState} (hch : l.channels[channelId]? = some channel)
    (hok : (f channel).Ok) (hid : (f channel).channelId = channel.channelId)
    (hprovider : (f channel).providerId = channel.providerId) :
    (l.updateChannel channelId f).WellFormed := by
  simp only [Ledger.updateChannel, hch]
  refine h.setChannel (hid.trans (h.channel_key _ _ hch)) hok.untimed ?_
  simpa [hprovider] using h.channel_provider _ _ hch

/-- **Every event keeps the shape of the books.** -/
theorem apply (h : l.WellFormed) {curve : Curve} {ev : LedgerEvent} (he : l.Enabled curve ev) :
    (l.apply ev).WellFormed := by
  cases ev with
  | deposit client amount => exact h.setAccount _ _
  | authorize w => exact (h.setAccount _ _).setPending rfl
  | withdraw n | expireWithdrawal n =>
    obtain ⟨w, hw⟩ := he
    simp only [Ledger.apply, hw]
    exact (h.dropPending n).setAccount _ _
  | reserve r =>
    obtain ⟨-, -, hid, -, hprovider⟩ := he
    exact ((h.setAccount _ _).setReservation rfl (by simp [hid]) hprovider).setPaymentId _ _
  | release key status =>
    obtain ⟨-, r, hr, hst⟩ := he
    have hunpaid : r.settlementId.isSome → False := fun hsome => by
      simpa [hst, ReservationStatus.isPaid] using h.reservation_paid key r hr hsome
    simp only [Ledger.apply, hr]
    exact (h.setAccount _ _).setReservation (h.reservation_key key r hr)
      (fun hsome => (hunpaid hsome).elim) (h.reservation_provider key r hr)
  | settle key settlementId t =>
    obtain ⟨-, r, p, hr, -, hp⟩ := he
    simp only [Ledger.apply, settle, hr, hp]
    exact (((h.setAccount _ _).setCredit _ _).setHistory _ _).setReservation
      (h.reservation_key _ r hr) (fun _ => rfl) ⟨p, hp⟩
  | register p => exact h.setProvider _ _
  | confirm ids b tx => exact h.confirm ids b tx
  | openChannel channelId client providerId amount =>
    exact (h.setAccount _ _).setChannel rfl (.new _ _ _ _ _) he.2.2
  | submit channelId requestId amount requestHash =>
    obtain ⟨channel, hch, hst, -⟩ := he
    exact h.updateChannel hch ((h.channel_ok _ _ hch).lockRequest hst _ _ _ _) rfl rfl
  | deliver channelId delivery =>
    obtain ⟨channel, request, hch, hst, hr, -⟩ := he
    have hok := (h.channel_ok _ _ hch).storeAdaptor hst hr delivery 0
    exact h.updateChannel hch (by simpa only [hr] using hok) (by simp only [hr]; rfl)
      (by simp only [hr]; rfl)
  | finalize channelId =>
    obtain ⟨channel, request, hch, hst, hr⟩ := he
    have hok := (h.channel_ok _ _ hch).payProvider (.inr hst) hr 0
    exact h.updateChannel hch (by simpa only [activeAmount_eq hr] using hok) rfl rfl
  | expireRequest channelId =>
    obtain ⟨channel, request, hch, hst, hr⟩ := he
    have hok := (h.channel_ok _ _ hch).refundClient hst hr 0
    exact h.updateChannel hch (by simpa only [activeAmount_eq hr] using hok) rfl rfl
  | close channelId settlementId =>
    obtain ⟨-, channel, p, hch, -, hp⟩ := he
    simp only [Ledger.apply, close, hch, hp]
    split
    · exact (((h.dropChannel _).setAccount _ _).setCredit _ _).pushClosed _
    · exact ((h.dropChannel _).setAccount _ _).pushClosed _

end WellFormed

end Ledger

end Subly402
