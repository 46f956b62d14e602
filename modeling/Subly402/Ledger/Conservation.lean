/-
# The books balance

What the ledger owes its clients is somewhere: the amount a client has locked is
the sum of what holds it (reserved payments, pending withdrawals, open channels),
and free, locked, paid and withdrawn together are what was deposited.
-/

import Subly402.Ledger.WellFormed

namespace Subly402

open Lib

variable {client : Pubkey} {r : Reservation} {key : String} {w : PendingWithdrawal} {l' : Ledger}
  {a : Account} {n : ℕ}

namespace Ledger

/-! ### Who holds what -/

/-- What a reservation holds of a client's locked balance. -/
def reservedFor (client : Pubkey) (r : Reservation) : ℕ :=
  if r.client = client ∧ r.status = .reserved then r.amount else 0

/-- What a reservation has paid on a client's behalf. -/
def paidFor (client : Pubkey) (r : Reservation) : ℕ :=
  if r.client = client ∧ r.status.isPaid then r.amount else 0

/-- What a pending withdrawal holds of a client's locked balance. -/
def pendingFor (client : Pubkey) (w : PendingWithdrawal) : ℕ :=
  if w.client = client then w.amount else 0

/-- What a channel holds of a client's locked balance. -/
def channelFor (client : Pubkey) (channel : ChannelState) : ℕ :=
  if channel.client = client then channel.balance.sum else 0

/-- What a closed channel has paid on a client's behalf. -/
def closedFor (client : Pubkey) (c : ClosedChannel) : ℕ :=
  if c.client = client then c.providerEarned else 0

variable (l : Ledger)

/-- Everything that holds part of a client's locked balance. -/
def held (client : Pubkey) : ℕ :=
  FiniteMap.total (reservedFor client) l.reservations
    + FiniteMap.total (pendingFor client) l.pending
    + FiniteMap.total (channelFor client) l.channels

/-- Everything paid on a client's behalf. -/
def paid (client : Pubkey) : ℕ :=
  FiniteMap.total (paidFor client) l.reservations + (l.closed.map (closedFor client)).sum

/-- The two sums. -/
structure Conserved : Prop where
  locked : ∀ client, (l.account client).locked = l.held client
  total : ∀ client, (l.account client).free + (l.account client).locked + l.paid client
    + (l.account client).withdrawn = (l.account client).deposited

variable {l}

/-! ### What one event does to the sums -/

/-- What a reserved payment holds of its client's money. -/
theorem reservedFor_eq (h : r.status = .reserved) :
    reservedFor client r = if r.client = client then r.amount else 0 := by
  simp [reservedFor, h]

/-- A reserved payment is not paid yet. -/
theorem paidFor_reserved (h : r.status = .reserved) :
    paidFor client r = 0 := by
  simp [paidFor, h, ReservationStatus.isPaid]

/-- A reservation's amount is part of what its client has locked. -/
theorem Conserved.reserved_le (h : l.Conserved) (hr : l.reservations[key]? = some r)
    (hst : r.status = .reserved) :
    r.amount ≤ (l.account r.client).locked := by
  have hle := FiniteMap.le_total hr (reservedFor r.client)
  rw [reservedFor_eq hst, if_pos rfl] at hle
  rw [h.locked, held]
  omega

/-- So is a pending withdrawal's. -/
theorem Conserved.pending_le (h : l.Conserved) {key : ℕ} (hw : l.pending[key]? = some w) :
    w.amount ≤ (l.account w.client).locked := by
  have hle := FiniteMap.le_total hw (pendingFor w.client)
  rw [pendingFor, if_pos rfl] at hle
  rw [h.locked, held]
  omega

/-- So is everything in a channel. -/
theorem Conserved.channel_le (h : l.Conserved) {channel : ChannelState}
    (hch : l.channels[key]? = some channel) :
    channel.balance.sum ≤ (l.account channel.client).locked := by
  have hle := FiniteMap.le_total hch (channelFor channel.client)
  rw [channelFor, if_pos rfl] at hle
  rw [h.locked, held]
  omega

/-- **An event touches one client.**  The sums of the others stay, and it is enough to check the
two equations at that client's new account. -/
theorem Conserved.update (h : l.Conserved) (hacc : l'.account = Function.update l.account client a)
    (hother : ∀ c, c ≠ client → l'.held c = l.held c ∧ l'.paid c = l.paid c)
    (hlocked : a.locked = l'.held client)
    (htotal : a.free + a.locked + l'.paid client + a.withdrawn = a.deposited) : l'.Conserved := by
  constructor <;> intro c <;> by_cases hc : c = client
  · subst hc; simpa [hacc] using hlocked
  · rw [hacc, Function.update_of_ne hc, (hother c hc).1]
    exact h.locked c
  · subst hc; simpa [hacc] using htotal
  · rw [hacc, Function.update_of_ne hc, (hother c hc).2]
    exact h.total c

/-- An event that moves no money keeps the sums. -/
theorem Conserved.of_same (h : l.Conserved) (hacc : l'.account = l.account)
    (hsame : ∀ c, l'.held c = l.held c ∧ l'.paid c = l.paid c) : l'.Conserved := by
  constructor <;> intro c
  · rw [hacc, (hsame c).1]; exact h.locked c
  · rw [hacc, (hsame c).2]; exact h.total c

/-- A deposit adds to both sides. -/
theorem Conserved.deposit (h : l.Conserved) (client : Pubkey) (amount : ℕ) :
    (l.apply (.deposit client amount)).Conserved := by
  have h₁ := h.locked client
  have h₂ := h.total client
  refine h.update rfl (fun c _ => ⟨rfl, rfl⟩) h₁ ?_
  simp only [Account.deposit, paid, setAccount, apply] at h₂ ⊢
  omega

/-- A reservation moves free money to locked money. -/
theorem Conserved.reserve (h : l.Conserved) (hle : r.amount ≤ (l.account r.client).free)
    (hst : r.status = .reserved) (hnew : l.reservations[r.verificationId]? = none) :
    (l.apply (.reserve r)).Conserved := by
  have hheld : ∀ c, (l.apply (.reserve r)).held c
      = l.held c + if r.client = c then r.amount else 0 := fun c => by
    simp only [held, apply, setPaymentId, setReservation, setAccount,
      FiniteMap.total_insert_absent hnew, reservedFor_eq hst]
    omega
  have hpaid : ∀ c, (l.apply (.reserve r)).paid c = l.paid c := fun c => by
    simp only [paid, apply, setPaymentId, setReservation, setAccount,
      FiniteMap.total_insert_absent hnew, paidFor_reserved hst]
    omega
  have h₁ := h.locked r.client
  have h₂ := h.total r.client
  refine h.update rfl (fun c hc => ⟨by simp [hheld, hc.symm], hpaid c⟩) ?_ ?_
  · simp [hheld, h₁]
  · simp only [Account.reserve, hpaid]
    omega

/-- So does an authorised withdrawal. -/
theorem Conserved.authorize (h : l.Conserved) (hle : w.amount ≤ (l.account w.client).free)
    (hnew : l.pending[w.withdrawNonce]? = none) :
    (l.apply (.authorize w)).Conserved := by
  have hheld : ∀ c, (l.apply (.authorize w)).held c
      = l.held c + if w.client = c then w.amount else 0 := fun c => by
    simp only [held, apply, setPending, setAccount, FiniteMap.total_insert_absent hnew, pendingFor]
    omega
  have h₁ := h.locked w.client
  have h₂ := h.total w.client
  refine h.update rfl (fun c hc => ⟨by simp [hheld, hc.symm], rfl⟩) ?_ ?_
  · simp [hheld, h₁]
  · change _ + l.paid w.client + _ = _
    simp only [Account.reserve]
    omega

/-- A pending withdrawal ends: its amount leaves what is held, wherever it goes. -/
theorem held_dropPending (hw : l.pending[n]? = some w) (a : Account) (c : Pubkey) :
    ((l.dropPending n).setAccount w.client a).held c + (if w.client = c then w.amount else 0)
      = l.held c := by
  have := FiniteMap.total_erase_present hw (pendingFor c)
  simp only [held, setAccount, dropPending, pendingFor] at this ⊢
  omega

/-- A withdrawal ends and its locked amount goes somewhere. -/
theorem Conserved.endPending (h : l.Conserved) (hw : l.pending[n]? = some w)
    (hlocked : a.locked + w.amount = (l.account w.client).locked)
    (htotal : a.free + a.locked + l.paid w.client + a.withdrawn = a.deposited) :
    ((l.dropPending n).setAccount w.client a).Conserved := by
  have hheld := held_dropPending hw a
  have h₁ := h.locked w.client
  refine h.update rfl (fun c hc => ⟨?_, rfl⟩) ?_ htotal
  · simpa [hc.symm] using hheld c
  · have := hheld w.client
    rw [if_pos rfl] at this
    omega

/-- A reserved payment ends: its amount leaves what is held, and is paid where the new status
says so. -/
theorem Conserved.endReservation (h : l.Conserved) {r' : Reservation}
    (hr : l.reservations[key]? = some r) (hst : r.status = .reserved)
    (hres : l'.reservations = l.reservations.insert key r') (hclient : r'.client = r.client)
    (hst' : r'.status ≠ .reserved) (hpending : l'.pending = l.pending)
    (hchannels : l'.channels = l.channels) (hclosed : l'.closed = l.closed)
    (hacc : l'.account = Function.update l.account r.client a)
    (hlocked : a.locked + r.amount = (l.account r.client).locked)
    (htotal : a.free + a.locked + (l.paid r.client + paidFor r.client r') + a.withdrawn = a.deposited) :
    l'.Conserved := by
  have hheld : ∀ c, l'.held c + (if r.client = c then r.amount else 0) = l.held c := fun c => by
    have := FiniteMap.total_insert_present hr (reservedFor c) r'
    simp only [held, hres, hpending, hchannels, reservedFor_eq hst] at this ⊢
    simp only [reservedFor, hst', and_false, if_false] at this
    omega
  have hpaid : ∀ c, l'.paid c = l.paid c + paidFor c r' := fun c => by
    have := FiniteMap.total_insert_present hr (paidFor c) r'
    simp only [paid, hres, hclosed, paidFor_reserved hst] at this ⊢
    omega
  have h₁ := h.locked r.client
  refine h.update hacc (fun c hc => ⟨?_, ?_⟩) ?_ ?_
  · simpa [hc.symm] using hheld c
  · simp [hpaid, paidFor, hclient, hc.symm]
  · have := hheld r.client
    rw [if_pos rfl] at this
    omega
  · rw [hpaid]; exact htotal

/-- A release gives locked money back. -/
theorem Conserved.release (h : l.Conserved) {status : ReservationStatus}
    (hr : l.reservations[key]? = some r) (hst : r.status = .reserved)
    (hstatus : status = .cancelled ∨ status = .expired) :
    (l.apply (.release key status)).Conserved := by
  have hle := h.reserved_le hr hst
  have h₂ := h.total r.client
  have hunpaid : paidFor r.client { r with status } = 0 := by
    rcases hstatus with rfl | rfl <;> simp [paidFor, ReservationStatus.isPaid]
  simp only [apply, hr]
  refine h.endReservation hr hst rfl rfl ?_ rfl rfl rfl rfl ?_ ?_
  · rcases hstatus with rfl | rfl <;> simp
  · simp only [Account.release]; omega
  · simp only [Account.release, hunpaid]; omega

/-- A settlement turns locked money into paid money. -/
theorem Conserved.settle (h : l.Conserved) {settlementId : String} {t : ℤ}
    {p : ProviderRegistration} (hr : l.reservations[key]? = some r) (hst : r.status = .reserved)
    (hp : l.providers[r.providerId]? = some p) :
    (l.apply (.settle key settlementId t)).Conserved := by
  have hle := h.reserved_le hr hst
  have h₂ := h.total r.client
  simp only [apply, Ledger.settle, hr, hp]
  refine h.endReservation hr hst rfl rfl (by simp) rfl rfl rfl rfl ?_ ?_
  · simp only [Account.spend]; omega
  · simp only [Account.spend, paidFor, ReservationStatus.isPaid]; simp; omega

/-! ### Channels -/

/-- An update of a channel that keeps its client and what it holds keeps the sums. -/
theorem Conserved.updateChannel (h : l.Conserved) {channel : ChannelState}
    {f : ChannelState → ChannelState} (hch : l.channels[key]? = some channel)
    (hclient : (f channel).client = channel.client)
    (hsum : (f channel).balance.sum = channel.balance.sum) : (l.updateChannel key f).Conserved := by
  have hsame : ∀ c, channelFor c (f channel).untimed = channelFor c channel := fun c => by
    simp [channelFor, hclient, hsum]
  refine h.of_same (by simp only [Ledger.updateChannel, hch]; rfl) fun c => ⟨?_, ?_⟩
  · simp [Ledger.updateChannel, hch, held, FiniteMap.total_insert_same hch (hsame c)]
  · simp [Ledger.updateChannel, hch, paid]

/-- A channel holds its deposit as locked money. -/
theorem Conserved.openChannel (h : l.Conserved) {channelId providerId : String} {amount : ℕ}
    (hle : amount ≤ (l.account client).free) (hnew : l.channels[channelId]? = none) :
    (l.apply (.openChannel channelId client providerId amount)).Conserved := by
  have hheld : ∀ c, (l.apply (.openChannel channelId client providerId amount)).held c
      = l.held c + if client = c then amount else 0 := fun c => by
    simp only [held, apply, setChannel, setAccount, FiniteMap.total_insert_absent hnew, channelFor,
      newChannel, ChannelBalance.sum, Nat.add_zero]
    omega
  have h₁ := h.locked client
  have h₂ := h.total client
  refine h.update rfl (fun c hc => ⟨by simp [hheld, hc.symm], rfl⟩) ?_ ?_
  · simp [hheld, h₁]
  · change _ + l.paid client + _ = _
    simp only [Account.reserve]
    omega

/-- A closed channel splits its deposit between its two sides. -/
theorem Conserved.close (h : l.Conserved) {channelId settlementId : String}
    {channel : ChannelState} {p : ProviderRegistration} (hch : l.channels[channelId]? = some channel)
    (hidle : channel.balance.clientLocked = 0) (hp : l.providers[channel.providerId]? = some p) :
    (l.apply (.close channelId settlementId)).Conserved := by
  have hle := h.channel_le hch
  have hsum : channel.balance.sum = channel.balance.clientFree + channel.balance.providerEarned := by
    simp [ChannelBalance.sum, hidle]
  have hheld : ∀ c, (l.apply (.close channelId settlementId)).held c
      + (if channel.client = c then channel.balance.sum else 0) = l.held c := fun c => by
    have := FiniteMap.total_erase_present hch (channelFor c)
    simp only [held, apply, Ledger.close, hch, hp, channelFor] at this ⊢
    split <;> simp_all <;> omega
  have hpaid : ∀ c, (l.apply (.close channelId settlementId)).paid c
      = l.paid c + if channel.client = c then channel.balance.providerEarned else 0 := fun c => by
    simp only [paid, apply, Ledger.close, hch, hp]
    split <;> simp [closedFor, ChannelState.closedAs] <;> omega
  have h₁ := h.locked channel.client
  have h₂ := h.total channel.client
  refine h.update (by simp only [apply, Ledger.close, hch, hp]; split <;> rfl)
    (fun c hc => ⟨?_, by simp [hpaid, hc.symm]⟩) ?_ ?_
  · simpa [hc.symm] using hheld c
  · have := hheld channel.client
    rw [if_pos rfl] at this
    simp only
    omega
  · simp only [hpaid, if_true]
    omega

/-! ### Batches -/

/-- The reservation a batch marks was paid before, and is paid after. -/
theorem Conserved.confirmSettlement {acc : Ledger × List String} (h : acc.1.Conserved)
    (hw : acc.1.WellFormed) (batchId : ℕ) (tx settlementId : String) :
    (Ledger.confirmSettlement batchId tx acc settlementId).1.Conserved := by
  obtain ⟨history, batches, credits, reservations, heq, hres⟩ :=
    confirmSettlement_cases batchId tx acc settlementId
  rw [heq]
  obtain rfl | ⟨key, r, hr, hid, rfl⟩ := hres
  · exact h.of_same rfl fun c => ⟨rfl, rfl⟩
  · have hpaid := hw.reservation_paid key r hr (by simp [hid])
    have hst : r.status ≠ .reserved := fun hst => by simp [hst, ReservationStatus.isPaid] at hpaid
    have hheld : ∀ c, reservedFor c { r with status := .batchedOnchain } = reservedFor c r :=
      fun c => by simp [reservedFor, hst]
    have hpaidFor : ∀ c, paidFor c { r with status := .batchedOnchain } = paidFor c r :=
      fun c => by rw [paidFor, paidFor, hpaid]; rfl
    refine h.of_same rfl fun c => ⟨?_, ?_⟩
    · simp only [held, FiniteMap.total_insert_same hr (hheld c)]
    · simp only [paid, FiniteMap.total_insert_same hr (hpaidFor c)]

/-- A confirmed batch moves no money of clients. -/
theorem Conserved.confirm (h : l.Conserved) (hw : l.WellFormed) (settlementIds : List String)
    (batchId : ℕ) (tx : String) : (l.confirm settlementIds batchId tx).Conserved :=
  (confirm_induction (motive := fun l => l.WellFormed ∧ l.Conserved) settlementIds batchId tx
    ⟨hw, h⟩
    (fun _ settlementId hacc => ⟨hacc.1.confirmSettlement batchId tx settlementId,
      hacc.2.confirmSettlement hacc.1 batchId tx settlementId⟩)
    fun _ providerId hl => ⟨hl.1.dropCredit providerId, hl.2.of_same rfl fun _ => ⟨rfl, rfl⟩⟩).2

/-! ### Every event -/

/-- **Every event keeps the sums.** -/
theorem Conserved.apply (h : l.Conserved) (hw : l.WellFormed) {curve : Curve} {ev : LedgerEvent}
    (he : l.Enabled curve ev) : (l.apply ev).Conserved := by
  cases ev with
  | deposit client amount => exact h.deposit client amount
  | authorize w => exact h.authorize he.1 he.2
  | withdraw n | expireWithdrawal n =>
    obtain ⟨w, hw⟩ := he
    have hle := h.pending_le hw
    have h₂ := h.total w.client
    simp only [Ledger.apply, hw]
    refine h.endPending hw ?_ ?_ <;> simp only [Account.withdraw, Account.release] <;> omega
  | reserve r => exact h.reserve he.1 he.2.1 he.2.2.2.1
  | release key status =>
    obtain ⟨hstatus, r, hr, hst⟩ := he
    exact h.release hr hst hstatus
  | settle key settlementId t =>
    obtain ⟨-, r, p, hr, hst, hp⟩ := he
    exact h.settle hr hst hp
  | register p => exact h.of_same rfl fun _ => ⟨rfl, rfl⟩
  | confirm ids b tx => exact h.confirm hw ids b tx
  | openChannel channelId client providerId amount => exact h.openChannel he.1 he.2.1
  | submit channelId requestId amount requestHash =>
    obtain ⟨channel, hch, hst, -, hle⟩ := he
    refine h.updateChannel hch rfl ?_
    simp only [ChannelState.lockRequest, ChannelBalance.sum]
    omega
  | deliver channelId delivery =>
    obtain ⟨channel, request, hch, -, hr, -⟩ := he
    exact h.updateChannel hch (by simp only [hr]; rfl) (by simp only [hr]; rfl)
  | finalize channelId =>
    obtain ⟨channel, request, hch, hst, hr⟩ := he
    have hlocked := (hw.channel_ok _ _ hch).clientLocked_eq (.inr hst) hr
    refine h.updateChannel hch rfl ?_
    simp only [activeAmount_eq hr, ChannelState.payProvider, ChannelBalance.sum]
    omega
  | expireRequest channelId =>
    obtain ⟨channel, request, hch, hst, hr⟩ := he
    have hlocked := (hw.channel_ok _ _ hch).clientLocked_eq hst hr
    refine h.updateChannel hch rfl ?_
    simp only [activeAmount_eq hr, ChannelState.refundClient, ChannelBalance.sum]
    omega
  | close channelId settlementId =>
    obtain ⟨-, channel, p, hch, hst, hp⟩ := he
    exact h.close hch ((hw.channel_ok _ _ hch).idle hst).2 hp

end Ledger

end Subly402
