/-
# Where the ids in the books come from

Reservations, channels and settlements are filed under ids that the enclave draws
one after the other.  `IdsIn P` says that every id in the books satisfies `P`; an
event that brings in only such ids keeps it (`IdsIn.apply`), and an id outside `P`
is new to every book (`IdsIn.fresh`).
-/

import Subly402.Ledger.WellFormed

namespace Subly402

open Lib

/-- The ids an event brings into the books. -/
def LedgerEvent.newIds : LedgerEvent → List String
  | .reserve reservation => [reservation.verificationId]
  | .settle _ settlementId _ => [settlementId]
  | .openChannel channelId _ _ _ => [channelId]
  | .close _ settlementId => [settlementId]
  | _ => []

namespace Ledger

/-- Every id in the books satisfies `P`. -/
structure IdsIn (P : String → Prop) (l : Ledger) : Prop where
  reservations : ∀ (key : String) (r : Reservation), l.reservations[key]? = some r → P key
  settled : ∀ (key : String) (r : Reservation), l.reservations[key]? = some r →
    ∀ id, r.settlementId = some id → P id
  credited : ∀ (key : String) (c : ProviderCredit), l.credits[key]? = some c →
    ∀ id ∈ c.settlementIds, P id
  history : ∀ (key : String) (r : SettlementRecord), l.history[key]? = some r → P key
  channels : ∀ (key : String) (ch : ChannelState), l.channels[key]? = some ch → P key
  closed : ∀ c ∈ l.closed, ∀ id, c.settlementId = some id → P id

namespace IdsIn

variable {P : String → Prop} {l : Ledger}

section Writes

variable (h : l.IdsIn P)
include h

/-- A weaker condition on ids. -/
theorem imp {Q : String → Prop} (hPQ : ∀ id, P id → Q id) : l.IdsIn Q where
  reservations key r hr := hPQ _ (h.reservations key r hr)
  settled key r hr id hid := hPQ _ (h.settled key r hr id hid)
  credited key c hc id hid := hPQ _ (h.credited key c hc id hid)
  history key r hr := hPQ _ (h.history key r hr)
  channels key ch hch := hPQ _ (h.channels key ch hch)
  closed c hc id hid := hPQ _ (h.closed c hc id hid)

/-- An id outside `P` is in no book. -/
theorem fresh {id : String} (hid : ¬ P id) : l.FreshSettlement id where
  reservations key r hr heq := hid (h.settled key r hr id heq)
  credits key c hc hmem := hid (h.credited key c hc id hmem)
  history := by
    cases hr : l.history[id]? with
    | none => rfl
    | some r => exact (hid (h.history id r hr)).elim
  closed c hc heq := hid (h.closed c hc id heq)

/-! Writes. -/

/-- A reservation under a known id, with a known settlement. -/
theorem setReservation {key : String} {r : Reservation} (hkey : P key)
    (hid : ∀ id, r.settlementId = some id → P id) : (l.setReservation key r).IdsIn P :=
  ⟨FiniteMap.forall_insert h.1 hkey, FiniteMap.forall_insert h.2 hid, h.3, h.4, h.5, h.6⟩

/-- A credit with known settlements. -/
theorem setCredit {key : String} {c : ProviderCredit}
    (hids : ∀ id ∈ c.settlementIds, P id) : (l.setCredit key c).IdsIn P :=
  ⟨h.1, h.2, FiniteMap.forall_insert h.3 hids, h.4, h.5, h.6⟩

/-- Nothing new where a credit goes. -/
theorem dropCredit (key : String) : (l.dropCredit key).IdsIn P :=
  ⟨h.1, h.2, FiniteMap.forall_erase h.3, h.4, h.5, h.6⟩

/-- A record under a known id. -/
theorem setHistory {key : String} {r : SettlementRecord} (hkey : P key) :
    (l.setHistory key r).IdsIn P :=
  ⟨h.1, h.2, h.3, FiniteMap.forall_insert h.4 hkey, h.5, h.6⟩

/-- Nothing new where a record goes. -/
theorem dropHistory (key : String) : (l.dropHistory key).IdsIn P :=
  ⟨h.1, h.2, h.3, FiniteMap.forall_erase h.4, h.5, h.6⟩

/-- A channel under a known id. -/
theorem setChannel {key : String} {ch : ChannelState} (hkey : P key) :
    (l.setChannel key ch).IdsIn P :=
  ⟨h.1, h.2, h.3, h.4, FiniteMap.forall_insert h.5 hkey, h.6⟩

/-- Nothing new where a channel goes. -/
theorem dropChannel (key : String) : (l.dropChannel key).IdsIn P :=
  ⟨h.1, h.2, h.3, h.4, FiniteMap.forall_erase h.5, h.6⟩

/-- A closed channel with a known settlement. -/
theorem pushClosed {c : ClosedChannel}
    (hid : ∀ id, c.settlementId = some id → P id) : (l.pushClosed c).IdsIn P := by
  refine ⟨h.1, h.2, h.3, h.4, h.5, fun c' hc' => ?_⟩
  rw [pushClosed_closed, List.mem_append, List.mem_singleton] at hc'
  obtain hc' | rfl := hc'
  · exact h.closed c' hc'
  · exact hid

/-- A write to a book without ids. -/
theorem of_same {l' : Ledger} (hr : l'.reservations = l.reservations)
    (hc : l'.credits = l.credits) (hh : l'.history = l.history) (hch : l'.channels = l.channels)
    (hcl : l'.closed = l.closed) : l'.IdsIn P := by
  refine ⟨?_, ?_, ?_, ?_, ?_, ?_⟩
  · rw [hr]; exact h.reservations
  · rw [hr]; exact h.settled
  · rw [hc]; exact h.credited
  · rw [hh]; exact h.history
  · rw [hch]; exact h.channels
  · rw [hcl]; exact h.closed

/-- Accounts have no ids. -/
theorem setAccount (client : Pubkey) (a : Account) :
    (l.setAccount client a).IdsIn P :=
  h.of_same rfl rfl rfl rfl rfl

/-- A credit that gains a known settlement. -/
theorem credit (provider : ProviderRegistration) (providerId : String)
    (amount : ℕ) {settlementId : String} (hid : P settlementId) :
    (l.credit provider providerId amount settlementId).IdsIn P := by
  refine h.setCredit fun id hmem => ?_
  cases hc : l.credits[providerId]? with
  | none =>
    rw [hc, creditProvider, List.mem_singleton] at hmem
    rw [hmem]; exact hid
  | some c =>
    rw [hc, creditProvider, List.mem_append, List.mem_singleton] at hmem
    obtain hmem | rfl := hmem
    · exact h.credited providerId c hc id hmem
    · exact hid

end Writes

/-- Taking a settlement off a credit adds no id. -/
theorem setCredit_without (h : l.IdsIn P) {key : String} {c : ProviderCredit}
    (hc : l.credits[key]? = some c) (settlementId : String) (amount : ℕ) :
    (l.setCredit key (c.without settlementId amount)).IdsIn P :=
  h.setCredit fun id hmem => h.credited key c hc id (List.mem_of_mem_filter hmem)

/-! Events. -/

/-- A confirmed settlement brings no new id. -/
theorem confirmSettlement {acc : Ledger × List String} (h : acc.1.IdsIn P) (batchId : ℕ)
    (tx settlementId : String) :
    (Ledger.confirmSettlement batchId tx acc settlementId).1.IdsIn P := by
  have hbase : ((acc.1.dropHistory settlementId).setBatch settlementId ⟨batchId, tx⟩).IdsIn P :=
    (h.dropHistory settlementId).of_same rfl rfl rfl rfl rfl
  rw [Ledger.confirmSettlement]
  simp only
  split
  · next key r hr =>
    obtain ⟨hkey, hid⟩ := reservationOf_eq_some hr
    refine IdsIn.setReservation ?_ (hbase.reservations key r hkey) (hbase.settled key r hkey)
    split
    · next c hc => exact hbase.setCredit_without hc _ _
    · exact hbase
  · split
    · next key c hc =>
      exact hbase.setCredit_without (creditNaming_eq_some hc).1 _ _
    · exact hbase

/-- **An event that brings in only ids of `P` keeps them all in `P`.** -/
theorem apply (h : l.IdsIn P) {curve : Curve} {ev : LedgerEvent} (he : l.Enabled curve ev)
    (hnew : ∀ id ∈ ev.newIds, P id) : (l.apply ev).IdsIn P := by
  cases ev with
  | deposit | authorize | register => exact h.of_same rfl rfl rfl rfl rfl
  | withdraw n | expireWithdrawal n =>
    obtain ⟨w, hw⟩ := he
    simp only [Ledger.apply, hw]
    exact h.of_same rfl rfl rfl rfl rfl
  | reserve r =>
    have hkey : P r.verificationId := hnew _ (List.mem_singleton_self _)
    have hset := h.setReservation (r := r) hkey fun id hid => by simp [he.2.2.1] at hid
    exact hset.of_same rfl rfl rfl rfl rfl
  | release key status =>
    obtain ⟨-, r, hr, -⟩ := he
    simp only [Ledger.apply, hr]
    exact (h.setAccount _ _).setReservation (h.reservations key r hr) (h.settled key r hr)
  | settle key settlementId t =>
    obtain ⟨-, r, p, hr, -, hp⟩ := he
    have hid : P settlementId := hnew _ (List.mem_singleton_self _)
    simp only [Ledger.apply, settle, hr, hp]
    refine (((h.setAccount _ _).credit _ _ _ hid).setHistory hid).setReservation
      (h.reservations _ r hr) fun id heq => ?_
    rw [← Option.some.inj heq]
    exact hid
  | confirm ids b tx =>
    exact confirm_induction ids b tx h (fun _ id hacc => hacc.confirmSettlement b tx id)
      fun _ providerId hl => hl.dropCredit providerId
  | openChannel channelId client providerId amount =>
    have hkey : P channelId := hnew _ (List.mem_singleton_self _)
    exact (h.setAccount _ _).setChannel hkey
  | submit channelId | deliver channelId | finalize channelId | expireRequest channelId =>
    simp only [Ledger.apply, updateChannel]
    split
    · next channel hch => exact h.setChannel (h.channels _ channel hch)
    · exact h
  | close channelId settlementId =>
    obtain ⟨-, channel, p, hch, -, hp⟩ := he
    have hid : P settlementId := hnew _ (List.mem_singleton_self _)
    have hclosed : ∀ id, (channel.closedAs channelId settlementId).settlementId = some id → P id := by
      intro id heq
      rw [ChannelState.closedAs] at heq
      split at heq
      · rw [← Option.some.inj heq]
        exact hid
      · cases heq
    simp only [Ledger.apply, close, hch, hp]
    split
    · exact (((h.dropChannel _).setAccount _ _).credit _ _ _ hid).pushClosed hclosed
    · exact ((h.dropChannel _).setAccount _ _).pushClosed hclosed

end IdsIn

end Ledger

end Subly402
