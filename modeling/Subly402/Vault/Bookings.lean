/-
# What the ledger operations leave alone

The reservations, the index of payment ids and the two nonce counters are
`VaultState.bookings`, and with the providers `VaultState.standing`.  Operations on money
do not touch them (`Subly402.Vault.Money`), and neither do those that credit a provider,
whether they succeed or fail half way.
-/

import Subly402.Vault.Confirm
import Subly402.Vault.Money

namespace Subly402

open Lib
open Lib.Prog (Same)

/-- The reservations, the index of payment ids, and the nonce counters. -/
@[ext]
structure Bookings where
  reservations : FiniteMap String Reservation
  paymentIdIndex : FiniteMap String String
  receiptNonce : ℕ
  withdrawNonce : ℕ

@[simps]
def VaultState.bookings (v : VaultState) : Bookings :=
  { reservations := v.reservations, paymentIdIndex := v.paymentIdIndex
    receiptNonce := v.receiptNonce, withdrawNonce := v.withdrawNonce }

/-- The operation keeps the bookings. -/
abbrev KeepsBookings {α : Type} (p : VaultM α) : Prop := KeepsView VaultState.bookings p

/-- The bookings, and the registered providers. -/
structure Standing extends Bookings where
  providers : FiniteMap String ProviderRegistration

def VaultState.standing (v : VaultState) : Standing :=
  { v.bookings with providers := v.providers }

/-- The operation keeps the bookings and the providers. -/
abbrev KeepsStanding {α : Type} (p : VaultM α) : Prop := KeepsView VaultState.standing p

/-- What keeps bookings and providers keeps bookings. -/
theorem KeepsView.bookings {α : Type} {p : VaultM α} (h : KeepsStanding p) : KeepsBookings p :=
  fun v => congrArg Standing.toBookings (h v)

/-- What keeps bookings and providers keeps providers. -/
theorem KeepsView.providers {α : Type} {p : VaultM α} (h : KeepsStanding p) :
    p.Along (Same VaultState.providers) :=
  fun v => congrArg Standing.providers (h v)

/-- Bookings and providers are no money. -/
theorem IgnoresMoney.standing : IgnoresMoney VaultState.standing :=
  ⟨fun _ _ _ => rfl, fun _ _ _ => rfl, fun _ _ _ => rfl, fun _ _ => rfl, fun _ _ _ => rfl,
    fun _ _ => rfl⟩

/-! ### Settlements -/

/-- A settlement writes a balance and a credit. -/
theorem settlePayment_standing (client : Pubkey) (amount : ℕ) (providerId settlementId : String)
    (now : ℤ) : KeepsStanding (settlePayment client amount providerId settlementId now) :=
  .get_bind fun _ => .okOr_bind fun _ _ => .bind (.modify fun _ => rfl) fun _ =>
    .bind (.modify fun _ => rfl) fun _ => .get_bind fun _ => .okOr_bind fun _ _ =>
      .modify fun _ => rfl

/-- So does its rollback. -/
theorem rollbackSettlePayment_standing (client : Pubkey) (amount : ℕ)
    (providerId settlementId : String) :
    KeepsStanding (rollbackSettlePayment client amount providerId settlementId) :=
  .get_bind fun _ => .okOr_bind fun _ _ => .bind (.modify fun _ => rfl) fun _ => .get_bind fun _ =>
    .okOr_bind fun _ _ => .bind (.modify fun _ => rfl) fun _ =>
      .ite (fun _ => .modify fun _ => rfl) fun _ => .pure _

/-! ### Channels -/

/-- A closed channel pays out balances and a credit. -/
theorem closeChannelWithSettlementId_standing (channelId : String)
    (settlementIdOverride : Option String) (freshId : String) (now : ℤ) :
    KeepsStanding (closeChannelWithSettlementId channelId settlementIdOverride freshId now) :=
  .get_bind fun _ => .okOr_bind fun _ _ => .failIf_bind fun _ => .get_bind fun _ =>
    .bind (.modify fun _ => rfl) fun _ => .bind release fun _ => .bind credit fun _ =>
      .bind (.modify fun _ => rfl) fun _ => .pure _
where
  release {client : Pubkey} {total free : ℕ} :
      KeepsStanding (closeChannelWithSettlementId.releaseClosed client total free) :=
    .ite (fun _ => .get_bind fun _ => .okOr_bind fun _ _ => .bind (.modify fun _ => rfl) fun _ =>
      .modify fun _ => rfl) fun _ => .pure _
  credit {providerId : String} {earned : ℕ} {settlementId : String} :
      KeepsStanding (closeChannelWithSettlementId.creditClosed providerId earned settlementId now) :=
    .ite (fun _ => .get_bind fun _ => .okOr_bind fun _ _ => .modify fun _ => rfl) fun _ => .pure _

/-- Reopening it takes these back. -/
theorem rollbackCloseChannel_standing (outcome : CloseOutcome) :
    KeepsStanding (rollbackCloseChannel outcome) := by
  refine .bind (.ite (fun _ => .get_bind fun _ => .okOr_bind fun _ _ => .modify fun _ => rfl)
    fun _ => .pure _) fun _ => .ite (fun _ => .bind (.modify fun v => ?_) fun _ => reopen)
    fun _ => reopen
  rw [Same]
  split <;> rfl
where
  /-- The channel goes back. -/
  reopen : KeepsStanding (do
      modify (·.setChannel outcome.closedChannel.channelId outcome.closedChannel)
      modify (·.popClosed)) := by
    refine .bind (.modify fun v => ?_) fun _ => .modify fun v => ?_
    · rfl
    · rfl

/-! ### Confirmed batches -/

/-- The reservation with a settlement id becomes `BatchedOnchain`. -/
def confirmReservation (reservations : FiniteMap String Reservation) (settlementId : String) :
    FiniteMap String Reservation :=
  match reservations.toList.find? fun e => e.2.settlementId = some settlementId with
  | some (verificationId, reservation) =>
    reservations.insert verificationId { reservation with status := .batchedOnchain }
  | none => reservations

/-- What a confirmed batch does to the bookings. -/
@[simps]
def Bookings.confirm (b : Bookings) (settlementIds : List String) : Bookings :=
  { b with reservations := settlementIds.foldl confirmReservation b.reservations }

/-- One turn of the batch loop confirms the reservation of its settlement. -/
theorem confirmSettlement_bookings (batchId : ℕ) (txSignature : String)
    (acc : VaultState × List String) (settlementId : String) :
    (confirmSettlement batchId txSignature acc settlementId).1.bookings
      = acc.1.bookings.confirm [settlementId] := by
  have hof : ((acc.1.dropHistory settlementId).setBatch settlementId
      { batchId, txSignature }).reservationOf settlementId
        = acc.1.bookings.reservations.toList.find? fun e => e.2.settlementId = some settlementId := rfl
  unfold confirmSettlement
  simp only [Bookings.confirm, List.foldl_cons, List.foldl_nil, confirmReservation, hof]
  cases acc.1.bookings.reservations.toList.find? fun e => e.2.settlementId = some settlementId with
  | some e =>
    obtain ⟨verificationId, r⟩ := e
    simp only
    split <;> rfl
  | none =>
    simp only
    split <;> rfl

/-- The batch loop confirms the reservations of its settlements. -/
theorem foldl_confirmSettlement_bookings (batchId : ℕ) (txSignature : String)
    (settlementIds : List String) (acc : VaultState × List String) :
    (settlementIds.foldl (confirmSettlement batchId txSignature) acc).1.bookings
      = acc.1.bookings.confirm settlementIds := by
  induction settlementIds generalizing acc with
  | nil => rfl
  | cons id ids ih =>
    rw [List.foldl_cons, ih, confirmSettlement_bookings]
    rfl

/-- A loop whose turns keep the bookings keeps them. -/
theorem foldl_bookings {α : Type} {f : VaultState → α → VaultState}
    (hf : ∀ v a, (f v a).bookings = v.bookings) (l : List α) (v : VaultState) :
    (l.foldl f v).bookings = v.bookings := by
  induction l generalizing v with
  | nil => rfl
  | cons a l ih => rw [List.foldl_cons, ih, hf]

/-- The age of a credit is no booking. -/
theorem refreshOldestCredit_bookings (v : VaultState) (providerId : String) :
    (refreshOldestCredit v providerId).bookings = v.bookings := by
  unfold refreshOldestCredit
  split
  · split <;> rfl
  · rfl

/-- **A confirmed batch marks the reservations of its settlements, and nothing else of the
bookings changes.** -/
theorem applyBatchConfirmation_bookings (settlementIds : List String) (batchId : ℕ)
    (txSignature : String) (v : VaultState) :
    (applyBatchConfirmation settlementIds batchId txSignature v).bookings
      = v.bookings.confirm settlementIds := by
  unfold applyBatchConfirmation
  simp only
  rw [foldl_bookings refreshOldestCredit_bookings, foldl_bookings (f := VaultState.dropCredit)
    fun _ _ => rfl,
    foldl_confirmSettlement_bookings]

end Subly402
