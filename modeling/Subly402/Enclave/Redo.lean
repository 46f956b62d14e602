/-
# What a replay that succeeds has done

`Subly402.Enclave.ReplaySteps` shows that a log which tells a regular run replays.  Here
nothing is assumed of the log: wherever `replay_entry` succeeds, it did to the
reservations what the entry says, raised the nonce counters past the nonce in it, and
touched neither the log nor what left the enclave (`replayEntry_redone`).  `replayRecords_rebuilt` is
that for all the records of a recovery.
-/

import Subly402.Enclave.Closings
import Subly402.Enclave.ReplaySteps

namespace Subly402

open Lib
open Lib.Prog (okOr failIf orReturn Leaves Returns Along Same)

variable {env : Env} {now : ℤ}

/-! ### What replay leaves alone -/

/-- The log and the ghosts stay, and ids are only drawn. -/
structure Outside (s s' : AppState) : Prop where
  wal : s'.wal = s.wal
  signed : s'.signed = s.signed
  sent : s'.sent = s.sent
  released : s'.released = s.released
  drawn : s.drawn ≤ s'.drawn

instance : IsPreorder AppState Outside where
  refl _ := ⟨rfl, rfl, rfl, rfl, le_rfl⟩
  trans _ _ _ h h' := ⟨h'.wal.trans h.wal, h'.signed.trans h.signed, h'.sent.trans h.sent,
    h'.released.trans h.released, h.drawn.trans h'.drawn⟩

/-- Whatever becomes of the vault. -/
theorem Outside.setVault {s s' : AppState} (h : Outside s s') (v : VaultState) :
    Outside s (s'.setVault v) := ⟨h.wal, h.signed, h.sent, h.released, h.drawn⟩

/-- The bookings stay as well. -/
structure Aside (s s' : AppState) : Prop extends Outside s s' where
  bookings : s'.vault.bookings = s.vault.bookings

instance : IsPreorder AppState Aside where
  refl s := ⟨refl_of Outside s, rfl⟩
  trans _ _ _ h h' := ⟨trans_of Outside h.toOutside h'.toOutside, h'.bookings.trans h.bookings⟩

/-- Another vault with the same bookings. -/
theorem Aside.setVault {s : AppState} {v : VaultState} (h : v.bookings = s.vault.bookings) :
    Aside s (s.setVault v) :=
  ⟨(refl_of Outside s).setVault v, h⟩

/-- An operation on money leaves the bookings alone. -/
theorem replaying_aside {α : Type} {p : VaultM α} (hp : KeepsStanding p) :
    (replaying p).Along Aside := fun s => .setVault (hp.bookings s.vault)

/-- So does a write to other parts of the vault. -/
theorem setVault_aside {f : AppState → VaultState} (hf : ∀ s, (f s).bookings = s.vault.bookings) :
    (modify fun s => s.setVault (f s) : ReplayM PUnit).Along Aside :=
  .modify fun s => .setVault (hf s)

/-- And remembering a transaction. -/
theorem markReplayed_aside (txSignature : String) (slot : ℕ) :
    (Replay.markReplayed txSignature slot).Along Aside :=
  .modify fun _ => ⟨⟨rfl, rfl, rfl, rfl, le_rfl⟩, rfl⟩

/-! ### What replay does to the bookings -/

/-- What replaying an entry did. -/
structure Redone (env : Env) (e : WalEntry) (r r' : AppState) : Prop where
  outside : Outside r r'
  reservations : r'.vault.reservations = e.onReservations env r.vault.reservations
  receiptNonce : r'.vault.receiptNonce = max r.vault.receiptNonce (e.receiptNonce?.elim 0 (· + 1))
  withdrawNonce : r'.vault.withdrawNonce
    = max r.vault.withdrawNonce (e.raisedWithdrawNonce?.elim 0 (· + 1))

section Entries

variable {r r' : AppState} {e : WalEntry}

/-- The bookings are those of a vault that has the reservations and the counters in question. -/
theorem Redone.of_bookings {v : VaultState} (houtside : Outside r r')
    (hv : r'.vault.bookings = v.bookings)
    (hres : v.reservations = e.onReservations env r.vault.reservations)
    (hreceipt : v.receiptNonce = max r.vault.receiptNonce (e.receiptNonce?.elim 0 (· + 1)))
    (hwithdraw : v.withdrawNonce
      = max r.vault.withdrawNonce (e.raisedWithdrawNonce?.elim 0 (· + 1))) : Redone env e r r' :=
  ⟨houtside, (congrArg Bookings.reservations hv).trans hres,
    (congrArg Bookings.receiptNonce hv).trans hreceipt,
    (congrArg Bookings.withdrawNonce hv).trans hwithdraw⟩

/-- An entry that is about neither reservations nor nonces. -/
theorem Redone.quiet (h : (replayEntry env now e).Along Aside) (he : e.isPlain)
    (hreceipt : e.receiptNonce? = none) (hwithdraw : e.raisedWithdrawNonce? = none) (r : AppState) :
    (replayEntry env now e).Returns r fun _ r' => Redone env e r r' :=
  (Returns.of_leaves (h r)).mono fun _ _ haside => .of_bookings haside.toOutside haside.bookings
    (WalEntry.onReservations_plain env _ he).symm (by rw [hreceipt]; exact (Nat.max_zero _).symm)
    (by rw [hwithdraw]; exact (Nat.max_zero _).symm)

/-- The end of a replayed withdrawal entry. -/
theorem raise_refresh_returns {u : AppState} (hu : Aside r u) (withdrawNonce : ℕ)
    (client : Pubkey) (hres : ∀ m, e.onReservations env m = m) (hreceipt : e.receiptNonce? = none)
    (hwithdraw : e.raisedWithdrawNonce? = some withdrawNonce) :
    (Replay.raiseWithdrawNonce withdrawNonce >>= fun _ =>
      replaying (refreshClientMaxLockExpiresAt client) >>= fun _ => pure ()).Returns u fun _ r' =>
        Redone env e r r' := by
  refine .modify_bind (.leaves_bind (replaying_aside
    (refreshClientMaxLockExpiresAt_keeps .standing client) _) fun _ t ht => .pure ?_)
  have hraised : Outside u (u.setVault (u.vault.setWithdrawNonce
    (max u.vault.withdrawNonce (withdrawNonce + 1)))) := ⟨rfl, rfl, rfl, rfl, le_rfl⟩
  refine .of_bookings (trans_of Outside (trans_of Outside hu.toOutside hraised) ht.toOutside)
    ht.bookings ?_ ?_ ?_
  · rw [hres]
    exact congrArg Bookings.reservations hu.bookings
  · rw [hreceipt]
    exact (congrArg Bookings.receiptNonce hu.bookings).trans (Nat.max_zero _).symm
  · rw [hwithdraw]
    exact congrArg (max · (withdrawNonce + 1)) (congrArg Bookings.withdrawNonce hu.bookings)

/-- Replaying an authorisation raises the counter of withdrawals. -/
theorem withdrawAuthorized_redone (client recipientAta : String) (amount withdrawNonce : ℕ)
    (issuedAt expiresAt : ℤ) (r : AppState) :
    (replayEntry env now (.withdrawAuthorized client recipientAta amount withdrawNonce issuedAt
      expiresAt)).Returns r fun _ r' => Redone env (.withdrawAuthorized client recipientAta amount
        withdrawNonce issuedAt expiresAt) r r' :=
  .orReturn_bind fun key _ => .orReturn_bind fun _ _ => .leaves_bind
    (replaying_aside (authorizeWithdrawal_keeps .standing _) r) fun _ _ hu =>
      raise_refresh_returns hu withdrawNonce key (fun _ => rfl) rfl rfl

/-- So does replaying a withdrawal. -/
theorem withdrawApplied_redone (client recipientAta : String) (amount withdrawNonce : ℕ)
    (expiresAt : ℤ) (slot : ℕ) (txSignature : String) (r : AppState) :
    (replayEntry env now (.withdrawApplied client recipientAta amount withdrawNonce expiresAt slot
      txSignature)).Returns r fun _ r' => Redone env (.withdrawApplied client recipientAta amount
        withdrawNonce expiresAt slot txSignature) r r' :=
  .orReturn_bind fun key _ => .orReturn_bind fun _ _ => .leaves_bind
    (replaying_aside (applyWithdrawal_keeps .standing _) r) fun _ u hu => .failIf_bind fun _ =>
      .leaves_bind (markReplayed_aside txSignature slot u) fun _ _ ht =>
        raise_refresh_returns (trans_of Aside hu ht) withdrawNonce key (fun _ => rfl) rfl rfl

/-- A field of a legacy entry that was read. -/
theorem legacyField_ok {α : Type} {field : String} {value : Option α} {a : α}
    (h : Replay.legacyField field value = .ok a) : value = some a :=
  okOrElse_eq_ok.1 h

/-- A hash that was read back from an entry. -/
theorem legacyHash_ok {field field' : String} {value : Option String} {b : Bytes32}
    (h : (Replay.legacyField field value >>= decodeFixedHex32 env field') = .ok b) :
    value.bind hexDecode32 = some b := by
  obtain ⟨text, htext, h⟩ := bind_eq_ok.1 h
  obtain ⟨bytes, hbytes, h⟩ := bind_eq_ok.1 h
  rw [legacyField_ok htext, Option.bind_some, hexDecode32, okOrElse_eq_ok.1 hbytes, Option.bind_some]
  exact okOrElse_eq_ok.1 h

/-- Replaying a booked reservation books it. -/
theorem reservationCreated_redone (verificationId : String) (reservationId : Option String)
    (paymentId client providerId : String) (amount : ℕ)
    (requestHash paymentDetailsHash : Option String) (createdAt expiresAt : Option ℤ)
    (r : AppState) :
    (replayEntry env now (.reservationCreated verificationId reservationId paymentId client
      providerId amount requestHash paymentDetailsHash createdAt expiresAt)).Returns r fun _ r' =>
      Redone env (.reservationCreated verificationId reservationId paymentId client providerId amount
        requestHash paymentDetailsHash createdAt expiresAt) r r' := by
  refine .orReturn_bind fun key hkey => .orReturn_bind fun resId hresId => .orReturn_bind
    fun hash hhash => .orReturn_bind fun details hdetails => .orReturn_bind fun created hcreated =>
      .orReturn_bind fun expires hexpires => ?_
  refine .leaves_bind (replaying_aside (reserveBalance_keeps .standing key amount) r)
    fun _ u hu => .of_run rfl ?_
  set e := WalEntry.reservationCreated verificationId reservationId paymentId client providerId
    amount requestHash paymentDetailsHash createdAt expiresAt with he
  have hmade : e.created? env = some
      { verificationId, reservationId := resId, paymentId, client := key, providerId, amount
        requestHash := hash, paymentDetailsHash := details, status := .reserved
        createdAt := created, expiresAt := expires, settlementId := none, settledAt := none } := by
    simp only [he, WalEntry.created?, show env.pubkeyFromStr client = some key from
      okOrElse_eq_ok.1 hkey, legacyField_ok hresId, legacyHash_ok hhash, legacyHash_ok hdetails,
      legacyField_ok hcreated, legacyField_ok hexpires]
    rfl
  have hres : u.vault.reservations = r.vault.reservations :=
    congrArg Bookings.reservations hu.bookings
  refine ⟨hu.toOutside.setVault _, ?_, ?_, ?_⟩
  · rw [(WalEntry.created?_eq_some hmade).2.2.1, ← hres]
    rfl
  · exact (congrArg Bookings.receiptNonce hu.bookings).trans (Nat.max_zero _).symm
  · exact (congrArg Bookings.withdrawNonce hu.bookings).trans (Nat.max_zero _).symm

/-- Both entries that release a reservation. -/
theorem reservationReleased_redone {kind verificationId : String} {status : ReservationStatus}
    (hres : ∀ m, e.onReservations env m = setStatus m verificationId status)
    (hreceipt : e.receiptNonce? = none) (hwithdraw : e.raisedWithdrawNonce? = none) (r : AppState) :
    (Replay.reservationReleased kind verificationId status).Returns r fun _ r' =>
      Redone env e r r' := by
  refine .get_bind (.okOr_bind fun res hr => .modify_bind ?_)
  set u := r.setVault (r.vault.setReservation verificationId { res with status }) with hu
  have hredone : ∀ r', Aside u r' → Redone env e r r' := fun r' haside => by
    refine .of_bookings (trans_of Outside ((refl_of Outside r).setVault _) haside.toOutside)
      haside.bookings ?_ ?_ ?_
    · rw [hres, setStatus, hr]
      rfl
    · rw [hreceipt]
      exact (Nat.max_zero _).symm
    · rw [hwithdraw]
      exact (Nat.max_zero _).symm
  refine .ite (fun _ => ?_) fun _ => .pure (hredone u (refl_of Aside u))
  exact (Returns.of_leaves (replaying_aside (releaseBalance_keeps .standing res.client res.amount)
    u)).mono fun _ r' => hredone r'

/-- Replaying a settlement settles the reservation that was not closed. -/
theorem settlementCommitted_redone (settlementId verificationId providerId : String) (amount : ℕ)
    (settledAt : Option ℤ) (r : AppState) :
    (Replay.settlementCommitted settlementId verificationId providerId amount settledAt).Returns r
      fun _ r' => Redone env
        (.settlementCommitted settlementId verificationId providerId amount settledAt) r r' := by
  refine .get_bind (.okOr_bind fun res hr => .failIf_bind fun _ => .failIf_bind fun _ => ?_)
  have htail : ∀ u : AppState, Outside r u → u.vault.reservations = WalEntry.onReservations env
      r.vault.reservations (.settlementCommitted settlementId verificationId providerId amount
        settledAt) → u.vault.receiptNonce = r.vault.receiptNonce →
      u.vault.withdrawNonce = r.vault.withdrawNonce →
      Returns (do
        replaying (settlePayment res.client res.amount res.providerId settlementId
          (settledAt.getD res.createdAt))
        let provider ← okOr (← get).vault.providers[res.providerId]?
          ("missing provider " ++ res.providerId ++ " for SettlementCommitted WAL entry")
        modify fun s => s.setVault (s.vault.setHistory settlementId
          { settlementId, client := res.client, provider := provider.settlementTokenAccount
            amount := res.amount, timestamp := settledAt.getD res.createdAt })) u fun _ r' =>
        Redone env (.settlementCommitted settlementId verificationId providerId amount settledAt)
          r r' := by
    intro u houtside hres hreceipt hwithdraw
    refine .leaves_bind (replaying_aside (settlePayment_standing _ _ _ _ _) u) fun _ t ht =>
      .get_bind (.okOr_bind fun _ _ => .of_run rfl ?_)
    exact .of_bookings ((trans_of Outside houtside ht.toOutside).setVault _) ht.bookings hres
      (hreceipt.trans (Nat.max_zero _).symm) (hwithdraw.trans (Nat.max_zero _).symm)
  refine .ite (fun hst => .modify_bind (htail _ ⟨rfl, rfl, rfl, rfl, le_rfl⟩ ?_ rfl rfl))
    fun hst => htail r (refl_of Outside r) ?_ rfl rfl
  · simp [WalEntry.onReservations, hr, hst]
  · simp [WalEntry.onReservations, hr, hst]

/-- **What replaying an entry does, where it succeeds.** -/
theorem replayEntry_redone (e : WalEntry) (r : AppState) :
    (replayEntry env now e).Returns r fun _ r' => Redone env e r r' := by
  cases e with
  | depositApplied =>
    refine .quiet ?_ rfl rfl rfl r
    exact .bind (.orReturn _) fun _ => .bind (replaying_aside (applyDeposit_keeps .standing _ _))
      fun _ => markReplayed_aside _ _
  | withdrawAuthorized => exact withdrawAuthorized_redone _ _ _ _ _ _ r
  | withdrawApplied => exact withdrawApplied_redone _ _ _ _ _ _ _ r
  | withdrawExpired =>
    refine .quiet ?_ rfl rfl rfl r
    exact .bind (.orReturn _) fun _ => .bind (replaying_aside
      (expirePendingWithdrawal_keeps .standing _)) fun _ => .failIf_bind fun _ => .bind
        (replaying_aside (refreshClientMaxLockExpiresAt_keeps .standing _)) fun _ => .pure _
  | reservationCreated => exact reservationCreated_redone _ _ _ _ _ _ _ _ _ _ r
  | reservationCancelled | reservationExpired =>
    exact reservationReleased_redone (fun _ => rfl) rfl rfl r
  | settlementCommitted => exact settlementCommitted_redone _ _ _ _ _ r
  | participantReceiptIssued | participantReceiptMirrored =>
    exact .of_run rfl ⟨⟨rfl, rfl, rfl, rfl, le_rfl⟩, rfl, rfl, (Nat.max_zero _).symm⟩
  | batchConfirmed batchId txSignature settlementIds =>
    have hconfirm := applyBatchConfirmation_bookings settlementIds batchId txSignature r.vault
    refine .of_run rfl ⟨⟨rfl, rfl, rfl, rfl, le_rfl⟩, ?_, ?_, ?_⟩
    · exact congrArg Bookings.reservations hconfirm
    · exact (congrArg Bookings.receiptNonce hconfirm).trans (Nat.max_zero _).symm
    · exact (congrArg Bookings.withdrawNonce hconfirm).trans (Nat.max_zero _).symm
  | clientBalanceSeeded | providerRegistered =>
    refine .quiet ?_ rfl rfl rfl r
    exact .bind (.orReturn _) fun _ => setVault_aside fun _ => rfl
  | batchSubmitted =>
    refine .quiet ?_ rfl rfl rfl r
    exact .pure _
  | channelOpened =>
    refine .quiet ?_ rfl rfl rfl r
    exact .bind (.orReturn _) fun _ => .bind
      (replaying_aside (openChannelWithId_keeps .standing _ _ _ _ _)) fun _ => .pure _
  | channelRequestSubmitted =>
    refine .quiet ?_ rfl rfl rfl r
    exact .bind (.orReturn _) fun _ => replaying_aside (submitRequest_keeps .standing _ _ _ _ _)
  | channelRequestExpired =>
    refine .quiet ?_ rfl rfl rfl r
    exact replaying_aside (expireReplayedRequest_keeps .standing _ _ _ _)
  | channelFinalized =>
    refine .quiet ?_ rfl rfl rfl r
    exact replaying_aside (finalizeReplayedRequest_keeps .standing _ _ _ _)
  | channelAdaptorDelivered =>
    refine .quiet ?_ rfl rfl rfl r
    exact .bind (.orReturn _) fun _ => .bind (.orReturn _) fun _ => .bind (.orReturn _) fun _ =>
      .bind (.orReturn _) fun _ => .bind (.orReturn _) fun _ => .bind (.orReturn _) fun _ =>
        replaying_aside (deliverAdaptor_keeps .standing _ _ _ _)
  | channelClosed =>
    refine .quiet ?_ rfl rfl rfl r
    exact .bind (fun _ => ⟨⟨rfl, rfl, rfl, rfl, Nat.le_succ _⟩, rfl⟩) fun _ => .bind
      (replaying_aside (closeChannelWithSettlementId_standing _ _ _ _)) fun _ => .pure _

end Entries

/-! ### All records -/

/-- What replaying some records did. -/
structure Rebuilt (env : Env) (records : List WalRecord) (r r' : AppState) : Prop where
  outside : Outside r r'
  reservations : r'.vault.reservations
    = (records.map (·.entry)).foldl (WalEntry.onReservations env) r.vault.reservations
  receiptNonce_le : r.vault.receiptNonce ≤ r'.vault.receiptNonce
  receiptNonce : ∀ record ∈ records, ∀ n, record.entry.receiptNonce? = some n →
    n < r'.vault.receiptNonce
  withdrawNonce_le : r.vault.withdrawNonce ≤ r'.vault.withdrawNonce
  withdrawNonce : ∀ record ∈ records, ∀ n, record.entry.raisedWithdrawNonce? = some n →
    n < r'.vault.withdrawNonce

/-- Nothing was replayed. -/
theorem Rebuilt.nil (env : Env) (r : AppState) : Rebuilt env [] r r where
  outside := refl_of Outside r
  reservations := rfl
  receiptNonce_le := le_rfl
  receiptNonce _ h := by simp at h
  withdrawNonce_le := le_rfl
  withdrawNonce _ h := by simp at h

/-- One record was replayed before the others. -/
theorem Rebuilt.cons {record : WalRecord} {records : List WalRecord} {r u r' : AppState}
    (hredone : Redone env record.entry r u) (h : Rebuilt env records u r') :
    Rebuilt env (record :: records) r r' where
  outside := trans_of Outside hredone.outside h.outside
  reservations := by
    rw [h.reservations, hredone.reservations]
    rfl
  receiptNonce_le := (hredone.receiptNonce ▸ le_max_left _ _).trans h.receiptNonce_le
  receiptNonce record' hmem n hn := by
    rcases List.mem_cons.1 hmem with rfl | hmem
    · refine lt_of_lt_of_le ?_ h.receiptNonce_le
      rw [hredone.receiptNonce, hn]
      exact lt_of_lt_of_le (Nat.lt_succ_self n) (le_max_right _ _)
    · exact h.receiptNonce record' hmem n hn
  withdrawNonce_le := (hredone.withdrawNonce ▸ le_max_left _ _).trans h.withdrawNonce_le
  withdrawNonce record' hmem n hn := by
    rcases List.mem_cons.1 hmem with rfl | hmem
    · refine lt_of_lt_of_le ?_ h.withdrawNonce_le
      rw [hredone.withdrawNonce, hn]
      exact lt_of_lt_of_le (Nat.lt_succ_self n) (le_max_right _ _)
    · exact h.withdrawNonce record' hmem n hn

/-- **What a replay of records did, where it succeeds.** -/
theorem replayRecords_rebuilt (clock : ℕ → ℤ) (records : List WalRecord) (i : ℕ) (r : AppState) :
    (replayRecords env clock i records).Returns r fun _ r' => Rebuilt env records r r' := by
  induction records generalizing i r with
  | nil => exact .pure (.nil env r)
  | cons record records ih =>
    exact .bind (replayEntry_redone record.entry r) fun _ u hredone =>
      (ih (i + 1) u).mono fun _ r' h => .cons hredone h

/-- Refreshing lock expiries touches no booking. -/
theorem refreshClients_aside (clients : List Pubkey) : (refreshClients clients).Along Aside := by
  induction clients with
  | nil => exact .pure _
  | cons client clients ih =>
    exact .bind (replaying_aside (refreshClientMaxLockExpiresAt_keeps .standing client)) fun _ => ih

/-- A step that keeps the bookings, after a replay. -/
theorem Rebuilt.keep {records : List WalRecord} {r u r' : AppState} (h : Rebuilt env records r u)
    (haside : Aside u r') : Rebuilt env records r r' := by
  have hreceipt : r'.vault.receiptNonce = u.vault.receiptNonce :=
    congrArg Bookings.receiptNonce haside.bookings
  have hwithdraw : r'.vault.withdrawNonce = u.vault.withdrawNonce :=
    congrArg Bookings.withdrawNonce haside.bookings
  exact ⟨trans_of Outside h.outside haside.toOutside,
    (congrArg Bookings.reservations haside.bookings).trans h.reservations,
    hreceipt ▸ h.receiptNonce_le, hreceipt ▸ h.receiptNonce, hwithdraw ▸ h.withdrawNonce_le,
    hwithdraw ▸ h.withdrawNonce⟩

/-- **What the replay of a start did, where it succeeds.** -/
theorem replayAppStateFrom_rebuilt (clock : ℕ → ℤ) (minSeqnoExclusive : Option ℕ)
    (records : List WalRecord) (r : AppState) :
    (replayAppStateFrom env clock minSeqnoExclusive records).Returns r fun _ r' =>
      Rebuilt env (records.filter fun record => minSeqnoExclusive.all (· < record.seqno)) r r' :=
  .bind (replayRecords_rebuilt clock _ 0 r) fun _ u hu => .get_bind fun a r' hrun =>
    hu.keep (Returns.of_leaves (refreshClients_aside u.vault.clientBalances.keys u) a r' hrun)

end Subly402
