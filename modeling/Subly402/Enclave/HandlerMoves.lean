/-
# Every operation is made of moves

Each handler is followed from its first check to its last receipt, and makes nothing
but moves of `Subly402.Enclave.Moves` (`AppState.next_moves`).  No invariant of the
books is needed for that, only that the ids of the reservations were drawn, so the
result also holds of an enclave that was rebuilt from its log.
-/

import Subly402.Enclave.Moves
import Subly402.Lib.Runs

namespace Subly402

open Lib
open Lib.Prog (okOr failIf orReturn Leaves Along Same)

variable {env : Env} {rules : Rules} {s t : AppState}

/-- Every reservation is kept under an id that was drawn. -/
def AppState.IdsDrawn (env : Env) (s : AppState) : Prop :=
  ∀ (key : String) (r : Reservation), s.vault.reservations[key]? = some r → env.Drawn s.drawn key

/-- The reservation is one that the request makes. -/
def Handlers.VerifyRequest.Makes (env : Env) (req : Handlers.VerifyRequest) (r : Reservation) :
    Prop :=
  ∃ client verificationId reservationId now, env.pubkeyFromStr req.client = some client ∧
    r = req.reservation client verificationId reservationId now

namespace Handlers

/-! ### Channels, the detector, registrations -/

section Receipts

variable (hrule : ∀ r, r.States env → rules.issues r)
include hrule

/-- Expiring a request touches no booking. -/
theorem expireStaleChannelRequest_moving (channelId : String) (t : Times) :
    Moving env rules (expireStaleChannelRequest env channelId t) :=
  .bind (onVault_moving (expireRequest_keeps .standing _ _)) fun outcome => by
    split
    · exact .pure _
    · exact .bind (appendAs_moving rfl (rollbackExpireRequest_keeps .standing _ _)) fun _ =>
        refresh_receipt_moving hrule _ _ (.pure _)

/-- Opening a channel touches no booking. -/
theorem postChannelOpen_moving (client providerId : String) (initialDeposit : ℕ) (t : Times) :
    Moving env rules (postChannelOpen env client providerId initialDeposit t) :=
  .okOr_bind fun _ _ => .bind (.get_bind fun _ => .okOr_bind fun _ _ => .okOr _ _) fun _ =>
    .bind (newId_moving _) fun _ => .bind (onVault_moving (openChannelWithId_keeps .standing _ _ _ _ _))
      fun _ => .bind (appendAs_moving rfl (rollbackOpenChannel_keeps .standing _)) fun _ =>
        .bind (issueClientReceiptLocked_moving hrule _ _) fun _ => .pure _

/-- A request touches no booking. -/
theorem postChannelRequest_moving (channelId requestId : String) (amount : ℕ) (hash : String)
    (t : Times) : Moving env rules (postChannelRequest env channelId requestId amount hash t) :=
  .okOr_bind fun _ _ => .bind (onVault_moving (submitRequest_keeps .standing _ _ _ _ _)) fun _ =>
    .bind (appendAs_moving rfl (rollbackSubmitRequest_keeps .standing _ _ _)) fun _ => .get_bind fun _ =>
      .okOr_bind fun _ _ => refresh_receipt_moving hrule _ _ (.pure _)

/-- The end of a finalization touches no booking. -/
theorem logFinalized_moving (channelId : String) (outcome : FinalizeOutcome) (t : Times) :
    Moving env rules (logFinalized env channelId outcome t) :=
  .bind (appendAs_moving rfl (rollbackFinalizeOffchain_keeps .standing _ _ _))
    fun _ => .get_bind fun _ =>
    .okOr_bind fun _ _ => refresh_receipt_moving hrule _ _ (.pure _)

/-- A secret from the client. -/
theorem postChannelFinalize_moving (channelId secret : String) (t : Times) :
    Moving env rules (postChannelFinalize env channelId secret t) :=
  .bind (.okOr_bind fun _ _ => .okOr _ _) fun _ =>
    .bind (onVault_moving (finalizeOffchain_keeps .standing _ _ _ _)) fun _ =>
      logFinalized_moving hrule _ _ _

/-- A secret from a claim on chain. -/
theorem recoverChannelClaim_moving (channelId : String) (fullSig : AdaptedSignature) (t : Times) :
    Moving env rules (recoverChannelClaim env channelId fullSig t) :=
  .bind (onVault_moving (finalizeOnchainClaim_keeps .standing _ _ _ _)) fun _ =>
    logFinalized_moving hrule _ _ _

/-- Closing draws an id, and touches no booking. -/
theorem postChannelClose_moving (channelId : String) (t : Times) :
    Moving env rules (postChannelClose env channelId t) :=
  .bind (newId_moving _) fun _ =>
    .bind (onVault_moving (closeChannelWithSettlementId_standing _ _ _ _)) fun _ =>
      .bind (appendAs_moving rfl (rollbackCloseChannel_standing _)) fun _ =>
        refresh_receipt_moving hrule _ _ (.ite (fun _ =>
          .bind (issueProviderReceiptLocked_moving hrule _ _) fun _ => .pure _) fun _ => .pure _)

/-- A delivery that is stored, or expires its request. -/
theorem deliverOrExpire_moving (channelId : String) (delivery : AdaptorDelivery) (t : Times) :
    Moving env rules (deliverOrExpire env channelId delivery t) :=
  .tryCatch (onVault_moving (deliverAdaptor_keeps .standing _ _ _ _)) fun _ =>
    .ite (fun _ => .bind (expireStaleChannelRequest_moving hrule _ _) fun _ => .throw _)
      fun _ => .throw _

/-- A delivery touches no booking. -/
theorem postChannelDeliver_moving (req : ChannelDeliverRequest) (t : Times) :
    Moving env rules (postChannelDeliver env req t) := by
  have hhex (value : String) (e e' : EnclaveError) : Moving env rules (decodeHex32 value e e') :=
    .okOr_bind fun _ _ => .okOr _ _
  have hdecode : Moving env rules (req.decode env) :=
    .bind (hhex _ _ _) fun _ => .bind (hhex _ _ _) fun _ => .bind (hhex _ _ _) fun _ =>
      .okOr_bind fun _ _ => .bind (hhex _ _ _) fun _ => .bind (hhex _ _ _) fun _ => .pure _
  exact .bind hdecode fun _ => .get_bind fun _ => .okOr_bind fun _ _ =>
    .bind (.get_bind fun _ => .okOr_bind fun _ _ => .okOr _ _) fun _ => .failIf_bind fun _ =>
      .okOr_bind fun _ _ => .bind (deliverOrExpire_moving hrule _ _ _) fun _ =>
        appendAs_moving rfl (rollbackDeliverAdaptor_keeps .standing _ _ _)

/-- The expiry of a withdrawal touches no booking. -/
theorem expirePending_moving (withdrawNonce : ℕ) (t : Times) :
    Moving env rules (expirePending env withdrawNonce t) :=
  .get_bind fun _ => by
    split
    · exact .pure _
    · exact .ite (fun _ => .pure _) fun _ => .bind (appendAs_moving rfl (.pure _)) fun _ =>
        .bind (onVault_moving (expirePendingWithdrawal_keeps .standing _)) fun _ =>
          refresh_receipt_moving hrule _ _ (.pure _)

end Receipts

end Handlers

/-- The registration that an operation asks for. -/
def Op.registers? : Op env → Option ProviderRegistration
  | .registerProvider req => (req.parse env).toOption.map req.registration
  | .openProvider payload =>
    if payload.providerId
        = Handlers.deriveOpenProviderId env payload.network payload.assetMint payload.payTo then do
      let account ← env.pubkeyFromStr payload.payTo
      let mint ← env.pubkeyFromStr payload.assetMint
      return payload.registration account mint
    else none
  | _ => none

/-- The rules let the operation register what it asks for, under an id that is free. -/
def Rules.Registers (rules : Rules) (s : AppState) (op : Op env) : Prop :=
  ∀ provider ∈ op.registers?, s.vault.providers[provider.providerId]? = none →
    rules.registers s.vault (s.vault.setProvider provider.providerId provider)

namespace Handlers

/-- A registration is one write to the providers, if any. -/
theorem postRegisterProvider_moves {req : RegisterProviderRequest}
    (h : rules.Registers s (.registerProvider req : Op env)) :
    (postRegisterProvider env req).Leaves s (Moves env rules s) := by
  rw [postRegisterProvider]
  cases hparse : req.parse env with
  | error e => exact .refl s
  | ok parsed =>
    refine .get_bind (.failIf_bind (fun _ => .refl s) fun hfree =>
      .append_bind rfl (Move.skip s).moves ?_)
    refine (Move.log s rfl).moves.move (.vault _ rfl (.inr (h (req.registration parsed) ?_ ?_)))
    · simp [Op.registers?, hparse, Except.toOption]
    · simpa [RegisterProviderRequest.registration] using hfree

/-- So is that of an open provider. -/
theorem ensureOpenProviderRegistered_moves {payload : OpenPayment}
    (h : rules.Registers s (.openProvider payload : Op env)) :
    (ensureOpenProviderRegistered env payload).Leaves s (Moves env rules s) := by
  refine .get_bind ?_
  split
  · exact .refl s
  · next hnew =>
    obtain ⟨hfree, hid⟩ := not_or.1 hnew
    refine .okOr_bind (.refl s) fun account haccount => .okOr_bind (.refl s) fun mint hmint =>
      .append_bind rfl (Move.skip s).moves ?_
    refine (Move.log s rfl).moves.move
      (.vault _ rfl (.inr (h (payload.registration account mint) ?_ ?_)))
    · simp [Op.registers?, ← not_not.1 hid, haccount, hmint]
    · simpa [OpenPayment.registration] using hfree

end Handlers

namespace Detector

/-- The transaction is marked, and its slot noted. -/
theorem record_moving {signature : String} (slot : ℕ) (h : rules.remembers signature) :
    Moving env rules (record signature slot) :=
  .modify fun s => (Move.remember s h).moves.move (.standing _ rfl)

variable (hrule : ∀ r, r.States env → rules.issues r)
include hrule

/-- A deposit marks its transaction. -/
theorem applyDeposit_moving (deposit : DepositEvent) (now : ℤ)
    (h : rules.remembers deposit.signature) :
    Moving env rules (applyDeposit env deposit now) :=
  .get_bind fun _ => .ite (fun _ => .pure _) fun _ =>
    .bind (onVault_moving (applyDeposit_keeps .standing _ _)) fun _ =>
      .bind (appendAs_moving rfl (rollbackDeposit_keeps .standing _ _)) fun _ =>
        .bind (record_moving _ h) fun _ =>
          .bind (issueClientReceiptLocked_moving hrule _ _) fun _ => .pure _

/-- A withdrawal marks its transaction. -/
theorem applyWithdrawal_moving (withdrawal : WithdrawEvent) (now : ℤ)
    (h : rules.remembers withdrawal.signature) :
    Moving env rules (applyWithdrawal env withdrawal now) :=
  .get_bind fun _ => .ite (fun _ => .pure _) fun _ =>
    .bind (onVault_moving (applyWithdrawal_keeps .standing _)) fun _ => .failIf_bind fun _ =>
      .bind (appendAs_moving rfl (rollbackAppliedWithdrawal_keeps .standing _)) fun _ =>
        .bind (record_moving _ h) fun _ => refresh_receipt_moving hrule _ _ (.pure _)

omit hrule in
/-- A confirmed batch is one move. -/
theorem confirmBatch_moving (settlementIds : List String) (batchId : ℕ) (txSignature : String) :
    Moving env rules (confirmBatch env settlementIds batchId txSignature) := fun s =>
  .append_bind rfl (.rollback (α := Unit) (.pure ()) (.refl s))
    (Move.confirm s settlementIds batchId txSignature).moves

end Detector

namespace Handlers

/-! ### Reservations -/

/-- The lookup by payment id reads bookings. -/
theorem existingReservation_bookings {v v' : VaultState} (h : v'.bookings = v.bookings)
    (paymentId : String) : existingReservation v' paymentId = existingReservation v paymentId := by
  have hreservations : v'.reservations = v.reservations := congrArg Bookings.reservations h
  have hindex : v'.paymentIdIndex = v.paymentIdIndex := congrArg Bookings.paymentIdIndex h
  rw [existingReservation, hreservations, hindex, existingReservation]

section Receipts

variable (hrule : ∀ r, r.States env → rules.issues r)
include hrule

/-- A new reservation gets an id that no reservation has. -/
theorem reserveAndLog_moves (hids : s.IdsDrawn env) (req : VerifyRequest) {client : Pubkey}
    (hclient : env.pubkeyFromStr req.client = some client) (times : Times)
    (hbooks : ∀ t r, t.vault.bookings = s.vault.bookings → req.Makes env r → rules.books t r) :
    (reserveAndLog env req client times).Leaves s (Moves env rules s) := by
  have hdrawn : Moves env rules s s.draw.draw := (Move.draw s).moves.move (.draw _)
  refine .run_bind (run_newId ..) (.run_bind (run_newId ..) (.failIf_bind (fun _ => hdrawn)
    fun _ => ?_))
  refine .bind (P := fun t => ∃ v, v.standing = s.vault.standing ∧ t = s.draw.draw.setVault v)
    ?_ ?_ ?_
  · exact ⟨_, reserveBalance_keeps .standing _ _ s.vault, rfl⟩
  · rintro _ ⟨v, hv, rfl⟩
    exact hdrawn.move (.standing _ hv)
  · rintro _ _ ⟨v, hv, rfl⟩
    have hvault : Moves env rules s (s.draw.draw.setVault v) := hdrawn.move (.standing _ hv)
    refine .append_bind rfl (.rollback (releaseBalance_keeps .standing _ _) hvault) (.modify_bind ?_)
    have hbookings : v.bookings = s.vault.bookings := congrArg Standing.toBookings hv
    have hreservations : v.reservations = s.vault.reservations :=
      congrArg Bookings.reservations hbookings
    refine Along.leaves (refresh_receipt_moving hrule _ _ (.get_bind fun _ => .okOr_bind fun _ _ =>
      .pure _)) (hvault.move (.book (s.draw.draw.setVault v)
        (r := req.reservation client (env.freshId .verification s.drawn)
          (env.freshId .reservation (s.drawn + 1)) times.now)
        (hbooks _ _ hbookings ⟨client, _, _, _, hclient, rfl⟩) ?_ ?_ ?_))
    · cases h : v.reservations[env.freshId .verification s.drawn]? with
      | none => exact h
      | some r =>
        rw [hreservations] at h
        exact (Env.not_drawn_freshId _ le_rfl (hids _ r h)).elim
    · exact Env.drawn_freshId _ (by simp)
    · simp [WalEntry.created?, VerifyRequest.entry, hclient, hexDecode32_hexEncode,
        VerifyRequest.reservation]

/-- A verified payment books at most one reservation, its own. -/
theorem postVerify_moves (hids : s.IdsDrawn env) (req : VerifyRequest) (times : Times)
    (hbooks : ∀ t r, t.vault.bookings = s.vault.bookings → req.Makes env r →
      existingReservation t.vault req.paymentId = none → rules.books t r) :
    (postVerify env req times).Leaves s (Moves env rules s) := by
  refine .okOr_bind (.refl s) fun client hclient => .get_bind <| .okOr_bind (.refl s)
    fun _ _ => .get_bind ?_
  split
  · exact Along.ite (fun _ => .pure _) (fun _ => .throw _) s
  · next hnone =>
    exact reserveAndLog_moves hrule hids req hclient times fun t r ht hr =>
      hbooks t r ht hr ((existingReservation_bookings ht _).trans hnone)

/-- An expiry closes its reservation. -/
theorem expireReservedReservation_moves (verificationId : String) (t : Times) (s : AppState) :
    (expireReservedReservation env verificationId t).Leaves s (Moves env rules s) := by
  refine .get_bind <| .okOr_bind (.refl s) fun r hr => ?_
  split
  · exact .pure (.refl s)
  · next hcond =>
    have hst : r.status = .reserved := not_not.1 (not_or.1 hcond).1
    refine .append_bind rfl (.rollback (.pure ()) (.refl s)) (.get_bind (.okOr_some_bind hr ?_))
    rw [expireReservedReservation.expireStored, if_neg (not_not.2 hst)]
    set expired := s.vault.setReservation verificationId { r with status := .expired }
    refine .modify_bind (.bind (P := Moves env rules s) ?_ (fun _ h => h) fun _ _ h =>
      Along.leaves (refresh_receipt_moving hrule _ _ (.pure _)) h)
    exact (Move.close s hr (.expire hst) (by simp [WalEntry.settledAt?])
      ((releaseBalance_keeps .standing _ _).bookings expired)
      ((releaseBalance_keeps .standing _ _).providers expired)).moves

/-- A cancellation closes its reservation. -/
theorem postCancel_moves (verificationId reason : String) (t : Times) (s : AppState) :
    (postCancel env verificationId reason t).Leaves s (Moves env rules s) := by
  refine .get_bind <| .okOr_bind (.refl s) fun r hr => ?_
  split
  · exact .pure (.refl s)
  · refine .failIf_bind (fun _ => .refl s) fun hst => ?_
    refine .bind (P := fun t => ∃ v, v.standing = s.vault.standing ∧ t = s.setVault v) ?_ ?_ ?_
    · exact ⟨_, releaseBalance_keeps .standing _ _ s.vault, rfl⟩
    · rintro _ ⟨v, hv, rfl⟩
      exact (Move.standing s hv).moves
    · rintro _ _ ⟨v, hv, rfl⟩
      have hvault : Moves env rules s (s.setVault v) := (Move.standing s hv).moves
      have hr' : v.reservations[verificationId]? = some r := by
        have hreservations : v.reservations = s.vault.reservations :=
          congrArg (·.reservations) hv
        rwa [hreservations]
      refine .append_bind rfl (.rollback (reserveBalance_keeps .standing _ _) hvault)
        (.get_bind (.okOr_some_bind hr' (.modify_bind ?_)))
      exact Along.leaves (refresh_receipt_moving hrule _ _ (.pure _))
        (hvault.move (.close _ hr' (.cancel reason (not_not.1 hst)) (by simp [WalEntry.settledAt?])
          rfl rfl))

/-- Settling up to the append keeps the bookings, or expires the reservation. -/
theorem settleBegin_moves (verificationId settlementId : String) (t : Times) (s : AppState) :
    (∃ e s', (settleBegin env verificationId settlementId t).run s = (.error e, s') ∧
      Moves env rules s s') ∨
    (settleBegin env verificationId settlementId t).run s = (.ok none, s) ∨
    ∃ r v, s.vault.reservations[verificationId]? = some r ∧ r.status = .reserved ∧
      t.now ≤ r.expiresAt ∧ v.standing = s.vault.standing ∧
      (settleBegin env verificationId settlementId t).run s
        = (.ok (some (.of r verificationId settlementId t.now)), s.setVault v) := by
  cases hr : s.vault.reservations[verificationId]? with
  | none => exact .inl ⟨_, s, by simp [settleBegin, hr]; rfl, .refl s⟩
  | some r =>
    cases hst : r.status with
    | settledOffchain => exact .inr (.inl (by simp [settleBegin, hr, hst]))
    | expired | cancelled | batchedOnchain =>
      exact .inl ⟨_, s, by simp [settleBegin, hr, hst]; rfl, .refl s⟩
    | reserved =>
      by_cases hnow : r.expiresAt < t.now
      · have hexpire := expireReservedReservation_moves hrule verificationId t s
        cases hrun : (expireReservedReservation env verificationId t).run s with
        | mk out s' =>
          rw [Leaves, hrun] at hexpire
          cases out with
          | error e => exact .inl ⟨e, s', by simp [settleBegin, hr, hst, hnow, hrun], hexpire⟩
          | ok b => exact .inl ⟨_, s', by simp [settleBegin, hr, hst, hnow, hrun]; rfl, hexpire⟩
      · have hsettle := settlePayment_standing r.client r.amount r.providerId settlementId t.now
          s.vault
        cases hrun : (settlePayment r.client r.amount r.providerId settlementId t.now).run
            s.vault with
        | mk out v =>
          rw [Leaves, hrun] at hsettle
          cases out with
          | error e =>
            refine .inl ⟨e, s.setVault v, ?_, (Move.standing s hsettle).moves⟩
            simp [settleBegin, hr, hst, hnow, hrun]
          | ok u =>
            refine .inr (.inr ⟨r, v.setHistory settlementId
              { settlementId, client := r.client
                provider := ((v.providers[r.providerId]?).map
                  (·.settlementTokenAccount)).getD (Bytes32.fill 0)
                amount := r.amount, timestamp := t.now }, rfl, hst, not_lt.1 hnow, hsettle, ?_⟩)
            simp [settleBegin, hr, hst, hnow, hrun]

/-- The end of a settlement closes its reservation. -/
theorem settleEnd_moves {verificationId settlementId : String} {r : Reservation}
    (hr : s.vault.reservations[verificationId]? = some r) (hst : r.status = .reserved) {now : ℤ}
    (hnow : now ≤ r.expiresAt) (hsettles : rules.settles verificationId now) (t : Times) :
    (settleEnd env (.of r verificationId settlementId now) t).Leaves s (Moves env rules s) := by
  have hroll : KeepsStanding (rollbackSettle (.of r verificationId settlementId now)) :=
    .bind (.modify fun _ => rfl) fun _ => rollbackSettlePayment_standing _ _ _ _
  refine .append_bind rfl (.rollback hroll (.refl s))
    (.get_bind (.okOr_some_bind hr (.modify_bind ?_)))
  exact Along.leaves (refresh_receipt_moving hrule _ _
    (.bind (issueProviderReceiptLocked_moving hrule _ _) fun _ => .pure _))
    (Move.close s hr (.settle settlementId now hst hnow)
      (by rintro _ ⟨⟩; exact hsettles) rfl rfl).moves

/-- A settlement closes its reservation, or expires it. -/
theorem postSettle_moves (verificationId : String) (t : Times)
    (hsettles : rules.settles verificationId t.now) (s : AppState) :
    (postSettle env verificationId t).Leaves s (Moves env rules s) := by
  refine .get_bind <| .okOr_bind (.refl s) fun r hr => .run_bind (run_newId ..) ?_
  have hdraw : Moves env rules s s.draw := (Move.draw s).moves
  obtain ⟨e, s', hrun, hmoves⟩ | hrun | ⟨r', v, hr', hst, hnow, hv, hrun⟩ :=
    settleBegin_moves hrule verificationId (env.freshId .settlement s.drawn) t s.draw
  · exact .of_run (by rw [Prog.run_bind, hrun]) (hdraw.trans hmoves)
  · exact .run_bind hrun (Along.leaves (.bind (issueProviderReceiptLocked_moving hrule _ _)
      fun _ => .pure _) hdraw)
  · refine .run_bind hrun ((settleEnd_moves hrule ?_ hst hnow hsettles t).mono fun _ h =>
      (hdraw.move (.standing _ hv)).trans h)
    have hreservations : v.reservations = s.vault.reservations := congrArg (·.reservations) hv
    exact hreservations ▸ hr'

/-! ### Withdrawals -/

/-- An authorisation leaves the enclave only after its entry is in the log. -/
theorem postWithdrawAuth_moves (client recipientAta : Pubkey) (amount : ℕ) (t : Times)
    (s : AppState) (hrelease : rules.releases s.vault.withdrawNonce) :
    (postWithdrawAuth env client recipientAta amount t).Leaves s (Moves env rules s) := by
  have htake : Moves env rules s
      (s.setVault (s.vault.setWithdrawNonce (s.vault.withdrawNonce + 1))) := (Move.takeNonce s).moves
  refine .run_bind (run_onVault nextWithdrawNonce s) ?_
  set w := newWithdrawal client recipientAta amount s.vault.withdrawNonce t.now
  set taken := s.vault.setWithdrawNonce (s.vault.withdrawNonce + 1)
  refine .bind (P := fun u => ∃ v, v.standing = taken.standing ∧ u = s.setVault v) ?_ ?_ ?_
  · exact ⟨_, authorizeWithdrawal_keeps .standing w taken, rfl⟩
  · rintro _ ⟨v, hv, rfl⟩
    exact htake.move (.standing _ hv)
  · rintro _ _ ⟨v, hv, rfl⟩
    refine .append_bind rfl (.rollback (expirePendingWithdrawal_keeps .standing _)
      (htake.move (.standing _ hv))) ?_
    have hlogged : Moves env rules s ((s.setVault v).setWal (s.wal.store (w.entry env))) :=
      (Move.authorize s (congrArg Standing.toBookings hv) rfl (congrArg Standing.providers hv)).moves
    -- the entry stays in the log until the signature is handed out
    have hkeep : ∀ u, Moves env rules ((s.setVault v).setWal (s.wal.store (w.entry env))) u →
        ∃ record ∈ u.wal.records, record.entry = w.entry env := fun u hu =>
      hu.keep (P := fun u => ∃ record ∈ u.wal.records, record.entry = w.entry env)
        ⟨⟨s.wal.seqno, w.entry env⟩, by simp, rfl⟩ fun _ _ hmove ⟨record, hmem, heq⟩ =>
          ⟨record, hmove.records_subset hmem, heq⟩
    refine .bind (refresh_moving client _) (fun _ h => hlogged.trans h) fun _ u hu => ?_
    refine .bind (Along.leaves (issueClientReceiptLocked_moving hrule client t.later) hu)
      (fun _ h => hlogged.trans h) fun _ u hu => ?_
    exact Moves.move (hlogged.trans hu) (.release u (hkeep u hu) hrelease)

end Receipts

end Handlers

/-! ### All operations -/

/-- The transaction that the detector brings. -/
def Op.signature? : Op env → Option String
  | .deposit event _ => some event.1.signature
  | .withdrawal event _ => some event.signature
  | _ => none

/-- The rules allow what an operation does: it books its own request under a payment id that is
new, settles its own reservation at its own time, registers the provider it asks for, its receipts
state what the vault says, it hands out the withdrawal that takes the next nonce, and it marks its
own transaction. -/
structure Rules.Admits (rules : Rules) (s : AppState) (op : Op env) : Prop where
  books : ∀ req times, op = .verify req times → ∀ s r, req.Makes env r →
    Handlers.existingReservation s.vault r.paymentId = none → rules.books s r
  settles : ∀ verificationId times, op = .settle verificationId times →
    rules.settles verificationId times.now
  registers : rules.Registers s op
  issues : ∀ r, r.States env → rules.issues r
  releases : rules.releases s.vault.withdrawNonce
  remembers : ∀ signature ∈ op.signature?, rules.remembers signature

/-- **Every operation is made of moves.** -/
theorem AppState.next_moves {op : Op env} (h : rules.Admits s op) (hids : s.IdsDrawn env) :
    Moves env rules s (s.next op) := by
  cases op with
  | deposit => exact Detector.applyDeposit_moving h.issues _ _ (h.remembers _ rfl) s
  | withdrawal => exact Detector.applyWithdrawal_moving h.issues _ _ (h.remembers _ rfl) s
  | registerProvider => exact Handlers.postRegisterProvider_moves h.registers
  | openProvider => exact Handlers.ensureOpenProviderRegistered_moves h.registers
  | verify req t =>
    refine Handlers.postVerify_moves h.issues hids req t fun u r _ hr hnone =>
      h.books req t rfl u r hr ?_
    obtain ⟨_, _, _, _, -, rfl⟩ := hr
    exact hnone
  | settle _ t => exact Handlers.postSettle_moves h.issues _ t (h.settles _ t rfl) s
  | cancel => exact Handlers.postCancel_moves h.issues ..
  | expireReservation => exact Handlers.expireReservedReservation_moves h.issues ..
  | withdrawAuth => exact Handlers.postWithdrawAuth_moves h.issues _ _ _ _ s h.releases
  | expireWithdrawal => exact Handlers.expirePending_moving h.issues _ _ s
  | channelOpen => exact Handlers.postChannelOpen_moving h.issues _ _ _ _ s
  | channelRequest => exact Handlers.postChannelRequest_moving h.issues _ _ _ _ _ s
  | channelDeliver => exact Handlers.postChannelDeliver_moving h.issues _ _ s
  | channelFinalize => exact Handlers.postChannelFinalize_moving h.issues _ _ _ s
  | channelClaim => exact Handlers.recoverChannelClaim_moving h.issues _ _ _ s
  | channelExpire => exact Handlers.expireStaleChannelRequest_moving h.issues _ _ s
  | channelClose => exact Handlers.postChannelClose_moving h.issues _ _ s
  | confirmBatch => exact Detector.confirmBatch_moving _ _ _ s
  | clientReceipt => exact issueClientReceiptLocked_moving h.issues _ _ s
  | providerReceipt => exact issueProviderReceiptLocked_moving h.issues _ _ s

/-! ### Registrations -/

/-- Providers are registered under free ids where the condition holds, and receipts state what the
vault says. -/
def Rules.registering (env : Env) (P : VaultState → ProviderRegistration → Prop) : Rules :=
  { Rules.free with
    registers := fun v v' => ∃ provider, v.providers[provider.providerId]? = none ∧
      v'.providers = v.providers.insert provider.providerId provider ∧ P v provider
    issues := fun r => r.States env }

/-- An operation whose registration meets the condition. -/
theorem AppState.next_registering {P : VaultState → ProviderRegistration → Prop} {op : Op env}
    (hids : s.IdsDrawn env)
    (h : ∀ provider ∈ op.registers?, s.vault.providers[provider.providerId]? = none →
      P s.vault provider) : Moves env (.registering env P) s (s.next op) := by
  refine next_moves ⟨fun _ _ _ _ _ _ _ => trivial, fun _ _ _ => trivial, ?_, fun _ hr => hr, trivial,
    fun _ _ => trivial⟩ hids
  exact fun provider hmem hfree => ⟨provider, hfree, rfl, h provider hmem hfree⟩

/-- What moves keep holds after a run whose registrations meet the condition. -/
theorem run_registering {P : VaultState → ProviderRegistration → Prop} {Q : AppState → Prop}
    {ops : List (Op env)} (h : AllSteps AppState.next (fun s op => ∀ provider ∈ op.registers?,
      s.vault.providers[provider.providerId]? = none → P s.vault provider) .new ops)
    (hnew : Q .new) (hmove : ∀ s t, Move env (.registering env P) s t → Q s → Q t) :
    Q (run env ops) := by
  refine (AllSteps.keep (P := fun s => RunInv env s ∧ Q s) (fun s op hs hop => ⟨?_, ?_⟩)
    ⟨.new env, hnew⟩ h).2
  · exact (step_effect hs.1.toAppInv op).sound.runInv hs.1
  · exact (AppState.next_registering hs.1.ids.reservations hop).keep hs.2 hmove

end Subly402
