/-
# The moves that handlers are made of

Whatever a handler does, it does by a few moves: it draws an id, appends an entry,
changes balances, books or closes a reservation together with the entry that says so,
takes a nonce, issues a receipt.  `Move` lists them with what each is guarded by.
`Rules` says which reservations may be booked and settled, which providers registered,
which receipts may be issued, which authorisations handed out and which transactions
marked.
-/

import Subly402.Enclave.Run
import Subly402.Vault.Bookings

namespace Subly402

open Lib
open Lib.Prog (okOr failIf orReturn Leaves Along Same)

/-! ### Entries about reservations -/

/-- The reservation that replay makes of an entry. -/
def WalEntry.created? (env : Env) : WalEntry → Option Reservation
  | .reservationCreated verificationId reservationId paymentId client providerId amount requestHash
      paymentDetailsHash createdAt expiresAt => do
    let client ← env.pubkeyFromStr client
    let reservationId ← reservationId
    let requestHash ← requestHash.bind hexDecode32
    let paymentDetailsHash ← paymentDetailsHash.bind hexDecode32
    let createdAt ← createdAt
    let expiresAt ← expiresAt
    return { verificationId, reservationId, paymentId, client, providerId, amount, requestHash
             paymentDetailsHash, status := .reserved, createdAt, expiresAt, settlementId := none
             settledAt := none }
  | _ => none

/-- The entry closes a reserved payment: it is cancelled, expired, or settled before its time
was over. -/
inductive WalEntry.Closes (verificationId : String) (r : Reservation) :
    WalEntry → Reservation → Prop
  | cancel (reason : String) (hst : r.status = .reserved) :
      Closes verificationId r (.reservationCancelled verificationId reason)
        { r with status := .cancelled }
  | expire (hst : r.status = .reserved) :
      Closes verificationId r (.reservationExpired verificationId) { r with status := .expired }
  | settle (settlementId : String) (settledAt : ℤ) (hst : r.status = .reserved)
      (htime : settledAt ≤ r.expiresAt) :
      Closes verificationId r
        (.settlementCommitted settlementId verificationId r.providerId r.amount (some settledAt))
        { r with
          status := .settledOffchain
          settlementId := some settlementId
          settledAt := some settledAt }

/-- The time of a settlement. -/
def WalEntry.settledAt? : WalEntry → Option ℤ
  | .settlementCommitted _ _ _ _ settledAt => settledAt
  | _ => none

/-- The entry of an authorised withdrawal. -/
def PendingWithdrawal.entry (env : Env) (w : PendingWithdrawal) : WalEntry :=
  .withdrawAuthorized (env.pubkeyToString w.client) (env.pubkeyToString w.recipientAta) w.amount
    w.withdrawNonce w.issuedAt w.expiresAt

/-- The entry of an issued receipt. -/
def ParticipantReceipt.entry (env : Env) (r : ParticipantReceipt) : WalEntry :=
  .participantReceiptIssued (env.pubkeyToString r.participant) r.participantKind r.nonce

/-- Neither about a reservation nor about a nonce that is handed out. -/
def WalEntry.isPlain : WalEntry → Bool
  | .reservationCreated .. | .reservationCancelled .. | .reservationExpired ..
  | .settlementCommitted .. | .batchConfirmed .. | .participantReceiptIssued ..
  | .withdrawAuthorized .. => false
  | _ => true

/-! ### Receipts -/

/-- A receipt states what the vault has of its holder, for the key and the account that the
vault has. -/
def SignedReceipt.States (env : Env) (r : SignedReceipt) : Prop :=
  match r.holder with
  | .client key => ∃ balance, r.vault.clientBalances[key]? = some balance ∧
      r.receipt.participant = key ∧ r.receipt.participantKind = participantKindClient ∧
      r.receipt.recipientAta = env.associatedTokenAddress key ∧
      r.receipt.freeBalance = balance.free ∧ r.receipt.lockedBalance = balance.locked ∧
      r.receipt.maxLockExpiresAt = balance.maxLockExpiresAt
  | .provider providerId => ∃ provider, r.vault.providers[providerId]? = some provider ∧
      r.receipt.participant = provider.participantPubkey.getD provider.settlementTokenAccount ∧
      r.receipt.participantKind = participantKindProvider ∧
      r.receipt.recipientAta = provider.settlementTokenAccount ∧
      r.receipt.freeBalance
        = ((r.vault.providerCredits[providerId]?).map (·.creditedAmount)).getD 0 ∧
      r.receipt.lockedBalance = 0 ∧ r.receipt.maxLockExpiresAt = 0

/-- What `issue_participant_receipt_locked` signs in a state. -/
def AppState.receiptOf (s : AppState) (holder : Holder) (participant : Pubkey)
    (participantKind : ℕ) (recipientAta : Pubkey) (freeBalance lockedBalance : ℕ)
    (maxLockExpiresAt now : ℤ) : SignedReceipt :=
  { receipt :=
      { participant, participantKind, recipientAta, freeBalance, lockedBalance, maxLockExpiresAt
        nonce := s.vault.receiptNonce, timestamp := now, snapshotSeqno := s.vault.snapshotSeqno }
    holder
    vault := s.vault.setReceiptNonce (s.vault.receiptNonce + 1) }

/-! ### Moves -/

/-- Which reservations may be booked in a state, which may be settled at what time, how the
registered providers may change, which receipts may be issued, the nonces of the withdrawals whose
authorisation may be handed out, and the transactions that may be marked. -/
structure Rules where
  books : AppState → Reservation → Prop
  settles : String → ℤ → Prop
  registers : VaultState → VaultState → Prop
  issues : SignedReceipt → Prop
  releases : ℕ → Prop
  remembers : String → Prop

/-- Rules that allow everything. -/
def Rules.free : Rules where
  books _ _ := True
  settles _ _ := True
  registers _ _ := True
  issues _ := True
  releases _ := True
  remembers _ := True

/-- A state with a receipt signed under its next nonce. -/
@[simps!]
def AppState.sign (s : AppState) (r : SignedReceipt) : AppState :=
  (s.setVault (s.vault.setReceiptNonce (s.vault.receiptNonce + 1))).pushSigned r

/-- One move of a handler. -/
inductive Move (env : Env) (rules : Rules) : AppState → AppState → Prop
  | draw (s : AppState) : Move env rules s s.draw
  | remember (s : AppState) {signature : String} (hrule : rules.remembers signature) :
      Move env rules s (s.markProcessed signature)
  | skip (s : AppState) : Move env rules s (s.setWal s.wal.skip)
  | log (s : AppState) {e : WalEntry} (he : e.isPlain) : Move env rules s (s.setWal (s.wal.store e))
  | vault (s : AppState) {v : VaultState} (hv : v.bookings = s.vault.bookings)
      (hproviders : v.providers = s.vault.providers ∨ rules.registers s.vault v) :
      Move env rules s (s.setVault v)
  | takeNonce (s : AppState) :
      Move env rules s (s.setVault (s.vault.setWithdrawNonce (s.vault.withdrawNonce + 1)))
  | authorize (s : AppState) {v : VaultState} {w : PendingWithdrawal}
      (hv : v.bookings = (s.vault.setWithdrawNonce (s.vault.withdrawNonce + 1)).bookings)
      (hw : w.withdrawNonce = s.vault.withdrawNonce)
      (hproviders : v.providers = s.vault.providers) :
      Move env rules s ((s.setVault v).setWal (s.wal.store (w.entry env)))
  | release (s : AppState) {w : PendingWithdrawal}
      (hw : ∃ record ∈ s.wal.records, record.entry = w.entry env)
      (hrule : rules.releases w.withdrawNonce) : Move env rules s (s.pushReleased w)
  | sign (s : AppState) {r : SignedReceipt} (hr : r.receipt.nonce = s.vault.receiptNonce)
      (hvault : r.vault = (s.sign r).vault) (hrule : rules.issues r) :
      Move env rules s ((s.sign r).setWal s.wal.skip)
  | issue (s : AppState) {r : SignedReceipt} (hr : r.receipt.nonce = s.vault.receiptNonce)
      (hvault : r.vault = (s.sign r).vault) (hrule : rules.issues r) :
      Move env rules s
        (((s.sign r).setWal (s.wal.store (r.receipt.entry env))).pushSent r.receipt)
  | book (s : AppState) {r : Reservation} {e : WalEntry} (hrule : rules.books s r)
      (hnew : s.vault.reservations[r.verificationId]? = none)
      (hid : env.Drawn s.drawn r.verificationId) (he : e.created? env = some r) :
      Move env rules s ((s.setWal (s.wal.store e)).setVault
        ((s.vault.setReservation r.verificationId r).setPaymentId r.paymentId r.verificationId))
  | close (s : AppState) {verificationId : String} {r r' : Reservation} {e : WalEntry}
      {v : VaultState} (hr : s.vault.reservations[verificationId]? = some r)
      (he : e.Closes verificationId r r')
      (hrule : ∀ time ∈ e.settledAt?, rules.settles verificationId time)
      (hv : v.bookings = (s.vault.setReservation verificationId r').bookings)
      (hproviders : v.providers = s.vault.providers) :
      Move env rules s ((s.setWal (s.wal.store e)).setVault v)
  | confirm (s : AppState) (settlementIds : List String) (batchId : ℕ) (txSignature : String) :
      Move env rules s
        ((s.setWal (s.wal.store (.batchConfirmed batchId txSignature settlementIds))).setVault
          (applyBatchConfirmation settlementIds batchId txSignature s.vault))

/-- Some moves. -/
def Moves (env : Env) (rules : Rules) : AppState → AppState → Prop :=
  Relation.ReflTransGen (Move env rules)

instance (env : Env) (rules : Rules) : IsPreorder AppState (Moves env rules) where
  refl _ := .refl
  trans _ _ _ h h' := Relation.ReflTransGen.trans h h'

/-- The handler makes moves only, wherever it starts. -/
abbrev Moving {α : Type} (env : Env) (rules : Rules) (p : AppM α) : Prop :=
  p.Along (Moves env rules)

variable {env : Env} {rules : Rules} {s t : AppState}

/-- One move. -/
theorem Move.moves (h : Move env rules s t) : Moves env rules s t := .single h

/-- No move. -/
theorem Moves.refl (s : AppState) : Moves env rules s s := Relation.ReflTransGen.refl

/-- One move more. -/
theorem Moves.move {u : AppState} (h : Moves env rules s t) (h' : Move env rules t u) :
    Moves env rules s u :=
  Relation.ReflTransGen.tail h h'

/-- What every move keeps, all moves keep. -/
theorem Moves.keep {P : AppState → Prop} (h : Moves env rules s t) (hs : P s)
    (hmove : ∀ s t, Move env rules s t → P s → P t) : P t := by
  induction h with
  | refl => exact hs
  | tail _ hlast ih => exact hmove _ _ hlast ih

/-- A move appends to the log, and takes nothing out of it. -/
theorem Move.appends (h : Move env rules s t) : ∃ es, s.wal.Appends es t.wal := by
  cases h with
  | draw | remember | vault | takeNonce | release => exact ⟨[], .nil _⟩
  | skip | sign => exact ⟨[], .skip (.nil _)⟩
  | log | authorize | issue | book | close | confirm => exact ⟨[_], .store (.nil _) _⟩

/-- What is in the log stays there. -/
theorem Move.records_subset (h : Move env rules s t) {record : WalRecord}
    (hmem : record ∈ s.wal.records) : record ∈ t.wal.records := by
  obtain ⟨es, hes⟩ := h.appends
  obtain ⟨rs, hrs, -⟩ := hes.records
  rw [hrs]
  exact List.mem_append_left _ hmem

/-- What a move does to the providers and to the receipts that were signed. -/
theorem Move.providers (h : Move env rules s t) :
    (t.signed = s.signed ∧
      (t.vault.providers = s.vault.providers ∨ rules.registers s.vault t.vault)) ∨
    ∃ r, rules.issues r ∧ t.signed = s.signed ++ [r] ∧ r.vault.providers = s.vault.providers ∧
      t.vault.providers = s.vault.providers := by
  cases h with
  | draw | remember | skip | log | takeNonce | release | book => exact .inl ⟨rfl, .inl rfl⟩
  | vault _ hproviders => exact .inl ⟨rfl, hproviders⟩
  | authorize _ _ hproviders | close _ _ _ _ hproviders => exact .inl ⟨rfl, .inl hproviders⟩
  | @sign r _ hvault hrule | @issue r _ hvault hrule =>
    refine .inr ⟨r, hrule, rfl, ?_, rfl⟩
    rw [hvault]
    rfl
  | confirm settlementIds batchId txSignature =>
    have hbooks := VaultState.ledger_applyBatchConfirmation settlementIds batchId txSignature s.vault
    exact .inl ⟨rfl, .inl ((congrArg Ledger.providers hbooks).trans (Ledger.confirm_providers ..))⟩

/-! ### Pieces of handlers -/

/-- A write that keeps bookings and providers. -/
theorem Move.standing (s : AppState) {v : VaultState} (hv : v.standing = s.vault.standing) :
    Move env rules s (s.setVault v) :=
  .vault s (congrArg Standing.toBookings hv) (.inl (congrArg Standing.providers hv))

/-- Drawing an id is a move. -/
theorem newId_moving (kind : IdKind) : Moving env rules (newId env kind) := fun s =>
  .of_run (run_newId ..) (Move.draw s).moves

/-- An operation that keeps bookings and providers is a move. -/
theorem onVault_moving {α : Type} {p : VaultM α} (hp : KeepsStanding p) :
    Moving env rules (onVault p) := fun s =>
  .of_run (run_onVault p s) (Move.standing s (hp s.vault)).moves

/-- The handler goes on after a failed append. -/
theorem Moves.rollback {α : Type} {rollback : VaultM α} (hroll : KeepsStanding rollback)
    (h : Moves env rules s t) :
    Moves env rules s ((t.setWal t.wal.skip).setVault (rollback.run t.vault).2) :=
  (h.move (.skip t)).move (.standing _ (hroll t.vault))

/-- Appending a plain entry is a move, and so is a failed append. -/
theorem appendAs_moving {α : Type} {describe : String → EnclaveError} {e : WalEntry}
    {rollback : VaultM α} (he : e.isPlain) (hroll : KeepsStanding rollback) :
    Moving env rules (appendAs describe env e rollback) := fun s =>
  leaves_append rfl (.rollback hroll (.refl s)) (Move.log s he).moves

/-- So is refreshing the lock expiry. -/
theorem refresh_moving (client : Pubkey) :
    Moving env rules (onVault (refreshClientMaxLockExpiresAt client)) :=
  onVault_moving (refreshClientMaxLockExpiresAt_keeps .standing client)

/-! ### Receipts -/

section Receipts

/-- A receipt is signed; where its entry is logged it leaves the enclave. -/
theorem issueParticipantReceiptLocked_moves {holder : Holder} {participant : Pubkey} {kind : ℕ}
    {recipientAta : Pubkey} {free locked : ℕ} {maxLock now : ℤ} {s : AppState}
    (h : rules.issues (s.receiptOf holder participant kind recipientAta free locked maxLock now)) :
    (issueParticipantReceiptLocked env holder participant kind recipientAta free locked maxLock
      now).Leaves s (Moves env rules s) := by
  refine .run_bind (run_onVault nextReceiptNonce s) (.get_bind (.set_bind (.append_bind rfl ?_ ?_)))
  · exact (Move.sign s rfl rfl h).moves
  · refine .bind (P := Moves env rules s) ?_ (fun _ h => h) fun _ t ht =>
      Along.leaves (.bind (appendAs_moving rfl (.pure _)) fun _ => .pure _) ht
    rw [Leaves, replicateReceiptToWatchtower_run]
    exact (Move.issue s (r := s.receiptOf holder participant kind recipientAta free locked maxLock
      now) rfl rfl h).moves

variable (hrule : ∀ r, r.States env → rules.issues r)
include hrule

/-- A client's receipt states what the vault says. -/
theorem issueClientReceiptLocked_moving (client : Pubkey) (now : ℤ) :
    Moving env rules (issueClientReceiptLocked env client now) := fun s =>
  .get_bind <| .okOr_bind (.refl s) fun balance hb => issueParticipantReceiptLocked_moves
    (hrule _ ⟨balance, hb, rfl, rfl, rfl, rfl, rfl, rfl⟩)

/-- A provider's receipt states what the vault says. -/
theorem issueProviderReceiptLocked_moving (providerId : String) (now : ℤ) :
    Moving env rules (issueProviderReceiptLocked env providerId now) := fun s =>
  .get_bind <| .okOr_bind (.refl s) fun provider hp => .get_bind <|
    issueParticipantReceiptLocked_moves (hrule _ ⟨provider, hp, rfl, rfl, rfl, rfl, rfl, rfl⟩)

/-- The end of most handlers. -/
theorem refresh_receipt_moving {α : Type} (client : Pubkey) (now : ℤ) {k : AppM α}
    (hk : Moving env rules k) :
    Moving env rules (onVault (refreshClientMaxLockExpiresAt client) >>= fun _ =>
      issueClientReceiptLocked env client now >>= fun _ => k) :=
  .bind (refresh_moving client) fun _ =>
    .bind (issueClientReceiptLocked_moving hrule client now) fun _ => hk

end Receipts

end Subly402
