/-
# The state of the running enclave, and its receipts

`AppState` of `enclave/src/handlers.rs`: the vault, the log and the deposit
detector's memory.  The handlers run under one lock (`persistence_lock`), so a
handler is a program over this state.
-/

import Subly402.Vault.Ops
import Subly402.Enclave.Wal

namespace Subly402

open Lib
open Lib.Prog (okOr failIf)

/-- Whose balance a receipt states (ghost). -/
inductive Holder where
  | client (key : Pubkey)
  | provider (providerId : String)
deriving DecidableEq

/-- The signed fields of `ReceiptResponse`. -/
structure ParticipantReceipt where
  participant : Pubkey
  participantKind : ℕ
  recipientAta : Pubkey
  freeBalance : ℕ
  lockedBalance : ℕ
  maxLockExpiresAt : ℤ
  nonce : ℕ
  timestamp : ℤ
  snapshotSeqno : ℕ
deriving DecidableEq

/-- A signed receipt, with whom it is about and the vault when its nonce was taken. -/
structure SignedReceipt where
  receipt : ParticipantReceipt
  holder : Holder
  vault : VaultState

/-- `AppState`, with the four ghosts of the header. -/
structure AppState where
  vault : VaultState
  wal : Wal
  processedSignatures : Finset String
  lastProcessedSignature : Option String
  drawn : ℕ
  signed : List SignedReceipt
  sent : List ParticipantReceipt
  released : List PendingWithdrawal

/-- A handler. -/
abbrev AppM : Type → Type := Prog AppState EnclaveError

namespace AppState

/-- A fresh enclave with an empty log. -/
def new : AppState :=
  { vault := .new, wal := { seqno := 0, records := [] }, processedSignatures := ∅
    lastProcessedSignature := none, drawn := 0, signed := [], sent := [], released := [] }

variable (s : AppState)

@[simps]
def setVault (vault : VaultState) : AppState := { s with vault }

@[simps]
def setWal (wal : Wal) : AppState := { s with wal }

@[simps]
def markProcessed (txSignature : String) : AppState :=
  { s with
    processedSignatures := insert txSignature s.processedSignatures
    lastProcessedSignature := some txSignature }

@[simps]
def draw : AppState := { s with drawn := s.drawn + 1 }

@[simps]
def pushSigned (receipt : SignedReceipt) : AppState := { s with signed := s.signed ++ [receipt] }

@[simps]
def pushSent (receipt : ParticipantReceipt) : AppState := { s with sent := s.sent ++ [receipt] }

@[simps]
def pushReleased (withdrawal : PendingWithdrawal) : AppState :=
  { s with released := s.released ++ [withdrawal] }

/-- Writing the vault back changes nothing. -/
@[simp]
theorem setVault_self : s.setVault s.vault = s := rfl

/-- Of two writes of the vault the second stays. -/
@[simp]
theorem setVault_setVault (v v' : VaultState) : (s.setVault v).setVault v' = s.setVault v' := rfl

end AppState

/-- A ledger operation on the vault. -/
def onVault {α : Type} (p : VaultM α) : AppM α :=
  p.within AppState.vault fun vault s => s.setVault vault

/-- A fresh id, `format!("…_{}", Uuid::now_v7())`. -/
def newId (env : Env) (kind : IdKind) : AppM String := do
  let s ← get
  set s.draw
  return env.freshId kind s.drawn

/-- Append an entry; where that fails, undo with `rollback`, drop its result, and return the
store's error as `describe` words it. -/
def appendAs {α : Type} (describe : String → EnclaveError) (env : Env) (entry : WalEntry)
    (rollback : VaultM α) : AppM Unit := do
  let s ← get
  match env.appendError s.wal.seqno with
  | none => set (s.setWal (s.wal.store entry))
  | some error =>
    set (s.setWal s.wal.skip)
    onVault rollback.attempt
    throw (describe error)

/-- The error of a handler whose append failed. -/
def walAppendFailed (error : String) : EnclaveError := .internal ("WAL append failed: " ++ error)

/-- Append an entry or undo. -/
abbrev appendOr {α : Type} (env : Env) (entry : WalEntry) (rollback : VaultM α) : AppM Unit :=
  appendAs walAppendFailed env entry rollback

/-- Append an entry that needs no rollback. -/
abbrev append (env : Env) (entry : WalEntry) : AppM Unit := appendOr env entry (pure ())

/-- A ledger operation runs on the vault alone. -/
@[simp]
theorem run_onVault {α : Type} (p : VaultM α) (s : AppState) :
    (onVault p).run s = ((p.run s.vault).1, s.setVault (p.run s.vault).2) := rfl

/-- Past a ledger operation that fails cleanly. -/
theorem Lib.Prog.Leaves.onVault_bind {α β : Type} {p : VaultM α} {P : α → VaultState → Prop}
    {k : α → AppM β} {s : AppState} {R : AppState → Prop} (hp : p.Clean s.vault P) (hfail : R s)
    (h : ∀ a v, P a v → (k a).Leaves (s.setVault v) R) : (onVault p >>= k).Leaves s R :=
  .clean_bind (.within rfl hp) hfail fun a _ ⟨v, hP, hv⟩ => hv ▸ h a v hP

/-- Past a ledger operation that succeeds. -/
theorem Lib.Prog.Leaves.onVault_run_bind {α β : Type} {p : VaultM α} {k : α → AppM β}
    {s : AppState} {R : AppState → Prop} {a : α} {v : VaultState}
    (hp : p.run s.vault = (.ok a, v)) (h : (k a).Leaves (s.setVault v) R) :
    (onVault p >>= k).Leaves s R :=
  .run_bind (by rw [run_onVault, hp]) h

/-- An id is drawn from the supply. -/
theorem run_newId (env : Env) (kind : IdKind) (s : AppState) :
    (newId env kind).run s = (.ok (env.freshId kind s.drawn), s.draw) := rfl

section Append

variable {α β : Type} {describe : String → EnclaveError} {env : Env} {entry : WalEntry}
  {rollback : VaultM α} {s : AppState}

/-- The store takes the entry. -/
theorem run_appendAs_ok (h : env.appendError s.wal.seqno = none) :
    (appendAs describe env entry rollback).run s = (.ok (), s.setWal (s.wal.store entry)) := by
  simp [appendAs, h]

/-- The store refuses: the number is used up, and the rollback runs. -/
theorem run_appendAs_error {error : String} (h : env.appendError s.wal.seqno = some error) :
    (appendAs describe env entry rollback).run s
      = (.error (describe error), (s.setWal s.wal.skip).setVault (rollback.run s.vault).2) := by
  simp [appendAs, h]

/-- Past an append: the error path leaves what the rollback leaves, and the rest of the handler
runs with the entry in the log. -/
theorem Lib.Prog.Leaves.append_bind {R : AppState → Prop} {k : Unit → AppM β}
    {r : Except EnclaveError α} {v : VaultState} (hroll : rollback.run s.vault = (r, v))
    (hfail : R ((s.setWal s.wal.skip).setVault v))
    (hok : (k ()).Leaves (s.setWal (s.wal.store entry)) R) :
    (appendAs describe env entry rollback >>= k).Leaves s R := by
  cases h : env.appendError s.wal.seqno with
  | none => exact .run_bind (run_appendAs_ok h) hok
  | some error => exact .of_run (by rw [Prog.run_bind, run_appendAs_error h, hroll]) hfail

/-- Past an append, where the handler succeeds. -/
theorem Lib.Prog.Returns.append_bind {Q : β → AppState → Prop} {k : Unit → AppM β}
    (h : (k ()).Returns (s.setWal (s.wal.store entry)) Q) :
    (appendAs describe env entry rollback >>= k).Returns s Q := by
  intro b t ht
  rw [Prog.run_bind] at ht
  cases happend : env.appendError s.wal.seqno with
  | none => exact h b t (by rwa [run_appendAs_ok happend] at ht)
  | some error =>
    rw [run_appendAs_error happend] at ht
    cases ht

/-- An append at the end of a handler. -/
theorem leaves_append {R : AppState → Prop} {r : Except EnclaveError α} {v : VaultState}
    (hroll : rollback.run s.vault = (r, v)) (hfail : R ((s.setWal s.wal.skip).setVault v))
    (hok : R (s.setWal (s.wal.store entry))) :
    (appendAs describe env entry rollback).Leaves s R := by
  cases h : env.appendError s.wal.seqno with
  | none => exact .of_run (run_appendAs_ok h) hok
  | some error => exact .of_run (by rw [run_appendAs_error h, hroll]) hfail

end Append

/-! ### Receipts -/

/-- `PARTICIPANT_KIND_CLIENT`. -/
def participantKindClient : ℕ := 0

/-- `PARTICIPANT_KIND_PROVIDER`. -/
def participantKindProvider : ℕ := 1

/-- `replicate_receipt_to_watchtower`.  The receipt is sent whatever comes back. -/
def replicateReceiptToWatchtower (env : Env) (receipt : ParticipantReceipt) : AppM Unit := do
  modify (·.pushSent receipt)
  match env.watchtowerError receipt.nonce with
  | none => pure ()
  | some error => throw error

/-- `issue_participant_receipt_locked`.  `now` is the clock at the signature. -/
def issueParticipantReceiptLocked (env : Env) (holder : Holder) (participant : Pubkey)
    (participantKind : ℕ) (recipientAta : Pubkey) (freeBalance lockedBalance : ℕ)
    (maxLockExpiresAt now : ℤ) : AppM ParticipantReceipt := do
  let nonce ← onVault nextReceiptNonce
  let s ← get
  let receipt : ParticipantReceipt :=
    { participant, participantKind, recipientAta, freeBalance, lockedBalance, maxLockExpiresAt
      nonce, timestamp := now, snapshotSeqno := s.vault.snapshotSeqno }
  set (s.pushSigned { receipt, holder, vault := s.vault })
  append env (.participantReceiptIssued (env.pubkeyToString participant) participantKind nonce)
  replicateReceiptToWatchtower env receipt
  append env (.participantReceiptMirrored (env.pubkeyToString participant) participantKind nonce)
  return receipt

/-- `issue_client_receipt_locked`. -/
def issueClientReceiptLocked (env : Env) (client : Pubkey) (now : ℤ) : AppM ParticipantReceipt := do
  let balance ← okOr (← get).vault.clientBalances[client]? .clientNotFound
  issueParticipantReceiptLocked env (.client client) client participantKindClient
    (env.associatedTokenAddress client) balance.free balance.locked balance.maxLockExpiresAt now

/-- `issue_provider_receipt_locked`. -/
def issueProviderReceiptLocked (env : Env) (providerId : String) (now : ℤ) :
    AppM ParticipantReceipt := do
  let provider ← okOr (← get).vault.providers[providerId]? .providerNotFound
  let s ← get
  let freeBalance := ((s.vault.providerCredits[providerId]?).map (·.creditedAmount)).getD 0
  issueParticipantReceiptLocked env (.provider providerId)
    (provider.participantPubkey.getD provider.settlementTokenAccount) participantKindProvider
    provider.settlementTokenAccount freeBalance 0 0 now

end Subly402
