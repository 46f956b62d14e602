/-
# Reading transactions

`parse_balance_sync_transaction` and `apply_balance_sync_event` of
`enclave/src/deposit_detector.rs`: what the detector makes of a finalized transaction,
and what it then does.  It looks at the instructions of the transaction itself, and
takes the first one that deposits to the vault or withdraws from it.
-/

import Subly402.Lib.LittleEndian
import Subly402.Enclave.Lifecycle

namespace Subly402

open Lib
open Lib.Prog (Leaves Returns Along Same)

/-- The fields of `DepositDetector` that parsing uses. -/
structure DetectorConfig where
  programId : Pubkey
  vaultTokenAccount : Pubkey

/-- An instruction, with its account indices looked up. -/
structure Instruction where
  programId : Option Pubkey
  data : List UInt8
  accounts : List (Option Pubkey)
deriving DecidableEq

/-- A transaction that mentions the vault's token account. -/
structure Tx where
  signature : String
  slot : ℕ
  failed : Bool
  instructions : List Instruction
  /-- The instructions that programs invoked while the transaction ran. -/
  inner : List Instruction
deriving DecidableEq

/-- `BalanceSyncEvent`. -/
inductive BalanceSyncEvent where
  | deposit (event : DepositEvent)
  | withdraw (event : WithdrawEvent)

namespace BalanceSyncEvent

/-- The transaction that the event was read off. -/
def signature : BalanceSyncEvent → String
  | .deposit event => event.signature
  | .withdraw event => event.signature

def client : BalanceSyncEvent → Pubkey
  | .deposit event => event.client
  | .withdraw event => event.client

/-- What the event adds to the client's deposits. -/
def deposited : BalanceSyncEvent → ℕ
  | .deposit event => event.amount
  | .withdraw _ => 0

/-- What the event deposits, and for whom. -/
def credits : BalanceSyncEvent → List (Pubkey × ℕ)
  | .deposit event => [(event.client, event.amount)]
  | .withdraw _ => []

end BalanceSyncEvent

/-- `instruction_discriminator`. -/
def instructionDiscriminator (env : Env) (name : String) : List UInt8 :=
  (env.curve.sha256 (utf8 ("global:" ++ name))).bytes.take 8

namespace Instruction

variable (i : Instruction)

/-- The key of an account of the instruction. -/
def account (n : ℕ) : Option Pubkey := (i.accounts[n]?).join

/-- The `u64` at an offset of the data. -/
def u64At (offset : ℕ) : ℕ := leNat ((i.data.drop offset).take 8)

/-- The instruction calls the vault program, with data and accounts enough. -/
def Calls (env : Env) (config : DetectorConfig) (name : String) (length : ℕ) : Prop :=
  i.programId = some config.programId ∧ length ≤ i.data.length ∧
    i.data.take 8 = instructionDiscriminator env name ∧ 4 ≤ i.accounts.length

instance (env : Env) (config : DetectorConfig) (name : String) (length : ℕ) :
    Decidable (i.Calls env config name length) :=
  inferInstanceAs (Decidable (_ ∧ _))

/-- Who deposits how much to the vault. -/
def depositTerms (config : DetectorConfig) : Option (Pubkey × ℕ) := do
  let client ← i.account 0
  let vaultTokenAccount ← i.account 3
  if vaultTokenAccount = config.vaultTokenAccount then some (client, i.u64At 8) else none

/-- The withdrawal from the vault that the instruction makes. -/
def withdrawTerms (config : DetectorConfig) (tx : Tx) : Option WithdrawEvent := do
  let client ← i.account 0
  let vaultTokenAccount ← i.account 2
  let recipientAta ← i.account 3
  if vaultTokenAccount = config.vaultTokenAccount then
    some
      { signature := tx.signature, client, recipientAta, amount := i.u64At 8
        withdrawNonce := i.u64At 16, expiresAt := i64OfBits (i.u64At 24), slot := tx.slot }
  else none

/-- What the instruction deposits to the vault. -/
def deposit? (env : Env) (config : DetectorConfig) : Option (Pubkey × ℕ) :=
  if i.Calls env config "deposit" 16 then i.depositTerms config else none

/-- One round of the loop of `parse_balance_sync_transaction`. -/
def parse (env : Env) (config : DetectorConfig) (tx : Tx) : Option BalanceSyncEvent :=
  if i.Calls env config "deposit" 16 then
    (i.depositTerms config).map fun (client, amount) =>
      .deposit { signature := tx.signature, client, amount, slot := tx.slot }
  else if i.Calls env config "withdraw" 32 then (i.withdrawTerms config tx).map .withdraw
  else none

end Instruction

namespace Tx

variable (env : Env) (config : DetectorConfig) (tx : Tx)

/-- `parse_balance_sync_transaction`, for a transaction that decodes. -/
def parseBalanceSyncTransaction : Option BalanceSyncEvent :=
  if tx.failed then none else tx.instructions.findSome? (·.parse env config tx)

/-- What the transaction deposits to the vault. -/
def deposits : List (Pubkey × ℕ) :=
  if tx.failed then [] else (tx.instructions ++ tx.inner).filterMap (·.deposit? env config)

/-- What the detector finds of it. -/
def found : List (Pubkey × ℕ) :=
  ((tx.parseBalanceSyncTransaction env config).map (·.credits)).getD []

variable {env config tx}

/-- An event keeps the transaction's signature. -/
theorem signature_of_parse {event : BalanceSyncEvent}
    (h : tx.parseBalanceSyncTransaction env config = some event) :
    event.signature = tx.signature := by
  unfold parseBalanceSyncTransaction at h
  split at h
  · cases h
  obtain ⟨i, -, hi⟩ := List.exists_of_findSome?_eq_some h
  unfold Instruction.parse at hi
  split at hi
  · obtain ⟨terms, -, rfl⟩ := Option.map_eq_some_iff.1 hi
    rfl
  · split at hi
    · obtain ⟨withdrawal, hw, rfl⟩ := Option.map_eq_some_iff.1 hi
      simp only [Instruction.withdrawTerms, Option.bind_eq_bind, Option.bind_eq_some_iff] at hw
      obtain ⟨_, -, _, -, _, -, hw⟩ := hw
      split at hw
      · cases hw
        rfl
      · cases hw
    · cases hi

/-- A parsed transaction credits its event's clients. -/
theorem found_of_parse {event : BalanceSyncEvent}
    (h : tx.parseBalanceSyncTransaction env config = some event) :
    tx.found env config = event.credits := by
  simp [found, h]

/-- No event, no credit. -/
theorem found_of_parse_none (h : tx.parseBalanceSyncTransaction env config = none) :
    tx.found env config = [] := by
  simp [found, h]

end Tx

namespace Detector

/-- `apply_balance_sync_event`. -/
def applyBalanceSyncEvent (env : Env) (event : BalanceSyncEvent) (now : ℤ) : AppM Unit :=
  match event with
  | .deposit event => applyDeposit env event now
  | .withdraw event => applyWithdrawal env event now

end Detector

/-! ### The detector's memory -/

/-- All that a client has deposited. -/
def VaultState.deposited (v : VaultState) (client : Pubkey) : ℕ := (v.balance client).totalDeposited

/-- What the detector remembers, and what it has counted. -/
def AppState.memory (s : AppState) : Finset String × Option String × (Pubkey → ℕ) :=
  (s.processedSignatures, s.lastProcessedSignature, s.vault.deposited)

/-- Either the detector's memory and the client's deposits are as they were, or the transaction
is now marked, and its deposit counted. -/
inductive BalanceSyncEvent.Marks (event : BalanceSyncEvent) (s s' : AppState) : Prop
  | same (memory : s'.memory = s.memory)
  | marked (new : event.signature ∉ s.processedSignatures)
      (processed : s'.processedSignatures = insert event.signature s.processedSignatures)
      (last : s'.lastProcessedSignature = some event.signature)
      (deposited : s'.vault.deposited event.client
        = s.vault.deposited event.client + event.deposited)

section Deposited

variable {v v' : VaultState}

/-- A changed record of a client with the same deposits. -/
theorem VaultState.deposited_setBalance {client : Pubkey} {balance balance' : ClientBalance}
    (hb : v.clientBalances[client]? = some balance) (hv : v'.clientBalances = v.clientBalances)
    (h : balance'.totalDeposited = balance.totalDeposited) :
    (v'.setBalance client balance').deposited = v.deposited := by
  funext c
  have hsame : v'.balance c = v.balance c := by rw [VaultState.balance, hv, VaultState.balance]
  rw [deposited, balance_setBalance, deposited, hsame]
  split
  · next hc => rw [h, hc, balance_eq hb]
  · rfl

/-- A withdrawal leaves the deposits. -/
theorem applyWithdrawal_deposited (withdrawNonce : ℕ) :
    (applyWithdrawal withdrawNonce).Along (Same VaultState.deposited) := by
  intro v
  refine .get_bind <| .okOr_bind rfl fun w _ => .modify_bind <| .get_bind <|
    .okOr_bind rfl fun b hb => .modify_bind <| .modify_bind ?_
  have hspent : (((v.dropPending withdrawNonce).noteLockedSub b.locked w.amount).setBalance
      w.client (b.spend w.amount)).deposited = v.deposited :=
    VaultState.deposited_setBalance hb rfl rfl
  refine .failIf_bind (fun _ => hspent) fun _ => .modify_bind <| .pure ?_
  have hlookup : (((v.dropPending withdrawNonce).noteLockedSub b.locked w.amount).setBalance
      w.client (b.spend w.amount)).clientBalances[w.client]? = some (b.spend w.amount) := by simp
  rw [Same]
  refine (VaultState.deposited_setBalance hlookup rfl ?_).trans hspent
  rfl

/-- So does its rollback. -/
theorem rollbackAppliedWithdrawal_deposited (w : PendingWithdrawal) :
    (rollbackAppliedWithdrawal w).Along (Same VaultState.deposited) := by
  intro v
  refine .get_bind <| .okOr_bind rfl fun b hb => .modify_bind ?_
  exact VaultState.deposited_setBalance hb rfl rfl

/-- So does a refresh. -/
theorem refreshClientMaxLockExpiresAt_deposited (client : Pubkey) :
    (refreshClientMaxLockExpiresAt client).Along (Same VaultState.deposited) := by
  intro v
  refine .get_bind <| .get_bind <| .okOr_bind rfl fun b hb => .modify_bind <| .pure ?_
  exact VaultState.deposited_setBalance hb rfl rfl

end Deposited

section Memory

variable {env : Env} {s : AppState}

/-- Memory sees a vault's deposits only. -/
theorem AppState.memory_setVault {v : VaultState} (h : v.deposited = s.vault.deposited) :
    (s.setVault v).memory = s.memory := by
  rw [memory, setVault_vault, h]
  rfl

/-- A vault step that leaves the deposits leaves the memory. -/
theorem onVault_memory {α : Type} {p : VaultM α} (hp : p.Along (Same VaultState.deposited)) :
    (onVault p).Along (Same AppState.memory) := fun s =>
  .of_run (run_onVault p s) (AppState.memory_setVault (hp s.vault))

/-- A log write leaves the memory. -/
theorem appendAs_memory {α : Type} {describe : String → EnclaveError} {e : WalEntry}
    {rollback : VaultM α} (hroll : rollback.Along (Same VaultState.deposited)) :
    (appendAs describe env e rollback).Along (Same AppState.memory) := fun s =>
  leaves_append rfl (AppState.memory_setVault (s := s.setWal s.wal.skip) (hroll s.vault)) rfl

/-- A receipt leaves the memory. -/
theorem issueClientReceiptLocked_memory (client : Pubkey) (now : ℤ) :
    (issueClientReceiptLocked env client now).Along (Same AppState.memory) := by
  refine .get_bind fun _ => .okOr_bind fun balance _ s => ?_
  refine .run_bind (run_onVault nextReceiptNonce s) (.get_bind (.set_bind (.append_bind rfl rfl ?_)))
  refine .bind (P := fun t : AppState => t.memory = s.memory) ?_ (fun _ h => h)
    fun _ t ht => .append_bind rfl ht ht
  rw [Leaves, replicateReceiptToWatchtower_run]
  rfl

end Memory

namespace Detector

variable {env : Env} {s : AppState}

/-- The end of both: the transaction is marked, and the rest leaves the memory alone. -/
theorem leaves_record {α : Type} (event : BalanceSyncEvent) {slot : ℕ} {k : Unit → AppM α}
    {t : AppState} (hnew : event.signature ∉ s.processedSignatures)
    (hprocessed : t.processedSignatures = s.processedSignatures)
    (hdeposited : t.vault.deposited event.client
      = s.vault.deposited event.client + event.deposited)
    (hk : (k ()).Along (Same AppState.memory)) :
    (record event.signature slot >>= k).Leaves t (event.Marks s) := by
  refine .modify_bind ((hk.leaves rfl).mono fun u hu => ?_)
  simp only [Same, AppState.memory, Prod.mk.injEq] at hu
  obtain ⟨hmarked, hlast, hsame⟩ := hu
  exact .marked hnew (hmarked.trans (congrArg (insert _) hprocessed)) hlast
    ((congrFun hsame _).trans hdeposited)

/-- A deposit is marked as it is counted. -/
theorem applyDeposit_marks (deposit : DepositEvent) (now : ℤ) :
    (applyDeposit env deposit now).Leaves s ((BalanceSyncEvent.deposit deposit).Marks s) := by
  refine .get_bind ?_
  split
  · exact .pure (.same rfl)
  next hnew =>
    refine .onVault_run_bind (run_applyDeposit ..) (.append_bind (run_rollbackDeposit ..) ?_ ?_)
    · refine .same (AppState.memory_setVault (s := s.setWal s.wal.skip) ?_)
      funext client
      rw [VaultState.deposited, VaultState.balance_setBalance]
      split
      · next hc => rw [hc]; rfl
      · rfl
    · refine leaves_record (.deposit deposit) hnew rfl ?_
        (.bind (issueClientReceiptLocked_memory _ now) fun _ => .pure _)
      rw [VaultState.deposited, AppState.setWal_vault, AppState.setVault_vault,
        VaultState.balance_setBalance, if_pos (by rfl)]
      rfl

/-- A withdrawal is marked, or the memory stays. -/
theorem applyWithdrawal_marks (event : WithdrawEvent) (now : ℤ) :
    (applyWithdrawal env event now).Leaves s ((BalanceSyncEvent.withdraw event).Marks s) := by
  refine .get_bind ?_
  split
  · exact .pure (.same rfl)
  next hnew =>
    refine .bind (onVault_memory (applyWithdrawal_deposited event.withdrawNonce) s)
      (fun _ h => .same h) fun applied t ht => .failIf_bind (fun _ => .same ht) fun _ => ?_
    refine .bind (appendAs_memory (rollbackAppliedWithdrawal_deposited applied) t)
      (fun _ h => .same (h.trans ht)) fun _ u hu => ?_
    simp only [Same, AppState.memory, Prod.mk.injEq] at ht hu
    refine leaves_record (.withdraw event) hnew (hu.1.trans ht.1)
      ((congrFun (hu.2.2.trans ht.2.2) _).trans rfl) ?_
    exact .bind (onVault_memory (refreshClientMaxLockExpiresAt_deposited event.client)) fun _ =>
      .bind (issueClientReceiptLocked_memory _ now) fun _ => .pure _

/-- **What an event does to the detector's memory**, whether it succeeds or not. -/
theorem applyBalanceSyncEvent_marks (event : BalanceSyncEvent) (now : ℤ) (s : AppState) :
    (applyBalanceSyncEvent env event now).Leaves s (event.Marks s) := by
  cases event with
  | deposit event => exact applyDeposit_marks event now
  | withdraw event => exact applyWithdrawal_marks event now

/-- What is recorded stays processed. -/
theorem returns_record {α : Type} (signature : String) {slot : ℕ} {k : Unit → AppM α} {t : AppState}
    (hk : (k ()).Along (Same AppState.memory)) :
    (record signature slot >>= k).Returns t fun _ u => signature ∈ u.processedSignatures := by
  refine .of_leaves (.modify_bind ((hk.leaves rfl).mono fun u hu => ?_))
  simp only [Same, AppState.memory, Prod.mk.injEq] at hu
  rw [hu.1]
  exact Finset.mem_insert_self _ _

/-- An event that succeeds is marked. -/
theorem applyBalanceSyncEvent_returns (event : BalanceSyncEvent) (now : ℤ) (s : AppState) :
    (applyBalanceSyncEvent env event now).Returns s fun _ t =>
      event.signature ∈ t.processedSignatures := by
  cases event with
  | deposit event =>
    refine .get_bind (.ite (fun hmem => .pure hmem) fun _ => ?_)
    refine .run_bind (run_onVault ..) (.append_bind ?_)
    exact returns_record _ (.bind (issueClientReceiptLocked_memory _ now) fun _ => .pure _)
  | withdraw event =>
    refine .get_bind (.ite (fun hmem => .pure hmem) fun _ => ?_)
    refine .leaves_bind (P := fun _ => True) trivial fun applied t _ => .failIf_bind fun _ =>
      .append_bind ?_
    exact returns_record _ (.bind (onVault_memory (refreshClientMaxLockExpiresAt_deposited _))
      fun _ => .bind (issueClientReceiptLocked_memory _ now) fun _ => .pure _)

/-- The log tells the bookings also after an event. -/
theorem applyBalanceSyncEvent_recorded (event : BalanceSyncEvent) (now : ℤ)
    (hs : s.Recorded env) : ((applyBalanceSyncEvent env event now).run s).2.Recorded env := by
  have hmoving : Moving env .free (applyBalanceSyncEvent env event now) := by
    cases event with
    | deposit event => exact applyDeposit_moving (fun _ _ => trivial) event now trivial
    | withdraw event => exact applyWithdrawal_moving (fun _ _ => trivial) event now trivial
  exact (Moves.recorded (hmoving s) hs).1

end Detector

/-! ### Everything else -/

/-- Rules under which no transaction is marked. -/
def Rules.aside : Rules := { Rules.free with remembers := fun _ => False }

/-- An operation that is not the detector's leaves its memory alone. -/
theorem AppState.next_memory {env : Env} {s : AppState} (hs : s.Recorded env) {op : Op env}
    (hop : op.signature? = none) :
    (s.next op).processedSignatures = s.processedSignatures ∧
      (s.next op).lastProcessedSignature = s.lastProcessedSignature ∧ (s.next op).Recorded env := by
  have hadmits : Rules.aside.Admits s op :=
    ⟨fun _ _ _ _ _ _ _ => trivial, fun _ _ _ => trivial, fun _ _ _ => trivial, fun _ _ => trivial,
      trivial, fun _ h => by rw [hop] at h; cases h⟩
  have hmoves := AppState.next_moves hadmits hs.ids
  obtain ⟨hprocessed, hlast⟩ : (s.next op).processedSignatures = s.processedSignatures ∧
      (s.next op).lastProcessedSignature = s.lastProcessedSignature := by
    refine Moves.keep (P := fun t => t.processedSignatures = s.processedSignatures ∧
      t.lastProcessedSignature = s.lastProcessedSignature) hmoves ⟨rfl, rfl⟩ fun t u hmove ht => ?_
    cases hmove with
    | remember hrule => exact hrule.elim
    | _ => exact ht
  exact ⟨hprocessed, hlast, (Moves.recorded hmoves hs).1⟩

end Subly402
