/-
# Settling a chunk on chain

`settle_vault` and `record_audit` of `programs/subly402_vault`.  The two instructions of
a chunk stand in one transaction: each looks through the transaction for the other, by
batch id, chunk hash and vault, and compares the hash with its own arguments and those of
the instruction it found.
-/

import Subly402.Batch.Chunk
import Subly402.Chain.Runtime

namespace Subly402
namespace Chain

open Lib

/-- `AuditRecord`. -/
structure AuditRecord where
  bump : ℕ
  vault : Pubkey
  batchId : ℕ
  index : ℕ
  encryptedSender : List UInt8
  encryptedAmount : List UInt8
  provider : Pubkey
  timestamp : ℤ
  auditorEpoch : ℕ
deriving DecidableEq

/-- The accounts of the program and of the token program, and the clock. -/
structure Accounts where
  vaults : FiniteMap Pubkey VaultConfig
  tokens : Tokens
  audits : FiniteMap Pubkey AuditRecord
  clock : ℤ

/-! ### Reading instructions -/

/-- The arguments of both instructions: the id and the hash of the chunk, and its entries. -/
structure ChunkArgs (α : Type) where
  batchId : ℕ
  batchChunkHash : Bytes32
  entries : List α

/-- The arguments in borsh. -/
def ChunkArgs.codec {α : Type} (entry : Codec α) : Codec (ChunkArgs α) :=
  ((Codec.uint 8).pair (Codec.bytes32.pair entry.vec)).iso
    { toFun := fun (batchId, batchChunkHash, entries) => ⟨batchId, batchChunkHash, entries⟩
      invFun := fun args => (args.batchId, args.batchChunkHash, args.entries)
      left_inv := fun _ => rfl
      right_inv := fun _ => rfl }

namespace Runtime

variable {α : Type} (rt : Runtime)

/-- The arguments of an instruction of the program with a name. -/
def parseChunkInstruction (name : String) (entry : Codec α) (ix : Instruction) :
    Option (ChunkArgs α) :=
  if ix.programId ≠ rt.programId ∨ ix.data.length < 48
      ∨ ix.data.take 8 ≠ rt.instructionDiscriminator name then none
  else ((ChunkArgs.codec entry).decode (ix.data.drop 8)).map (·.1)

/-- `parse_settle_vault_instruction`. -/
def parseSettleVaultInstruction : Instruction → Option (ChunkArgs SettlementEntry) :=
  rt.parseChunkInstruction "settle_vault" SettlementEntry.codec

/-- `parse_record_audit_instruction`. -/
def parseRecordAuditInstruction : Instruction → Option (ChunkArgs AuditRecordData) :=
  rt.parseChunkInstruction "record_audit" AuditRecordData.codec

/-! ### Looking for the partner -/

/-- The loop of both pairing checks: the first of the first thirty-two instructions, other than
the current one, that is read by `parse` and has the batch id, the hash and the vault. -/
def findPartner (parse : Instruction → Option (ChunkArgs α)) (instructions : List Instruction)
    (current batchId : ℕ) (batchChunkHash : Bytes32) (vaultConfig : Pubkey) :
    Option (ChunkArgs α) :=
  (instructions.zipIdx.take 32).findSome? fun (ix, i) =>
    if i = current then none
    else (parse ix).filter fun parsed => parsed.batchId = batchId
      ∧ parsed.batchChunkHash = batchChunkHash
      ∧ (ix.accounts[1]?).map AccountMeta.pubkey = some vaultConfig

/-- `verify_record_audit_pairing`. -/
def verifyRecordAuditPairing (instructions : List Instruction) (current : ℕ)
    (args : ChunkArgs SettlementEntry) (vaultConfig : Pubkey) : Except VaultError Unit := do
  let parsed ← okOrElse (findPartner rt.parseRecordAuditInstruction instructions current
    args.batchId args.batchChunkHash vaultConfig) .settleVaultWithoutAudit
  requireThat (computeBatchChunkHash rt.sha256 args.batchId args.entries parsed.entries
    = args.batchChunkHash) .atomicChunkHashMismatch

/-- `verify_settle_vault_pairing`. -/
def verifySettleVaultPairing (instructions : List Instruction) (current : ℕ)
    (args : ChunkArgs AuditRecordData) (vaultConfig : Pubkey) : Except VaultError Unit := do
  let parsed ← okOrElse (findPartner rt.parseSettleVaultInstruction instructions current
    args.batchId args.batchChunkHash vaultConfig) .recordAuditWithoutSettle
  requireThat (computeBatchChunkHash rt.sha256 args.batchId parsed.entries args.entries
    = args.batchChunkHash) .atomicChunkHashMismatch

/-! ### Settling -/

/-- The constraints on the vault that both instructions have. -/
def loadVault (s : Accounts) (vaultSigner vaultConfig : AccountMeta) :
    Except VaultError VaultConfig := do
  requireThat (vaultSigner.isSigner = true) .constraint
  let vault ← okOrElse s.vaults[vaultConfig.pubkey]? .constraint
  requireThat (vault.vaultSignerPubkey = vaultSigner.pubkey) .invalidVaultSigner
  requireThat (vault.status = vaultStatusActive ∨ vault.status = vaultStatusMigrating) .vaultInactive
  return vault

/-- The migration deadline. -/
def checkDeadline (s : Accounts) (vault : VaultConfig) : Except VaultError Unit :=
  requireThat (vault.status = vaultStatusMigrating → s.clock ≤ vault.exitDeadline)
    .exitDeadlineExceeded

/-- The loop of `settle_vault`: pay each entry to its account; the tokens and the total. -/
def payEntries (vaultToken : Pubkey) :
    List (SettlementEntry × AccountMeta) → Tokens → ℕ → Except VaultError (Tokens × ℕ)
  | [], tokens, total => .ok (tokens, total)
  | (entry, account) :: rest, tokens, total => do
    requireThat (0 < entry.amount) .invalidAmount
    requireThat (account.pubkey = entry.providerTokenAccount) .invalidAmount
    requireThat (account.isWritable = true) .token
    let tokens ← tokens.transfer vaultToken account.pubkey entry.amount
    requireThat (total + entry.amount < u64Bound) .arithmeticOverflow
    payEntries vaultToken rest tokens (total + entry.amount)

/-- `settle_vault`, as the instruction at `current`. -/
def settleVault (instructions : List Instruction) (current : ℕ) (accounts : List AccountMeta)
    (args : ChunkArgs SettlementEntry) (s : Accounts) : Except VaultError Accounts :=
  match accounts with
  | vaultSigner :: vaultConfig :: vaultToken :: sysvar :: tokenProgram :: remaining => do
    let vault ← loadVault s vaultSigner vaultConfig
    requireThat (vaultConfig.isWritable = true) .constraint
    requireThat (vaultToken.isWritable = true ∧ s.tokens[vaultToken.pubkey]?.isSome) .constraint
    requireThat (vaultToken.pubkey = vault.vaultTokenAccount) .constraint
    requireThat (sysvar.pubkey = rt.instructionsSysvar) .constraint
    requireThat (tokenProgram.pubkey = rt.tokenProgram) .constraint
    requireThat (args.entries.length ≤ maxSettlementsPerTx) .tooManySettlements
    requireThat (args.entries ≠ []) .invalidAmount
    checkDeadline s vault
    rt.verifyRecordAuditPairing instructions current args vaultConfig.pubkey
    requireThat (remaining.length = args.entries.length) .invalidAmount
    let (tokens, total) ← payEntries vaultToken.pubkey (args.entries.zip remaining) s.tokens 0
    requireThat (vault.lifetimeSettled + total < u64Bound) .arithmeticOverflow
    return { s with
      tokens
      vaults := s.vaults.insert vaultConfig.pubkey
        { vault with lifetimeSettled := vault.lifetimeSettled + total } }
  | _ => .error .constraint

/-! ### Recording -/

/-- `resolve_audit_index`: the index of the address among those of the batch, and the bump. -/
def resolveAuditIndex (vaultKey : Pubkey) (batchId : ℕ) (accountKey : Pubkey) :
    Except VaultError (ℕ × ℕ) :=
  okOrElse ((List.range 256).findSome? fun index =>
    let (expectedPda, bump) := rt.findAuditAddress vaultKey batchId index
    if expectedPda = accountKey then some (index, bump) else none) .auditRecordIndexOutOfOrder

/-- The loop of `record_audit`: create the account of each record.  `next` is the index that the
record must have, if one is expected. -/
def createRecords (vaultKey : Pubkey) (auditorEpoch batchId : ℕ) :
    List (AuditRecordData × AccountMeta) → Option ℕ → FiniteMap Pubkey AuditRecord →
      Except VaultError (FiniteMap Pubkey AuditRecord)
  | [], _, audits => .ok audits
  | (record, account) :: rest, next, audits => do
    let (index, bump) ← rt.resolveAuditIndex vaultKey batchId account.pubkey
    requireThat (∀ expected ∈ next, index = expected) .auditRecordIndexOutOfOrder
    requireThat (account.isWritable = true ∧ audits[account.pubkey]? = none) .accountInUse
    createRecords vaultKey auditorEpoch batchId rest (if index < 255 then some (index + 1) else none)
      (audits.insert account.pubkey
        { bump, vault := vaultKey, batchId, index, encryptedSender := record.encryptedSender
          encryptedAmount := record.encryptedAmount, provider := record.provider
          timestamp := record.timestamp, auditorEpoch })

/-- `record_audit`, as the instruction at `current`. -/
def recordAudit (instructions : List Instruction) (current : ℕ) (accounts : List AccountMeta)
    (args : ChunkArgs AuditRecordData) (s : Accounts) : Except VaultError Accounts :=
  match accounts with
  | vaultSigner :: vaultConfig :: sysvar :: systemProgram :: remaining => do
    requireThat (vaultSigner.isWritable = true) .constraint
    let vault ← loadVault s vaultSigner vaultConfig
    requireThat (sysvar.pubkey = rt.instructionsSysvar) .constraint
    requireThat (systemProgram.pubkey = rt.systemProgram) .constraint
    requireThat (args.entries ≠ [] ∧ args.entries.length ≤ maxAtomicAuditsPerTx) .invalidAmount
    checkDeadline s vault
    rt.verifySettleVaultPairing instructions current args vaultConfig.pubkey
    requireThat (remaining.length = args.entries.length) .invalidAmount
    let audits ← rt.createRecords vaultConfig.pubkey vault.auditorEpoch args.batchId
      (args.entries.zip remaining) none s.audits
    return { s with audits }
  | _ => .error .constraint

/-! ### Transactions -/

/-- The instruction is a `settle_vault` of the program. -/
def IsSettle (ix : Instruction) : Prop :=
  ix.programId = rt.programId ∧ ix.data.take 8 = rt.instructionDiscriminator "settle_vault"

/-- The instruction is a `record_audit` of the program. -/
def IsAudit (ix : Instruction) : Prop :=
  ix.programId = rt.programId ∧ ix.data.take 8 = rt.instructionDiscriminator "record_audit"

instance : DecidablePred rt.IsSettle := fun _ => inferInstanceAs (Decidable (_ ∧ _))

instance : DecidablePred rt.IsAudit := fun _ => inferInstanceAs (Decidable (_ ∧ _))

/-- What one instruction does: the program's two instructions of a chunk read their arguments,
and `other` is what any other instruction does. -/
def dispatch (other : Instruction → Accounts → Except VaultError Accounts)
    (instructions : List Instruction) (current : ℕ) (ix : Instruction) (s : Accounts) :
    Except VaultError Accounts :=
  if rt.IsSettle ix then do
    let (args, _) ← okOrElse ((ChunkArgs.codec SettlementEntry.codec).decode (ix.data.drop 8))
      .constraint
    rt.settleVault instructions current ix.accounts args s
  else if rt.IsAudit ix then do
    let (args, _) ← okOrElse ((ChunkArgs.codec AuditRecordData.codec).decode (ix.data.drop 8))
      .constraint
    rt.recordAudit instructions current ix.accounts args s
  else other ix s

/-- The rest of a transaction. -/
def processFrom (other : Instruction → Accounts → Except VaultError Accounts)
    (instructions : List Instruction) : List (Instruction × ℕ) → Accounts →
      Except VaultError Accounts
  | [], s => .ok s
  | (ix, i) :: rest, s => do
    let s ← rt.dispatch other instructions i ix s
    processFrom other instructions rest s

/-- A transaction: all its instructions, one after the other, or an error. -/
def processTransaction (other : Instruction → Accounts → Except VaultError Accounts)
    (instructions : List Instruction) (s : Accounts) : Except VaultError Accounts :=
  rt.processFrom other instructions instructions.zipIdx s

end Runtime

end Chain
end Subly402
