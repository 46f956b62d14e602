/-
# Pairing settlements with audits

Each `settle_vault` of a transaction that succeeds has found a `record_audit` of its
vault, batch and chunk hash, and each `record_audit` a `settle_vault`
(`exists_audit_of_settle`, `exists_settle_of_audit`).  Neither instruction notices that
another of its own kind has found the same partner: two equal `settle_vault` pay twice
beside one `record_audit` (`settledTwice`).
-/

import Subly402.Batch.Settle
import Subly402.Lib.Matching

namespace Subly402
namespace Chain

open Lib

variable {ix : Instruction} {instructions tx : List Instruction} {current : ℕ} {s s' : Accounts}

/-- What names a chunk: the vault, the batch and the hash. -/
abbrev ChunkKey := Pubkey × ℕ × Bytes32

namespace Runtime

variable {α : Type} (rt : Runtime)

/-- The chunk of an instruction that `parse` reads. -/
def chunkKey? (parse : Instruction → Option (ChunkArgs α)) (ix : Instruction) : Option ChunkKey := do
  let args ← parse ix
  let vaultConfig ← ix.accounts[1]?
  return (vaultConfig.pubkey, args.batchId, args.batchChunkHash)

/-- The chunk that a `settle_vault` settles. -/
def settleKey? : Instruction → Option ChunkKey := chunkKey? rt.parseSettleVaultInstruction

/-- The chunk that a `record_audit` records. -/
def auditKey? : Instruction → Option ChunkKey := chunkKey? rt.parseRecordAuditInstruction

theorem chunkKey?_eq_some {parse : Instruction → Option (ChunkArgs α)} {args : ChunkArgs α}
    {vaultConfig : Pubkey} (hparse : parse ix = some args)
    (hvault : (ix.accounts[1]?).map AccountMeta.pubkey = some vaultConfig) :
    chunkKey? parse ix = some (vaultConfig, args.batchId, args.batchChunkHash) := by
  obtain ⟨account, haccount, rfl⟩ := Option.map_eq_some_iff.1 hvault
  simp [chunkKey?, hparse, haccount]

/-- **What the search found is in the transaction.** -/
theorem findPartner_eq_some {parse : Instruction → Option (ChunkArgs α)} {batchId : ℕ}
    {hash : Bytes32} {vaultConfig : Pubkey} {parsed : ChunkArgs α}
    (h : findPartner parse instructions current batchId hash vaultConfig = some parsed) :
    ∃ ix ∈ instructions, parse ix = some parsed ∧
      chunkKey? parse ix = some (vaultConfig, batchId, hash) := by
  unfold findPartner at h
  obtain ⟨⟨ix, i⟩, hmem, hread⟩ := List.exists_of_findSome?_eq_some h
  have hix : ix ∈ instructions := List.fst_mem_of_mem_zipIdx (List.mem_of_mem_take hmem)
  dsimp only at hread
  split at hread
  · cases hread
  · obtain ⟨hparse, hmatch⟩ := Option.filter_eq_some_iff.1 hread
    obtain ⟨rfl, rfl, hvault⟩ := of_decide_eq_true hmatch
    exact ⟨ix, hix, hparse, chunkKey?_eq_some hparse hvault⟩

/-! ### What a successful instruction has found -/

/-- A `settle_vault` that succeeds has found a `record_audit` of its chunk. -/
theorem settleVault_ok {accounts : List AccountMeta} {args : ChunkArgs SettlementEntry}
    (h : rt.settleVault instructions current accounts args s = .ok s') :
    ∃ vaultConfig, (accounts[1]?).map AccountMeta.pubkey = some vaultConfig ∧
      ∃ ix ∈ instructions, rt.auditKey? ix = some (vaultConfig, args.batchId, args.batchChunkHash) := by
  unfold settleVault at h
  split at h
  · next vaultSigner vaultConfig vaultToken sysvar tokenProgram remaining =>
    simp only [bind_eq_ok, verifyRecordAuditPairing, okOrElse_eq_ok] at h
    obtain ⟨_, -, _, -, _, -, _, -, _, -, _, -, _, -, _, -, _, -, _, ⟨parsed, hfound, -⟩, -⟩ := h
    obtain ⟨ix, hix, -, hkey⟩ := findPartner_eq_some hfound
    exact ⟨vaultConfig.pubkey, rfl, ix, hix, hkey⟩
  · cases h

/-- A `record_audit` that succeeds has found a `settle_vault` of its chunk. -/
theorem recordAudit_ok {accounts : List AccountMeta} {args : ChunkArgs AuditRecordData}
    (h : rt.recordAudit instructions current accounts args s = .ok s') :
    ∃ vaultConfig, (accounts[1]?).map AccountMeta.pubkey = some vaultConfig ∧
      ∃ ix ∈ instructions, rt.settleKey? ix = some (vaultConfig, args.batchId, args.batchChunkHash) := by
  unfold recordAudit at h
  split at h
  · next vaultSigner vaultConfig sysvar systemProgram remaining =>
    simp only [bind_eq_ok, verifySettleVaultPairing, okOrElse_eq_ok] at h
    obtain ⟨_, -, _, -, _, -, _, -, _, -, _, -, _, ⟨parsed, hfound, -⟩, -⟩ := h
    obtain ⟨ix, hix, -, hkey⟩ := findPartner_eq_some hfound
    exact ⟨vaultConfig.pubkey, rfl, ix, hix, hkey⟩
  · cases h

/-- An instruction whose arguments could be read is read by the partner. -/
theorem parseChunkInstruction_of_decode {name : String} {entry : Codec α} {args : ChunkArgs α}
    {rest : List UInt8} (hid : ix.programId = rt.programId)
    (hdisc : ix.data.take 8 = rt.instructionDiscriminator name)
    (h : (ChunkArgs.codec entry).decode (ix.data.drop 8) = some (args, rest)) :
    rt.parseChunkInstruction name entry ix = some args := by
  have hlen : ¬ ix.data.length < 48 := by
    obtain ⟨-, hbytes⟩ := (ChunkArgs.codec entry).decode_sound h
    have hsize := congrArg List.length hbytes
    have hcodec : (ChunkArgs.codec entry).encode args = leBytes 8 args.batchId ++
      (args.batchChunkHash.bytes ++ (leBytes 4 args.entries.length ++
        entry.encodeAll args.entries)) := rfl
    rw [hcodec] at hsize
    simp only [List.length_drop, List.length_append, length_leBytes,
      args.batchChunkHash.length_eq] at hsize
    omega
  unfold parseChunkInstruction
  rw [if_neg (by simp [hid, hlen, hdisc]), h]
  rfl

/-- **A `settle_vault` that is accepted stands beside a `record_audit` of its chunk.** -/
theorem dispatch_settle {other : Instruction → Accounts → Except VaultError Accounts}
    (hix : rt.IsSettle ix) (h : rt.dispatch other instructions current ix s = .ok s') :
    ∃ key, rt.settleKey? ix = some key ∧ ∃ ix' ∈ instructions, rt.auditKey? ix' = some key := by
  rw [dispatch, if_pos hix, bind_eq_ok] at h
  obtain ⟨⟨args, rest⟩, hargs, hrun⟩ := h
  obtain ⟨vaultConfig, hvault, hpartner⟩ := rt.settleVault_ok hrun
  have hparse : rt.parseSettleVaultInstruction ix = some args :=
    rt.parseChunkInstruction_of_decode hix.1 hix.2 (okOrElse_eq_ok.1 hargs)
  exact ⟨_, chunkKey?_eq_some hparse hvault, hpartner⟩

/-- **A `record_audit` that is accepted stands beside a `settle_vault` of its chunk.** -/
theorem dispatch_audit {other : Instruction → Accounts → Except VaultError Accounts}
    (hnot : ¬ rt.IsSettle ix) (hix : rt.IsAudit ix)
    (h : rt.dispatch other instructions current ix s = .ok s') :
    ∃ key, rt.auditKey? ix = some key ∧ ∃ ix' ∈ instructions, rt.settleKey? ix' = some key := by
  rw [dispatch, if_neg hnot, if_pos hix, bind_eq_ok] at h
  obtain ⟨⟨args, rest⟩, hargs, hrun⟩ := h
  obtain ⟨vaultConfig, hvault, hpartner⟩ := rt.recordAudit_ok hrun
  have hparse : rt.parseRecordAuditInstruction ix = some args :=
    rt.parseChunkInstruction_of_decode hix.1 hix.2 (okOrElse_eq_ok.1 hargs)
  exact ⟨_, chunkKey?_eq_some hparse hvault, hpartner⟩

/-- In a transaction that is accepted every instruction is. -/
theorem processFrom_ok {other : Instruction → Accounts → Except VaultError Accounts}
    {rest : List (Instruction × ℕ)} (h : rt.processFrom other instructions rest s = .ok s') :
    ∀ p ∈ rest, ∃ before after, rt.dispatch other instructions p.2 p.1 before = .ok after := by
  induction rest generalizing s with
  | nil => simp
  | cons p rest ih =>
    rw [processFrom, bind_eq_ok] at h
    obtain ⟨middle, hfirst, hrest⟩ := h
    intro q hq
    rcases List.mem_cons.1 hq with rfl | hq
    · exact ⟨s, middle, hfirst⟩
    · exact ih hrest q hq

theorem processTransaction_ok {other : Instruction → Accounts → Except VaultError Accounts}
    (h : rt.processTransaction other tx s = .ok s') (hix : ix ∈ tx) :
    ∃ current before after, rt.dispatch other tx current ix before = .ok after := by
  obtain ⟨i, hi, rfl⟩ := List.getElem_of_mem hix
  have hmem : (tx[i], i) ∈ tx.zipIdx := by simp [List.mk_mem_zipIdx_iff_getElem?]
  obtain ⟨before, after, hrun⟩ := rt.processFrom_ok h _ hmem
  exact ⟨i, before, after, hrun⟩

/-! ### Pairing -/

/-- The positions of the `settle_vault` instructions. -/
abbrev SettleAt (tx : List Instruction) := {i : Fin tx.length // rt.IsSettle (tx.get i)}

/-- The positions of the `record_audit` instructions. -/
abbrev AuditAt (tx : List Instruction) := {i : Fin tx.length // rt.IsAudit (tx.get i)}

/-- The `settle_vault` instructions of a chunk. -/
def settles (tx : List Instruction) (key : ChunkKey) : Finset (rt.SettleAt tx) :=
  labelled (fun i : rt.SettleAt tx => rt.settleKey? (tx.get i)) (some key)

/-- The `record_audit` instructions of a chunk. -/
def audits (tx : List Instruction) (key : ChunkKey) : Finset (rt.AuditAt tx) :=
  labelled (fun i : rt.AuditAt tx => rt.auditKey? (tx.get i)) (some key)

/-- The instructions pair one to one, each with one of its vault, batch and chunk hash. -/
def Paired (tx : List Instruction) : Prop :=
  ∃ e : rt.SettleAt tx ≃ rt.AuditAt tx, ∀ i : rt.SettleAt tx, ∃ key,
    rt.settleKey? (tx.get i) = some key ∧ rt.auditKey? (tx.get (e i)) = some key

section Accepted

variable {rt} {other : Instruction → Accounts → Except VaultError Accounts} {tx : List Instruction}
  {s s' : Accounts}

/-- Paired instructions are equally many for every chunk. -/
theorem Paired.card_eq (h : rt.Paired tx) (key : ChunkKey) :
    (rt.settles tx key).card = (rt.audits tx key).card := by
  obtain ⟨e, he⟩ := h
  refine (exists_equiv_iff _ _).1 ⟨e, fun i => ?_⟩ (some key)
  obtain ⟨key', hsettle, haudit⟩ := he i
  exact haudit.trans hsettle.symm

theorem parseChunkInstruction_isSome {name : String} {entry : Codec α} {key : ChunkKey}
    (h : chunkKey? (rt.parseChunkInstruction name entry) ix = some key) :
    ix.programId = rt.programId ∧ ix.data.take 8 = rt.instructionDiscriminator name := by
  simp only [chunkKey?, Option.bind_eq_bind, Option.bind_eq_some_iff] at h
  obtain ⟨args, hparse, -⟩ := h
  unfold parseChunkInstruction at hparse
  split at hparse
  · cases hparse
  · next hnot =>
    push Not at hnot
    exact ⟨hnot.1, hnot.2.2⟩

/-- Every `settle_vault` of an accepted transaction has a `record_audit` of its chunk. -/
theorem exists_audit_of_settle (h : rt.processTransaction other tx s = .ok s')
    (i : rt.SettleAt tx) : ∃ key, rt.settleKey? (tx.get i) = some key ∧
      ∃ j : rt.AuditAt tx, rt.auditKey? (tx.get j) = some key := by
  obtain ⟨current, before, after, hrun⟩ := rt.processTransaction_ok h (List.get_mem tx i.1)
  obtain ⟨key, hkey, ix, hix, hpartner⟩ := rt.dispatch_settle i.2 hrun
  obtain ⟨j, rfl⟩ := List.mem_iff_get.1 hix
  exact ⟨key, hkey, ⟨j, parseChunkInstruction_isSome hpartner⟩, hpartner⟩

/-- Every `record_audit` of an accepted transaction has a `settle_vault` of its chunk. -/
theorem exists_settle_of_audit
    (hdisc : rt.instructionDiscriminator "settle_vault" ≠ rt.instructionDiscriminator "record_audit")
    (h : rt.processTransaction other tx s = .ok s') (j : rt.AuditAt tx) :
    ∃ key, rt.auditKey? (tx.get j) = some key ∧
      ∃ i : rt.SettleAt tx, rt.settleKey? (tx.get i) = some key := by
  have hnot : ¬ rt.IsSettle (tx.get j) := fun hsettle => hdisc (hsettle.2.symm.trans j.2.2)
  obtain ⟨current, before, after, hrun⟩ := rt.processTransaction_ok h (List.get_mem tx j.1)
  obtain ⟨key, hkey, ix, hix, hpartner⟩ := rt.dispatch_audit hnot j.2 hrun
  obtain ⟨i, rfl⟩ := List.mem_iff_get.1 hix
  exact ⟨key, hkey, ⟨i, parseChunkInstruction_isSome hpartner⟩, hpartner⟩

/-- **The instructions of an accepted transaction pair one to one exactly when the chunks that
occur more than once occur equally often in both kinds.** -/
theorem paired_iff
    (hdisc : rt.instructionDiscriminator "settle_vault" ≠ rt.instructionDiscriminator "record_audit")
    (h : rt.processTransaction other tx s = .ok s') :
    rt.Paired tx ↔ ∀ key, 1 < (rt.settles tx key).card ∨ 1 < (rt.audits tx key).card →
      (rt.settles tx key).card = (rt.audits tx key).card := by
  constructor
  · intro hpaired key _
    exact hpaired.card_eq key
  intro hrepeated
  -- a chunk that does not repeat is on both sides or on neither
  have hcard (key : ChunkKey) : (rt.settles tx key).card = (rt.audits tx key).card := by
    by_cases hone : (rt.settles tx key).card ≤ 1 ∧ (rt.audits tx key).card ≤ 1
    · refine card_labelled_eq (fun i hi => ?_) (fun j hj => ?_) hone
      · obtain ⟨key', hkey', j, hj⟩ := exists_audit_of_settle h i
        exact ⟨j, hj.trans (hkey'.symm.trans hi)⟩
      · obtain ⟨key', hkey', i, hi⟩ := exists_settle_of_audit hdisc h j
        exact ⟨i, hi.trans (hkey'.symm.trans hj)⟩
    · exact hrepeated key (by omega)
  have hall (label : Option ChunkKey) :
      (labelled (fun i : rt.SettleAt tx => rt.settleKey? (tx.get i)) label).card =
        (labelled (fun j : rt.AuditAt tx => rt.auditKey? (tx.get j)) label).card := by
    cases label with
    | some key => exact hcard key
    | none =>
      -- every instruction of an accepted transaction can be read
      rw [card_labelled_eq_zero fun i => ?_, card_labelled_eq_zero fun j => ?_]
      · obtain ⟨key, hkey, -⟩ := exists_settle_of_audit hdisc h j
        exact ne_of_eq_of_ne hkey (Option.some_ne_none key)
      · obtain ⟨key, hkey, -⟩ := exists_audit_of_settle h i
        exact ne_of_eq_of_ne hkey (Option.some_ne_none key)
  obtain ⟨e, he⟩ := (exists_equiv_iff _ _).2 hall
  refine ⟨e, fun i => ?_⟩
  obtain ⟨key, hkey, -⟩ := exists_audit_of_settle h i
  exact ⟨key, hkey, (he i).trans hkey⟩

end Accepted

end Runtime

/-! ### A chunk to settle -/

namespace Payout

/-- A program with a hash that tells the two instructions apart. -/
def rt : Runtime :=
  { programId := .fill 20, tokenProgram := .fill 21, systemProgram := .fill 22
    instructionsSysvar := .fill 23, ed25519Program := .fill 24, sha256 := fun bytes => .fill bytes.sum
    findAuditAddress := fun _ _ index => (.fill (UInt8.ofNat index), 255) }

/-- The vault with ten tokens and the account of a provider. -/
def accounts : Accounts :=
  { vaults := (∅ : FiniteMap Pubkey VaultConfig).insert (.fill 9) Exit.vault, tokens := Exit.tokens
    audits := ∅, clock := 0 }

/-- Three tokens for the provider. -/
def entry : SettlementEntry := ⟨.fill 2, 3, by decide⟩

/-- The record of the payment. -/
def record : AuditRecordData :=
  ⟨List.replicate 64 1, List.replicate 64 2, .fill 2, 0, by decide, by decide, by decide⟩

/-- The hash of the chunk. -/
def hash : Bytes32 := computeBatchChunkHash rt.sha256 1 [entry] [record]

/-- `settle_vault` of the chunk. -/
def settle : Instruction :=
  { programId := rt.programId
    accounts := [⟨.fill 8, true, false⟩, ⟨.fill 9, false, true⟩, ⟨.fill 7, false, true⟩,
      ⟨.fill 23, false, false⟩, ⟨.fill 21, false, false⟩, ⟨.fill 2, false, true⟩]
    data := rt.instructionDiscriminator "settle_vault"
      ++ (ChunkArgs.codec SettlementEntry.codec).encode ⟨1, hash, [entry]⟩ }

/-- `record_audit` of the chunk. -/
def audit : Instruction :=
  { programId := rt.programId
    accounts := [⟨.fill 8, true, true⟩, ⟨.fill 9, false, false⟩, ⟨.fill 23, false, false⟩,
      ⟨.fill 22, false, false⟩, ⟨.fill 0, false, true⟩]
    data := rt.instructionDiscriminator "record_audit"
      ++ (ChunkArgs.codec AuditRecordData.codec).encode ⟨1, hash, [record]⟩ }

/-- No other instruction does anything. -/
def other (_ : Instruction) (s : Accounts) : Except VaultError Accounts := .ok s

/-- What the provider has after a transaction. -/
def received (tx : List Instruction) : Option ℕ := do
  let s ← (rt.processTransaction other tx accounts).toOption
  let account ← s.tokens[(.fill 2 : Pubkey)]?
  return account.amount

theorem discriminators_ne :
    rt.instructionDiscriminator "settle_vault" ≠ rt.instructionDiscriminator "record_audit" := by
  decide +kernel

/-- A transaction that is accepted leaves accounts. -/
theorem accepted_of_received (h : (received tx).isSome) :
    ∃ s', rt.processTransaction other tx accounts = .ok s' := by
  unfold received at h
  cases hrun : rt.processTransaction other tx accounts with
  | error e => simp [hrun, Except.toOption] at h
  | ok s' => exact ⟨s', rfl⟩

/-- One `settle_vault` and its `record_audit` are accepted, and pair. -/
theorem paired_chunk :
    (∃ s', rt.processTransaction other [settle, audit] accounts = .ok s') ∧
      rt.Paired [settle, audit] := by
  have haccepted := accepted_of_received (show (received [settle, audit]).isSome by decide +kernel)
  refine ⟨haccepted, ?_⟩
  obtain ⟨s', hrun⟩ := haccepted
  refine (Runtime.paired_iff discriminators_ne hrun).2 fun key hrepeated => ?_
  have hsettles : (rt.settles [settle, audit] key).card ≤ 1 :=
    (Finset.card_le_univ _).trans (by decide +kernel)
  have haudits : (rt.audits [settle, audit] key).card ≤ 1 :=
    (Finset.card_le_univ _).trans (by decide +kernel)
  omega

/-- **A chunk is paid twice with one record**: the transaction is accepted, the provider has six
tokens where the record says three, and the instructions do not pair. -/
theorem settledTwice :
    (∃ s', rt.processTransaction other [settle, settle, audit] accounts = .ok s') ∧
      received [settle, settle, audit] = some 6 ∧ ¬ rt.Paired [settle, settle, audit] := by
  have hreceived : received [settle, settle, audit] = some 6 := by decide +kernel
  refine ⟨accepted_of_received (by rw [hreceived]; rfl), hreceived, fun hpaired => ?_⟩
  have hcard := hpaired.card_eq (.fill 9, 1, hash)
  revert hcard
  decide +kernel

end Payout

end Chain
end Subly402
