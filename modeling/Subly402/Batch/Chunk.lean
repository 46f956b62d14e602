/-
# The chunk hash

`compute_batch_chunk_hash`, once in `programs/subly402_vault/src/batch_hash.rs` and once
in `enclave/src/batch.rs`: the hash that `settle_vault` and `record_audit` of one chunk
both carry.
-/

import Subly402.Lib.Codec
import Subly402.Asc.AdaptorSig

namespace Subly402

open Lib

/-! ### The program -/

namespace Chain

/-- `SettlementEntry`. -/
structure SettlementEntry where
  providerTokenAccount : Pubkey
  amount : ℕ
  amount_lt : amount < 2 ^ 64
deriving DecidableEq

/-- `AuditRecordData`. -/
structure AuditRecordData where
  encryptedSender : List UInt8
  encryptedAmount : List UInt8
  provider : Pubkey
  timestamp : ℤ
  length_sender : encryptedSender.length = 64
  length_amount : encryptedAmount.length = 64
  timestamp_bounds : -2 ^ 63 ≤ timestamp ∧ timestamp < 2 ^ 63
deriving DecidableEq

/-- `MAX_SETTLEMENTS_PER_TX`. -/
def maxSettlementsPerTx : ℕ := 20

/-- `MAX_ATOMIC_AUDITS_PER_TX`. -/
def maxAtomicAuditsPerTx : ℕ := 5

/-- What `compute_batch_chunk_hash` of the program hashes. -/
def batchChunkPreimage (batchId : ℕ) (settlements : List SettlementEntry)
    (records : List AuditRecordData) : List UInt8 :=
  utf8 "subly402-batch-chunk-v1" ++ (leBytes 8 batchId ++
    (settlements.flatMap (fun settlement =>
      settlement.providerTokenAccount.bytes ++ leBytes 8 settlement.amount) ++
    records.flatMap fun record =>
      record.encryptedSender ++ (record.encryptedAmount ++
        (record.provider.bytes ++ leBytes 8 (i64Bits record.timestamp)))))

/-- `compute_batch_chunk_hash` of the program. -/
def computeBatchChunkHash (sha256 : List UInt8 → Bytes32) (batchId : ℕ)
    (settlements : List SettlementEntry) (records : List AuditRecordData) : Bytes32 :=
  sha256 (batchChunkPreimage batchId settlements records)

end Chain

/-! ### The enclave -/

namespace Batch

/-- `BatchSettlementEntry`. -/
structure BatchSettlementEntry where
  providerTokenAccount : Pubkey
  amount : ℕ
  amount_lt : amount < 2 ^ 64
deriving DecidableEq

/-- `BatchAuditEntry`. -/
structure BatchAuditEntry where
  encryptedSender : List UInt8
  encryptedAmount : List UInt8
  provider : Pubkey
  timestamp : ℤ
  length_sender : encryptedSender.length = 64
  length_amount : encryptedAmount.length = 64
  timestamp_bounds : -2 ^ 63 ≤ timestamp ∧ timestamp < 2 ^ 63
deriving DecidableEq

/-- The entry as an argument of `settle_vault`. -/
def BatchSettlementEntry.toEntry (s : BatchSettlementEntry) : Chain.SettlementEntry :=
  ⟨s.providerTokenAccount, s.amount, s.amount_lt⟩

/-- The record as an argument of `record_audit`. -/
def BatchAuditEntry.toData (a : BatchAuditEntry) : Chain.AuditRecordData :=
  ⟨a.encryptedSender, a.encryptedAmount, a.provider, a.timestamp, a.length_sender,
    a.length_amount, a.timestamp_bounds⟩

/-- What `compute_batch_chunk_hash` of the enclave hashes. -/
def batchChunkPreimage (batchId : ℕ) (settlements : List BatchSettlementEntry)
    (audits : List BatchAuditEntry) : List UInt8 :=
  utf8 "subly402-batch-chunk-v1" ++ (leBytes 8 batchId ++
    (settlements.flatMap (fun s => s.providerTokenAccount.bytes ++ leBytes 8 s.amount) ++
    audits.flatMap fun a =>
      a.encryptedSender ++ (a.encryptedAmount ++
        (a.provider.bytes ++ leBytes 8 (i64Bits a.timestamp)))))

/-- `compute_batch_chunk_hash` of the enclave. -/
def computeBatchChunkHash (sha256 : List UInt8 → Bytes32) (batchId : ℕ)
    (settlements : List BatchSettlementEntry) (audits : List BatchAuditEntry) : Bytes32 :=
  sha256 (batchChunkPreimage batchId settlements audits)

/-- **The enclave and the program hash the same bytes.** -/
theorem batchChunkPreimage_eq (batchId : ℕ) (settlements : List BatchSettlementEntry)
    (audits : List BatchAuditEntry) :
    batchChunkPreimage batchId settlements audits =
      Chain.batchChunkPreimage batchId (settlements.map (·.toEntry)) (audits.map (·.toData)) := by
  unfold batchChunkPreimage Chain.batchChunkPreimage
  rw [List.flatMap_map, List.flatMap_map]
  rfl

end Batch

/-! ### The entries as bytes -/

namespace Chain

/-- A settlement, as borsh and the hash write it. -/
def SettlementEntry.codec : Codec SettlementEntry :=
  (Codec.bytes32.pair (Codec.uint 8)).map
    (fun (account, amount) => if h : amount < 2 ^ 64 then some ⟨account, amount, h⟩ else none)
    (fun s => (s.providerTokenAccount, s.amount))
    (fun s => dif_pos s.amount_lt)
    (by
      rintro ⟨account, amount⟩ s h
      dsimp only at h
      split at h
      · cases h; rfl
      · cases h)

theorem SettlementEntry.valid (s : SettlementEntry) : codec.Valid s :=
  ⟨Codec.bytes32_valid s.providerTokenAccount, s.amount_lt⟩

theorem SettlementEntry.sized : codec.Sized 40 := fun s _ =>
  (Codec.sized_bytes32.pair (Codec.sized_uint 8)) _ s.valid

/-- A record, as borsh and the hash write it. -/
def AuditRecordData.codec : Codec AuditRecordData :=
  ((Codec.bytes 64).pair ((Codec.bytes 64).pair (Codec.bytes32.pair Codec.int64))).map
    (fun (sender, amount, provider, timestamp) =>
      if h : sender.length = 64 ∧ amount.length = 64 ∧ -2 ^ 63 ≤ timestamp ∧ timestamp < 2 ^ 63 then
        some ⟨sender, amount, provider, timestamp, h.1, h.2.1, h.2.2⟩
      else none)
    (fun r => (r.encryptedSender, r.encryptedAmount, r.provider, r.timestamp))
    (fun r => dif_pos ⟨r.length_sender, r.length_amount, r.timestamp_bounds⟩)
    (by
      rintro ⟨sender, amount, provider, timestamp⟩ r h
      dsimp only at h
      split at h
      · cases h; rfl
      · cases h)

theorem AuditRecordData.valid (r : AuditRecordData) : codec.Valid r :=
  ⟨r.length_sender, r.length_amount, Codec.bytes32_valid r.provider, r.timestamp_bounds⟩

theorem AuditRecordData.sized : codec.Sized 168 := fun r _ =>
  ((Codec.sized_bytes 64).pair ((Codec.sized_bytes 64).pair
    (Codec.sized_bytes32.pair Codec.sized_int64))) _ r.valid

theorem batchChunkPreimage_eq_encode (batchId : ℕ) (settlements : List SettlementEntry)
    (records : List AuditRecordData) :
    batchChunkPreimage batchId settlements records =
      utf8 "subly402-batch-chunk-v1" ++ ((Codec.uint 8).encode batchId ++
        (SettlementEntry.codec.encodeAll settlements ++
          AuditRecordData.codec.encodeAll records)) := rfl

/-- What the length of the hashed bytes says about the counts. -/
theorem length_batchChunkPreimage (batchId : ℕ) (settlements : List SettlementEntry)
    (records : List AuditRecordData) :
    (batchChunkPreimage batchId settlements records).length =
      (utf8 "subly402-batch-chunk-v1").length + 8 + 40 * settlements.length
        + 168 * records.length := by
  have hs := SettlementEntry.sized.length_encodeAll fun s (_ : s ∈ settlements) => s.valid
  have hr := AuditRecordData.sized.length_encodeAll fun r (_ : r ∈ records) => r.valid
  have hid : ((Codec.uint 8).encode batchId).length = 8 := length_leBytes 8 batchId
  rw [batchChunkPreimage_eq_encode]
  simp only [List.length_append, hs, hr, hid]
  ring

/-- A chunk within the limits of the program. -/
structure Chunk where
  batchId : ℕ
  settlements : List SettlementEntry
  records : List AuditRecordData
  batchId_lt : batchId < 2 ^ 64
  settlements_pos : 1 ≤ settlements.length
  settlements_le : settlements.length ≤ maxSettlementsPerTx
  records_pos : 1 ≤ records.length
  records_le : records.length ≤ maxAtomicAuditsPerTx

namespace Chunk

/-- What is hashed for the chunk. -/
def preimage (c : Chunk) : List UInt8 := batchChunkPreimage c.batchId c.settlements c.records

/-- The hash of the chunk. -/
def hash (sha256 : List UInt8 → Bytes32) (c : Chunk) : Bytes32 :=
  computeBatchChunkHash sha256 c.batchId c.settlements c.records

/-- **The counts are in the length.** -/
theorem counts_eq {c d : Chunk} (h : c.preimage = d.preimage) :
    c.settlements.length = d.settlements.length ∧ c.records.length = d.records.length := by
  have hlen := congrArg List.length h
  unfold preimage at hlen
  rw [length_batchChunkPreimage, length_batchChunkPreimage] at hlen
  -- `40 (s - s') = 168 (a' - a)` makes `a' - a` a multiple of five
  have hc := c.records_le
  have hd := d.records_le
  have hc' := c.records_pos
  have hd' := d.records_pos
  unfold maxAtomicAuditsPerTx at hc hd
  omega

/-- **A chunk is determined by what is hashed for it.** -/
theorem preimage_injective : Function.Injective preimage := by
  intro c d h
  obtain ⟨hsettlements, hrecords⟩ := counts_eq h
  unfold preimage at h
  rw [batchChunkPreimage_eq_encode, batchChunkPreimage_eq_encode] at h
  have h := List.append_cancel_left h
  obtain ⟨hid, h⟩ := (Codec.uint 8).encode_append_inj c.batchId_lt d.batchId_lt h
  obtain ⟨hs, h⟩ := SettlementEntry.codec.encodeAll_append_inj (fun s _ => s.valid)
    (fun s _ => s.valid) hsettlements h
  rw [← List.append_nil (AuditRecordData.codec.encodeAll c.records),
    ← List.append_nil (AuditRecordData.codec.encodeAll d.records)] at h
  obtain ⟨hr, -⟩ := AuditRecordData.codec.encodeAll_append_inj (fun r _ => r.valid)
    (fun r _ => r.valid) hrecords h
  cases c
  cases d
  simp_all

/-- **The chunk hash commits to the whole chunk**: chunks with the same bytes are the same,
chunks with the same hash are the same or collide under SHA-256, and the two
implementations hash the same bytes. -/
theorem hash_commits (sha256 : List UInt8 → Bytes32) :
    Function.Injective preimage ∧
    (∀ c d : Chunk, c.hash sha256 = d.hash sha256 →
      c = d ∨ c.preimage ≠ d.preimage ∧ sha256 c.preimage = sha256 d.preimage) ∧
    ∀ batchId settlements audits,
      Batch.batchChunkPreimage batchId settlements audits =
        batchChunkPreimage batchId (settlements.map (·.toEntry)) (audits.map (·.toData)) := by
  refine ⟨preimage_injective, fun c d h => ?_, Batch.batchChunkPreimage_eq⟩
  by_cases heq : c.preimage = d.preimage
  · exact .inl (preimage_injective heq)
  · exact .inr ⟨heq, h⟩

end Chunk

end Chain
end Subly402
