/-
# Reading the Ed25519 instruction

`verify_ed25519_signature_details_relative` of `ed25519_utils.rs`: the handler looks at
the bytes of an instruction of the Ed25519 precompile before it, takes the key, the
signature and the message at the offsets its header names, and compares the key.
-/

import Subly402.Chain.Runtime
import Subly402.Chain.ForceSettle
import Subly402.Lib.Codec

namespace Subly402
namespace Chain

open Lib

/-- `VerifiedEd25519Signature`. -/
structure VerifiedEd25519Signature where
  signature : List UInt8
  message : List UInt8
deriving DecidableEq

/-- The `u16` at an offset. -/
def u16At (data : List UInt8) (offset : ℕ) : ℕ := leNat ((data.drop offset).take 2)

/-- `instruction_index_refs_embedded_data`. -/
def RefsEmbeddedData (instructionIndex ed25519Index : ℕ) : Prop :=
  instructionIndex = 65535 ∨ instructionIndex = ed25519Index

instance (instructionIndex ed25519Index : ℕ) :
    Decidable (RefsEmbeddedData instructionIndex ed25519Index) := inferInstanceAs (Decidable (_ ∨ _))

namespace Runtime

variable (rt : Runtime)

/-- `verify_ed25519_signature_details_relative`, for the instruction at `current`. -/
def verifyEd25519SignatureDetailsRelative (instructions : List Instruction) (current : ℕ)
    (offsetFromCurrent : ℕ) (expectedPubkey : Pubkey) :
    Except VaultError VerifiedEd25519Signature := do
  requireThat (offsetFromCurrent ≤ current) .invalidEd25519Instruction
  let target := current - offsetFromCurrent
  let ix ← okOrElse instructions[target]? .invalidEd25519Instruction
  requireThat (ix.programId = rt.ed25519Program) .invalidEd25519Instruction
  requireThat (16 ≤ ix.data.length) .invalidEd25519Instruction
  requireThat (ix.data.getD 0 0 = 1) .invalidEd25519Instruction
  requireThat (RefsEmbeddedData (u16At ix.data 4) target) .invalidEd25519Instruction
  let signatureOffset := u16At ix.data 2
  requireThat (signatureOffset + 64 ≤ ix.data.length) .invalidEd25519Instruction
  let pubkeyOffset := u16At ix.data 6
  requireThat (pubkeyOffset + 32 ≤ ix.data.length) .invalidEd25519Instruction
  requireThat (RefsEmbeddedData (u16At ix.data 8) target) .invalidEd25519Instruction
  requireThat ((ix.data.drop pubkeyOffset).take 32 = expectedPubkey.bytes) .invalidVaultSigner
  requireThat (RefsEmbeddedData (u16At ix.data 14) target) .invalidEd25519Instruction
  let messageOffset := u16At ix.data 10
  let messageSize := u16At ix.data 12
  requireThat (messageOffset + messageSize ≤ ix.data.length) .invalidEd25519Instruction
  return { signature := (ix.data.drop signatureOffset).take 64
           message := (ix.data.drop messageOffset).take messageSize }

/-- The bytes are those of one signature with its key and message in the instruction itself. -/
structure Embedded (data : List UInt8) (index : ℕ) : Prop where
  header : 16 ≤ data.length
  count : data.getD 0 0 = 1
  signatureIndex : RefsEmbeddedData (u16At data 4) index
  signature : u16At data 2 + 64 ≤ data.length
  pubkey : u16At data 6 + 32 ≤ data.length
  pubkeyIndex : RefsEmbeddedData (u16At data 8) index
  messageIndex : RefsEmbeddedData (u16At data 14) index
  message : u16At data 10 + u16At data 12 ≤ data.length

instance (data : List UInt8) (index : ℕ) : Decidable (Embedded data index) :=
  decidable_of_iff (16 ≤ data.length ∧ data.getD 0 0 = 1 ∧ RefsEmbeddedData (u16At data 4) index ∧
    u16At data 2 + 64 ≤ data.length ∧ u16At data 6 + 32 ≤ data.length ∧
    RefsEmbeddedData (u16At data 8) index ∧ RefsEmbeddedData (u16At data 14) index ∧
    u16At data 10 + u16At data 12 ≤ data.length)
    ⟨fun ⟨a, b, c, d, e, f, g, h⟩ => ⟨a, b, c, d, e, f, g, h⟩,
      fun ⟨a, b, c, d, e, f, g, h⟩ => ⟨a, b, c, d, e, f, g, h⟩⟩

/-- What an instruction at an index says was verified. -/
def embeddedCheck (index : ℕ) (ix : Instruction) : Option Ed25519Check :=
  if ix.programId = rt.ed25519Program ∧ Embedded ix.data index then
    (Bytes32.ofList? ((ix.data.drop (u16At ix.data 6)).take 32)).map fun publicKey =>
      { publicKey, signature := (ix.data.drop (u16At ix.data 2)).take 64
        message := (ix.data.drop (u16At ix.data 10)).take (u16At ix.data 12) }
  else none

/-- What the instruction so far before `current` says was verified. -/
def ed25519Check (instructions : List Instruction) (current offsetFromCurrent : ℕ) :
    Option Ed25519Check :=
  if offsetFromCurrent ≤ current then
    (instructions[current - offsetFromCurrent]?).bind
      (rt.embeddedCheck (current - offsetFromCurrent))
  else none

variable {rt}

/-- When one instruction is read as a check. -/
theorem embeddedCheck_eq_some {index : ℕ} {ix : Instruction} {check : Ed25519Check} :
    rt.embeddedCheck index ix = some check ↔ ix.programId = rt.ed25519Program ∧
      Embedded ix.data index ∧ (ix.data.drop (u16At ix.data 6)).take 32 = check.publicKey.bytes ∧
      check.signature = (ix.data.drop (u16At ix.data 2)).take 64 ∧
      check.message = (ix.data.drop (u16At ix.data 10)).take (u16At ix.data 12) := by
  unfold embeddedCheck
  constructor
  · intro h
    split at h
    · next hguard =>
      obtain ⟨publicKey, hkey, rfl⟩ := Option.map_eq_some_iff.1 h
      exact ⟨hguard.1, hguard.2, Bytes32.ofList?_eq_some.1 hkey, rfl, rfl⟩
    · cases h
  · rintro ⟨hprogram, hembedded, hkey, hsignature, hmessage⟩
    rw [if_pos ⟨hprogram, hembedded⟩, hkey, Bytes32.ofList?_bytes, ← hsignature, ← hmessage]
    rfl

/-- When a check is found. -/
theorem ed25519Check_eq_some {instructions : List Instruction} {current offset : ℕ}
    {check : Ed25519Check} : rt.ed25519Check instructions current offset = some check ↔
      offset ≤ current ∧ ∃ ix, instructions[current - offset]? = some ix ∧
        rt.embeddedCheck (current - offset) ix = some check := by
  unfold ed25519Check
  split
  · next hle => simp [hle, Option.bind_eq_some_iff]
  · next hnot => simp [hnot]

/-- **The handler compares what the bytes say.** -/
theorem verifyEd25519SignatureDetailsRelative_eq_ok {instructions : List Instruction}
    {current offset : ℕ} {expected : Pubkey} {verified : VerifiedEd25519Signature} :
    rt.verifyEd25519SignatureDetailsRelative instructions current offset expected = .ok verified ↔
      ∃ check, verifyEd25519SignatureDetails (rt.ed25519Check instructions current offset) expected
        = .ok check ∧ verified = ⟨check.signature, check.message⟩ := by
  simp only [verifyEd25519SignatureDetailsRelative, verifyEd25519SignatureDetails, bind_eq_ok,
    requireThat_eq_ok, okOrElse_eq_ok, ed25519Check_eq_some, embeddedCheck_eq_some]
  constructor
  · rintro ⟨_, hle, ix, hix, _, hprogram, _, hheader, _, hcount, _, hsigIndex, _, hsig, _, hkey, _,
      hkeyIndex, _, hexpected, _, hmsgIndex, _, hmsg, hout⟩
    cases hout
    exact ⟨⟨expected, _, _⟩, ⟨_, ⟨hle, ix, hix, hprogram, ⟨hheader, hcount, hsigIndex, hsig, hkey,
      hkeyIndex, hmsgIndex, hmsg⟩, hexpected, rfl, rfl⟩, (), rfl, rfl⟩, rfl⟩
  · rintro ⟨check, ⟨_, ⟨hle, ix, hix, hprogram, h, hkey, hsignature, hmessage⟩, _, hexpected, hout⟩,
      rfl⟩
    cases hout
    cases hexpected
    rw [hsignature, hmessage]
    exact ⟨(), hle, ix, hix, (), hprogram, (), h.header, (), h.count, (), h.signatureIndex, (),
      h.signature, (), h.pubkey, (), h.pubkeyIndex, (), hkey, (), h.messageIndex, (), h.message, rfl⟩

end Runtime

/-! ### Challenging -/

/-- The arguments of `force_settle_challenge` in borsh. -/
def ReceiptArgs.codec : Codec ReceiptArgs :=
  (Codec.bytes32.pair ((Codec.uint 8).pair ((Codec.uint 8).pair (Codec.int64.pair
    ((Codec.uint 8).pair ((Codec.bytes 64).pair Codec.blob)))))).iso
    { toFun := fun (recipientAta, freeBalance, lockedBalance, maxLockExpiresAt, receiptNonce,
        receiptSignature, receiptMessage) =>
        { recipientAta, freeBalance, lockedBalance, maxLockExpiresAt, receiptNonce
          receiptSignature, receiptMessage }
      invFun := fun args => (args.recipientAta, args.freeBalance, args.lockedBalance,
        args.maxLockExpiresAt, args.receiptNonce, args.receiptSignature, args.receiptMessage)
      left_inv := fun _ => rfl
      right_inv := fun _ => rfl }

/-- `force_settle_challenge` as the instruction at `current` of a transaction: the accounts and the
arguments it is given, and the request it leaves. -/
def Runtime.processChallenge (rt : Runtime) (instructions : List Instruction) (current : ℕ)
    (vaults : FiniteMap Pubkey VaultConfig) (requests : FiniteMap Pubkey ForceSettleRequest)
    (clock : ℤ) : Except VaultError ForceSettleRequest := do
  let ix ← okOrElse instructions[current]? .constraint
  requireThat (ix.programId = rt.programId ∧
    ix.data.take 8 = rt.instructionDiscriminator "force_settle_challenge") .constraint
  let (args, _) ← okOrElse (ReceiptArgs.codec.decode (ix.data.drop 8)) .constraint
  match ix.accounts with
  | challenger :: vaultConfig :: forceSettleRequest :: sysvar :: _ => do
    requireThat (challenger.isSigner = true) .constraint
    let vault ← okOrElse vaults[vaultConfig.pubkey]? .constraint
    let request ← okOrElse requests[forceSettleRequest.pubkey]? .constraint
    requireThat (forceSettleRequest.isWritable = true) .constraint
    requireThat (sysvar.pubkey = rt.instructionsSysvar) .constraint
    forceSettleChallenge vault (rt.ed25519Check instructions current 1) args clock request
  | _ => .error .constraint

end Chain
end Subly402
