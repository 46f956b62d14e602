/-
# What the precompile verified

The Ed25519 precompile and `verify_ed25519_signature_details_relative` read the same
bytes, each on its own.  The precompile takes a header for every signature, and its
offsets may point into any instruction of the transaction.  The function takes the first
header only.  It asks for one signature and for indices that name the instruction itself.
-/

import Subly402.Chain.Site
import Subly402.Lib.Checked

namespace Subly402
namespace Chain

open Lib

namespace Precompile

/-- What one header asks the precompile to verify. -/
structure SignedMessage where
  publicKey : List UInt8
  signature : List UInt8
  message : List UInt8
deriving DecidableEq

/-- `get_data_slice` of the precompile: the index 65535 stands for the instruction itself. -/
def dataSlice (data : List UInt8) (instructionDatas : List (List UInt8))
    (instructionIndex offset size : ℕ) : Option (List UInt8) :=
  (if instructionIndex = 65535 then some data else instructionDatas[instructionIndex]?).bind
    fun source =>
      if offset + size ≤ source.length then some ((source.drop offset).take size) else none

/-- The signature, the key and the message that the header at `start` points at. -/
def readHeader (data : List UInt8) (instructionDatas : List (List UInt8)) (start : ℕ) :
    Option SignedMessage := do
  let signature ← dataSlice data instructionDatas (u16At data (start + 2)) (u16At data start) 64
  let publicKey ←
    dataSlice data instructionDatas (u16At data (start + 6)) (u16At data (start + 4)) 32
  let message ← dataSlice data instructionDatas (u16At data (start + 12)) (u16At data (start + 8))
    (u16At data (start + 10))
  return { publicKey, signature, message }

/-- What the precompile verifies for an instruction with these bytes, in a transaction with these
instructions. -/
def reads (data : List UInt8) (instructionDatas : List (List UInt8)) :
    Option (List SignedMessage) :=
  let count := (data.getD 0 0).toNat
  if data.length < 2 then none
  else if count = 0 ∧ 2 < data.length then none
  else if data.length < 14 * count + 2 then none
  else (List.range count).mapM fun i => readHeader data instructionDatas (14 * i + 2)

/-- The precompile accepts the instruction: every signature it reads verifies. -/
def Accepts (verifies : SignedMessage → Prop) (data : List UInt8)
    (instructionDatas : List (List UInt8)) : Prop :=
  ∃ messages, reads data instructionDatas = some messages ∧ ∀ m ∈ messages, verifies m

variable {data : List UInt8} {datas : List (List UInt8)}

/-- Data that an index of the instruction itself names. -/
theorem dataSlice_embedded {target index offset size : ℕ} (htarget : datas[target]? = some data)
    (hindex : RefsEmbeddedData index target) (hbound : offset + size ≤ data.length) :
    dataSlice data datas index offset size = some ((data.drop offset).take size) := by
  have hsource : (if index = 65535 then some data else datas[index]?) = some data := by
    rcases hindex with rfl | rfl
    · rw [if_pos rfl]
    · split
      · rfl
      · exact htarget
  unfold dataSlice
  rw [hsource]
  exact if_pos hbound

/-- One signature with its key and its message in the instruction itself is read as that. -/
theorem reads_embedded {target : ℕ} (htarget : datas[target]? = some data)
    (h : Runtime.Embedded data target) :
    reads data datas = some [⟨(data.drop (u16At data 6)).take 32,
      (data.drop (u16At data 2)).take 64, (data.drop (u16At data 10)).take (u16At data 12)⟩] := by
  have hcount : (data.getD 0 0).toNat = 1 := by
    rw [h.count]
    rfl
  have hheader : readHeader data datas 2 = some ⟨(data.drop (u16At data 6)).take 32,
      (data.drop (u16At data 2)).take 64, (data.drop (u16At data 10)).take (u16At data 12)⟩ := by
    simp only [readHeader, dataSlice_embedded htarget h.signatureIndex h.signature,
      dataSlice_embedded htarget h.pubkeyIndex h.pubkey,
      dataSlice_embedded htarget h.messageIndex h.message]
    rfl
  have hlength := h.header
  unfold reads
  simp only [hcount, show ¬data.length < 2 by omega, show ¬data.length < 14 * 1 + 2 by omega,
    Nat.one_ne_zero, false_and, if_false]
  simp [List.range_succ, hheader]

end Precompile

namespace Runtime

variable (rt : Runtime)

/-- `verify_ed25519_signature_details_relative` with its stops, for the account it is given as the
instructions sysvar: `load_current_index_checked` and `load_instruction_at_checked` refuse any
other account. -/
def verifyEd25519SignatureDetailsRelativeChecked (sysvar : Pubkey) (instructions : List Instruction)
    (current : UInt16) (offsetFromCurrent : ℕ) (expectedPubkey : Pubkey) :
    Except (Fault VaultError) VerifiedEd25519Signature := do
  Checked.ensure (sysvar = rt.instructionsSysvar) .invalidEd25519Instruction
  Checked.ensure (offsetFromCurrent ≤ current.toNat) .invalidEd25519Instruction
  -- `offset_from_current as u16`
  let target ← Checked.sub current.toNat (offsetFromCurrent % 65536)
  let ix ← Checked.call instructions[target]? .invalidEd25519Instruction
  Checked.ensure (ix.programId = rt.ed25519Program) .invalidEd25519Instruction
  Checked.ensure (16 ≤ ix.data.length) .invalidEd25519Instruction
  let count ← Checked.index ix.data 0
  Checked.ensure (count = 1) .invalidEd25519Instruction
  let signatureInstructionIndex ← Checked.u16 ix.data 4 5
  Checked.ensure (RefsEmbeddedData signatureInstructionIndex target) .invalidEd25519Instruction
  let signatureOffset ← Checked.u16 ix.data 2 3
  let signatureEnd ← Checked.add 64 signatureOffset 64
  Checked.ensure (signatureEnd ≤ ix.data.length) .invalidEd25519Instruction
  let signatureBytes ← Checked.slice ix.data signatureOffset signatureEnd
  let signature ← Checked.copyFromSlice 64 signatureBytes
  let pubkeyOffset ← Checked.u16 ix.data 6 7
  let pubkeyEnd ← Checked.add 64 pubkeyOffset 32
  Checked.ensure (pubkeyEnd ≤ ix.data.length) .invalidEd25519Instruction
  let publicKeyInstructionIndex ← Checked.u16 ix.data 8 9
  Checked.ensure (RefsEmbeddedData publicKeyInstructionIndex target) .invalidEd25519Instruction
  let pubkeyBytes ← Checked.slice ix.data pubkeyOffset pubkeyEnd
  Checked.ensure (pubkeyBytes = expectedPubkey.bytes) .invalidVaultSigner
  let messageInstructionIndex ← Checked.u16 ix.data 14 15
  Checked.ensure (RefsEmbeddedData messageInstructionIndex target) .invalidEd25519Instruction
  let messageOffset ← Checked.u16 ix.data 10 11
  let messageSize ← Checked.u16 ix.data 12 13
  let messageEnd ← Checked.add 64 messageOffset messageSize
  Checked.ensure (messageEnd ≤ ix.data.length) .invalidEd25519Instruction
  let message ← Checked.slice ix.data messageOffset messageEnd
  return { signature, message }

variable {rt}

theorem u16At_lt (data : List UInt8) (offset : ℕ) : u16At data offset < 65536 := by
  have hlength : ((data.drop offset).take 2).length ≤ 2 := List.length_take_le ..
  calc u16At data offset < 256 ^ ((data.drop offset).take 2).length := leNat_lt _
    _ ≤ 256 ^ 2 := Nat.pow_le_pow_right (by omega) hlength

/-- An offset of the header with a size is a `usize`. -/
theorem add_u16At (data : List UInt8) (offset : ℕ) {size : ℕ} (h : size < 65536) :
    (Checked.add 64 (u16At data offset) size : Except (Fault VaultError) ℕ)
      = .ok (u16At data offset + size) := by
  have hoffset := u16At_lt data offset
  exact Checked.add_of_lt (by omega)

/-- **No index, slice or sum of the function leaves its range**: past the sysvar's key, it ends as
the plain function does. -/
theorem checked_mirrors {sysvar : Pubkey} (hsysvar : sysvar = rt.instructionsSysvar)
    (instructions : List Instruction) (current : UInt16) (offset : ℕ) (expected : Pubkey) :
    Checked.Mirrors (rt.verifyEd25519SignatureDetailsRelativeChecked sysvar instructions current
        offset expected)
      (rt.verifyEd25519SignatureDetailsRelative instructions current.toNat offset expected) := by
  unfold verifyEd25519SignatureDetailsRelativeChecked verifyEd25519SignatureDetailsRelative
  rw [Checked.ensure, if_pos hsysvar, ok_bind]
  refine .guard rfl fun hoffset => ?_
  have hsub : (Checked.sub current.toNat (offset % 65536) : Except (Fault VaultError) ℕ)
      = .ok (current.toNat - offset) := by
    have hcurrent : current.toNat < 65536 := current.toNat_lt
    rw [Nat.mod_eq_of_lt (by omega)]
    exact Checked.sub_of_le hoffset
  rw [hsub, ok_bind]
  refine .call fun ix _ => ?_
  refine .guard rfl fun _ => ?_
  refine .guard rfl fun hheader => ?_
  -- the sixteen bytes of the header are there
  have hu16 : ∀ i, i + 1 < 16 → (Checked.u16 ix.data i (i + 1) : Except (Fault VaultError) ℕ)
      = .ok (u16At ix.data i) := fun i hi => Checked.u16_of_lt (by omega)
  have hfirst : (Checked.index ix.data 0 : Except (Fault VaultError) UInt8)
      = .ok (ix.data.getD 0 0) := by
    rw [Checked.index_of_lt (by omega), List.getD_eq_getElem _ _ (by omega)]
  rw [hfirst, ok_bind]
  refine .guard rfl fun _ => ?_
  rw [hu16 4 (by omega), ok_bind]
  refine .guard rfl fun _ => ?_
  rw [hu16 2 (by omega), ok_bind, add_u16At _ _ (by omega), ok_bind]
  refine .guard rfl fun hsignature => ?_
  rw [Checked.slice_of_le hsignature, ok_bind,
    Checked.copyFromSlice_of_length (by rw [List.length_take, List.length_drop]; omega), ok_bind,
    hu16 6 (by omega), ok_bind, add_u16At _ _ (by omega), ok_bind]
  refine .guard rfl fun hpubkey => ?_
  rw [hu16 8 (by omega), ok_bind]
  refine .guard rfl fun _ => ?_
  rw [Checked.slice_of_le hpubkey, ok_bind]
  refine .guard rfl fun _ => ?_
  rw [hu16 14 (by omega), ok_bind]
  refine .guard rfl fun _ => ?_
  rw [hu16 10 (by omega), ok_bind, hu16 12 (by omega), ok_bind, add_u16At _ _ (u16At_lt _ _), ok_bind]
  refine .guard rfl fun hmessage => ?_
  rw [Checked.slice_of_le hmessage, ok_bind]
  exact .ok _

/-- Whatever account stands for the sysvar, the function does not stop. -/
theorem checked_ne_stop (sysvar : Pubkey) (instructions : List Instruction) (current : UInt16)
    (offset : ℕ) (expected : Pubkey) :
    rt.verifyEd25519SignatureDetailsRelativeChecked sysvar instructions current offset expected
      ≠ .error .stop := by
  by_cases hsysvar : sysvar = rt.instructionsSysvar
  · exact (checked_mirrors hsysvar instructions current offset expected).ne_stop
  · rw [verifyEd25519SignatureDetailsRelativeChecked, Checked.ensure, if_neg hsysvar]
    nofun

/-- What the function returns, in terms of the instruction it looked at. -/
theorem checked_eq_ok {sysvar : Pubkey} {instructions : List Instruction} {current : UInt16}
    {offset : ℕ} {expected : Pubkey} {verified : VerifiedEd25519Signature}
    (h : rt.verifyEd25519SignatureDetailsRelativeChecked sysvar instructions current offset expected
      = .ok verified) :
    ∃ ix, instructions[current.toNat - offset]? = some ix ∧ ix.programId = rt.ed25519Program ∧
      Embedded ix.data (current.toNat - offset) ∧
      (ix.data.drop (u16At ix.data 6)).take 32 = expected.bytes ∧
      (ix.data.drop (u16At ix.data 2)).take 64 = verified.signature ∧
      (ix.data.drop (u16At ix.data 10)).take (u16At ix.data 12) = verified.message := by
  by_cases hsysvar : sysvar = rt.instructionsSysvar
  · rw [(checked_mirrors hsysvar ..).eq_ok, verifyEd25519SignatureDetailsRelative_eq_ok] at h
    obtain ⟨check, hcheck, rfl⟩ := h
    simp only [verifyEd25519SignatureDetails, bind_eq_ok, okOrElse_eq_ok, requireThat_eq_ok,
      ed25519Check_eq_some] at hcheck
    obtain ⟨found, ⟨-, ix, hix, hfound⟩, _, hkey, hout⟩ := hcheck
    cases hout
    obtain ⟨hprogram, hembedded, hpubkey, hsignature, hmessage⟩ := embeddedCheck_eq_some.1 hfound
    rw [hkey] at hpubkey
    exact ⟨ix, hix, hprogram, hembedded, hpubkey, hsignature.symm, hmessage.symm⟩
  · rw [verifyEd25519SignatureDetailsRelativeChecked, Checked.ensure, if_neg hsysvar] at h
    cases h

/-- The runtime has executed the transaction up to `current`: it goes past an instruction of the
precompile only where that accepted it. -/
def ReachedBy (rt : Runtime) (verifies : Precompile.SignedMessage → Prop)
    (instructions : List Instruction) (current : ℕ) : Prop :=
  ∀ i ≤ current, ∀ ix, instructions[i]? = some ix → ix.programId = rt.ed25519Program →
    Precompile.Accepts verifies ix.data (instructions.map Instruction.data)

/-- **Introspection is sound.**  Where the function returns a signature and a message for a key, the
precompile's own reading of the instruction is that one signature, on that message, under that
key, and it verified it.  On no input does the function stop. -/
theorem introspection_sound (rt : Runtime) (verifies : Precompile.SignedMessage → Prop)
    (sysvar : Pubkey) (instructions : List Instruction) (current : UInt16) (offset : ℕ)
    (expected : Pubkey) (hreached : ReachedBy rt verifies instructions current.toNat) :
    (∀ verified, rt.verifyEd25519SignatureDetailsRelativeChecked sysvar instructions current offset
        expected = .ok verified →
      verifies ⟨expected.bytes, verified.signature, verified.message⟩ ∧
      ∃ ix, instructions[current.toNat - offset]? = some ix ∧ ix.programId = rt.ed25519Program ∧
        Precompile.reads ix.data (instructions.map Instruction.data)
          = some [⟨expected.bytes, verified.signature, verified.message⟩]) ∧
    rt.verifyEd25519SignatureDetailsRelativeChecked sysvar instructions current offset expected
      ≠ .error .stop := by
  refine ⟨fun verified h => ?_, checked_ne_stop sysvar instructions current offset expected⟩
  obtain ⟨ix, hix, hprogram, hembedded, hkey, hsignature, hmessage⟩ := checked_eq_ok h
  have hdata : (instructions.map Instruction.data)[current.toNat - offset]? = some ix.data := by
    rw [List.getElem?_map, hix]
    rfl
  have hreads := Precompile.reads_embedded hdata hembedded
  rw [hkey, hsignature, hmessage] at hreads
  obtain ⟨messages, hmessages, hverified⟩ :=
    hreached (current.toNat - offset) (Nat.sub_le ..) ix hix hprogram
  rw [hreads] at hmessages
  cases hmessages
  exact ⟨hverified _ (List.mem_singleton.2 rfl), ix, hix, hprogram, hreads⟩

/-- A transaction whose first instruction asks for one signature, of zeros, on two bytes. -/
def signedPair : List Instruction :=
  [{ programId := Sample.rt.ed25519Program, accounts := []
     data := [1, 0, 16, 0, 255, 255, 80, 0, 0, 0, 112, 0, 2, 0, 255, 255] ++ List.replicate 64 0 ++
       (Bytes32.fill 5).bytes ++ [7, 8] },
   { programId := Sample.rt.programId, accounts := [], data := [] }]

/-- A pair of instructions that is read. -/
theorem introspection_sound_pair :
    ReachedBy Sample.rt (fun m => m.signature = List.replicate 64 0) signedPair 1 ∧
      Sample.rt.verifyEd25519SignatureDetailsRelativeChecked (.fill 23) signedPair 1 1 (.fill 5)
        = .ok ⟨List.replicate 64 0, [7, 8]⟩ ∧
      ∃ ix, signedPair[0]? = some ix ∧ ix.programId = Sample.rt.ed25519Program ∧
        Precompile.reads ix.data (signedPair.map Instruction.data)
          = some [⟨(Bytes32.fill 5).bytes, List.replicate 64 0, [7, 8]⟩] := by
  have hreached : ReachedBy Sample.rt (fun m => m.signature = List.replicate 64 0) signedPair 1 := by
    intro i hi ix hix hprogram
    match i, hi with
    | 0, _ =>
      cases hix
      exact ⟨[⟨(Bytes32.fill 5).bytes, List.replicate 64 0, [7, 8]⟩], by decide +kernel,
        by decide +kernel⟩
    | 1, _ =>
      cases hix
      exact absurd hprogram (by decide +kernel)
  have hrun : Sample.rt.verifyEd25519SignatureDetailsRelativeChecked (.fill 23) signedPair 1 1
      (.fill 5) = .ok ⟨List.replicate 64 0, [7, 8]⟩ := by decide +kernel
  exact ⟨hreached, hrun, ((introspection_sound Sample.rt _ (.fill 23) signedPair 1 1 (.fill 5)
    hreached).1 _ hrun).2⟩

end Runtime

end Chain
end Subly402
