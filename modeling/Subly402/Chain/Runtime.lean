/-
# Instructions

What a handler can read of the transaction it runs in: the instructions, each with the
address of its program, its accounts and its data.  An instruction of the program starts
with the first eight bytes of the hash of its name.
-/

import Subly402.Chain.Program

namespace Subly402
namespace Chain

open Lib

/-- `AccountMeta`. -/
structure AccountMeta where
  pubkey : Pubkey
  isSigner : Bool
  isWritable : Bool
deriving DecidableEq

/-- `Instruction`. -/
structure Instruction where
  programId : Pubkey
  accounts : List AccountMeta
  data : List UInt8
deriving DecidableEq

/-- What the program finds around it: its own address, the well-known addresses, the hash and
the addresses of audit records, each with its bump. -/
structure Runtime where
  programId : Pubkey
  tokenProgram : Pubkey
  systemProgram : Pubkey
  instructionsSysvar : Pubkey
  ed25519Program : Pubkey
  sha256 : List UInt8 → Bytes32
  findAuditAddress : Pubkey → ℕ → ℕ → Pubkey × ℕ

namespace Runtime

variable (rt : Runtime)

/-- `instruction_discriminator`. -/
def instructionDiscriminator (name : String) : List UInt8 :=
  (rt.sha256 (utf8 ("global:" ++ name))).bytes.take 8

/-- A discriminator has eight bytes. -/
theorem length_instructionDiscriminator (name : String) :
    (rt.instructionDiscriminator name).length = 8 := by
  simp [instructionDiscriminator, Bytes32.length_eq]

end Runtime

end Chain
end Subly402
