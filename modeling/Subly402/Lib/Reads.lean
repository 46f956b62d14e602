/-
# Reading a stream that arrives in pieces

`read_exact` of an asynchronous stream takes as many reads as it needs.  A reader is made
of such reads; `Takes` says what it makes of the bytes of a stream, whatever the pieces
(`takes_readExact`, `Takes.bind`).
-/

import Subly402.Lib.LittleEndian

namespace Subly402
namespace Lib

/-- A reader of the pieces in which a stream arrives.  One that needs more than arrives fails. -/
abbrev Reads (α : Type) := StateT (List (List UInt8)) Option α

/-- The pieces of the given sizes, and the rest as one more. -/
def cutAt : List ℕ → List UInt8 → List (List UInt8)
  | [], bytes => [bytes]
  | size :: sizes, bytes => bytes.take size :: cutAt sizes (bytes.drop size)

/-- The pieces of a cut join again. -/
theorem flatten_cutAt (sizes : List ℕ) (bytes : List UInt8) :
    (cutAt sizes bytes).flatten = bytes := by
  induction sizes generalizing bytes with
  | nil => simp [cutAt]
  | cons size sizes ih => rw [cutAt, List.flatten_cons, ih, List.take_append_drop]

/-- The loop of `read_exact`: pieces are read until there are enough bytes. -/
def readPieces : ℕ → List (List UInt8) → Option (List UInt8 × List (List UInt8))
  | n, [] => if n = 0 then some ([], []) else none
  | n, piece :: pieces =>
    if n ≤ piece.length then some (piece.take n, piece.drop n :: pieces)
    else (readPieces (n - piece.length) pieces).map fun out => (piece ++ out.1, out.2)

/-- `read_exact`. -/
def readExact (n : ℕ) : Reads (List UInt8) := readPieces n

/-- `read_u8`. -/
def readU8 : Reads UInt8 := (·.headD 0) <$> readExact 1

/-- `read_u32_le`. -/
def readU32Le : Reads ℕ := leNat <$> readExact 4

/-- From every stream that starts with the bytes the reader takes them, and returns the value. -/
def Takes {α : Type} (p : Reads α) (bytes : List UInt8) (a : α) : Prop :=
  ∀ pieces rest, pieces.flatten = bytes ++ rest →
    ∃ pieces', p.run pieces = some (a, pieces') ∧ pieces'.flatten = rest

namespace Takes

variable {α β : Type} {p : Reads α} {k : α → Reads β} {bytes bytes' : List UInt8} {a : α} {b : β}

/-- Readers compose. -/
theorem bind (hp : Takes p bytes a) (hk : Takes (k a) bytes' b) :
    Takes (p >>= k) (bytes ++ bytes') b := by
  intro pieces rest h
  rw [List.append_assoc] at h
  obtain ⟨pieces₁, hrun, h₁⟩ := hp pieces _ h
  obtain ⟨pieces₂, hrun', h₂⟩ := hk pieces₁ rest h₁
  refine ⟨pieces₂, ?_, h₂⟩
  rw [StateT.run_bind, hrun]
  exact hrun'

/-- A mapped reader takes the same bytes. -/
theorem map (hp : Takes p bytes a) (f : α → β) : Takes (f <$> p) bytes (f a) := by
  intro pieces rest h
  obtain ⟨pieces', hrun, h'⟩ := hp pieces rest h
  exact ⟨pieces', by rw [StateT.run_map, hrun]; rfl, h'⟩

/-- What it makes of a stream. -/
theorem run_eq (hp : Takes p bytes a) {pieces : List (List UInt8)} (rest : List UInt8)
    (h : pieces.flatten = bytes ++ rest) : (p.run pieces).map Prod.fst = some a := by
  obtain ⟨pieces', hrun, -⟩ := hp pieces rest h
  rw [hrun]
  rfl

end Takes

/-- `readExact` takes what it asks for. -/
theorem takes_readExact (bytes : List UInt8) : Takes (readExact bytes.length) bytes bytes := by
  intro pieces rest h
  induction pieces generalizing bytes with
  | nil =>
    obtain ⟨rfl, rfl⟩ := List.append_eq_nil_iff.1 h.symm
    exact ⟨[], rfl, rfl⟩
  | cons piece pieces ih =>
    rw [List.flatten_cons] at h
    simp only [readExact, StateT.run] at ih ⊢
    rw [readPieces]
    split
    · -- the piece has all that is wanted
      next hle =>
      have htake : piece.take bytes.length = bytes := by
        have := congrArg (List.take bytes.length) h
        rwa [List.take_append_of_le_length hle, List.take_left] at this
      refine ⟨_, by rw [htake], ?_⟩
      have := congrArg (List.drop bytes.length) h
      rwa [List.drop_append_of_le_length hle, List.drop_left] at this
    · next hlt =>
      obtain ⟨more, rfl, hrest⟩ | ⟨more, rfl, -⟩ := List.append_eq_append_iff.1 h
      swap
      · simp at hlt
      obtain ⟨pieces', hrun, hflat⟩ := ih more hrest
      refine ⟨pieces', ?_, hflat⟩
      rw [List.length_append, Nat.add_sub_cancel_left, hrun]
      rfl

/-- `readU8` takes one byte. -/
theorem takes_readU8 (b : UInt8) : Takes readU8 [b] b := (takes_readExact [b]).map _

/-- A length is read up to what four bytes cannot hold. -/
theorem takes_readU32Le (n : ℕ) : Takes readU32Le (leBytes 4 n) (n % 2 ^ 32) := by
  have h := (takes_readExact (leBytes 4 n)).map leNat
  rwa [length_leBytes, leNat_leBytes] at h

end Lib
end Subly402
