/-
# Files, and a process that may stop between any two steps

A disk is a finite map from paths to contents.  A file is written byte by byte, so a
process that stops while it writes leaves any part of the file; a rename is one step.
-/

import Subly402.Lib.FiniteMap

namespace Subly402
namespace Lib

/-- A step of the file system. -/
inductive FileOp (P : Type) where
  /-- The file is there, and empty. -/
  | create (path : P)
  | append (path : P) (byte : UInt8)
  | rename (source target : P)
  | remove (path : P)

variable {P : Type} [Ord P] [Std.TransOrd P]

/-- The files by path. -/
abbrev Disk (P : Type) [Ord P] := FiniteMap P (List UInt8)

namespace Disk

/-- The disk after a step. -/
def apply (disk : Disk P) : FileOp P → Disk P
  | .create path => disk.insert path []
  | .append path byte => disk.insert path (disk[path]?.getD [] ++ [byte])
  | .rename source target =>
    match disk[source]? with
    | some content => (disk.erase source).insert target content
    | none => disk
  | .remove path => disk.erase path

/-- The disk after some steps. -/
def run (disk : Disk P) (ops : List (FileOp P)) : Disk P := ops.foldl apply disk

/-- `fs::write`. -/
def writeFile (path : P) (content : List UInt8) : List (FileOp P) :=
  .create path :: content.map (.append path)

/-- A file is written under a temporary path, and renamed. -/
def replaceFile (temporary path : P) (content : List UInt8) : List (FileOp P) :=
  writeFile temporary content ++ [.rename temporary path]

/-- Two disks with the same files, but for those that are hidden. -/
def Agree (hidden : P → Prop) (disk disk' : Disk P) : Prop :=
  ∀ path, ¬ hidden path → disk[path]? = disk'[path]?

variable {hidden : P → Prop} {disk disk' : Disk P} {temporary path : P} {content : List UInt8}

theorem run_append (disk : Disk P) (ops ops' : List (FileOp P)) :
    disk.run (ops ++ ops') = (disk.run ops).run ops' := List.foldl_append

namespace Agree

theorem refl (hidden : P → Prop) (disk : Disk P) : Agree hidden disk disk := fun _ _ => rfl

end Agree

variable [Std.LawfulEqOrd P]

/-- Bytes that are written to a file follow what it has. -/
theorem run_map_append {c : List UInt8} (content : List UInt8) (h : disk[path]? = some c) :
    disk.run (content.map (.append path)) = disk.insert path (c ++ content) := by
  induction content generalizing disk c with
  | nil =>
    rw [List.append_nil, FiniteMap.insert_lookup h]
    rfl
  | cons byte content ih =>
    have happly : disk.apply (.append path byte) = disk.insert path (c ++ [byte]) := by
      simp [apply, h]
    change run (disk.apply (.append path byte)) _ = _
    rw [ih (c := c ++ [byte]) (by simp [happly]), happly,
      FiniteMap.insert_insert_self, List.append_assoc, List.singleton_append]

theorem run_writeFile (disk : Disk P) (path : P) (content : List UInt8) :
    disk.run (writeFile path content) = disk.insert path content := by
  change run (disk.insert path []) (content.map (.append path)) = _
  rw [run_map_append content (c := []) (by simp), FiniteMap.insert_insert_self,
    List.nil_append]

/-- What is written to a hidden file is not seen, wherever it stops. -/
theorem agree_writeFile_take (htemporary : hidden temporary) (n : ℕ) :
    Agree hidden (disk.run ((writeFile temporary content).take n)) disk := by
  have hinsert (bytes : List UInt8) : Agree hidden (disk.insert temporary bytes) disk :=
    fun path hpath => FiniteMap.lookup_insert_of_ne disk bytes fun heq => hpath (heq ▸ htemporary)
  cases n with
  | zero => exact .refl hidden disk
  | succ n =>
    have htake : (writeFile temporary content).take (n + 1)
        = writeFile temporary (content.take n) := by
      rw [writeFile, List.take_succ_cons, ← List.map_take]
      rfl
    rw [htake, run_writeFile]
    exact hinsert _

variable [DecidableEq P]

theorem Agree.insert (h : Agree hidden disk disk') (path : P) (content : List UInt8) :
    Agree hidden (disk.insert path content) (disk'.insert path content) := by
  intro path' hpath'
  rw [FiniteMap.lookup_insert, FiniteMap.lookup_insert, h path' hpath']

/-- A whole replacement. -/
theorem agree_replaceFile (hidden : P → Prop) (htemporary : hidden temporary)
    (hpath : ¬ hidden path) :
    Agree hidden (disk.run (replaceFile temporary path content)) (disk.insert path content) := by
  have hne : temporary ≠ path := fun heq => hpath (heq ▸ htemporary)
  have hrun : disk.run (replaceFile temporary path content)
      = ((disk.insert temporary content).erase temporary).insert path content := by
    rw [replaceFile, run_append, run_writeFile]
    simp [run, apply]
  rw [hrun]
  refine Agree.insert (fun path' hpath' => ?_) path content
  have hne' : path' ≠ temporary := fun heq => hpath' (heq ▸ htemporary)
  rw [FiniteMap.lookup_erase_of_ne _ hne', FiniteMap.lookup_insert_of_ne _ _ hne']

/-- **A replacement that stops somewhere is seen whole or not at all.** -/
theorem agree_replaceFile_take (hidden : P → Prop) (htemporary : hidden temporary)
    (hpath : ¬ hidden path) (n : ℕ) :
    Agree hidden (disk.run ((replaceFile temporary path content).take n)) disk ∨
      Agree hidden (disk.run ((replaceFile temporary path content).take n))
        (disk.insert path content) := by
  by_cases hn : n ≤ (writeFile temporary content).length
  · refine .inl ?_
    rw [replaceFile, List.take_append_of_le_length hn]
    exact agree_writeFile_take htemporary n
  · refine .inr ?_
    rw [List.take_of_length_le (by simp [replaceFile]; omega)]
    exact agree_replaceFile hidden htemporary hpath

end Disk

end Lib
end Subly402
