/-
# Checked access

Rust code that indexes, slices and subtracts stops the program where a bound is not
met.  A `Fault` is either such a stop or an error the code returns, and the readers here
are the operations of the language with their stops.
-/

import Subly402.Lib.LittleEndian
import Subly402.Lib.Result

namespace Subly402
namespace Lib

/-- How a run ends that returns no value. -/
inductive Fault (ε : Type) where
  /-- The program stops: an index out of range or an overflow. -/
  | stop
  /-- The error the code returns. -/
  | error (e : ε)
deriving DecidableEq

namespace Checked

variable {ε α β : Type}

/-- `require!`. -/
def ensure (c : Prop) [Decidable c] (e : ε) : Except (Fault ε) Unit :=
  if c then .ok () else .error (.error e)

/-- A call that fails with an error of its own, which `map_err` replaces. -/
def call (o : Option α) (e : ε) : Except (Fault ε) α :=
  match o with
  | some a => .ok a
  | none => .error (.error e)

/-- `data[i]`. -/
def index (data : List UInt8) (i : ℕ) : Except (Fault ε) UInt8 :=
  match data[i]? with
  | some b => .ok b
  | none => .error .stop

/-- `&data[start..stop]`. -/
def slice (data : List UInt8) (start stop : ℕ) : Except (Fault ε) (List UInt8) :=
  if start ≤ stop ∧ stop ≤ data.length then .ok ((data.drop start).take (stop - start))
  else .error .stop

/-- `target.copy_from_slice(source)` for a target of `size` bytes. -/
def copyFromSlice (size : ℕ) (source : List UInt8) : Except (Fault ε) (List UInt8) :=
  if source.length = size then .ok source else .error .stop

/-- `a + b` in an unsigned type of `width` bits. -/
def add (width a b : ℕ) : Except (Fault ε) ℕ :=
  if a + b < 2 ^ width then .ok (a + b) else .error .stop

/-- `a - b` in an unsigned type. -/
def sub (a b : ℕ) : Except (Fault ε) ℕ :=
  if b ≤ a then .ok (a - b) else .error .stop

/-- `u16::from_le_bytes([data[i], data[j]])`. -/
def u16 (data : List UInt8) (i j : ℕ) : Except (Fault ε) ℕ := do
  let low ← index data i
  let high ← index data j
  return leNat [low, high]

/-- An index in range does not stop. -/
theorem index_of_lt {data : List UInt8} {i : ℕ} (h : i < data.length) :
    (index data i : Except (Fault ε) UInt8) = .ok data[i] := by
  simp [index, h]

/-- A slice in range does not stop. -/
theorem slice_of_le {data : List UInt8} {start size : ℕ} (h : start + size ≤ data.length) :
    (slice data start (start + size) : Except (Fault ε) _) = .ok ((data.drop start).take size) := by
  rw [slice, if_pos ⟨by omega, h⟩, Nat.add_sub_cancel_left]

/-- A copy of equal length does not stop. -/
theorem copyFromSlice_of_length {size : ℕ} {source : List UInt8} (h : source.length = size) :
    (copyFromSlice size source : Except (Fault ε) _) = .ok source := if_pos h

/-- A sum that fits does not stop. -/
theorem add_of_lt {width a b : ℕ} (h : a + b < 2 ^ width) :
    (add width a b : Except (Fault ε) ℕ) = .ok (a + b) := if_pos h

/-- A difference that fits does not stop. -/
theorem sub_of_le {a b : ℕ} (h : b ≤ a) : (sub a b : Except (Fault ε) ℕ) = .ok (a - b) := if_pos h

/-- Two bytes next to each other are the `u16` at the first. -/
theorem u16_of_lt {data : List UInt8} {i : ℕ} (h : i + 1 < data.length) :
    (u16 data i (i + 1) : Except (Fault ε) ℕ) = .ok (leNat ((data.drop i).take 2)) := by
  have hlow : i < data.length := by omega
  have hpair : (data.drop i).take 2 = [data[i], data[i + 1]] := by
    rw [List.drop_eq_getElem_cons hlow, List.drop_eq_getElem_cons h]
    rfl
  rw [u16, index_of_lt hlow, index_of_lt h, hpair]
  rfl

/-! ### Computations that end alike -/

/-- The checked computation ends as the other one does. -/
def Mirrors (p : Except (Fault ε) α) (q : Except ε α) : Prop :=
  p = q.mapError .error

/-- Successes mirror. -/
theorem Mirrors.ok (a : α) : Mirrors (.ok a : Except (Fault ε) α) (.ok a) := rfl

/-- A check mirrors its plain form. -/
theorem Mirrors.guard {c : Prop} [Decidable c] {e : ε} {p : Unit → Except (Fault ε) α}
    {q : Except ε Unit} {r : Unit → Except ε α} (hq : q = if c then .ok () else .error e)
    (h : c → Mirrors (p ()) (r ())) : Mirrors (ensure c e >>= p) (q >>= r) := by
  subst hq
  unfold ensure
  split
  · next hc => exact h hc
  · rfl

/-- A fallible call mirrors `okOrElse`. -/
theorem Mirrors.call {o : Option β} {e : ε} {p : β → Except (Fault ε) α} {r : β → Except ε α}
    (h : ∀ b, o = some b → Mirrors (p b) (r b)) :
    Mirrors (Checked.call o e >>= p) (okOrElse o e >>= r) := by
  cases o with
  | none => rfl
  | some b => exact h b rfl

/-- Mirrors succeed alike. -/
theorem Mirrors.eq_ok {p : Except (Fault ε) α} {q : Except ε α} (h : Mirrors p q) {a : α} :
    p = .ok a ↔ q = .ok a := by
  rw [h]
  cases q <;> simp [Except.mapError]

/-- A mirror never stops. -/
theorem Mirrors.ne_stop {p : Except (Fault ε) α} {q : Except ε α} (h : Mirrors p q) :
    p ≠ .error .stop := by
  rw [h]
  cases q <;> simp [Except.mapError]

end Checked
end Lib
end Subly402
