/-
# Copying from one wire to another

A wire carries bytes.  What was written and not read yet waits in its queue, and a read
takes some first part of the queue: how the bytes are split into reads is nobody's choice.
The stream ends where the writer has closed the wire and the queue is empty.
-/

import Mathlib.Tactic.Common

namespace Subly402
namespace Lib

/-- Bytes that wait to be read, and whether the writer is done. -/
structure Wire where
  queue : List UInt8
  closed : Bool
deriving DecidableEq

/-- How far a loop is: before a read, with bytes of its buffer to write, at the end of its source,
or no longer there. -/
inductive Loop where
  | reading
  | writing (held : List UInt8)
  | closing
  | stopped
deriving DecidableEq

/-- What the loop has read and not written. -/
def Loop.held : Loop → List UInt8
  | .writing held => held
  | _ => []

/-- A loop between two wires, what was sent into the first and what was received from the second. -/
structure Pump where
  sent : List UInt8
  inlet : Wire
  loop : Loop
  outlet : Wire
  received : List UInt8
deriving DecidableEq

namespace Pump

/-- Before anything is sent. -/
def fresh : Pump := ⟨[], ⟨[], false⟩, .reading, ⟨[], false⟩, []⟩

/-- The source writes. -/
def send (p : Pump) (bytes : List UInt8) : Pump :=
  if p.inlet.closed then p
  else { p with sent := p.sent ++ bytes, inlet := { p.inlet with queue := p.inlet.queue ++ bytes } }

/-- The source is done. -/
def close (p : Pump) : Pump := { p with inlet := { p.inlet with closed := true } }

/-- The loop reads `n` bytes, or as many as there are, or finds the end. -/
def read (p : Pump) (n : ℕ) : Pump :=
  match p.loop with
  | .reading =>
    if p.inlet.queue.take n = [] then
      if p.inlet.closed ∧ p.inlet.queue = [] then { p with loop := .closing } else p
    else
      { p with
        inlet := { p.inlet with queue := p.inlet.queue.drop n }
        loop := .writing (p.inlet.queue.take n) }
  | _ => p

/-- The loop writes `n` bytes of what it holds. -/
def write (p : Pump) (n : ℕ) : Pump :=
  match p.loop with
  | .writing held =>
    { p with
      loop := if held.drop n = [] then .reading else .writing (held.drop n)
      outlet := { p.outlet with queue := p.outlet.queue ++ held.take n } }
  | _ => p

/-- The loop is gone, and its outlet is closed. -/
def stop (p : Pump) : Pump :=
  { p with loop := .stopped, outlet := { p.outlet with closed := true } }

/-- The first bytes of the outlet are read by someone else than the reader. -/
def skim (p : Pump) (n : ℕ) : Pump :=
  { p with outlet := { p.outlet with queue := p.outlet.queue.drop n } }

/-- The reader reads. -/
def take (p : Pump) (n : ℕ) : Pump :=
  { p.skim n with received := p.received ++ p.outlet.queue.take n }

section Received

variable (p : Pump)

/-- Sending delivers nothing. -/
theorem received_send (bytes : List UInt8) : (p.send bytes).received = p.received := by
  unfold send
  split <;> rfl

/-- Reading delivers nothing. -/
theorem received_read (n : ℕ) : (p.read n).received = p.received := by
  unfold read
  split
  · split
    · split <;> rfl
    · rfl
  · rfl

/-- Writing alone delivers nothing. -/
theorem received_write (n : ℕ) : (p.write n).received = p.received := by
  unfold write
  split <;> rfl

end Received

/-! ### What a pump keeps -/

/-- What was sent and not received. -/
def onTheWay (p : Pump) : List UInt8 := p.outlet.queue ++ (p.loop.held ++ p.inlet.queue)

/-- No byte is lost, doubled or out of order.  The outlet may have carried other bytes first: `first`
were written to it, and `skimmed` read from it. -/
def Flows (first skimmed : List UInt8) (p : Pump) : Prop :=
  first ++ p.sent = skimmed ++ (p.received ++ p.onTheWay)

/-- The bytes flow, and the reader finds the end only where the source is done and everything has
come out. -/
structure Lossless (first skimmed : List UInt8) (p : Pump) : Prop where
  flows : p.Flows first skimmed
  whole : p.outlet.closed = true →
    p.inlet.closed = true ∧ first ++ p.sent = skimmed ++ (p.received ++ p.outlet.queue)

/-- Only a loop that is gone has closed its outlet, and a loop that found the end or is gone has
nothing more to come. -/
structure Sound (p : Pump) : Prop where
  opened : p.loop ≠ .stopped → p.outlet.closed = false
  ended : p.loop = .closing ∨ p.loop = .stopped → p.inlet = ⟨[], true⟩

/-- The source is done, and everything it sent has been written. -/
def Drained (p : Pump) : Prop := p.inlet = ⟨[], true⟩ ∧ p.loop.held = []

instance (p : Pump) : Decidable p.Drained := inferInstanceAs (Decidable (_ ∧ _))

variable {first skimmed : List UInt8} {p : Pump}

/-- A sound pump loses nothing. -/
theorem Sound.lossless (h : p.Sound) (hflow : p.Flows first skimmed) : p.Lossless first skimmed := by
  refine ⟨hflow, fun hclosed => ?_⟩
  by_cases hloop : p.loop = .stopped
  · have hinlet := h.ended (.inr hloop)
    rw [Flows, onTheWay, hloop, hinlet] at hflow
    exact ⟨congrArg Wire.closed hinlet, by simpa [Loop.held] using hflow⟩
  · exact absurd ((h.opened hloop).symm.trans hclosed) nofun

/-- Bytes sent join the flow. -/
theorem Flows.send (h : p.Flows first skimmed) (bytes : List UInt8) :
    (p.send bytes).Flows first skimmed := by
  unfold Pump.send
  split
  · exact h
  · show first ++ (p.sent ++ bytes) = _
    rw [← List.append_assoc, h]
    simp [onTheWay]

/-- Sending keeps a pump sound. -/
theorem Sound.send (h : p.Sound) (bytes : List UInt8) : (p.send bytes).Sound := by
  unfold Pump.send
  split
  · exact h
  · next hopen =>
    refine ⟨h.opened, fun hloop => ?_⟩
    rw [h.ended hloop] at hopen
    exact absurd rfl hopen

/-- Closing keeps a pump sound. -/
theorem Sound.close (h : p.Sound) : p.close.Sound :=
  ⟨h.opened, fun hloop => by rw [Pump.close, h.ended hloop]⟩

/-- Reading keeps the flow. -/
theorem Flows.read (h : p.Flows first skimmed) (n : ℕ) : (p.read n).Flows first skimmed := by
  unfold Pump.read
  cases hloop : p.loop with
  | reading =>
    rw [Flows, onTheWay, hloop] at h
    dsimp only
    split
    · split
      · exact h
      · rw [Flows, onTheWay, hloop]
        exact h
    · rw [Flows, h, onTheWay]
      simp [Loop.held]
  | writing | closing | stopped => exact h

/-- Reading keeps a pump sound. -/
theorem Sound.read (h : p.Sound) (n : ℕ) : (p.read n).Sound := by
  unfold Pump.read
  split
  · next hloop =>
    have hopened := h.opened (by rw [hloop]; nofun)
    split
    · split
      · next hend =>
        obtain ⟨hclosed, hqueue⟩ := hend
        refine ⟨fun _ => hopened, fun _ => ?_⟩
        show p.inlet = _
        rw [← hclosed, ← hqueue]
      · exact h
    · exact ⟨fun _ => hopened, nofun⟩
  · exact h

/-- Writing keeps the flow. -/
theorem Flows.write (h : p.Flows first skimmed) (n : ℕ) : (p.write n).Flows first skimmed := by
  unfold Pump.write
  cases hloop : p.loop with
  | writing held =>
    rw [Flows, onTheWay, hloop] at h
    rw [Flows, h, onTheWay]
    have hheld : (if held.drop n = [] then Loop.reading else .writing (held.drop n)).held
        = held.drop n := by
      split
      · next hdone => exact hdone.symm
      · rfl
    simp only [hheld]
    rw [Loop.held, List.append_assoc, ← List.append_assoc (held.take n), List.take_append_drop]
  | reading | closing | stopped => exact h

/-- Writing keeps a pump sound. -/
theorem Sound.write (h : p.Sound) (n : ℕ) : (p.write n).Sound := by
  unfold Pump.write
  split
  · next hloop =>
    refine ⟨fun _ => h.opened (by rw [hloop]; nofun), ?_⟩
    dsimp only
    split <;> nofun
  · exact h

/-- Bytes that are skimmed are skimmed. -/
theorem Flows.skim (h : p.Flows first skimmed) (hnone : p.received = []) (n : ℕ) :
    (p.skim n).Flows first (skimmed ++ p.outlet.queue.take n) := by
  rw [Flows, hnone, List.nil_append, onTheWay] at h
  rw [Flows, List.append_assoc]
  show first ++ p.sent = skimmed ++ (p.outlet.queue.take n ++ (p.received ++
    (p.outlet.queue.drop n ++ (p.loop.held ++ p.inlet.queue))))
  rw [h, hnone, List.nil_append, ← List.append_assoc (p.outlet.queue.take n),
    List.take_append_drop]

/-- Taking keeps the flow. -/
theorem Flows.take (h : p.Flows first skimmed) (n : ℕ) : (p.take n).Flows first skimmed := by
  rw [Flows, onTheWay] at h
  show first ++ p.sent = skimmed ++ ((p.received ++ p.outlet.queue.take n) ++
    (p.outlet.queue.drop n ++ (p.loop.held ++ p.inlet.queue)))
  rw [h, List.append_assoc, ← List.append_assoc (p.outlet.queue.take n), List.take_append_drop]

/-- A drained pump may stop. -/
theorem Drained.sound_stop (h : p.Drained) : p.stop.Sound := ⟨fun h => absurd rfl h, fun _ => h.1⟩

/-- Stopping a drained pump keeps the flow. -/
theorem Drained.flows_stop (h : p.Drained) (hflow : p.Flows first skimmed) :
    p.stop.Flows first skimmed := by
  rw [Flows, onTheWay, h.2] at hflow
  exact hflow

/-- **A pump that is stopped has lost nothing exactly where it was drained.** -/
theorem lossless_stop_iff (hflow : p.Flows first skimmed) :
    p.stop.Lossless first skimmed ↔ p.Drained := by
  refine ⟨fun h => ?_, fun h => h.sound_stop.lossless (h.flows_stop hflow)⟩
  obtain ⟨hclosed, hwhole⟩ := h.whole rfl
  have hrest : p.received ++ p.outlet.queue = p.received ++ p.onTheWay :=
    List.append_cancel_left (hwhole.symm.trans hflow)
  have hnone : p.loop.held ++ p.inlet.queue = [] :=
    List.append_right_eq_self.1 (List.append_cancel_left hrest).symm
  obtain ⟨hheld, hqueue⟩ := List.append_eq_nil_iff.1 hnone
  refine ⟨?_, hheld⟩
  rw [← hqueue, ← hclosed]
  rfl

/-! ### Emptying a pump -/

/-- The loop copies some bytes, one by one. -/
def copyBytes : ℕ → Pump → Pump
  | 0, p => p
  | k + 1, p => copyBytes k ((p.read 1).write 1)

/-- The loop writes what it holds and copies what waits at its inlet, and the reader takes
everything. -/
def flush (p : Pump) : Pump :=
  (copyBytes p.inlet.queue.length (p.write p.loop.held.length)).take p.onTheWay.length

/-- One byte is copied. -/
theorem copy_byte {b : UInt8} {rest : List UInt8} (hloop : p.loop = .reading)
    (hqueue : p.inlet.queue = b :: rest) :
    (p.read 1).write 1 = { p with
      inlet := { p.inlet with queue := rest }
      outlet := { p.outlet with queue := p.outlet.queue ++ [b] } } := by
  simp [Pump.read, Pump.write, hloop, hqueue]

/-- A loop that reads byte by byte comes to the end of what waits. -/
theorem copy_all (hheld : p.loop.held = []) (hread : p.inlet.queue ≠ [] → p.loop = .reading) :
    let q := copyBytes p.inlet.queue.length p
    q.sent = p.sent ∧ q.received = p.received ∧ q.outlet.queue = p.onTheWay := by
  induction hqueue : p.inlet.queue generalizing p with
  | nil => exact ⟨rfl, rfl, by simp [copyBytes, onTheWay, hheld, hqueue]⟩
  | cons b rest ih =>
    have hloop := hread (by simp [hqueue])
    rw [List.length_cons, copyBytes, copy_byte hloop hqueue]
    obtain ⟨hsent, hreceived, hout⟩ := ih (p := { p with
      inlet := { p.inlet with queue := rest }
      outlet := { p.outlet with queue := p.outlet.queue ++ [b] } }) hheld (fun _ => hloop) rfl
    refine ⟨hsent, hreceived, hout.trans ?_⟩
    simp [onTheWay, hloop, hqueue, Loop.held]

/-- **Everything that was sent can still be received.** -/
theorem Sound.flush (h : p.Sound) (hflow : p.Flows first skimmed) :
    first ++ p.sent = skimmed ++ p.flush.received := by
  have hwrite : (p.write p.loop.held.length).loop.held = [] ∧
      (p.write p.loop.held.length).inlet = p.inlet ∧
      (p.write p.loop.held.length).received = p.received ∧
      (p.write p.loop.held.length).onTheWay = p.onTheWay ∧
      (p.inlet.queue ≠ [] → (p.write p.loop.held.length).loop = .reading) := by
    unfold Pump.write
    cases hloop : p.loop with
    | writing held => simp [Loop.held, onTheWay, hloop]
    | reading => simp [Loop.held, hloop]
    | closing => simp [Loop.held, hloop, h.ended (.inl hloop)]
    | stopped => simp [Loop.held, hloop, h.ended (.inr hloop)]
  obtain ⟨hheld, hinlet, hreceived, hway, hread⟩ := hwrite
  rw [← hinlet] at hread
  obtain ⟨-, hreceived', hout⟩ := copy_all hheld hread
  rw [hinlet] at hreceived' hout
  rw [Flows] at hflow
  rw [hflow, Pump.flush, Pump.take]
  show _ = skimmed ++ (_ ++ _)
  rw [hreceived', hreceived, hout, hway, List.take_length]

end Pump

end Lib
end Subly402
