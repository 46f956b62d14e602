/-
# When an automatic batch fires

`decide_batch_action` in `enclave/src/batch.rs`, and the loop that calls it every ten
seconds with the deadline it returned the last time.  A batch is delayed by a few random
seconds, so that the time of its transaction does not tell when the last payment was made.
The seconds are drawn at every tick; that they do not push the batch away forever is a
fact about the deadline that is threaded through the ticks.
-/

import Subly402.Batch.Plan
import Subly402.Lib.Runs

namespace Subly402
namespace Batch

open Lib

/-- `MAX_BATCH_JITTER_SEC`. -/
def maxBatchJitterSec : ℤ := 30

/-- `BatchLoopDecision`. -/
inductive BatchLoopDecision where
  | skip
  | wait
  | fire
deriving DecidableEq, Repr

/-- `decide_batch_action`: the decision, and the deadline for the next tick. -/
def decideBatchAction (now elapsed batchWindowSec : ℤ) (providerCount : ℕ) (oldestCreditAge : ℤ)
    (jitterDeadline : Option ℤ) (sampledJitterSec : ℤ) (minBatchProviders : ℕ) :
    BatchLoopDecision × Option ℤ :=
  if providerCount = 0 then (.skip, none)
  else if ¬ (batchWindowSec ≤ elapsed ∨ maxSettlementsPerTx ≤ providerCount ∨
      maxSettlementDelaySec ≤ oldestCreditAge) then (.skip, none)
  else if providerCount < minBatchProviders ∧ ¬ maxSettlementDelaySec ≤ oldestCreditAge then
    (.skip, none)
  else if maxSettlementDelaySec ≤ oldestCreditAge then (.fire, none)
  else
    let deadline := jitterDeadline.getD (now + sampledJitterSec)
    if now < deadline then (.wait, some deadline) else (.fire, none)

/-- What the loop reads at a tick. -/
structure Tick where
  now : ℤ
  lastBatchAt : ℤ
  cursors : List ProviderBatchCursor
  sampledJitterSec : ℤ
  jitter_range : 0 ≤ sampledJitterSec ∧ sampledJitterSec ≤ maxBatchJitterSec

namespace Tick

/-- The age of the oldest credit, and zero if there is none. -/
def oldestCreditAge (tick : Tick) : ℤ :=
  ((tick.cursors.map fun cursor => tick.now - cursor.oldestCreditAt).max?).getD 0

/-- A credit has waited for as long as it may. -/
def Overdue (tick : Tick) : Prop := maxSettlementDelaySec ≤ tick.oldestCreditAge

instance (tick : Tick) : Decidable tick.Overdue := inferInstanceAs (Decidable (_ ≤ _))

end Tick

/-- The two settings that the loop reads. -/
structure Cadence where
  batchWindowSec : ℤ
  minBatchProviders : ℕ

namespace Cadence

variable (c : Cadence)

/-- The call of the loop at a tick. -/
def decide (deadline : Option ℤ) (tick : Tick) : BatchLoopDecision × Option ℤ :=
  decideBatchAction tick.now (tick.now - tick.lastBatchAt) c.batchWindowSec tick.cursors.length
    tick.oldestCreditAge deadline tick.sampledJitterSec c.minBatchProviders

/-- The deadline of the loop before the tick `n`. -/
def deadlineAt (ticks : List Tick) (n : ℕ) : Option ℤ :=
  runSteps (fun deadline tick => (c.decide deadline tick).2) none (ticks.take n)

/-- The decision at the tick `n`. -/
def decisionAt (ticks : List Tick) (n : ℕ) : Option BatchLoopDecision :=
  (ticks[n]?).map fun tick => (c.decide (c.deadlineAt ticks n) tick).1

/-- The batching conditions hold, and nothing is overdue. -/
def Ready (tick : Tick) : Prop :=
  0 < tick.cursors.length ∧
    (c.batchWindowSec ≤ tick.now - tick.lastBatchAt ∨ maxSettlementsPerTx ≤ tick.cursors.length) ∧
    c.minBatchProviders ≤ tick.cursors.length ∧ ¬ tick.Overdue

instance (tick : Tick) : Decidable (c.Ready tick) := inferInstanceAs (Decidable (_ ∧ _))

variable {c}

/-! ### One tick -/

/-- A tick without providers has nothing overdue. -/
theorem length_pos_of_overdue {tick : Tick} (h : tick.Overdue) : 0 < tick.cursors.length := by
  rw [List.length_pos_iff]
  intro hnil
  unfold Tick.Overdue Tick.oldestCreditAge at h
  rw [hnil, List.map_nil] at h
  exact absurd h (by decide)

theorem decide_of_overdue {tick : Tick} (h : tick.Overdue) (deadline : Option ℤ) :
    c.decide deadline tick = (.fire, none) := by
  have hpos := length_pos_of_overdue h
  have hage : maxSettlementDelaySec ≤ tick.oldestCreditAge := h
  unfold decide decideBatchAction
  rw [if_neg (by omega), if_neg (not_not.2 (.inr (.inr hage))), if_neg (fun hand => hand.2 hage),
    if_pos hage]

theorem decide_of_ready {tick : Tick} (h : c.Ready tick) (deadline : Option ℤ) :
    c.decide deadline tick =
      if tick.now < deadline.getD (tick.now + tick.sampledJitterSec) then
        (.wait, some (deadline.getD (tick.now + tick.sampledJitterSec)))
      else (.fire, none) := by
  obtain ⟨hpos, hwindow, hproviders, hage⟩ := h
  have hage' : ¬ maxSettlementDelaySec ≤ tick.oldestCreditAge := hage
  have hbatch : c.batchWindowSec ≤ tick.now - tick.lastBatchAt ∨
      maxSettlementsPerTx ≤ tick.cursors.length ∨ maxSettlementDelaySec ≤ tick.oldestCreditAge :=
    hwindow.imp_right .inl
  unfold decide decideBatchAction
  rw [if_neg (by omega), if_neg (not_not.2 hbatch), if_neg (fun hand => by omega), if_neg hage']

theorem decide_of_not_ready {tick : Tick} (hready : ¬ c.Ready tick) (hage : ¬ tick.Overdue)
    (deadline : Option ℤ) : c.decide deadline tick = (.skip, none) := by
  have hage' : ¬ maxSettlementDelaySec ≤ tick.oldestCreditAge := hage
  unfold decide decideBatchAction
  by_cases hpos : tick.cursors.length = 0
  · rw [if_pos hpos]
  · rw [if_neg hpos]
    by_cases hbatch : c.batchWindowSec ≤ tick.now - tick.lastBatchAt ∨
        maxSettlementsPerTx ≤ tick.cursors.length
    · have hfew : tick.cursors.length < c.minBatchProviders := by
        by_contra hmany
        exact hready ⟨by omega, hbatch, by omega, hage⟩
      rw [if_neg (not_not.2 (hbatch.imp_right .inl)), if_pos ⟨hfew, hage'⟩]
    · rw [if_pos]
      rintro (hwindow | hcount | hold)
      · exact hbatch (.inl hwindow)
      · exact hbatch (.inr hcount)
      · exact hage' hold

/-- A tick that fires has enough providers or something overdue. -/
theorem enough_of_fire {deadline : Option ℤ} {tick : Tick}
    (h : (c.decide deadline tick).1 = .fire) :
    c.minBatchProviders ≤ tick.cursors.length ∨ tick.Overdue := by
  by_cases hage : tick.Overdue
  · exact .inr hage
  · by_cases hready : c.Ready tick
    · exact .inl hready.2.2.1
    · rw [decide_of_not_ready hready hage] at h
      cases h

/-! ### Stretches of ticks -/

/-- A stretch of ready ticks that nothing came before: its first tick is the first of all, or
the tick before it was not ready or has fired. -/
structure Stretch (c : Cadence) (ticks : List Tick) (i k : ℕ) : Prop where
  ready : ∀ j tick, i ≤ j → j < k → ticks[j]? = some tick → c.Ready tick
  opens : i = 0 ∨ ∃ tick, ticks[i - 1]? = some tick ∧
    (¬ c.Ready tick ∨ c.decisionAt ticks (i - 1) = some .fire)

variable {ticks : List Tick} {i j k : ℕ} {first tick : Tick}

theorem deadlineAt_succ (h : ticks[j]? = some tick) :
    c.deadlineAt ticks (j + 1) = (c.decide (c.deadlineAt ticks j) tick).2 :=
  runSteps_take_succ h

theorem decisionAt_eq (h : ticks[j]? = some tick) :
    c.decisionAt ticks j = some (c.decide (c.deadlineAt ticks j) tick).1 := by
  unfold decisionAt
  rw [h, Option.map_some]

/-- A tick that is not ready, or that fires, leaves no deadline. -/
theorem decide_snd_eq_none {deadline : Option ℤ}
    (h : ¬ c.Ready tick ∨ (c.decide deadline tick).1 = .fire) : (c.decide deadline tick).2 = none := by
  by_cases hage : tick.Overdue
  · rw [decide_of_overdue hage]
  · by_cases hready : c.Ready tick
    · have hfire := h.resolve_left (not_not.2 hready)
      rw [decide_of_ready hready] at hfire ⊢
      split at hfire
      · cases hfire
      · next hlate => rw [if_neg hlate]
    · rw [decide_of_not_ready hready hage]

/-- There is no deadline when a stretch begins. -/
theorem Stretch.deadlineAt_eq_none (h : Stretch c ticks i k) : c.deadlineAt ticks i = none := by
  rcases h.opens with rfl | ⟨before, hbefore, hopens⟩
  · rfl
  · cases i with
    | zero => rfl
    | succ i =>
      rw [Nat.add_sub_cancel] at hbefore hopens
      rw [decisionAt_eq hbefore, Option.some.injEq] at hopens
      rw [deadlineAt_succ hbefore]
      exact decide_snd_eq_none hopens

/-- **The deadline of the first tick is kept**: a tick finds it as long as no tick of the stretch
before has reached it. -/
theorem Stretch.deadlineAt_eq (h : Stretch c ticks i k) (hfirst : ticks[i]? = some first) (j : ℕ)
    (hij : i < j) (hjk : j ≤ k) (hlength : j ≤ ticks.length)
    (hearly : ∀ m tick, i ≤ m → m < j → ticks[m]? = some tick →
      tick.now < first.now + first.sampledJitterSec) :
    c.deadlineAt ticks j = some (first.now + first.sampledJitterSec) := by
  induction j, (hij : i + 1 ≤ j) using Nat.le_induction with
  | base =>
    have hready := h.ready i first le_rfl (by omega) hfirst
    rw [deadlineAt_succ hfirst, h.deadlineAt_eq_none, decide_of_ready hready]
    simp only [Option.getD_none]
    rw [if_pos (hearly i first le_rfl (by omega) hfirst)]
  | succ j hij ih =>
    have htick : ticks[j]? = some (ticks.get ⟨j, by omega⟩) := List.getElem?_eq_getElem _
    have hkept := ih (by omega) (by omega) fun m tick him hmj =>
      hearly m tick him (by omega)
    have hready := h.ready j _ (by omega) (by omega) htick
    rw [deadlineAt_succ htick, hkept, decide_of_ready hready]
    simp only [Option.getD_some]
    rw [if_pos (hearly j _ (by omega) (by omega) htick)]

/-- What a tick of a stretch compares its time with. -/
theorem Stretch.decide_eq (h : Stretch c ticks i k) (hfirst : ticks[i]? = some first)
    (hij : i ≤ j) (hjk : j < k) (htick : ticks[j]? = some tick)
    (hearly : ∀ m tick, i ≤ m → m < j → ticks[m]? = some tick →
      tick.now < first.now + first.sampledJitterSec) :
    c.decide (c.deadlineAt ticks j) tick =
      if tick.now < first.now + first.sampledJitterSec then
        (.wait, some (first.now + first.sampledJitterSec))
      else (.fire, none) := by
  rw [decide_of_ready (h.ready j tick hij hjk htick)]
  rcases hij.eq_or_lt with rfl | hij
  · obtain rfl : first = tick := by
      rw [hfirst] at htick
      cases htick
      rfl
    rw [h.deadlineAt_eq_none]
    rfl
  · have hlength : j < ticks.length := (List.getElem?_eq_some_iff.1 htick).1
    rw [h.deadlineAt_eq hfirst j hij hjk.le hlength.le hearly]
    rfl

/-- What a stretch does with the deadline `d` that its first tick has sampled: a tick before it
waits and keeps it, the first tick that is not before it fires, and there is a fire by every tick
at or after the latest deadline that can be sampled. -/
structure Stretch.Keeps (c : Cadence) (ticks : List Tick) (i k : ℕ) (first : Tick) : Prop where
  waits : ∀ j tick, i ≤ j → j < k → ticks[j]? = some tick →
    tick.now < first.now + first.sampledJitterSec →
    c.decisionAt ticks j = some .wait ∧
      c.deadlineAt ticks (j + 1) = some (first.now + first.sampledJitterSec)
  fires : ∀ j tick, i ≤ j → j < k → ticks[j]? = some tick →
    first.now + first.sampledJitterSec ≤ tick.now →
    (∀ m before, i ≤ m → m < j → ticks[m]? = some before →
      before.now < first.now + first.sampledJitterSec) →
    c.decisionAt ticks j = some .fire
  by_then : ∀ j tick, i ≤ j → j < k → ticks[j]? = some tick →
    first.now + maxBatchJitterSec ≤ tick.now →
    ∃ m, i ≤ m ∧ m ≤ j ∧ c.decisionAt ticks m = some .fire

/-- Times that do not go back, by the numbers of the ticks. -/
theorem now_le_now (hmono : ticks.Pairwise fun a b => a.now ≤ b.now) {m n : ℕ} {a b : Tick}
    (hmn : m ≤ n) (ha : ticks[m]? = some a) (hb : ticks[n]? = some b) : a.now ≤ b.now := by
  obtain ⟨hm, rfl⟩ := List.getElem?_eq_some_iff.1 ha
  obtain ⟨hn, rfl⟩ := List.getElem?_eq_some_iff.1 hb
  rcases hmn.eq_or_lt with rfl | hmn
  · exact le_rfl
  · exact List.pairwise_iff_getElem.1 hmono m n hm hn hmn

theorem Stretch.keeps (h : Stretch c ticks i k) (hmono : ticks.Pairwise fun a b => a.now ≤ b.now)
    (hfirst : ticks[i]? = some first) : Stretch.Keeps c ticks i k first where
  waits j tick hij hjk htick hnow := by
    have hearly : ∀ m before, i ≤ m → m < j → ticks[m]? = some before →
        before.now < first.now + first.sampledJitterSec := fun m before _ hmj hbefore =>
      (now_le_now hmono hmj.le hbefore htick).trans_lt hnow
    have hdecide := h.decide_eq hfirst hij hjk htick hearly
    rw [if_pos hnow] at hdecide
    rw [decisionAt_eq htick, deadlineAt_succ htick, hdecide]
    exact ⟨rfl, rfl⟩
  fires j tick hij hjk htick hnow hearly := by
    have hdecide := h.decide_eq hfirst hij hjk htick hearly
    rw [if_neg (not_lt.2 hnow)] at hdecide
    rw [decisionAt_eq htick, hdecide]
  by_then j tick hij hjk htick hnow := by
    classical
    -- the first tick of the stretch that is not before the deadline
    have hexists : ∃ m, i ≤ m ∧ ∃ late, ticks[m]? = some late ∧
        first.now + first.sampledJitterSec ≤ late.now := by
      have hrange := first.jitter_range.2
      exact ⟨j, hij, tick, htick, by omega⟩
    obtain ⟨him, late, hlate, hreached⟩ := Nat.find_spec hexists
    have hmj : Nat.find hexists ≤ j := by
      have hrange := first.jitter_range.2
      exact Nat.find_min' hexists ⟨hij, tick, htick, by omega⟩
    refine ⟨Nat.find hexists, him, hmj, ?_⟩
    have hearly : ∀ m before, i ≤ m → m < Nat.find hexists → ticks[m]? = some before →
        before.now < first.now + first.sampledJitterSec := by
      intro m before him' hm hbefore
      by_contra hnot
      exact Nat.find_min hexists hm ⟨him', before, hbefore, not_lt.1 hnot⟩
    have hdecide := h.decide_eq hfirst him (by omega) hlate hearly
    rw [if_neg (not_lt.2 hreached)] at hdecide
    rw [decisionAt_eq hlate, hdecide]

/-- **The loop over any ticks.** -/
theorem jitter (c : Cadence) {ticks : List Tick}
    (hmono : ticks.Pairwise fun a b => a.now ≤ b.now) :
    (∀ n tick, ticks[n]? = some tick → c.decisionAt ticks n = some .fire →
        c.minBatchProviders ≤ tick.cursors.length ∨ tick.Overdue) ∧
      (∀ n tick, ticks[n]? = some tick → tick.Overdue → c.decisionAt ticks n = some .fire) ∧
      ∀ i k first, Stretch c ticks i k → ticks[i]? = some first →
        Stretch.Keeps c ticks i k first := by
  refine ⟨fun n tick htick hfire => ?_, fun n tick htick hage => ?_, fun i k first h hfirst =>
    h.keeps hmono hfirst⟩
  · rw [decisionAt_eq htick, Option.some.injEq] at hfire
    exact enough_of_fire hfire
  · rw [decisionAt_eq htick, decide_of_overdue hage]

/-- A vault with two providers whose credits are five minutes old at the time 1000. -/
def sampleTick (now : ℤ) (sampledJitterSec : ℤ)
    (h : 0 ≤ sampledJitterSec ∧ sampledJitterSec ≤ maxBatchJitterSec) : Tick :=
  { now, lastBatchAt := 0, cursors := [⟨"a", 700, ["1"], 0⟩, ⟨"b", 700, ["2"], 0⟩]
    sampledJitterSec, jitter_range := h }

def sampleTicks : List Tick :=
  [sampleTick 1000 25 (by decide), sampleTick 1010 30 (by decide), sampleTick 1030 30 (by decide),
    sampleTick 1040 0 (by decide)]

/-- The first tick samples a deadline at 1025, which the tick at 1030 is the first to reach; the
tick after the fire starts again. -/
theorem jitter_sample :
    (List.range 4).map (Cadence.decisionAt ⟨120, 2⟩ sampleTicks)
        = [some .wait, some .wait, some .fire, some .fire] ∧
      Stretch.Keeps ⟨120, 2⟩ sampleTicks 0 4 (sampleTick 1000 25 (by decide)) := by
  refine ⟨by decide, (jitter ⟨120, 2⟩ (by decide)).2.2 0 4 _ ⟨?_, .inl rfl⟩ rfl⟩
  intro j tick _ hj htick
  interval_cases j <;> cases htick <;> decide

end Cadence

end Batch
end Subly402
