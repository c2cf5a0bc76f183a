import ScrapeTelemetry.Increment.SumTracker
import ScrapeTelemetry.Proofs.Increment.CounterCycle
import ScrapeTelemetry.Proofs.KeyMap.Order
import ScrapeTelemetry.Proofs.Runs

/-!
# Two trackers of one batch

A tracker sums the values of a batch itself; a ledger is given the sums. Where the
tracker forgets resets and nothing is rounded, the two hold and show the same. They tell a
reset apart by different comparisons, which agree on numbers that are totally ordered.
-/

set_option autoImplicit false

namespace ScrapeTelemetry
open Scalar

variable {μ : Type}

def SumTracker.feed (t : SumTracker EntityId Rat) (batch : List (Contribution μ Rat)) :
    SumTracker EntityId Rat × KeyMap EntityId Rat :=
  t.step (batch.map fun s => (s.key, s.value))

def CounterLedger.feed (f : CounterLedger Rat) (batch : List (Contribution μ Rat)) :
    CounterLedger Rat × List (CounterIncrement μ Rat) × OutcomeCounts :=
  f.step (mergeCounters batch)

/-- Both merge a batch to the same sums. -/
theorem tracker_sums (batch : List (Contribution μ Rat)) :
    SumTracker.sums (batch.map fun s => (s.key, s.value)) =
      (mergeCounters batch).mapValues fun _ e => e.2 := by
  apply KeyMap.eq_of_find
  intro k
  have hall : (batch.map fun s => (s.key, s.value)).filter (fun e => isFinite e.2) =
      batch.map fun s => (s.key, s.value) := List.filter_true _
  have htracker := KeyMap.find?_foldl_started Contribution.key (fun _ => (0 : Rat))
    (fun s v => v + s.value) batch k
  have hledger := merge_counters_find batch k
  rw [SumTracker.sums, hall, List.foldl_map, KeyMap.find?_mapValues]
  refine htracker.trans (Eq.trans ?_ hledger.symm)
  rw [mergedValue, List.foldl_map]
  cases hown : batch.filter fun s => s.key = k with
  | nil => rw [if_neg (by rw [keysOf, KeyMap.mem_map_key, hown]; simp)]
  | cons s rest => rw [if_pos (by rw [keysOf, KeyMap.mem_map_key, hown]; simp)]

theorem outcome_forgets (before : Option Rat) (v : Rat) :
    (Outcome.of before v).increment? = before.bind fun b => increment? .forget v b := by
  cases before with
  | none => rfl
  | some b => by_cases h : b ≤ v <;> simp [Outcome.of, Outcome.increment?, increment?, h]

/-- A value below the one before is the only kind of value that has no increment. -/
theorem reset_iff_dipped (before : Option Rat) (v : Rat) :
    (Outcome.of before v).isReset = before.any fun b => decide (v < b) := by
  cases before with
  | none => rfl
  | some b =>
    by_cases h : b ≤ v
    · simp [Outcome.of, Outcome.isReset, increment?, h]
    · simp [Outcome.of, Outcome.isReset, increment?, h, not_le.mp h]

structure Beside (t : SumTracker EntityId Rat) (f : CounterLedger Rat) : Prop where
  forgets : t.policy = .forget
  previous : t.previous = f.previous

def SameIncrements (increments : KeyMap EntityId Rat)
    (cycle : List (CounterIncrement μ Rat) × OutcomeCounts) : Prop :=
  increments.toList = cycle.1.map fun r => (r.key, r.amount)

theorem feed_beside {t : SumTracker EntityId Rat} {f : CounterLedger Rat} (h : Beside t f)
    (batch : List (Contribution μ Rat)) : Beside (t.feed batch).1 (f.feed batch).1 :=
  ⟨h.forgets, tracker_sums batch⟩

theorem feed_increments {t : SumTracker EntityId Rat} {f : CounterLedger Rat} (h : Beside t f)
    (batch : List (Contribution μ Rat)) : SameIncrements (t.feed batch).2 (f.feed batch).2 := by
  have hincrements : (t.feed batch).2.toList = ((mergeCounters batch).toList.map fun e =>
      (e.1, e.2.2)).filterMap fun e =>
        ((t.previous.find? e.1).bind fun b => increment? t.policy e.2 b).map fun d =>
          (e.1, d) := by
    unfold SumTracker.feed SumTracker.step
    rw [tracker_sums]
    rfl
  have hrecords : (f.feed batch).2.1 = f.recordsOf (mergeCounters batch) := rfl
  rw [SameIncrements, hincrements, hrecords, CounterLedger.recordsOf, List.map_filterMap,
    List.filterMap_map, h.previous, h.forgets]
  congr 1
  funext e
  rw [Option.map_map, CounterLedger.outcome, outcome_forgets]
  rfl

theorem feed_resets {t : SumTracker EntityId Rat} {f : CounterLedger Rat} (h : Beside t f)
    (batch : List (Contribution μ Rat)) :
    (t.feed batch).1.resets = t.resets + (f.feed batch).2.2.resets := by
  have hresets : (t.feed batch).1.resets = t.resets + ((mergeCounters batch).toList.map fun e =>
      (e.1, e.2.2)).countP fun e => (t.previous.find? e.1).any fun b => decide (e.2 < b) := by
    unfold SumTracker.feed SumTracker.step
    rw [tracker_sums]
    rfl
  rw [hresets, List.countP_map, h.previous]
  congr 2
  funext e
  exact (reset_iff_dipped (f.previous.find? e.1) e.2.2).symm

/-- From states beside each other on, all batches are tracked alike. -/
theorem feeds_agree (batches : List (List (Contribution μ Rat))) (t : SumTracker EntityId Rat)
    (f : CounterLedger Rat) (h : Beside t f) :
    List.Forall₂ SameIncrements (outputs SumTracker.feed t batches)
        (outputs CounterLedger.feed f batches) ∧
      Beside (stateAfter SumTracker.feed t batches) (stateAfter CounterLedger.feed f batches) ∧
      (stateAfter SumTracker.feed t batches).resets =
        t.resets + ((outputs CounterLedger.feed f batches).map fun c => c.2.resets).sum := by
  induction batches generalizing t f with
  | nil => exact ⟨.nil, h, rfl⟩
  | cons batch more ih =>
    obtain ⟨hshown, hheld, hresets⟩ := ih _ _ (feed_beside h batch)
    refine ⟨.cons (feed_increments h batch) hshown, hheld, hresets.trans ?_⟩
    rw [feed_resets h batch, add_assoc]
    rfl

/-- Over any batches of exact numbers a tracker that forgets resets gives in every cycle
the increments of a ledger that is given the sums of the batch. After them both hold the
sums of the last batch, under the same keys, and the tracker has counted the resets of all
cycles of the ledger. -/
theorem tracker_agrees_with_ledger (batches : List (List (Contribution μ Rat))) :
    let tracker := stateAfter SumTracker.feed (.ofPolicy .forget) batches
    let ledger := stateAfter CounterLedger.feed .empty batches
    let cycles := outputs CounterLedger.feed .empty batches
    List.Forall₂ (fun increments (cycle : List (CounterIncrement μ Rat) × OutcomeCounts) =>
        increments.toList = cycle.1.map fun r => (r.key, r.amount))
      (outputs SumTracker.feed (.ofPolicy .forget) batches) cycles ∧
      tracker.previous = ledger.previous ∧
      ledger.Holds (batches.getLastD []) ∧
      tracker.resets = (cycles.map fun cycle => cycle.2.resets).sum := by
  intro tracker ledger cycles
  obtain ⟨hshown, hbeside, hresets⟩ := feeds_agree batches (.ofPolicy .forget) .empty ⟨rfl, rfl⟩
  refine ⟨hshown, hbeside.previous, ?_, hresets.trans (Nat.zero_add _)⟩
  have hheld := last_input_holds CounterLedger.feed CounterLedger.Holds .empty
    ([] : List (Contribution μ Rat)) empty_holds step_holds batches batches.length le_rfl
  rwa [List.take_length, input_before_end] at hheld

end ScrapeTelemetry
