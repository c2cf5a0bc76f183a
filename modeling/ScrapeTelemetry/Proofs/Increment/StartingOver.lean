import ScrapeTelemetry.Increment.SumTracker
import ScrapeTelemetry.Proofs.KeyMap.Order
import ScrapeTelemetry.Proofs.Number.Exact
import ScrapeTelemetry.Proofs.Runs

/-!
# Runs of a tracker that starts over

A tracker takes a value that is smaller than the one before for what was counted since a
restart. So the increments of a key that stays add up to what its value grew by, and to
what each restart took away.
-/

set_option autoImplicit false

namespace ScrapeTelemetry
open Scalar

namespace SumTracker

variable {κ : Type}

def keysIn (batch : List (κ × Rat)) : List κ := batch.map Prod.fst

variable [DecidableEq κ]

def valueIn (batch : List (κ × Rat)) (k : κ) : Rat :=
  ((batch.filter fun e => e.1 = k).map Prod.snd).sum

def decreased (before now : List (κ × Rat)) : Finset κ :=
  ((keysIn before).toFinset ∩ (keysIn now).toFinset).filter fun k =>
    valueIn now k < valueIn before k

def grownBy (before now : Rat) : Rat := if before ≤ now then now - before else max now 0

/-- A key that a batch and the `n` batches after it have, with values that are not
negative. -/
structure Stretch (batches : List (List (κ × Rat))) (k : κ) (first n : ℕ) : Prop where
  present : ∀ i ≤ n, k ∈ keysIn (batches.getD (first + i) [])
  nonneg : ∀ i ≤ n, 0 ≤ valueIn (batches.getD (first + i) []) k

section Step
variable [Ord κ] [Std.TransOrd κ] [Std.LawfulEqOrd κ]

theorem sums_find (batch : List (κ × Rat)) (k : κ) :
    (sums batch).find? k = if k ∈ keysIn batch then some (valueIn batch k) else none := by
  have hall : batch.filter (fun e => isFinite e.2) = batch := List.filter_true batch
  have hfold := KeyMap.find?_foldl_started Prod.fst (fun _ => (0 : Rat))
    (fun e v => v + e.2) batch k
  rw [sums, hall]
  refine hfold.trans ?_
  cases hown : batch.filter fun e => e.1 = k with
  | nil => rw [if_neg (by rw [keysIn, KeyMap.mem_map_key, hown]; simp)]
  | cons e rest =>
    rw [if_pos (by rw [keysIn, KeyMap.mem_map_key, hown]; simp), valueIn, hown, List.sum_eq_foldl,
      List.foldl_map]

theorem increment_starts_over (before now : Rat) :
    increment? .startOver now before = some (grownBy before now) := by
  have hplain : increment? .startOver now before =
      if before ≤ now then some (now - before) else some (larger now 0) := rfl
  rw [hplain, larger_exact, grownBy, apply_ite some]

variable {t : SumTracker κ Rat} {before : List (κ × Rat)}

/-- What a tracker shows of a key that the batch before had too. -/
theorem step_increment (hpolicy : t.policy = .startOver) (hprevious : t.previous = sums before)
    (now : List (κ × Rat)) (k : κ) (hbefore : k ∈ keysIn before) (hnow : k ∈ keysIn now) :
    (t.step now).2.find? k = some (grownBy (valueIn before k) (valueIn now k)) := by
  have hstep : (t.step now).2 = (sums now).filterMap fun k v =>
      (t.previous.find? k).bind fun before => increment? t.policy v before := rfl
  rw [hstep, KeyMap.find?_filterMap, sums_find, if_pos hnow, hprevious, sums_find, if_pos hbefore,
    hpolicy]
  exact increment_starts_over _ _

/-- A batch adds a reset for each key that decreased. -/
theorem step_resets (hprevious : t.previous = sums before) (now : List (κ × Rat)) :
    (t.step now).1.resets = t.resets + (decreased before now).card := by
  have hstep : (t.step now).1.resets = t.resets + (sums now).toList.countP fun e =>
      (t.previous.find? e.1).any fun v => decide (e.2 < v) := rfl
  rw [hstep, hprevious, KeyMap.countP_card (sums now) _ (decreased before now)]
  intro k
  rw [decreased, Finset.mem_filter, Finset.mem_inter, List.mem_toFinset, List.mem_toFinset]
  simp only [sums_find]
  by_cases hbefore : k ∈ keysIn before <;> by_cases hnow : k ∈ keysIn now <;>
    simp [hbefore, hnow]

end Step

section Run
variable [Ord κ] [Std.TransOrd κ] [Std.LawfulEqOrd κ]

omit [DecidableEq κ] in
theorem policy_after (t : SumTracker κ Rat) (batches : List (List (κ × Rat))) :
    (stateAfter step t batches).policy = t.policy := by
  induction batches generalizing t with
  | nil => rfl
  | cons batch more ih => exact ih (t.step batch).1

omit [DecidableEq κ] in
theorem previous_held (t : SumTracker κ Rat) (ht : t.previous = sums [])
    (batches : List (List (κ × Rat))) (n : ℕ) (h : n ≤ batches.length) :
    (stateAfter step t (batches.take n)).previous = sums (inputBefore [] batches n) :=
  last_input_holds step (fun (t : SumTracker κ Rat) batch => t.previous = sums batch) t [] ht
    (fun _ _ => rfl) batches n h

def incrementAt (batches : List (List (κ × Rat))) (k : κ) (n : ℕ) : Option Rat :=
  (outputs step standard batches)[n]?.bind (KeyMap.find? · k)

theorem increment_of_run (batches : List (List (κ × Rat))) (k : κ) (n : ℕ)
    (hbefore : k ∈ keysIn (batches.getD n [])) (hnow : k ∈ keysIn (batches.getD (n + 1) [])) :
    incrementAt batches k (n + 1) =
      some (grownBy (valueIn (batches.getD n []) k) (valueIn (batches.getD (n + 1) []) k)) := by
  have hlt : n + 1 < batches.length := by
    by_contra hge
    rw [List.getD_eq_default _ _ (not_lt.mp hge)] at hnow
    exact absurd hnow List.not_mem_nil
  have hshown := output_at step standard batches (n + 1) hlt
  rw [incrementAt, hshown, Option.bind_some, List.getD_eq_getElem batches [] hlt]
  rw [List.getD_eq_getElem batches [] hlt] at hnow
  exact step_increment (policy_after standard _) (previous_held standard rfl batches _ hlt.le) _ k
    hbefore hnow

theorem resets_of_run (batches : List (List (κ × Rat))) (n : ℕ) (h : n ≤ batches.length) :
    (stateAfter step standard (batches.take n)).resets =
      ∑ i ∈ Finset.range n, (decreased (inputBefore [] batches i) (batches.getD i [])).card := by
  induction n with
  | zero => rfl
  | succ n ih =>
    rw [state_next step standard batches n h, Finset.sum_range_succ,
      step_resets (previous_held standard rfl batches n (Nat.le_of_lt h)), ih (Nat.le_of_lt h),
      List.getD_eq_getElem batches [] h]

/-- Each step keeps or loses the value that it starts from. -/
theorem grown_telescopes (x : ℕ → Rat) (n : ℕ) (hx : ∀ i ≤ n, 0 ≤ x i) :
    ∑ i ∈ Finset.range n, grownBy (x i) (x (i + 1)) =
      x n - x 0 + ∑ i ∈ Finset.range n with x (i + 1) < x i, x i := by
  induction n with
  | zero => simp
  | succ n ih =>
    rw [Finset.sum_range_succ, ih fun i hi => hx i (Nat.le_succ_of_le hi), Finset.sum_filter,
      Finset.sum_filter, Finset.sum_range_succ, grownBy]
    split
    · rename_i hgrown
      rw [if_neg (not_lt.mpr hgrown)]
      ring
    · rename_i hreset
      rw [if_pos (not_le.mp hreset), max_eq_left (hx (n + 1) le_rfl)]
      ring

/-- Over any batches, a key that stays over a stretch of them with values that are not
negative is shown in each cycle but the first of the stretch. What is shown adds up to the
difference of its last and its first value, and the values from which it decreased. The
resets of the whole run are the cycles and keys in which a value decreased. -/
theorem standard_run (batches : List (List (κ × Rat))) :
    (∀ k first n, Stretch batches k first n →
      ∃ δ : ℕ → Rat, (∀ i < n, incrementAt batches k (first + i + 1) = some (δ i)) ∧
        let x := fun i => valueIn (batches.getD (first + i) []) k
        ∑ i ∈ Finset.range n, δ i =
          x n - x 0 + ∑ i ∈ Finset.range n with x (i + 1) < x i, x i) ∧
      (stateAfter step standard batches).resets =
        ((Finset.range batches.length).sigma fun n =>
          decreased (inputBefore [] batches n) (batches.getD n [])).card := by
  constructor
  · intro k first n h
    refine ⟨_, fun i hi => ?_, grown_telescopes _ n h.nonneg⟩
    exact increment_of_run batches k (first + i) (h.present i hi.le) (h.present (i + 1) hi)
  · rw [Finset.card_sigma, ← resets_of_run batches _ le_rfl, List.take_length]

end Run

def restartedBatches : List (List (String × Rat)) :=
  [[("svc", 100)], [("svc", 150)], [("svc", 4), ("svc", 6)], [("svc", 30)]]

theorem restarted_run :
    Stretch restartedBatches "svc" 0 3 ∧
      (∃ δ : ℕ → Rat,
        (∀ i < 3, incrementAt restartedBatches "svc" (0 + i + 1) = some (δ i)) ∧
        ∑ i ∈ Finset.range 3, δ i = 80) ∧
      (stateAfter step standard restartedBatches).resets = 1 := by
  have hstretch : Stretch restartedBatches "svc" 0 3 := by
    constructor
    · intro i hi
      interval_cases i <;> decide +kernel
    · intro i hi
      interval_cases i <;> decide +kernel
  obtain ⟨hincrements, hresets⟩ := standard_run restartedBatches
  obtain ⟨δ, hshown, hsum⟩ := hincrements "svc" 0 3 hstretch
  exact ⟨hstretch, ⟨δ, hshown, hsum.trans (by decide +kernel)⟩,
    hresets.trans (by decide +kernel)⟩

end SumTracker
end ScrapeTelemetry
