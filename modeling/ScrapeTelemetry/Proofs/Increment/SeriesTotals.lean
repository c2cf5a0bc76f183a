import ScrapeTelemetry.Increment.HistogramLedger
import ScrapeTelemetry.Proofs.KeyMap.Folds

/-!
# The series of a histogram

A bucket, the sum and the count are read alike, as series that are there or not.
Between two cycles each of them grows or does not, whatever the others do.
-/

set_option autoImplicit false

namespace ScrapeTelemetry
open Scalar

variable {α : Type} [Scalar α]

def grown? (before now : Option α) : Option α :=
  match before, now with
  | some b, some v => if b ≤ v then some (zeroUnlessFinite (v - b)) else none
  | _, _ => none

def keptAmount? : Outcome α → Option α
  | .firstSeen => none
  | .reset => some 0
  | .increment v => some v

theorem grown_absent (before : Option α) : grown? before none = none := by
  cases before <;> rfl

theorem outcome_grown (before : Option α) (v : α) :
    (Outcome.of before v).increment? = grown? before (some v) := by
  cases before with
  | none => rfl
  | some b => by_cases h : b ≤ v <;> simp [Outcome.of, increment?, Outcome.increment?, grown?, h]

theorem kept_amount (before : Option α) (v : α) :
    keptAmount? (.of before v) = before.map fun b => (grown? (some b) (some v)).getD 0 := by
  cases before with
  | none => rfl
  | some b => by_cases h : b ≤ v <;> simp [Outcome.of, increment?, keptAmount?, grown?, h]

namespace HistogramTotals

def series (c : HistogramTotals α) : SeriesRole α → Option α
  | .bucket b => c.buckets.find? b
  | .sum => c.sum
  | .count => c.count

theorem total_outcome_grown (before now : Option α) :
    (totalOutcome before now).bind Outcome.increment? = grown? before now := by
  cases before <;> cases now <;> simp [totalOutcome, grown?, outcome_grown]

def addOutcome (h : Histogram α) (e : UpperBound α × Outcome α) : Histogram α :=
  match e.2 with
  | .firstSeen => h
  | .reset => h.addToBucket e.1 0
  | .increment v => h.addToBucket e.1 v

theorem foldl_add_outcome (l : List (UpperBound α × Outcome α)) (h : Histogram α) :
    l.foldl addOutcome h =
      { h with
        buckets := (l.filterMap fun e => (keptAmount? e.2).map fun v => (e.1, v)).foldl
          (fun m e => m.accumulate e.1 0 (· + e.2)) h.buckets } := by
  induction l generalizing h with
  | nil => rfl
  | cons e l ih =>
    obtain ⟨b, o⟩ := e
    rw [List.foldl_cons, ih]
    cases o <;> simp [addOutcome, keptAmount?, Histogram.addToBucket]

theorem increments_eq (before now : HistogramTotals α) :
    increments before now =
      { buckets := ((bucketOutcomes before now).foldl addOutcome .empty).buckets
        sum := (grown? before.sum now.sum).elim 0 (0 + ·)
        count := (grown? before.count now.count).elim 0 (0 + ·) } := by
  have hsum : ((bucketOutcomes before now).foldl addOutcome .empty).sum = 0 := by
    rw [foldl_add_outcome]
    rfl
  have hcount : ((bucketOutcomes before now).foldl addOutcome .empty).count = 0 := by
    rw [foldl_add_outcome]
    rfl
  calc increments before now =
      { buckets := ((bucketOutcomes before now).foldl addOutcome .empty).buckets
        sum := (grown? before.sum now.sum).elim
          ((bucketOutcomes before now).foldl addOutcome .empty).sum
          (((bucketOutcomes before now).foldl addOutcome .empty).sum + ·)
        count := (grown? before.count now.count).elim
          ((bucketOutcomes before now).foldl addOutcome .empty).count
          (((bucketOutcomes before now).foldl addOutcome .empty).count + ·) } := by
        unfold increments
        rw [total_outcome_grown, total_outcome_grown]
        cases grown? before.sum now.sum <;> cases grown? before.count now.count <;> rfl
    _ = _ := by rw [hsum, hcount]

/-- What the buckets of one bound keep: nothing if a cycle is without it. -/
theorem kept_bucket [DecidableEq α] (before now : HistogramTotals α) (b : UpperBound α) :
    (((bucketOutcomes before now).filterMap fun e =>
        (keptAmount? e.2).map fun v => (e.1, v)).filter fun e => e.1 = b) =
      ((now.buckets.find? b).bind fun v =>
        (keptAmount? (.of (before.buckets.find? b) v)).map fun d => (b, d)).toList := by
  rw [bucketOutcomes, List.filterMap_map]
  apply KeyMap.filter_made_key now.buckets Prod.fst
  intro e s hs
  obtain ⟨d, -, rfl⟩ := Option.map_eq_some_iff.mp hs
  rfl

theorem increments_bucket [DecidableEq α] (before now : HistogramTotals α)
    (b : UpperBound α) :
    (increments before now).buckets.find? b =
      (before.series (.bucket b)).bind fun x => (now.series (.bucket b)).map fun v =>
        0 + (grown? (some x) (some v)).getD 0 := by
  have hfind := KeyMap.find?_foldl_accumulate Prod.fst (fun _ => (0 : α)) (fun e x => x + e.2)
    ((bucketOutcomes before now).filterMap fun e => (keptAmount? e.2).map fun v => (e.1, v))
    .empty b
  rw [kept_bucket] at hfind
  rw [increments_eq, foldl_add_outcome]
  refine hfind.trans ?_
  simp only [series]
  cases now.buckets.find? b with
  | none => cases before.buckets.find? b <;> rfl
  | some v =>
    rw [Option.bind_some, kept_amount]
    cases before.buckets.find? b <;> rfl

theorem produces_iff (before now : HistogramTotals α) :
    produces before now = true ↔ ∃ r, (grown? (before.series r) (now.series r)).isSome := by
  have htotal (x y : Option α) :
      (∃ o ∈ totalOutcome x y, o.increment?.isSome) ↔ (grown? x y).isSome := by
    rw [← total_outcome_grown]
    cases totalOutcome x y <;> simp
  have hbucket : (∃ e ∈ bucketOutcomes before now, e.2.increment?.isSome) ↔
      ∃ b, (grown? (before.series (.bucket b)) (now.series (.bucket b))).isSome := by
    simp only [bucketOutcomes, List.mem_map, series]
    constructor
    · rintro ⟨-, ⟨⟨b, v⟩, he, rfl⟩, h⟩
      refine ⟨b, ?_⟩
      rw [(KeyMap.mem_toList _ _ _).mp he, ← outcome_grown]
      exact h
    · rintro ⟨b, h⟩
      cases hv : now.buckets.find? b with
      | none => simp [hv, grown_absent] at h
      | some v =>
        rw [hv, ← outcome_grown] at h
        exact ⟨_, ⟨(b, v), (KeyMap.mem_toList _ _ _).mpr hv, rfl⟩, h⟩
  have hproduces : produces before now = true ↔
      ((∃ e ∈ bucketOutcomes before now, e.2.increment?.isSome) ∨
        ∃ o ∈ totalOutcome before.sum now.sum, o.increment?.isSome) ∨
      ∃ o ∈ totalOutcome before.count now.count, o.increment?.isSome := by
    simp only [produces, outcomes, List.any_append, List.any_map, Bool.or_eq_true,
      List.any_eq_true, Option.mem_toList]
    rfl
  rw [hproduces, hbucket, htotal, htotal]
  constructor
  · rintro ((⟨b, h⟩ | h) | h)
    · exact ⟨.bucket b, h⟩
    · exact ⟨.sum, h⟩
    · exact ⟨.count, h⟩
  · rintro ⟨r, h⟩
    cases r with
    | bucket b => exact .inl (.inl ⟨b, h⟩)
    | sum => exact .inl (.inr h)
    | count => exact .inr h

theorem series_add [DecidableEq α] (c : HistogramTotals α) (p r : SeriesRole α) (v : α) :
    (c.add p v).series r = if r = p then some ((c.series r).getD 0 + v) else c.series r := by
  cases p with
  | bucket b =>
    cases r with
    | bucket j =>
      by_cases hj : j = b <;> simp [add, series, KeyMap.find?_accumulate, hj]
    | sum => simp [add, series]
    | count => simp [add, series]
  | sum => cases r <;> simp [add, series]
  | count => cases r <;> simp [add, series]

/-- A series is made of the values of its own samples, in their order. -/
theorem series_foldl {μ : Type} [DecidableEq α] (l : List (SeriesContribution μ α))
    (c : HistogramTotals α) (r : SeriesRole α) :
    (l.foldl (fun c s => c.add s.part s.value) c).series r =
      (l.filter fun s => s.part = r).foldl (fun o s => some (o.getD 0 + s.value))
        (c.series r) := by
  induction l generalizing c with
  | nil => rfl
  | cons s l ih =>
    rw [List.foldl_cons, ih, series_add]
    by_cases hr : s.part = r
    · simp [hr]
    · simp [hr, Ne.symm hr]

end HistogramTotals
end ScrapeTelemetry
