import ScrapeTelemetry.Proofs.Latency.Merge
import ScrapeTelemetry.Proofs.Latency.Quantile

/-!
# Counts that cumulative values hold

Where no bucket has less than one below it, the count of each bucket is its step from
the bucket before, rounded to what a count can hold. Steps follow their values: those
of differences are the differences of the steps.
-/

set_option autoImplicit false

namespace ScrapeTelemetry
open Scalar

variable {κ : Type}

def stepsFrom (before : Rat) : List Rat → List Rat
  | [] => []
  | v :: values => (v - before) :: stepsFrom v values

theorem steps_concat (before : Rat) (values : List Rat) (v : Rat) :
    stepsFrom before (values ++ [v]) =
      stepsFrom before values ++ [v - values.getLastD before] := by
  induction values generalizing before with
  | nil => rfl
  | cons w values ih =>
    rw [List.cons_append, stepsFrom, ih, stepsFrom, List.cons_append, List.getLastD_cons]

theorem steps_sub (keys : List κ) (u v : κ → Rat) (p q : Rat) :
    stepsFrom (q - p) (keys.map fun k => v k - u k) =
      List.zipWith (· - ·) (stepsFrom q (keys.map v)) (stepsFrom p (keys.map u)) := by
  induction keys generalizing p q with
  | nil => rfl
  | cons k keys ih =>
    have hstep : v k - u k - (q - p) = v k - q - (u k - p) := by ring
    rw [List.map_cons, List.map_cons, List.map_cons, stepsFrom, stepsFrom, stepsFrom,
      List.zipWith_cons_cons, ih, hstep]

/-- Values that grow by no less at each key are no smaller. -/
theorem le_of_steps_le (keys : List κ) (u v : κ → Rat) (p q : Rat) (hpq : p ≤ q)
    (h : List.Forall₂ (· ≤ ·) (stepsFrom p (keys.map u)) (stepsFrom q (keys.map v))) :
    ∀ k ∈ keys, u k ≤ v k := by
  induction keys generalizing p q with
  | nil => exact fun k hk => absurd hk List.not_mem_nil
  | cons k keys ih =>
    obtain ⟨hstep, hrest⟩ := List.forall₂_cons.mp h
    have hk : u k ≤ v k := by linarith
    intro j hj
    rcases List.mem_cons.mp hj with rfl | hj
    · exact hk
    · exact ih (u k) (v k) hk hrest j hj

theorem ascending_of_steps (before : Rat) (values : List Rat)
    (h : ∀ s ∈ stepsFrom before values, 0 ≤ s) : AscendingFrom before values := by
  induction values generalizing before with
  | nil => exact List.pairwise_singleton _ _
  | cons v values ih =>
    have hv : before ≤ v := sub_nonneg.mp (h _ List.mem_cons_self)
    have hrest : AscendingFrom v values := ih v fun s hs => h s (List.mem_cons_of_mem _ hs)
    refine List.pairwise_cons.mpr ⟨fun w hw => ?_, hrest⟩
    rcases List.mem_cons.mp hw with rfl | hw
    · exact hv
    · exact hv.trans ((List.pairwise_cons.mp hrest).1 w hw)

/-- Whole values that ascend have whole steps. -/
theorem whole_steps (before : Rat) (values : List Rat) (hbefore : ∃ n : ℕ, before = n)
    (hvalues : ∀ v ∈ values, ∃ n : ℕ, v = n) (hasc : AscendingFrom before values) :
    ∀ s ∈ stepsFrom before values, ∃ n : ℕ, s = n := by
  induction values generalizing before with
  | nil => exact fun s hs => absurd hs List.not_mem_nil
  | cons v values ih =>
    obtain ⟨m, rfl⟩ := hbefore
    obtain ⟨n, rfl⟩ := hvalues v List.mem_cons_self
    intro s hs
    rcases List.mem_cons.mp hs with rfl | hs
    · exact ⟨n - m, by rw [Nat.cast_sub (Nat.cast_le.mp hasc.step)]⟩
    · exact ih n ⟨n, rfl⟩ (fun w hw => hvalues w (List.mem_cons_of_mem _ hw)) hasc.rest s hs

/-- The running maximum of values that ascend is the last of them. -/
theorem counts_between (before : Rat) (values : List Rat) (h : AscendingFrom before values) :
    countsBetween before values =
      ((stepsFrom before values).map nearestCount, values.getLastD before) := by
  induction values generalizing before with
  | nil => rfl
  | cons v values ih =>
    have hv : before ≤ v := h.step
    have htop : larger before v = v := (larger_exact before v).trans (max_eq_right hv)
    rw [countsBetween, htop, ih v h.rest, stepsFrom, List.map_cons, List.getLastD_cons]

theorem finite_of_some {b : UpperBound Rat} {x : Rat} (h : b.finite? = some x) :
    b = .finite x := by
  cases b with
  | finite y => exact congrArg _ (Option.some.inj h)
  | negInf | posInf | undefined => cases h

theorem finite_below_overflow {b : UpperBound Rat} (h : b.isFinite = true) :
    compare b .posInf = .lt := by
  cases b with
  | finite x => rfl
  | negInf | posInf | undefined => exact Bool.noConfusion h

namespace Histogram

def steps (h : Histogram Rat) : List Rat := stepsFrom 0 (h.bounds.map h.valueAt)

/-- Whole values that ascend over finite bounds to a last bucket, which has all
observations. -/
structure Cumulative (h : Histogram Rat) : Prop where
  whole : h.Whole
  ascending : h.buckets.toList.Pairwise fun a b => a.2 ≤ b.2
  layout : ∀ b ∈ h.bounds, b.isFinite = true ∨ b = .posInf
  overflow : h.buckets.find? .posInf = some h.count

theorem values_eq (h : Histogram Rat) :
    h.bounds.map h.valueAt = h.buckets.toList.map Prod.snd := by
  have hbounds : h.bounds = h.buckets.toList.map Prod.fst := rfl
  rw [hbounds, List.map_map]
  exact List.map_congr_left fun e he => value_of_mem h he

theorem spread_bounds (h : Histogram Rat) :
    h.spread.bounds = h.bounds.filterMap UpperBound.finite? := by
  have hbounds : h.bounds = h.buckets.toList.map Prod.fst := rfl
  have hspread : h.spread.bounds = h.finiteBuckets.map Prod.fst := rfl
  rw [hbounds, hspread, finiteBuckets, List.map_filterMap, List.filterMap_map]
  congr 1
  funext e
  rw [Option.map_map]
  exact Option.map_id'

/-- The bounds of the counts are the finite ones. -/
theorem finite_bounds (h : Histogram Rat) :
    h.spread.bounds.map .finite = h.bounds.filter UpperBound.isFinite := by
  rw [spread_bounds, List.map_filterMap, ← List.filterMap_eq_filter]
  congr 1
  funext b
  cases b <;> rfl

theorem finite_values (h : Histogram Rat) :
    h.finiteBuckets.map Prod.snd = h.spread.bounds.map fun b => h.valueAt (.finite b) := by
  have hspread : h.spread.bounds = h.finiteBuckets.map Prod.fst := rfl
  rw [hspread, List.map_map]
  apply List.map_congr_left
  intro e he
  obtain ⟨⟨b, v⟩, hb, hfinite⟩ := List.mem_filterMap.mp he
  obtain ⟨x, hx, rfl⟩ := Option.map_eq_some_iff.mp hfinite
  have hvalue := value_of_mem h hb
  rw [finite_of_some hx] at hvalue
  exact hvalue.symm

namespace Cumulative

variable {h : Histogram Rat}

theorem mem_overflow (hc : h.Cumulative) : .posInf ∈ h.bounds := by
  rw [mem_bounds, hc.overflow]
  rfl

theorem overflow_value (hc : h.Cumulative) : h.valueAt .posInf = h.count := by
  rw [valueAt, hc.overflow]
  rfl

/-- The finite bounds, then the overflow bound. -/
theorem bounds_eq (hc : h.Cumulative) :
    h.bounds = h.spread.bounds.map .finite ++ [.posInf] := by
  have hasc := KeyMap.keys_ascending h.buckets
  rw [finite_bounds]
  apply KeyMap.ascending_eq_of_mem (fun b => b) hasc
  · refine List.pairwise_append.mpr ⟨hasc.filter _, List.pairwise_singleton _ _, ?_⟩
    intro b hb c hc
    rw [List.mem_singleton.mp hc]
    exact finite_below_overflow (List.mem_filter.mp hb).2
  · intro b
    rw [List.mem_append, List.mem_filter, List.mem_singleton]
    constructor
    · exact fun hb => (hc.layout b hb).imp_left fun hfinite => ⟨hb, hfinite⟩
    · rintro (hb | rfl)
      · exact hb.1
      · exact hc.mem_overflow

theorem observations_eq (hc : h.Cumulative) : h.observations = h.count := by
  have hfinite : (h.spread.bounds.map UpperBound.finite).find? (fun b => !b.isFinite) = none := by
    rw [List.find?_eq_none]
    intro b hb
    obtain ⟨x, -, rfl⟩ := List.mem_map.mp hb
    exact Bool.false_ne_true
  have hoverflow : h.overflowBound? = some .posInf := by
    rw [overflowBound?, hc.bounds_eq, List.find?_append, hfinite]
    rfl
  rw [observations_exact, hoverflow, Option.elim_some, hc.overflow_value, max_self]

theorem values_ascending (hc : h.Cumulative) : AscendingFrom 0 (h.bounds.map h.valueAt) := by
  refine List.pairwise_cons.mpr ⟨fun v hv => ?_, ?_⟩
  · obtain ⟨b, -, rfl⟩ := List.mem_map.mp hv
    exact hc.whole.value_nonneg b
  · rw [values_eq]
    exact List.pairwise_map.mpr hc.ascending

theorem steps_whole (hc : h.Cumulative) : ∀ s ∈ h.steps, ∃ n : ℕ, s = n := by
  apply whole_steps 0 _ ⟨0, Nat.cast_zero.symm⟩ _ hc.values_ascending
  intro v hv
  obtain ⟨b, -, rfl⟩ := List.mem_map.mp hv
  exact hc.whole.value b

/-- The counts are the steps, each as far as a count reaches. -/
theorem spread_counts (hc : h.Cumulative) : h.spread.counts = h.steps.map nearestCount := by
  have hvalues : h.bounds.map h.valueAt = h.finiteBuckets.map Prod.snd ++ [h.count] := by
    rw [hc.bounds_eq, List.map_append, List.map_map, finite_values, List.map_singleton,
      hc.overflow_value]
    rfl
  have hasc := hc.values_ascending
  rw [hvalues] at hasc
  have hfinite : AscendingFrom 0 (h.finiteBuckets.map Prod.snd) :=
    List.Pairwise.sublist (List.sublist_append_left (0 :: _) [h.count]) hasc
  have hcounts : h.spread.counts =
      (countsBetween 0 (h.finiteBuckets.map Prod.snd)).1 ++ [nearestCount (h.observations -
        (countsBetween 0 (h.finiteBuckets.map Prod.snd)).2)] := rfl
  -- the last count is a step too, since the overflow bucket has all observations
  rw [hcounts, counts_between _ _ hfinite, steps, hvalues, steps_concat, List.map_append,
    hc.observations_eq]
  rfl

end Cumulative
end Histogram
end ScrapeTelemetry
