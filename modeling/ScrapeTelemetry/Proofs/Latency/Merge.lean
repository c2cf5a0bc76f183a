import ScrapeTelemetry.Latency.Histogram
import ScrapeTelemetry.Proofs.KeyMap.Order
import ScrapeTelemetry.Proofs.Number.Exact

/-!
# Merged histograms

A merged histogram has the bounds of both, and at each bound the values of both. Its
observations are read off one series, the count or the overflow bucket. Those of both
histograms are all there if one of these series has them all, and not otherwise.
-/

set_option autoImplicit false

namespace ScrapeTelemetry
open Scalar

variable {α : Type} [Scalar α]

namespace Histogram

def bounds (h : Histogram α) : List (UpperBound α) := h.buckets.keys

def valueAt (h : Histogram α) (b : UpperBound α) : α := (h.buckets.find? b).getD 0

def overflowBound? (h : Histogram α) : Option (UpperBound α) :=
  h.bounds.find? fun b => !b.isFinite

structure Whole (h : Histogram α) : Prop where
  buckets : ∀ e ∈ h.buckets.toList, ∃ n : ℕ, e.2 = ofNat n
  count : ∃ n : ℕ, h.count = ofNat n

theorem whole_of_entries {h : Histogram α} (l : List (UpperBound α × ℕ)) (n : ℕ)
    (hbuckets : h.buckets.toList = l.map fun e => (e.1, ofNat e.2))
    (hcount : h.count = ofNat n) : h.Whole := by
  refine ⟨fun e he => ?_, n, hcount⟩
  rw [hbuckets] at he
  obtain ⟨e', -, rfl⟩ := List.mem_map.mp he
  exact ⟨e'.2, rfl⟩

theorem foldl_add_to_bucket (l : List (UpperBound α × α)) (h : Histogram α) :
    l.foldl (fun h e => h.addToBucket e.1 e.2) h =
      { h with buckets := l.foldl (fun m e => m.accumulate e.1 0 (· + e.2)) h.buckets } := by
  induction l generalizing h with
  | nil => rfl
  | cons e l ih => rw [List.foldl_cons, ih, List.foldl_cons]; rfl

theorem merge_eq (a b : Histogram α) :
    a.merge b =
      { buckets := b.buckets.toList.foldl (fun m e => m.accumulate e.1 0 (· + e.2)) a.buckets
        sum := a.sum + b.sum
        count := a.count + b.count } := by
  unfold merge
  rw [foldl_add_to_bucket]
  rfl

theorem merge_bucket [DecidableEq α] (a b : Histogram α) (x : UpperBound α) :
    (a.merge b).buckets.find? x =
      (b.buckets.find? x).elim (a.buckets.find? x) fun w => some (a.valueAt x + w) := by
  rw [merge_eq]
  have hfold := KeyMap.find?_foldl_accumulate Prod.fst (fun _ => (0 : α))
    (fun e v => v + e.2) b.buckets.toList a.buckets x
  rw [KeyMap.filter_key] at hfold
  refine hfold.trans ?_
  cases b.buckets.find? x <;> rfl

theorem mem_bounds (h : Histogram α) (x : UpperBound α) :
    x ∈ h.bounds ↔ (h.buckets.find? x).isSome :=
  KeyMap.mem_keys h.buckets x

theorem find_absent (h : Histogram α) (x : UpperBound α) (hx : x ∉ h.bounds) :
    h.buckets.find? x = none := by
  rwa [mem_bounds, Option.not_isSome_iff_eq_none] at hx

theorem value_absent (h : Histogram α) (x : UpperBound α) (hx : x ∉ h.bounds) :
    h.valueAt x = 0 := by
  rw [valueAt, find_absent h x hx]
  rfl

theorem find_value (h : Histogram α) (x : UpperBound α) (hx : x ∈ h.bounds) :
    h.buckets.find? x = some (h.valueAt x) := by
  obtain ⟨v, hv⟩ := Option.isSome_iff_exists.mp ((mem_bounds h x).mp hx)
  rw [valueAt, hv]
  rfl

theorem value_of_mem (h : Histogram α) {e : UpperBound α × α} (he : e ∈ h.buckets.toList) :
    h.valueAt e.1 = e.2 := by
  rw [valueAt, (KeyMap.mem_toList _ e.1 e.2).mp he]
  rfl

theorem merge_bounds [DecidableEq α] (a b : Histogram α) (x : UpperBound α) :
    x ∈ (a.merge b).bounds ↔ x ∈ a.bounds ∨ x ∈ b.bounds := by
  rw [mem_bounds, mem_bounds, mem_bounds, merge_bucket]
  cases b.buckets.find? x <;> simp

theorem overflow_exists {h : Histogram α} {f : UpperBound α} (hf : f ∈ h.bounds)
    (hfinite : f.isFinite = false) : ∃ g, h.overflowBound? = some g := by
  rw [← Option.isSome_iff_exists, overflowBound?, List.find?_isSome]
  exact ⟨f, hf, by rw [hfinite]; rfl⟩

theorem overflow_value [DecidableEq α] (h : Histogram α) :
    h.overflow? = h.overflowBound?.map h.valueAt := by
  have hkeys : h.overflowBound? = (h.buckets.toList.find? fun e => !e.1.isFinite).map Prod.fst :=
    List.find?_map
  rw [hkeys, overflow?, Option.map_map]
  cases hfound : h.buckets.toList.find? fun e => !e.1.isFinite with
  | none => rfl
  | some e =>
    have hvalue := value_of_mem h (List.mem_of_find?_eq_some hfound)
    simp [hvalue]

theorem observations_exact (h : Histogram Rat) :
    h.observations = h.overflowBound?.elim h.count fun f => max (h.valueAt f) h.count := by
  unfold observations
  rw [overflow_value]
  cases h.overflowBound? with
  | none => rfl
  | some f => exact larger_exact _ _

theorem count_le_observations (h : Histogram Rat) : h.count ≤ h.observations := by
  rw [observations_exact]
  cases h.overflowBound? with
  | none => exact le_rfl
  | some f => exact le_max_right _ _

theorem overflow_le_observations {h : Histogram Rat} {f : UpperBound Rat}
    (hf : h.overflowBound? = some f) : h.valueAt f ≤ h.observations := by
  rw [observations_exact, hf]
  exact le_max_left _ _

theorem value_absent_exact (h : Histogram Rat) (x : UpperBound Rat) (hx : x ∉ h.bounds) :
    h.valueAt x = 0 :=
  value_absent h x hx

theorem merge_value (a b : Histogram Rat) (x : UpperBound Rat) :
    (a.merge b).valueAt x = a.valueAt x + b.valueAt x := by
  by_cases hx : x ∈ b.bounds
  · have hfind : (a.merge b).buckets.find? x = some (a.valueAt x + b.valueAt x) := by
      rw [merge_bucket, find_value b x hx]
      rfl
    rw [valueAt, hfind]
    rfl
  · have hfind : (a.merge b).buckets.find? x = a.buckets.find? x := by
      rw [merge_bucket, find_absent b x hx]
      rfl
    rw [valueAt, hfind, value_absent_exact b x hx, add_zero]
    rfl

theorem merge_count (a b : Histogram Rat) : (a.merge b).count = a.count + b.count := by
  rw [merge_eq]

theorem merge_sum (a b : Histogram Rat) : (a.merge b).sum = a.sum + b.sum := by
  rw [merge_eq]

/-- A histogram is settled by its bounds, what each of them holds, the sum and the count. -/
theorem eq_of_values [DecidableEq α] {a b : Histogram α}
    (hbounds : ∀ x, x ∈ a.bounds ↔ x ∈ b.bounds) (hvalues : ∀ x, a.valueAt x = b.valueAt x)
    (hsum : a.sum = b.sum) (hcount : a.count = b.count) : a = b := by
  have hbuckets : a.buckets = b.buckets := by
    apply KeyMap.eq_of_find
    intro x
    by_cases hx : x ∈ a.bounds
    · rw [find_value a x hx, find_value b x ((hbounds x).mp hx), hvalues]
    · rw [find_absent a x hx, find_absent b x (fun h => hx ((hbounds x).mpr h))]
  calc
    a = ⟨a.buckets, a.sum, a.count⟩ := rfl
    _ = ⟨b.buckets, b.sum, b.count⟩ := by rw [hbuckets, hsum, hcount]

theorem merge_comm (a b : Histogram Rat) : a.merge b = b.merge a := by
  apply eq_of_values
  · intro x
    rw [merge_bounds, merge_bounds, or_comm]
  · intro x
    rw [merge_value, merge_value, add_comm]
  · rw [merge_sum, merge_sum, add_comm]
  · rw [merge_count, merge_count, add_comm]

/-- Two histograms can be merged into a third in either order, whatever bounds they have. -/
theorem merge_right_comm (a b c : Histogram Rat) :
    (a.merge b).merge c = (a.merge c).merge b := by
  apply eq_of_values
  · intro x
    rw [merge_bounds, merge_bounds, merge_bounds, merge_bounds, or_right_comm]
  · intro x
    rw [merge_value, merge_value, merge_value, merge_value, add_right_comm]
  · rw [merge_sum, merge_sum, merge_sum, merge_sum, add_right_comm]
  · rw [merge_count, merge_count, merge_count, merge_count, add_right_comm]

theorem Whole.count_nonneg {h : Histogram Rat} (hw : h.Whole) : 0 ≤ h.count := by
  obtain ⟨n, hn⟩ := hw.count
  rw [hn]
  exact Nat.cast_nonneg n

theorem Whole.value {h : Histogram Rat} (hw : h.Whole) (x : UpperBound Rat) :
    ∃ n : ℕ, h.valueAt x = n := by
  by_cases hx : x ∈ h.bounds
  · exact hw.buckets _ ((KeyMap.mem_toList _ _ _).mpr (find_value h x hx))
  · exact ⟨0, (value_absent_exact h x hx).trans Nat.cast_zero.symm⟩

theorem Whole.value_nonneg {h : Histogram Rat} (hw : h.Whole) (x : UpperBound Rat) :
    0 ≤ h.valueAt x := by
  obtain ⟨n, hn⟩ := hw.value x
  rw [hn]
  exact Nat.cast_nonneg n

/-- A bound that is not finite and above no other such bound is the overflow bound, if the
histogram has it. -/
theorem value_le_observations_of_least {h : Histogram Rat} (hw : h.Whole)
    (f : UpperBound Rat) (hf : f.isFinite = false)
    (hleast : ∀ g ∈ h.bounds, g.isFinite = false → f = g ∨ compare f g = .lt) :
    h.valueAt f ≤ h.observations := by
  by_cases hx : f ∈ h.bounds
  · obtain ⟨g, hg⟩ := overflow_exists hx hf
    have hfg : f = g := by
      have hgfinite : g.isFinite = false := by simpa using List.find?_some hg
      have hgf := KeyMap.find_key_least h.buckets _ g f hg hx (by rw [hf]; rfl)
      rcases hleast g (List.mem_of_find?_eq_some hg) hgfinite with hfg | hfg
      · exact hfg
      · rcases hgf with hgf | hgf
        · exact hgf.symm
        · exact absurd hgf (KeyMap.not_below_of_below hfg)
    rw [hfg]
    exact overflow_le_observations hg
  · rw [value_absent_exact h f hx]
    exact hw.count_nonneg.trans (count_le_observations h)

theorem merge_overflow_least {a b : Histogram Rat} {f : UpperBound Rat}
    (hf : (a.merge b).overflowBound? = some f) :
    f.isFinite = false ∧ ∀ g, g ∈ a.bounds ∨ g ∈ b.bounds → g.isFinite = false →
      f = g ∨ compare f g = .lt := by
  refine ⟨by simpa using List.find?_some hf, fun g hg hfinite => ?_⟩
  exact KeyMap.find_key_least (a.merge b).buckets _ f g hf ((merge_bounds a b g).mpr hg)
    (by rw [hfinite]; rfl)

theorem max_sum_eq_iff {a a' A b b' B : Rat} (ha : a ≤ A) (ha' : a' ≤ A) (hb : b ≤ B)
    (hb' : b' ≤ B) :
    max (a + b) (a' + b') = A + B ↔ (a' = A ∧ b' = B) ∨ (a = A ∧ b = B) := by
  constructor
  · intro h
    rcases max_choice (a + b) (a' + b') with hmax | hmax
    · rw [hmax] at h
      exact .inr ⟨by linarith, by linarith⟩
    · rw [hmax] at h
      exact .inl ⟨by linarith, by linarith⟩
  · rintro (⟨rfl, rfl⟩ | ⟨rfl, rfl⟩)
    · exact max_eq_right (add_le_add ha hb)
    · exact max_eq_left (add_le_add ha' hb')

/-- Merging counts no observation twice, and it loses none exactly if one and the same
series, the count or the overflow bucket, has all observations of both histograms. -/
theorem observations_merge_iff (a b : Histogram Rat) (ha : a.Whole) (hb : b.Whole) :
    (a.merge b).observations ≤ a.observations + b.observations ∧
      ((a.merge b).observations = a.observations + b.observations ↔
        (a.count = a.observations ∧ b.count = b.observations) ∨
          ∃ f, (a.merge b).overflowBound? = some f ∧
            a.valueAt f = a.observations ∧ b.valueAt f = b.observations) := by
  have hca := count_le_observations a
  have hcb := count_le_observations b
  cases hf : (a.merge b).overflowBound? with
  | none =>
    have hobs : (a.merge b).observations = a.count + b.count := by
      rw [observations_exact, hf, Option.elim_none, merge_count]
    rw [hobs]
    refine ⟨add_le_add hca hcb, ?_⟩
    constructor
    · intro h
      exact .inl ⟨by linarith, by linarith⟩
    · rintro (⟨h, h'⟩ | ⟨f, hnone, -⟩)
      · rw [h, h']
      · cases hnone
  | some f =>
    obtain ⟨hfinite, hleast⟩ := merge_overflow_least hf
    have hva := value_le_observations_of_least ha f hfinite fun g hg => hleast g (.inl hg)
    have hvb := value_le_observations_of_least hb f hfinite fun g hg => hleast g (.inr hg)
    have hobs : (a.merge b).observations =
        max (a.valueAt f + b.valueAt f) (a.count + b.count) := by
      rw [observations_exact, hf, Option.elim_some, merge_value, merge_count]
    -- each of the two sums is at most the sum of both parts; one of them has to reach it
    rw [hobs, max_sum_eq_iff hva hca hvb hcb]
    refine ⟨max_le (add_le_add hva hvb) (add_le_add hca hcb), or_congr_right ?_⟩
    constructor
    · intro h
      exact ⟨f, rfl, h⟩
    · rintro ⟨g, hg, h⟩
      cases hg
      exact h

def reportedTwice : Histogram Rat :=
  ((empty.addToBucket (.finite 10) 2).addToBucket .posInf 2).addToCount 2

def reportedByCount : Histogram Rat := (empty.addToBucket (.finite 10) 2).addToCount 5

theorem observations_merge_by_count :
    reportedTwice.Whole ∧ reportedByCount.Whole ∧
      (reportedTwice.merge reportedByCount).observations = 7 ∧
      (reportedTwice.merge reportedByCount).observations ≤
          reportedTwice.observations + reportedByCount.observations ∧
        ((reportedTwice.merge reportedByCount).observations =
            reportedTwice.observations + reportedByCount.observations ↔
          (reportedTwice.count = reportedTwice.observations ∧
              reportedByCount.count = reportedByCount.observations) ∨
            ∃ f, (reportedTwice.merge reportedByCount).overflowBound? = some f ∧
              reportedTwice.valueAt f = reportedTwice.observations ∧
              reportedByCount.valueAt f = reportedByCount.observations) := by
  have hwt : reportedTwice.Whole :=
    whole_of_entries [(.finite 10, 2), (.posInf, 2)] 2 (by decide +kernel) (by decide +kernel)
  have hwc : reportedByCount.Whole :=
    whole_of_entries [(.finite 10, 2)] 5 (by decide +kernel) (by decide +kernel)
  exact ⟨hwt, hwc, by decide +kernel, observations_merge_iff _ _ hwt hwc⟩

def overflowOnly : Histogram Float := empty.addToBucket .posInf 5

def countOnly : Histogram Float := empty.addToCount 3

/-- Where one histogram has only the overflow bucket and the other only the count, the
observations of one are lost. -/
theorem observations_lost :
    ¬ ∀ a b : Histogram Float, a.Whole → b.Whole →
      same (a.merge b).observations (a.observations + b.observations) = true := by
  intro h
  have hwo : overflowOnly.Whole :=
    whole_of_entries [(.posInf, 5)] 0 (by decide +kernel) (by decide +kernel)
  have hwc : countOnly.Whole := whole_of_entries [] 3 (by decide +kernel) (by decide +kernel)
  exact absurd (h overflowOnly countOnly hwo hwc) (by decide +kernel)

end Histogram
end ScrapeTelemetry
