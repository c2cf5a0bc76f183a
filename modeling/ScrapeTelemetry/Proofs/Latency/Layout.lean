import ScrapeTelemetry.Proofs.Latency.Merge

/-!
# Layouts that merge

A bucket counts every observation at or below its bound, so its value is at least that
of every bucket below it. A merged histogram keeps this only if a bound that one of the
histograms lacks lies below all bounds that it has: above one of them, the observations
of that histogram are missing.
-/

set_option autoImplicit false

namespace ScrapeTelemetry
namespace Histogram

structure WellFormed {α : Type} [Scalar α] (h : Histogram α) : Prop where
  ascending : h.buckets.toList.Pairwise fun a b => a.2 ≤ b.2
  counted : ∀ e ∈ h.buckets.toList, e.2 ≤ h.observations

/-- A bound that only one of two layouts has lies below all bounds of the other, and only
the highest bound may be infinite. -/
structure Mergeable (l m : List (UpperBound Rat)) : Prop where
  left : ∀ x ∈ l, ∀ y ∈ m, y ∉ l → compare x y ≠ .lt
  right : ∀ x ∈ m, ∀ y ∈ l, y ∉ m → compare x y ≠ .lt
  top : ∀ x ∈ l ++ m, ∀ y ∈ l ++ m, compare x y = .lt → x.isFinite = true

theorem ascending_iff (h : Histogram Rat) :
    (h.buckets.toList.Pairwise fun a b => a.2 ≤ b.2) ↔
      ∀ x ∈ h.bounds, ∀ y ∈ h.bounds, compare x y = .lt → h.valueAt x ≤ h.valueAt y := by
  rw [KeyMap.pairwise_values]
  constructor
  · intro hle x hx y hy
    exact hle x _ y _ (find_value h x hx) (find_value h y hy)
  · intro hle x v y w hv hw hlt
    have hx : x ∈ h.bounds := (mem_bounds h x).mpr (by rw [hv]; rfl)
    have hy : y ∈ h.bounds := (mem_bounds h y).mpr (by rw [hw]; rfl)
    have hvalues := hle x hx y hy hlt
    rwa [valueAt, valueAt, hv, hw] at hvalues

theorem counted_iff (h : Histogram Rat) (c : Rat) :
    (∀ e ∈ h.buckets.toList, e.2 ≤ c) ↔ ∀ x ∈ h.bounds, h.valueAt x ≤ c := by
  constructor
  · intro hle x hx
    exact hle _ ((KeyMap.mem_toList _ _ _).mpr (find_value h x hx))
  · intro hle e he
    rw [← value_of_mem h he]
    exact hle e.1 (List.mem_map_of_mem he)

theorem WellFormed.value_mono {h : Histogram Rat} (hf : h.WellFormed) (hw : h.Whole)
    {x y : UpperBound Rat} (hlt : compare x y = .lt) (hkept : x ∈ h.bounds → y ∈ h.bounds) :
    h.valueAt x ≤ h.valueAt y := by
  by_cases hx : x ∈ h.bounds
  · exact (ascending_iff h).mp hf.ascending x hx y (hkept hx) hlt
  · rw [value_absent_exact h x hx]
    exact hw.value_nonneg y

theorem WellFormed.value_le_observations {h : Histogram Rat} (hf : h.WellFormed)
    (hw : h.Whole) (x : UpperBound Rat) : h.valueAt x ≤ h.observations := by
  by_cases hx : x ∈ h.bounds
  · exact (counted_iff h _).mp hf.counted x hx
  · rw [value_absent_exact h x hx]
    exact hw.count_nonneg.trans (count_le_observations h)

section Merging

variable {a b : Histogram Rat}

/-- Where neither histogram lacks a bound above one that it has, both grow. -/
theorem merge_ascending (hwa : a.Whole) (hwb : b.Whole) (hfa : a.WellFormed)
    (hfb : b.WellFormed)
    (hleft : ∀ x ∈ a.bounds, ∀ y ∈ b.bounds, y ∉ a.bounds → compare x y ≠ .lt)
    (hright : ∀ x ∈ b.bounds, ∀ y ∈ a.bounds, y ∉ b.bounds → compare x y ≠ .lt) :
    (a.merge b).buckets.toList.Pairwise fun e e' => e.2 ≤ e'.2 := by
  rw [ascending_iff]
  intro x hx y hy hlt
  rw [merge_bounds] at hy
  rw [merge_value, merge_value]
  apply add_le_add
  · apply hfa.value_mono hwa hlt
    intro hxa
    by_contra hya
    exact hleft x hxa y (hy.resolve_left hya) hya hlt
  · apply hfb.value_mono hwb hlt
    intro hxb
    by_contra hyb
    exact hright x hxb y (hy.resolve_right hyb) hyb hlt

theorem overflow_none_iff (h : Histogram Rat) :
    h.overflowBound? = none ↔ ∀ x ∈ h.bounds, x.isFinite = true := by
  simp [overflowBound?, List.find?_eq_none]

theorem observations_finite {h : Histogram Rat} (hfinite : ∀ x ∈ h.bounds, x.isFinite = true) :
    h.observations = h.count := by
  rw [observations_exact, (overflow_none_iff h).mpr hfinite, Option.elim_none]

theorem merge_counted (hwa : a.Whole) (hwb : b.Whole) (hfa : a.WellFormed)
    (hfb : b.WellFormed)
    (hasc : (a.merge b).buckets.toList.Pairwise fun e e' => e.2 ≤ e'.2)
    (htop : ∀ x ∈ (a.merge b).bounds, ∀ y ∈ (a.merge b).bounds, compare x y = .lt →
      x.isFinite = true) :
    ∀ e ∈ (a.merge b).buckets.toList, e.2 ≤ (a.merge b).observations := by
  rw [counted_iff]
  intro x hx
  cases hf : (a.merge b).overflowBound? with
  | none =>
    have hfinite := (overflow_none_iff (a.merge b)).mp hf
    have hva := hfa.value_le_observations hwa x
    have hvb := hfb.value_le_observations hwb x
    rw [observations_finite fun y hy => hfinite y ((merge_bounds a b y).mpr (.inl hy))] at hva
    rw [observations_finite fun y hy => hfinite y ((merge_bounds a b y).mpr (.inr hy))] at hvb
    rw [observations_finite hfinite, merge_value, merge_count]
    exact add_le_add hva hvb
  | some f =>
    have hfx : f ∈ (a.merge b).bounds := List.mem_of_find?_eq_some hf
    have hle : (a.merge b).valueAt x ≤ (a.merge b).valueAt f := by
      rcases KeyMap.below_or_eq_or_above x f with hlt | rfl | hgt
      · exact (ascending_iff _).mp hasc x hx f hfx hlt
      · exact le_rfl
      · have hfinite := htop f hfx x hx hgt
        rw [(merge_overflow_least hf).1] at hfinite
        exact Bool.noConfusion hfinite
    exact hle.trans (overflow_le_observations hf)

/-- A histogram without buckets adds to the count alone. -/
theorem merge_without_buckets (hwb : b.Whole) (hempty : b.bounds = []) (hfa : a.WellFormed) :
    (a.merge b).WellFormed := by
  have hbuckets : (a.merge b).buckets = a.buckets := by
    apply KeyMap.eq_of_find
    intro x
    rw [merge_bucket, find_absent b x (by rw [hempty]; exact List.not_mem_nil)]
    rfl
  have hcount : a.count ≤ (a.merge b).count := by
    rw [merge_count]
    exact le_add_of_nonneg_right hwb.count_nonneg
  have hobs : a.observations ≤ (a.merge b).observations := by
    have hbound : (a.merge b).overflowBound? = a.overflowBound? := by
      unfold overflowBound? bounds
      rw [hbuckets]
    rw [observations_exact, observations_exact, hbound]
    cases a.overflowBound? with
    | none => exact hcount
    | some f =>
      have hvalue : (a.merge b).valueAt f = a.valueAt f := by
        unfold valueAt
        rw [hbuckets]
      rw [Option.elim_some, Option.elim_some, hvalue]
      exact max_le_max le_rfl hcount
  constructor
  · rw [hbuckets]
    exact hfa.ascending
  · rw [hbuckets]
    exact fun e he => (hfa.counted e he).trans hobs

theorem merge_mergeable (hwa : a.Whole) (hwb : b.Whole) (hfa : a.WellFormed)
    (hfb : b.WellFormed) (h : Mergeable a.bounds b.bounds) : (a.merge b).WellFormed := by
  have hasc := merge_ascending hwa hwb hfa hfb h.left h.right
  refine ⟨hasc, merge_counted hwa hwb hfa hfb hasc ?_⟩
  intro x hx y hy
  exact h.top x (List.mem_append.mpr ((merge_bounds a b x).mp hx)) y
    (List.mem_append.mpr ((merge_bounds a b y).mp hy))

end Merging

def withValues (h : Histogram Rat) (value : UpperBound Rat → ℕ) (count : ℕ) :
    Histogram Rat where
  buckets := h.buckets.mapValues fun x _ => (value x : Rat)
  sum := 0
  count := count

section WithValues

variable (h : Histogram Rat) (value : UpperBound Rat → ℕ) (count : ℕ)

theorem bounds_with_values : (h.withValues value count).bounds = h.bounds := by
  simp [bounds, withValues, KeyMap.keys, KeyMap.mapValues]

theorem value_with_values (x : UpperBound Rat) (hx : x ∈ h.bounds) :
    (h.withValues value count).valueAt x = value x := by
  have hfind := KeyMap.find?_mapValues (fun x _ => (value x : Rat)) h.buckets x
  rw [find_value h x hx] at hfind
  rw [valueAt, withValues, hfind]
  rfl

theorem whole_with_values : (h.withValues value count).Whole := by
  constructor
  · intro e he
    obtain ⟨e', -, rfl⟩ := List.mem_map.mp he
    exact ⟨value e'.1, rfl⟩
  · exact ⟨count, rfl⟩

theorem well_formed_with_values
    (hmono : ∀ x y, compare x y = .lt → value x ≤ value y)
    (hcounted : ∀ x ∈ h.bounds, (value x : Rat) ≤ (h.withValues value count).observations) :
    (h.withValues value count).WellFormed := by
  constructor
  · rw [ascending_iff, bounds_with_values]
    intro x hx y hy hlt
    rw [value_with_values h value count x hx, value_with_values h value count y hy]
    exact Nat.cast_le.mpr (hmono x y hlt)
  · rw [counted_iff, bounds_with_values]
    intro x hx
    rw [value_with_values h value count x hx]
    exact hcounted x hx

end WithValues

def Conflict (l m : List (UpperBound Rat)) : Prop :=
  ∃ a b : Histogram Rat, a.bounds = l ∧ b.bounds = m ∧ a.Whole ∧ b.Whole ∧
    a.WellFormed ∧ b.WellFormed ∧ ¬ (a.merge b).WellFormed

theorem Conflict.symm {l m : List (UpperBound Rat)} (h : Conflict l m) : Conflict m l := by
  obtain ⟨a, b, ha, hb, hwa, hwb, hfa, hfb, hnot⟩ := h
  exact ⟨b, a, hb, ha, hwb, hwa, hfb, hfa, by rwa [merge_comm]⟩

/-- Above a bound that it has, the first histogram lacks one of the second: its observation
at the lower bound is missing at the higher. -/
theorem conflict_of_gap (a b : Histogram Rat) {x y : UpperBound Rat} (hx : x ∈ a.bounds)
    (hy : y ∈ b.bounds) (hya : y ∉ a.bounds) (hlt : compare x y = .lt) :
    Conflict a.bounds b.bounds := by
  refine ⟨a.withValues (fun _ => 1) 1, b.withValues (fun _ => 0) 0, bounds_with_values _ _ _,
    bounds_with_values _ _ _, whole_with_values _ _ _, whole_with_values _ _ _, ?_, ?_, ?_⟩
  · exact well_formed_with_values _ _ _ (fun _ _ _ => le_rfl)
      fun _ _ => count_le_observations _
  · exact well_formed_with_values _ _ _ (fun _ _ _ => le_rfl)
      fun _ _ => count_le_observations _
  · intro hmerged
    have hle := (ascending_iff _).mp hmerged.ascending x
      (by rw [merge_bounds, bounds_with_values]; exact .inl hx) y
      (by rw [merge_bounds, bounds_with_values, bounds_with_values]; exact .inr hy) hlt
    have hpos := (whole_with_values b (fun _ => 0) 0).value_nonneg x
    rw [merge_value, merge_value, value_with_values a _ _ x hx, value_with_values b _ _ y hy,
      value_absent_exact (a.withValues _ _) y (by rwa [bounds_with_values]), Nat.cast_one,
      Nat.cast_zero] at hle
    linarith

def oneAbove (f x : UpperBound Rat) : ℕ := if compare f x = .lt then 1 else 0

theorem one_above_mono (f x y : UpperBound Rat) (hlt : compare x y = .lt) :
    oneAbove f x ≤ oneAbove f y := by
  unfold oneAbove
  split
  · rename_i hfx
    rw [if_pos (Std.TransCmp.lt_trans hfx hlt)]
  · exact Nat.zero_le _

theorem one_above_le (f x : UpperBound Rat) : oneAbove f x ≤ 1 := by
  unfold oneAbove
  split <;> decide

/-- Both histograms have a bound above one that is not finite: the observation of the second
is in the overflow bucket alone, that of the first above it and in the count. -/
theorem conflict_above_overflow (a b : Histogram Rat) {f y : UpperBound Rat}
    (hf : (a.merge b).overflowBound? = some f) (hfb : f ∈ b.bounds) (hya : y ∈ a.bounds)
    (hyb : y ∈ b.bounds) (hlt : compare f y = .lt) : Conflict a.bounds b.bounds := by
  refine ⟨a.withValues (oneAbove f) 1, b.withValues (fun _ => 1) 0, bounds_with_values _ _ _,
    bounds_with_values _ _ _, whole_with_values _ _ _, whole_with_values _ _ _, ?_, ?_, ?_⟩
  · apply well_formed_with_values _ _ _ (one_above_mono f)
    intro x _
    exact (Nat.cast_le.mpr (one_above_le f x)).trans (count_le_observations _)
  · apply well_formed_with_values _ _ _ (fun _ _ _ => le_rfl)
    intro x _
    have hfb' : f ∈ (b.withValues (fun _ => 1) 0).bounds := by rwa [bounds_with_values]
    obtain ⟨g, hg⟩ := overflow_exists hfb' (merge_overflow_least hf).1
    have hgb := List.mem_of_find?_eq_some hg
    rw [bounds_with_values] at hgb
    have hone := overflow_le_observations hg
    rwa [value_with_values b _ _ g hgb] at hone
  · intro hmerged
    have hbounds : ((a.withValues (oneAbove f) 1).merge (b.withValues (fun _ => 1) 0)).bounds =
        (a.merge b).bounds := by
      apply KeyMap.keys_eq_of_mem
      intro x
      refine (merge_bounds _ _ x).trans ?_
      rw [bounds_with_values, bounds_with_values]
      exact (merge_bounds a b x).symm
    have hoverflow :
        ((a.withValues (oneAbove f) 1).merge (b.withValues (fun _ => 1) 0)).overflowBound? =
          some f := by
      rw [overflowBound?, hbounds]
      exact hf
    have hfa : (a.withValues (oneAbove f) 1).valueAt f = 0 := by
      by_cases hfa : f ∈ a.bounds
      · rw [value_with_values a _ _ f hfa, oneAbove, if_neg (KeyMap.not_below_self f),
          Nat.cast_zero]
      · exact value_absent_exact _ f (by rwa [bounds_with_values])
    have hobs := observations_exact
      ((a.withValues (oneAbove f) 1).merge (b.withValues (fun _ => 1) 0))
    rw [hoverflow, Option.elim_some, merge_value, merge_count, hfa,
      value_with_values b _ _ f hfb] at hobs
    have hle := (counted_iff _ _).mp hmerged.counted y
      (by rw [merge_bounds, bounds_with_values]; exact .inl hya)
    rw [hobs, merge_value, value_with_values a _ _ y hya, value_with_values b _ _ y hyb,
      oneAbove, if_pos hlt] at hle
    norm_num [withValues] at hle

section Converse

variable {l m : List (UpperBound Rat)}

/-- Without a gap, a bound that only the second layout has cannot lie above another of its
bounds, but for one that both have. -/
theorem shared_above_right (hl : l ≠ [])
    (hleft : ∀ x ∈ l, ∀ y ∈ m, y ∉ l → compare x y ≠ .lt)
    (hright : ∀ x ∈ m, ∀ y ∈ l, y ∉ m → compare x y ≠ .lt) {x y : UpperBound Rat}
    (hx : x ∈ l ∨ x ∈ m) (hy : y ∈ m) (hyl : y ∉ l) (hlt : compare x y = .lt) :
    ∃ z ∈ l, z ∈ m ∧ compare x z = .lt := by
  have hxm : x ∈ m := hx.resolve_left fun hxl => hleft x hxl y hy hyl hlt
  obtain ⟨z, hz⟩ := List.exists_mem_of_ne_nil l hl
  have hyz : compare y z = .lt := by
    rcases KeyMap.below_or_eq_or_above y z with h | rfl | h
    · exact h
    · exact absurd hz hyl
    · exact absurd h (hleft z hz y hy hyl)
  have hxz : compare x z = .lt := Std.TransCmp.lt_trans hlt hyz
  refine ⟨z, hz, ?_, hxz⟩
  by_contra hzm
  exact hright x hxm z hz hzm hxz

theorem shared_above (hl : l ≠ []) (hm : m ≠ [])
    (hleft : ∀ x ∈ l, ∀ y ∈ m, y ∉ l → compare x y ≠ .lt)
    (hright : ∀ x ∈ m, ∀ y ∈ l, y ∉ m → compare x y ≠ .lt) {x y : UpperBound Rat}
    (hx : x ∈ l ∨ x ∈ m) (hy : y ∈ l ∨ y ∈ m) (hlt : compare x y = .lt) :
    ∃ z ∈ l, z ∈ m ∧ compare x z = .lt := by
  by_cases hyl : y ∈ l
  · by_cases hym : y ∈ m
    · exact ⟨y, hyl, hym, hlt⟩
    · obtain ⟨z, hzm, hzl, hxz⟩ := shared_above_right hm hright hleft hx.symm hyl hym hlt
      exact ⟨z, hzl, hzm, hxz⟩
  · exact shared_above_right hl hleft hright hx (hy.resolve_left hyl) hyl hlt

end Converse

theorem mergeable_of_no_conflict (a b : Histogram Rat) (ha : a.bounds ≠ [])
    (hb : b.bounds ≠ []) (hno : ¬ Conflict a.bounds b.bounds) :
    Mergeable a.bounds b.bounds := by
  have hleft : ∀ x ∈ a.bounds, ∀ y ∈ b.bounds, y ∉ a.bounds → compare x y ≠ .lt :=
    fun x hx y hy hya hlt => hno (conflict_of_gap a b hx hy hya hlt)
  have hright : ∀ x ∈ b.bounds, ∀ y ∈ a.bounds, y ∉ b.bounds → compare x y ≠ .lt :=
    fun x hx y hy hyb hlt => hno (conflict_of_gap b a hx hy hyb hlt).symm
  refine ⟨hleft, hright, fun x hx y hy hlt => ?_⟩
  rw [List.mem_append] at hx hy
  by_contra hfinite
  rw [Bool.not_eq_true] at hfinite
  -- the lowest bound that is not finite, below a bound that both have
  obtain ⟨f, hf⟩ := overflow_exists ((merge_bounds a b x).mpr hx) hfinite
  have hfy : compare f y = .lt := by
    rcases (merge_overflow_least hf).2 x hx hfinite with rfl | hfx
    · exact hlt
    · exact Std.TransCmp.lt_trans hfx hlt
  have hfab := (merge_bounds a b f).mp (List.mem_of_find?_eq_some hf)
  obtain ⟨z, hza, hzb, hfz⟩ := shared_above ha hb hleft hright hfab hy hfy
  rcases hfab with hfa | hfb
  · rw [merge_comm] at hf
    exact hno (conflict_above_overflow b a hf hfa hzb hza hfz).symm
  · exact hno (conflict_above_overflow a b hf hfb hza hzb hfz)

/-- Two layouts merge all their well-formed histograms into well-formed ones exactly if one
of them is empty or they are mergeable. -/
theorem merge_well_formed_iff (a b : Histogram Rat) :
    (∀ a' b' : Histogram Rat, a'.bounds = a.bounds → b'.bounds = b.bounds → a'.Whole →
      b'.Whole → a'.WellFormed → b'.WellFormed → (a'.merge b').WellFormed) ↔
      a.bounds = [] ∨ b.bounds = [] ∨ Mergeable a.bounds b.bounds := by
  constructor
  · intro h
    by_cases ha : a.bounds = []
    · exact .inl ha
    by_cases hb : b.bounds = []
    · exact .inr (.inl hb)
    refine .inr (.inr (mergeable_of_no_conflict a b ha hb ?_))
    rintro ⟨a', b', ha', hb', hwa, hwb, hfa, hfb, hnot⟩
    exact hnot (h a' b' ha' hb' hwa hwb hfa hfb)
  · intro h a' b' ha' hb' hwa hwb hfa hfb
    rw [← ha', ← hb'] at h
    rcases h with hempty | hempty | hmergeable
    · rw [merge_comm]
      exact merge_without_buckets hwa hempty hfb
    · exact merge_without_buckets hwb hempty hfa
    · exact merge_mergeable hwa hwb hfa hfb hmergeable

def lowOnly : Histogram Float := (empty.addToBucket (.finite 10) 5).addToCount 5

def highOnly : Histogram Float :=
  ((empty.addToBucket (.finite 10) 0).addToBucket (.finite 100) 3).addToCount 3

/-- At the higher bound the five lower observations are missing. -/
theorem higher_bound_drops :
    ¬ ∀ a b : Histogram Float, a.Whole → b.Whole → a.WellFormed → b.WellFormed →
      (a.merge b).WellFormed := by
  intro h
  have hwl : lowOnly.Whole :=
    whole_of_entries [(.finite 10, 5)] 5 (by decide +kernel) (by decide +kernel)
  have hwh : highOnly.Whole :=
    whole_of_entries [(.finite 10, 0), (.finite 100, 3)] 3 (by decide +kernel)
      (by decide +kernel)
  have hmerged := (h lowOnly highOnly hwl hwh ⟨by decide +kernel, by decide +kernel⟩
    ⟨by decide +kernel, by decide +kernel⟩).ascending
  exact absurd hmerged (by decide +kernel)

end Histogram
end ScrapeTelemetry
