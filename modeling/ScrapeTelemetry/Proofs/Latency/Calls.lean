import ScrapeTelemetry.Proofs.Latency.Merge
import ScrapeTelemetry.Proofs.Number.Order

/-!
# Histograms that are built up

What calls add to a bucket, or to the count, adds up in their order. The observations are
read off the count and the lowest bucket whose bound is not finite. That is the bucket at
infinity only where no call adds to one at minus infinity.
-/

set_option autoImplicit false

namespace ScrapeTelemetry
open Scalar

variable {α : Type} [Scalar α]

namespace Histogram

inductive Call (α : Type) [Scalar α] where
  | bucket (bound : UpperBound α) (v : α)
  | sum (v : α)
  | count (v : α)
  | merge (other : Histogram α)

namespace Call

def apply (h : Histogram α) : Call α → Histogram α
  | bucket b v => h.addToBucket b v
  | sum v => h.addToSum v
  | count v => h.addToCount v
  | merge other => h.merge other

def addedTo [DecidableEq α] (x : UpperBound α) : Call α → List α
  | bucket b v => if x = b then [v] else []
  | merge other => (other.buckets.find? x).toList
  | sum _ | count _ => []

def addedToCount : Call α → List α
  | count v => [v]
  | merge other => [other.count]
  | bucket .. | sum _ => []

def Sound : Call α → Prop
  | bucket b v => b ≠ .undefined ∧ 0 ≤ v
  | sum _ => True
  | count v => 0 ≤ v
  | merge other =>
    (∀ e ∈ other.buckets.toList, e.1 ≠ .undefined ∧ 0 ≤ e.2) ∧ 0 ≤ other.count

instance [DecidableEq α] : (c : Call α) → Decidable c.Sound
  | bucket .. => inferInstanceAs (Decidable (_ ∧ _))
  | sum _ => inferInstanceAs (Decidable True)
  | count v => inferInstanceAs (Decidable (0 ≤ v))
  | merge _ => inferInstanceAs (Decidable (_ ∧ _))

end Call

def ofCalls (calls : List (Call α)) : Histogram α := calls.foldl Call.apply .empty

def countOf (calls : List (Call α)) : α := (calls.flatMap Call.addedToCount).foldl (· + ·) 0

def bucketOf [DecidableEq α] (x : UpperBound α) (calls : List (Call α)) : Option α :=
  match calls.flatMap (Call.addedTo x) with
  | [] => none
  | v :: more => some ((v :: more).foldl (· + ·) 0)

def largerOf (bucket : Option α) (count : α) : α := bucket.elim count (larger · count)

theorem count_of_calls (calls : List (Call α)) (h : Histogram α) :
    (calls.foldl Call.apply h).count = (calls.flatMap Call.addedToCount).foldl (· + ·) h.count := by
  induction calls generalizing h with
  | nil => rfl
  | cons c calls ih =>
    rw [List.foldl_cons, ih, List.flatMap_cons, List.foldl_append]
    cases c with
    | bucket b v | sum v | count v => rfl
    | merge other => rw [Call.apply, merge_eq]; rfl

section Buckets
variable [DecidableEq α]

theorem bucket_of_call (h : Histogram α) (c : Call α) (x : UpperBound α) :
    (c.apply h).buckets.find? x =
      (c.addedTo x).foldl (fun o v => some (o.getD 0 + v)) (h.buckets.find? x) := by
  cases c with
  | sum v | count v => rfl
  | bucket b v =>
    refine (KeyMap.find?_accumulate h.buckets b x 0 (· + v)).trans ?_
    by_cases hx : x = b
    · simp [hx, Call.addedTo]
    · simp [hx, Call.addedTo]
  | merge other =>
    refine (merge_bucket h other x).trans ?_
    rw [Call.addedTo]
    cases other.buckets.find? x <;> rfl

/-- Each bucket of a histogram that is built up has what the calls add to it. -/
theorem bucket_of_calls (calls : List (Call α)) (x : UpperBound α) :
    (ofCalls calls).buckets.find? x = bucketOf x calls := by
  have hrun (h : Histogram α) : (calls.foldl Call.apply h).buckets.find? x =
      (calls.flatMap (Call.addedTo x)).foldl (fun o v => some (o.getD 0 + v))
        (h.buckets.find? x) := by
    induction calls generalizing h with
    | nil => rfl
    | cons c calls ih =>
      rw [List.foldl_cons, ih, List.flatMap_cons, List.foldl_append, bucket_of_call]
  refine (hrun .empty).trans ?_
  unfold bucketOf
  cases calls.flatMap (Call.addedTo x) with
  | nil => rfl
  | cons v more => exact KeyMap.foldl_started (fun _ => (0 : α)) (fun v w => w + v) v more

/-- The lowest bound that is not finite is minus infinity, if it is there. -/
theorem overflow_of_defined (h : Histogram α) (hdefined : .undefined ∉ h.bounds) :
    h.overflow? = (h.buckets.find? .negInf).or (h.buckets.find? .posInf) := by
  rw [overflow_value]
  cases hf : h.overflowBound? with
  | none =>
    have hfinite := List.find?_eq_none.mp hf
    have hlow : .negInf ∉ h.bounds := fun hmem => hfinite _ hmem rfl
    have hhigh : .posInf ∉ h.bounds := fun hmem => hfinite _ hmem rfl
    rw [find_absent h _ hlow, find_absent h _ hhigh]
    rfl
  | some f =>
    have hmem : f ∈ h.bounds := List.mem_of_find?_eq_some hf
    have hopen := List.find?_some hf
    cases f with
    | finite b => exact Bool.noConfusion hopen
    | undefined => exact absurd hmem hdefined
    | negInf => rw [find_value h _ hmem]; rfl
    | posInf =>
      -- a bucket at minus infinity would have been found before it
      have hlow : .negInf ∉ h.bounds := by
        intro hlow
        rcases KeyMap.find_key_least h.buckets _ _ _ hf hlow rfl with heq | hlt
        · cases heq
        · exact Ordering.noConfusion (show Ordering.gt = .lt from hlt)
      rw [find_absent h _ hlow, find_value h _ hmem]
      rfl

end Buckets

theorem Call.Sound.added_nonneg {c : Call Float} (hc : c.Sound) (x : UpperBound Float) :
    ∀ v ∈ c.addedTo x, 0 ≤ v := by
  intro v hv
  cases c with
  | sum w | count w => exact absurd hv List.not_mem_nil
  | bucket b w =>
    rw [addedTo] at hv
    split at hv
    · rw [List.mem_singleton.mp hv]
      exact hc.2
    · exact absurd hv List.not_mem_nil
  | merge other =>
    rw [addedTo, Option.mem_toList] at hv
    exact (hc.1 (x, v) ((KeyMap.mem_toList _ x v).mpr hv)).2

theorem Call.Sound.counted_nonneg {c : Call Float} (hc : c.Sound) :
    ∀ v ∈ c.addedToCount, 0 ≤ v := by
  intro v hv
  cases c with
  | bucket b w | sum w => exact absurd hv List.not_mem_nil
  | count w => rw [List.mem_singleton.mp hv]; exact hc
  | merge other => rw [List.mem_singleton.mp hv]; exact hc.2

theorem Call.Sound.nothing_undefined {c : Call Float} (hc : c.Sound) :
    c.addedTo .undefined = [] := by
  cases c with
  | sum w | count w => rfl
  | bucket b w => rw [addedTo, if_neg (Ne.symm hc.1)]
  | merge other =>
    rw [addedTo, Option.toList_eq_nil_iff, Option.eq_none_iff_forall_ne_some]
    intro v hv
    exact (hc.1 (.undefined, v) ((KeyMap.mem_toList _ _ v).mpr hv)).1 rfl

section Sound
variable {calls : List (Call Float)} (hsound : ∀ c ∈ calls, c.Sound)
include hsound

theorem count_nonneg : 0 ≤ countOf calls := by
  refine float_sum_nonneg _ 0 float_zero_nonneg fun v hv => ?_
  obtain ⟨c, hc, hv⟩ := List.mem_flatMap.mp hv
  exact (hsound c hc).counted_nonneg v hv

theorem bucket_nonneg (x : UpperBound Float) : 0 ≤ (bucketOf x calls).getD 0 := by
  have hadded : ∀ v ∈ calls.flatMap (Call.addedTo x), 0 ≤ v := by
    intro v hv
    obtain ⟨c, hc, hv⟩ := List.mem_flatMap.mp hv
    exact (hsound c hc).added_nonneg x v hv
  unfold bucketOf
  cases hvalues : calls.flatMap (Call.addedTo x) with
  | nil => exact float_zero_nonneg
  | cons v more =>
    rw [hvalues] at hadded
    exact float_sum_nonneg (v :: more) 0 float_zero_nonneg hadded

theorem defined_bounds : .undefined ∉ (ofCalls calls).bounds := by
  have hnone : calls.flatMap (Call.addedTo .undefined) = [] :=
    List.flatMap_eq_nil_iff.mpr fun c hc => (hsound c hc).nothing_undefined
  rw [mem_bounds, bucket_of_calls, bucketOf, hnone]
  exact Bool.noConfusion

/-- Without a bucket the count alone is the larger, as it is with an empty one. -/
theorem larger_of_key (x : UpperBound Float) :
    IsNumber (largerOf (bucketOf x calls) (countOf calls)) ∧
      floatKey (largerOf (bucketOf x calls) (countOf calls)) =
        max (floatKey ((bucketOf x calls).getD 0)) (floatKey (countOf calls)) := by
  have hnonneg := count_nonneg hsound
  have hcount := number_of_nonneg hnonneg
  have hbucket := number_of_nonneg (bucket_nonneg hsound x)
  cases hvalue : bucketOf x calls with
  | none =>
    have hzero := (float_le_key (number_of_nonneg float_zero_nonneg) hcount).mp hnonneg
    exact ⟨hcount, (max_eq_right hzero).symm⟩
  | some v =>
    rw [hvalue] at hbucket
    exact ⟨larger_number hbucket hcount, larger_key hbucket hcount⟩

end Sound

theorem max_eq_max_iff {β : Type} [LinearOrder β] (a b c : β) :
    max a c = max b c ↔ a = b ∨ a ≤ c ∧ b ≤ c := by
  rw [sup_eq_sup_iff_right, le_sup_iff, le_sup_iff]
  constructor
  · rintro ⟨hab | hac, hba | hbc⟩
    · exact .inl (le_antisymm hab hba)
    · exact .inr ⟨hab.trans hbc, hbc⟩
    · exact .inr ⟨hac, hba.trans hac⟩
    · exact .inr ⟨hac, hbc⟩
  · rintro (rfl | ⟨hac, hbc⟩)
    · exact ⟨.inl le_rfl, .inl le_rfl⟩
    · exact ⟨.inr hac, .inr hbc⟩

/-- The observations of a histogram that is built up are the larger of the count and the
bucket at minus infinity, or without one the bucket at infinity. They are the larger of the
count and the bucket at infinity just where the bucket at minus infinity does not show. -/
theorem observations_of_calls (calls : List (Call Float)) (hsound : ∀ c ∈ calls, c.Sound) :
    (ofCalls calls).observations =
        largerOf ((bucketOf .negInf calls).or (bucketOf .posInf calls)) (countOf calls) ∧
      (same (ofCalls calls).observations (largerOf (bucketOf .posInf calls) (countOf calls)) =
          true ↔
        bucketOf .negInf calls = none ∨
          same ((bucketOf .negInf calls).getD 0) ((bucketOf .posInf calls).getD 0) = true ∨
          (bucketOf .negInf calls).getD 0 ≤ countOf calls ∧
            (bucketOf .posInf calls).getD 0 ≤ countOf calls) := by
  have hobserved : (ofCalls calls).observations =
      largerOf ((bucketOf .negInf calls).or (bucketOf .posInf calls)) (countOf calls) := by
    have hcount : (ofCalls calls).count = countOf calls := count_of_calls calls .empty
    rw [← bucket_of_calls, ← bucket_of_calls, ← overflow_of_defined _ (defined_bounds hsound),
      ← hcount, observations]
    cases (ofCalls calls).overflow? <;> rfl
  refine ⟨hobserved, ?_⟩
  have hcount := number_of_nonneg (count_nonneg hsound)
  have hlow := number_of_nonneg (bucket_nonneg hsound .negInf)
  have hhigh := number_of_nonneg (bucket_nonneg hsound .posInf)
  obtain ⟨hnumber, hkey⟩ := larger_of_key hsound .negInf
  obtain ⟨hnumber', hkey'⟩ := larger_of_key hsound .posInf
  -- whether a bucket at minus infinity is there decides which bucket is read
  cases hvalue : bucketOf .negInf calls with
  | none =>
    rw [hobserved, hvalue, Option.none_or, same_key hnumber' hnumber']
    exact ⟨fun _ => .inl rfl, fun _ => rfl⟩
  | some a =>
    have hlower : (ofCalls calls).observations =
        largerOf (bucketOf .negInf calls) (countOf calls) := by
      rw [hobserved, hvalue, Option.some_or]
    have hsome : bucketOf .negInf calls ≠ none := by
      rw [hvalue]
      exact Option.some_ne_none a
    rw [hlower, same_key hnumber hnumber', hkey, hkey', max_eq_max_iff, ← hvalue,
      same_key hlow hhigh, float_le_key hlow hcount, float_le_key hhigh hcount,
      or_iff_right hsome]

def outcounted : List (Call Float) :=
  [.bucket .negInf 1, .merge ⟨.ofList [(.posInf, 5)], 0, 6⟩, .count 2]

theorem outcounted_low_bucket :
    (∀ c ∈ outcounted, c.Sound) ∧ (ofCalls outcounted).observations = 8 ∧
      same (ofCalls outcounted).observations
        (largerOf (bucketOf .posInf outcounted) (countOf outcounted)) = true := by
  have hsound : ∀ c ∈ outcounted, c.Sound := by decide +kernel
  obtain ⟨hobserved, hsame⟩ := observations_of_calls outcounted hsound
  refine ⟨hsound, hobserved.trans (by decide +kernel), hsame.mpr (.inr (.inr ?_))⟩
  decide +kernel

/-- An empty bucket at minus infinity hides what the bucket at infinity holds. -/
theorem low_bucket_hides_high :
    ¬ ∀ calls : List (Call Float), (∀ c ∈ calls, c.Sound) →
      same (ofCalls calls).observations (largerOf (bucketOf .posInf calls) (countOf calls)) =
        true := by
  intro h
  exact absurd (h [.bucket .negInf 0, .bucket (.finite 10) 2, .bucket .posInf 5]
    (by decide +kernel)) (by decide +kernel)

end Histogram
end ScrapeTelemetry
