import ScrapeTelemetry.Counter
import ScrapeTelemetry.Proofs.Number.Packing

/-!
# Signs of differences and rates

A double that is no smaller than another leaves no negative difference, and a quotient by
a positive time keeps the sign. So increments and rates are never below zero, however
they are rounded.
-/

set_option autoImplicit false

namespace ScrapeTelemetry
open Scalar
open Float.Model (Format UnpackedFloat)
open Float.Model.UnpackedFloat

def NotNegative : UnpackedFloat → Prop
  | .infinity .negative | .finite .negative .. => False
  | _ => True

theorem components_not_negative (e : BitVec 11) (m : BitVec 52) :
    NotNegative (UnpackedFloat.unpack Format.binary64
      (packComponents Format.binary64 .positive e m)) := by
  unfold UnpackedFloat.unpack
  simp only [unpackExponent_packComponents, unpackMantissa_packComponents,
    unpackSign_packComponents, Sign.ofBitVec_toBitVec]
  split
  · split <;> trivial
  · split
    · split <;> trivial
    · trivial

theorem pack_not_negative {u : UnpackedFloat} (h : NotNegative u) :
    NotNegative (Float.Model.pack u).unpack := by
  cases u with
  | notANumber => exact h
  | infinity s =>
    rw [unpack_pack_infinity]
    exact h
  | zero s =>
    rw [unpack_pack_zero]
    exact h
  | finite s m e hm =>
    cases s with
    | negative => exact False.elim h
    | positive =>
      change NotNegative (UnpackedFloat.unpack Format.binary64
        (UnpackedFloat.pack Format.binary64 _))
      unfold UnpackedFloat.pack
      simp only
      split
      · exact components_not_negative _ _
      · split <;> exact components_not_negative _ _

theorem round_with_accuracy_not_negative (m : ℕ) (e : ℤ) (a : Accuracy) :
    NotNegative (roundWithAccuracy Format.binary64 .positive m e a) := by
  unfold roundWithAccuracy
  simp only
  split <;> trivial

theorem normalize_not_negative (m : ℤ) (e : ℤ) (h : 0 ≤ m) :
    NotNegative (UnpackedFloat.normalize Format.binary64 m e .positive) := by
  unfold UnpackedFloat.normalize
  split
  · rename_i hlt
    exact absurd (Int.compare_eq_lt.mp hlt) (not_lt.mpr h)
  · trivial
  · exact round_with_accuracy_not_negative _ _ _

/-- At a common exponent mantissas compare as the numbers do. -/
theorem scaled_le {m m' : ℕ} {e e' : ℤ} (hlt : m < 2 ^ 53) (he : -1074 ≤ e)
    (hfull' : 2 ^ 52 ≤ m' ∨ e' = -1074) (h : e < e' ∨ e = e' ∧ m ≤ m') :
    m * 2 ^ (e - min e e').toNat ≤ m' * 2 ^ (e' - min e e').toNat := by
  rcases h with hless | ⟨rfl, hle⟩
  · obtain ⟨k, hk⟩ := Int.eq_ofNat_of_zero_le (show 0 ≤ e' - e - 1 by omega)
    have hlow : (e - min e e').toNat = 0 := by omega
    have hhigh : (e' - min e e').toNat = k + 1 := by omega
    rw [hlow, hhigh, pow_zero, mul_one]
    calc m ≤ 2 ^ 52 * 2 ^ 1 := by omega
      _ ≤ m' * 2 ^ (k + 1) := Nat.mul_le_mul (hfull'.resolve_right (by omega))
        (Nat.pow_le_pow_right two_pos (by omega))
  · exact Nat.mul_le_mul_right _ hle

theorem then_swap (m m' : ℕ) (e e' : ℤ) :
    (compare e' e).then (compare m' m) = ((compare e e').then (compare m m')).swap := by
  rw [Ordering.swap_then, ← Std.OrientedOrd.eq_swap, ← Std.OrientedOrd.eq_swap]

theorem compare_swap (u v : UnpackedFloat) : v.compare u = (u.compare v).map Ordering.swap := by
  rcases u with s | _ | s | ⟨s, m, e, hm⟩ <;> rcases v with t | _ | t | ⟨t, m', e', hm'⟩
  case finite.finite =>
    cases s <;> cases t
    · exact congrArg (fun o => some o.swap) (then_swap m m' e e')
    · rfl
    · rfl
    · exact congrArg some (then_swap m m' e e')
  all_goals
    try cases s
    all_goals
      try cases t
      all_goals rfl

/-- Equal exponents compare by the mantissas. -/
theorem mantissa_order {m m' : ℕ} {e e' : ℤ}
    (h : (compare e e').then (compare m m') ≠ .gt) : e < e' ∨ e = e' ∧ m ≤ m' := by
  rcases lt_trichotomy e e' with hlt | rfl | hgt
  · exact .inl hlt
  · refine .inr ⟨rfl, ?_⟩
    rw [compare_eq_iff_eq.mpr rfl, Ordering.then] at h
    exact compare_le_iff_le.mp h
  · rw [compare_gt_iff_gt.mpr hgt] at h
    exact absurd rfl h

theorem sub_finite_not_negative {s t : Sign} {m m' : ℕ} {e e' : ℤ} (hm : 0 < m) (hm' : 0 < m')
    (hlt : m < 2 ^ 53) (hlt' : m' < 2 ^ 53) (he : -1074 ≤ e) (he' : -1074 ≤ e')
    (hfull : 2 ^ 52 ≤ m ∨ e = -1074) (hfull' : 2 ^ 52 ≤ m' ∨ e' = -1074)
    (h : (UnpackedFloat.finite s m e hm).compare (.finite t m' e' hm') ≠ some .lt) :
    NotNegative (sub Format.binary64 (.finite s m e hm) (.finite t m' e' hm')) := by
  apply normalize_not_negative
  simp only [Nat.shiftLeft_eq]
  cases s <;> cases t
  · -- of two negative numbers the larger one has the smaller mantissa
    have hless : m * 2 ^ (e - min e e').toNat ≤ m' * 2 ^ (e' - min e e').toNat := by
      apply scaled_le hlt he hfull'
      apply mantissa_order
      intro hgt
      rw [UnpackedFloat.compare, hgt] at h
      exact h rfl
    simp only [Sign.apply]
    omega
  · exact absurd rfl h
  · simp only [Sign.apply]
    omega
  · have hless : m' * 2 ^ (e' - min e' e).toNat ≤ m * 2 ^ (e - min e' e).toNat := by
      apply scaled_le hlt' he' hfull
      apply mantissa_order
      intro hgt
      rw [then_swap, Ordering.swap_eq_gt] at hgt
      rw [UnpackedFloat.compare, hgt] at h
      exact h rfl
    rw [min_comm e' e] at hless
    simp only [Sign.apply]
    omega

/-- What is taken from a number that is no smaller leaves nothing negative. -/
theorem sub_not_negative (x y : Float)
    (h : x.toModel.unpack.compare y.toModel.unpack ≠ some .lt) :
    NotNegative (sub Format.binary64 x.toModel.unpack y.toModel.unpack) := by
  have hcanonical {z : Float} {s : Sign} {m : ℕ} {e : ℤ} {hm : 0 < m}
      (hz : z.toModel.unpack = .finite s m e hm) := unpacked_bits _ s m e hm hz
  generalize hu : x.toModel.unpack = u at h
  generalize hv : y.toModel.unpack = v at h
  rcases u with s | _ | s | ⟨s, m, e, hm⟩ <;> rcases v with t | _ | t | ⟨t, m', e', hm'⟩
  case finite.finite =>
    obtain ⟨hlt, he, -, hfull⟩ := hcanonical hu
    obtain ⟨hlt', he', -, hfull'⟩ := hcanonical hv
    exact sub_finite_not_negative hm hm' hlt hlt' he he' hfull hfull' h
  all_goals
    try cases s
    all_goals
      try cases t
      all_goals trivial

/-- A quotient by a number that is not zero or below keeps the sign. -/
theorem div_not_negative {u v : UnpackedFloat} (hu : NotNegative u) (hv : NotNegative v)
    (hzero : ∀ s, v ≠ .zero s) : NotNegative (div Format.binary64 u v) := by
  rcases u with s | _ | s | ⟨s, m, e, hm⟩ <;> rcases v with t | _ | t | ⟨t, m', e', hm'⟩
  case finite.finite =>
    cases s with
    | negative => exact False.elim hu
    | positive =>
      cases t with
      | negative => exact False.elim hv
      | positive => exact round_with_accuracy_not_negative _ _ _
  case zero.zero | finite.zero | infinity.zero => exact absurd rfl (hzero _)
  all_goals
    try cases s
    all_goals
      try cases t
      all_goals trivial

theorem nonneg_of_sign {x : Float} (hfinite : isFinite x = true)
    (hsign : NotNegative x.toModel.unpack) : 0 ≤ x := by
  change x.toModel.unpack.isFinite = true at hfinite
  rw [float_le_iff]
  rcases hx : x.toModel.unpack with s | _ | s | ⟨s, m, e, hm⟩
  · rw [hx] at hfinite
    exact Bool.noConfusion hfinite
  · rw [hx] at hfinite
    exact Bool.noConfusion hfinite
  · rfl
  · rw [hx] at hsign
    cases s with
    | negative => exact False.elim hsign
    | positive => rfl

theorem zero_unless_nonneg {x : Float} (hsign : NotNegative x.toModel.unpack) :
    0 ≤ zeroUnlessFinite x := by
  unfold zeroUnlessFinite
  split
  · rename_i hfinite
    exact nonneg_of_sign hfinite hsign
  · exact nonneg_of_sign rfl trivial

theorem float_not_lt {x y : Float} (h : y ≤ x) : ¬ x < y := by
  rw [float_le_iff, UnpackedFloat.le] at h
  rw [float_lt_iff, UnpackedFloat.lt, beq_iff_eq]
  intro hlt
  rw [compare_swap, hlt] at h
  exact Bool.noConfusion h

theorem float_lt_asymm {x y : Float} (h : x < y) : ¬ y < x := by
  rw [float_lt_iff, UnpackedFloat.lt, beq_iff_eq] at h ⊢
  rw [compare_swap, h]
  exact fun hlt => Ordering.noConfusion (Option.some.inj hlt)

theorem sign_of_not_lt {x : Float} (h : ¬ x < 0) : NotNegative x.toModel.unpack := by
  rw [float_lt_iff] at h
  rcases hx : x.toModel.unpack with s | _ | s | ⟨s, m, e, hm⟩
  case infinity | finite =>
    rw [hx] at h
    cases s with
    | negative => exact absurd rfl h
    | positive => trivial
  all_goals trivial

theorem difference_sign {x y : Float} (h : ¬ x < y) : NotNegative (x - y).toModel.unpack := by
  rw [model_sub]
  apply pack_not_negative
  apply sub_not_negative
  intro hlt
  apply h
  rw [float_lt_iff, UnpackedFloat.lt, hlt]
  rfl

/-- A time that is not zero or below is no zero and has no minus sign. -/
theorem time_sign {s : Float} (h : ¬ s ≤ 0) :
    NotNegative s.toModel.unpack ∧ ∀ t, s.toModel.unpack ≠ .zero t := by
  rw [float_le_iff] at h
  rcases hs : s.toModel.unpack with t | _ | t | ⟨t, m, e, hm⟩
  · rw [hs] at h
    cases t with
    | negative => exact absurd rfl h
    | positive => exact ⟨trivial, fun t => UnpackedFloat.noConfusion⟩
  · exact ⟨trivial, fun t => UnpackedFloat.noConfusion⟩
  · rw [hs] at h
    exact absurd rfl h
  · rw [hs] at h
    cases t with
    | negative => exact absurd rfl h
    | positive => exact ⟨trivial, fun t => UnpackedFloat.noConfusion⟩

class NonnegRates (α : Type) [Scalar α] : Prop where
  zero_nonneg : (0 : α) ≤ 0
  rate_nonneg : ∀ current previous seconds : α, 0 ≤ ratePerSecond current previous seconds

instance : NonnegRates Float where
  zero_nonneg := nonneg_of_sign rfl trivial
  rate_nonneg current previous seconds := by
    unfold ratePerSecond
    split
    · exact nonneg_of_sign rfl trivial
    · rename_i h
      rw [not_or] at h
      apply zero_unless_nonneg
      rw [model_div]
      obtain ⟨hsign, hzero⟩ := time_sign h.1
      exact pack_not_negative (div_not_negative (difference_sign h.2) hsign hzero)

instance : NonnegRates Rat where
  zero_nonneg := le_rfl
  rate_nonneg current previous seconds := by
    have hplain : ratePerSecond current previous seconds =
        if seconds ≤ 0 ∨ current < previous then 0 else (current - previous) / seconds := rfl
    rw [hplain]
    split
    · exact le_rfl
    · rename_i h
      rw [not_or, not_le, not_lt] at h
      exact div_nonneg (sub_nonneg.mpr h.2) h.1.le

end ScrapeTelemetry
