import ScrapeTelemetry.Proofs.Clock.Seconds
import ScrapeTelemetry.Proofs.Number.Order

/-!
# Products with a whole number

A double times a whole number has that number times its units, rounded. So the product is
finite up to a largest double, of either sign, and multiplying by one takes nothing beyond
all numbers.
-/

set_option autoImplicit false

namespace ScrapeTelemetry
open Scalar
open Float.Model (Format UnpackedFloat totalExponent)
open Float.Model.UnpackedFloat

theorem model_mul (x y : Float) :
    (x * y).toModel = .pack (mul Format.binary64 x.toModel.unpack y.toModel.unpack) := rfl

theorem pack_finite_iff {u : UnpackedFloat} {s : Sign} {n : ℕ} (h : RoundedTo u s n) :
    (Float.Model.pack u).unpack.isFinite = true ↔ n < unitLimit := by
  refine ⟨fun hfinite => ?_, pack_rounded_finite h⟩
  by_contra hlarge
  rw [unpack_pack_overflow h (not_lt.mp hlarge)] at hfinite
  exact Bool.noConfusion hfinite

/-- A mantissa that rounds to nothing makes a zero. -/
theorem round_to_nothing (s : Sign) (m : ℕ) (e : ℤ) (a : Accuracy) (k : ℕ)
    (hk : max (m.log2 + e - 52) (-1074) = e + k)
    (hzero : (ExtendedMantissa.ofMantissaAndAccuracy m a >>> k).roundedMantissa = 0) :
    roundWithAccuracy Format.binary64 s m e a = .zero s := by
  unfold roundWithAccuracy
  rw [shift_to_target m e a k hk]
  simp only [hzero, shiftToTargetExponent, shiftToExponent, shifted_mantissa, Nat.zero_div,
    ↓reduceDIte]

theorem two_pow_fits {i : ℕ} (h : i ≤ 1074) : 2 ^ i < unitLimit :=
  (two_pow_le_units (j := 0) (by omega)).trans_lt (units_fit (by norm_num))

/-- A short mantissa below the least exponent is finite once it is rounded. -/
theorem round_small_finite (s : Sign) (m : ℕ) (e : ℤ) (hm : m < 2 ^ 106) (he : e ≤ -1074) :
    (Float.Model.pack (roundWithAccuracy Format.binary64 s m e .exact)).unpack.isFinite =
      true := by
  have hlog : m.log2 < 106 := by
    rcases Nat.eq_zero_or_pos m with rfl | hpos
    · norm_num
    · exact (Nat.log2_lt hpos.ne').mpr hm
  obtain ⟨k, hk⟩ := Int.eq_ofNat_of_zero_le
    (show 0 ≤ max ((m.log2 : ℤ) + e - 52) (-1074) - e by omega)
  have htarget : max ((m.log2 : ℤ) + e - 52) (-1074) = e + k := by omega
  have hnear := rounded_mantissa_near (ExtendedMantissa.ofMantissaAndAccuracy m .exact >>> k)
  have hpart := Nat.div_le_self m (2 ^ k)
  rw [shifted_mantissa] at hnear
  rcases Nat.eq_zero_or_pos
    (ExtendedMantissa.ofMantissaAndAccuracy m .exact >>> k).roundedMantissa with hzero | hpos
  · rw [round_to_nothing s m e .exact k htarget hzero, unpack_pack_zero]
    rfl
  · apply pack_rounded_finite (round_with_accuracy s m e .exact k htarget hpos)
    calc _ ≤ 2 ^ 106 * 2 ^ 54 :=
          Nat.mul_le_mul (by omega) (Nat.pow_le_pow_right two_pos (by omega))
      _ = 2 ^ 160 := (pow_add 2 106 54).symm
      _ < unitLimit := two_pow_fits (by norm_num)

/-- A whole number as a factor multiplies the units; what falls off below the least exponent
does not matter. -/
theorem product_finite_iff {x f : Float} {s : Sign} {n c i : ℕ} {hpos : 0 < c * 2 ^ i}
    (hf : f.toModel.unpack = .finite .positive (c * 2 ^ i) (-i) hpos) (hfull : 2 ^ 52 ≤ c * 2 ^ i)
    (hlt : c * 2 ^ i < 2 ^ 53) (hx : RoundedTo x.toModel.unpack s n) :
    isFinite (x * f) = true ↔ rounded (c * n) < unitLimit := by
  obtain ⟨m, e, hm, hu, hshort, he, -, rfl⟩ := hx
  have hproduct : isFinite (x * f) = (Float.Model.pack (roundWithAccuracy Format.binary64
      (s * .positive) (m * (c * 2 ^ i)) (e + -i) .exact)).unpack.isFinite := by
    change (x * f).toModel.unpack.isFinite = _
    rw [model_mul, hu, hf]
    rfl
  rw [hproduct]
  rcases lt_or_ge (e + -i) (-1074) with hsmall | hlarge
  · have hi : i < 53 := by
      rw [← Nat.pow_lt_pow_iff_right one_lt_two]
      exact (Nat.le_mul_of_pos_left _ (Nat.pos_of_mul_pos_right hpos)).trans_lt hlt
    have hc : c < 2 ^ 53 := (Nat.le_mul_of_pos_right c (Nat.two_pow_pos i)).trans_lt hlt
    refine iff_of_true (round_small_finite _ _ _ ?_ hsmall.le) (rounded_fits (j := 0) (by omega) ?_)
    · calc m * (c * 2 ^ i) < 2 ^ 53 * 2 ^ 53 := Nat.mul_lt_mul_of_lt_of_lt hshort hlt
        _ = 2 ^ 106 := (pow_add 2 53 53).symm
    · calc c * (m * 2 ^ (e + 1074).toNat) ≤ 2 ^ 53 * (2 ^ 53 * 2 ^ 52) :=
            Nat.mul_le_mul hc.le (Nat.mul_le_mul hshort.le
              (Nat.pow_le_pow_right two_pos (by omega)))
        _ = 2 ^ 158 := by rw [← pow_add, ← pow_add]
        _ ≤ 2 ^ 0 * unitsOfOne := two_pow_le_units (by norm_num)
  · have hmul : 0 < m * (c * 2 ^ i) := Nat.mul_pos hm hpos
    have hlog := (Nat.le_log2 hmul.ne').mpr (hfull.trans (Nat.le_mul_of_pos_left _ hm))
    have hround := round_exact_mantissa (s * .positive) (m * (c * 2 ^ i)) (e + -i) hmul hlarge
      (by omega)
    have hunits : m * (c * 2 ^ i) * 2 ^ (e + -i + 1074).toNat = c * (m * 2 ^ (e + 1074).toNat) := by
      have hexponent : (e + 1074).toNat = i + (e + -i + 1074).toNat := by omega
      rw [hexponent, pow_add]
      ring
    rw [hunits] at hround
    exact pack_finite_iff hround

/-- A finite double is a zero or a magnitude with a sign. -/
theorem finite_cases {x : Float} (h : isFinite x = true) :
    (∃ s, x.toModel.unpack = .zero s) ∨
      ∃ s m e hm, x.toModel.unpack = .finite s m e hm := by
  change x.toModel.unpack.isFinite = true at h
  rcases hx : x.toModel.unpack with s | _ | s | ⟨s, m, e, hm⟩
  · rw [hx] at h
    exact Bool.noConfusion h
  · rw [hx] at h
    exact Bool.noConfusion h
  · exact .inl ⟨s, rfl⟩
  · exact .inr ⟨s, m, e, hm, rfl⟩

theorem zero_product_finite {x f : Float} {s t : Sign} {m : ℕ} {e : ℤ} {hm : 0 < m}
    (hx : x.toModel.unpack = .zero s) (hf : f.toModel.unpack = .finite t m e hm) :
    isFinite (x * f) = true := by
  change (x * f).toModel.unpack.isFinite = true
  rw [model_mul, hx, hf]
  exact congrArg UnpackedFloat.isFinite (unpack_pack_zero (s * t))

theorem one_factor : (Scalar.ofNat 1 : Float).toModel.unpack =
    .finite .positive (1 * 2 ^ 52) (-(52 : ℕ)) (by norm_num) := rfl

theorem thousand_factor : (Scalar.ofNat 1000 : Float).toModel.unpack =
    .finite .positive (1000 * 2 ^ 43) (-(43 : ℕ)) (by norm_num) := rfl

theorem once_finite {x : Float} (h : isFinite x = true) :
    isFinite (x * Scalar.ofNat 1) = true := by
  rcases finite_cases h with ⟨s, hx⟩ | ⟨s, m, e, hm, hx⟩
  · exact zero_product_finite hx one_factor
  · obtain ⟨hround, hlt⟩ := unpacked_rounded hx
    rw [product_finite_iff one_factor (by norm_num) (by norm_num) hround, one_mul]
    obtain ⟨m', e', hm', -, hshort, -, -, hn⟩ := hround
    rwa [← hn, rounded_exact m' _ hshort, hn]

def largestThousandth : Float := 1.7976931348623156e305

theorem largest_bits : largestThousandth = .ofBits 0x7f50624dd2f1a9fb := by decide +kernel

theorem largest_unpacked : largestThousandth.toModel.unpack =
    .finite .positive 4611686018427387 962 (by norm_num) := by
  rw [largest_bits]
  rfl

theorem least_unpacked : (-largestThousandth).toModel.unpack =
    .finite .negative 4611686018427387 962 (by norm_num) := by
  rw [largest_bits]
  rfl

def afterLargest : Float := 1.797693134862316e305

theorem next_bits : afterLargest = .ofBits 0x7f50624dd2f1a9fc := by decide +kernel

theorem next_unpacked : afterLargest.toModel.unpack =
    .finite .positive (4611686018427387 + 1) 962 (by norm_num) := by
  rw [next_bits]
  rfl

theorem largest_units_fit :
    rounded (1000 * (4611686018427387 * 2 ^ ((962 : ℤ) + 1074).toNat)) < unitLimit := by
  have hfinite : isFinite (largestThousandth * Scalar.ofNat 1000) = true := by decide +kernel
  obtain ⟨hround, -⟩ := unpacked_rounded largest_unpacked
  rwa [product_finite_iff thousand_factor (by norm_num) (by norm_num) hround] at hfinite

theorem next_units_overflow :
    unitLimit ≤ rounded (1000 * ((4611686018427387 + 1) * 2 ^ ((962 : ℤ) + 1074).toNat)) := by
  have hlarge : ¬ isFinite (afterLargest * Scalar.ofNat 1000) = true := by decide +kernel
  obtain ⟨hround, -⟩ := unpacked_rounded next_unpacked
  rwa [product_finite_iff thousand_factor (by norm_num) (by norm_num) hround, not_lt] at hlarge

/-- Doubles of one sign have units in the order of their exponents and mantissas. -/
theorem units_mono {m m' : ℕ} {e e' : ℤ} (hlt : m < 2 ^ 53) (he : -1074 ≤ e) (he' : -1074 ≤ e')
    (hfull' : 2 ^ 52 ≤ m' ∨ e' = -1074) (h : e < e' ∨ e = e' ∧ m ≤ m') :
    m * 2 ^ (e + 1074).toNat ≤ m' * 2 ^ (e' + 1074).toNat := by
  obtain ⟨i, j, hi, hj, hfirst, hsecond⟩ := common_exponent he he'
  have hscaled := scaled_le hlt he hfull' h
  rw [hi, hj, Int.toNat_natCast, Int.toNat_natCast] at hscaled
  rw [hfirst, hsecond, pow_add, pow_add, ← mul_assoc, ← mul_assoc]
  exact Nat.mul_le_mul_right _ hscaled

theorem within_largest_iff {x : Float} {s : Sign} {m : ℕ} {e : ℤ} {hm : 0 < m}
    (hx : x.toModel.unpack = .finite s m e hm) :
    (-largestThousandth ≤ x ∧ x ≤ largestThousandth) ↔
      e < 962 ∨ e = 962 ∧ m ≤ 4611686018427387 := by
  have hnumber : IsNumber x := by
    rw [IsNumber, hx]
    exact UnpackedFloat.noConfusion
  have hlargest : IsNumber largestThousandth := by
    rw [IsNumber, largest_unpacked]
    exact UnpackedFloat.noConfusion
  have hleast : IsNumber (-largestThousandth) := by
    rw [IsNumber, least_unpacked]
    exact UnpackedFloat.noConfusion
  rw [float_le_key hleast hnumber, float_le_key hnumber hlargest, floatKey, floatKey, floatKey,
    hx, largest_unpacked, least_unpacked]
  cases s with
  | negative =>
    have hswap : 962 = e ↔ e = 962 := eq_comm
    simp [orderKey, Prod.Lex.toLex_le_toLex, hswap]
  | positive => simp [orderKey, Prod.Lex.toLex_le_toLex]

/-- A thousand times over a double is finite up to a largest one, of either sign. -/
theorem thousand_times_finite_iff {x : Float} (h : isFinite x = true) :
    isFinite (x * Scalar.ofNat 1000) = true ↔ -largestThousandth ≤ x ∧ x ≤ largestThousandth := by
  rcases finite_cases h with ⟨s, hx⟩ | ⟨s, m, e, hm, hx⟩
  · refine iff_of_true (zero_product_finite hx thousand_factor) ?_
    rw [float_le_iff, float_le_iff, hx, largest_unpacked, least_unpacked]
    exact ⟨rfl, rfl⟩
  · obtain ⟨hround, -⟩ := unpacked_rounded hx
    obtain ⟨hlt, he, -, hfull⟩ := unpacked_bits _ s m e hm hx
    rw [product_finite_iff thousand_factor (by norm_num) (by norm_num) hround,
      within_largest_iff hx]
    constructor
    · intro hfits
      by_contra hbeyond
      have hnext : (4611686018427387 + 1) * 2 ^ ((962 : ℤ) + 1074).toNat ≤
          m * 2 ^ (e + 1074).toNat :=
        units_mono (by norm_num) (by norm_num) he hfull (by omega)
      have hrounded := rounded_le_rounded (Nat.mul_le_mul_left 1000 hnext)
      exact (next_units_overflow.trans hrounded).not_gt hfits
    · intro hwithin
      have hunits : m * 2 ^ (e + 1074).toNat ≤
          4611686018427387 * 2 ^ ((962 : ℤ) + 1074).toNat :=
        units_mono hlt he (by norm_num) (.inl (by norm_num)) hwithin
      exact (rounded_le_rounded (Nat.mul_le_mul_left 1000 hunits)).trans_lt largest_units_fit

end ScrapeTelemetry
