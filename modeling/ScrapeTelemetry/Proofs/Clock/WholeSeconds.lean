import ScrapeTelemetry.Proofs.Number.Products

/-!
# Whole seconds in milliseconds

A length of whole seconds is taken to milliseconds without an error, however long a calendar
lets it be: a thousand has three factors of two, which leaves the product short enough for a
mantissa.
-/

set_option autoImplicit false

namespace ScrapeTelemetry
open Scalar
open Float.Model (UnpackedFloat)
open Float.Model.UnpackedFloat

/-- The whole part of a mantissa with an exponent. -/
theorem whole_part (m : ℕ) (e : ℤ) :
    roundToInt .positive m e = (m * 2 ^ e.toNat / 2 ^ (-e).toNat : ℕ) := by
  have hrest : (0 - (e - (e.toNat : ℤ))).toNat = (-e).toNat := by omega
  simp only [roundToInt, decreaseExponent, shiftToExponent, shifted_mantissa, Nat.shiftLeft_eq,
    Sign.apply, sub_zero, hrest]

theorem whole_units (m : ℕ) {e : ℤ} (he : -1074 ≤ e) :
    m * 2 ^ e.toNat / 2 ^ (-e).toNat = m * 2 ^ (e + 1074).toNat / unitsOfOne := by
  obtain ⟨k, hk, hone⟩ := units_of_one
  rw [hone]
  rcases le_total 0 e with hlarge | hsmall
  · have hexponent : (e + 1074).toNat = e.toNat + k := by omega
    have hnone : (-e).toNat = 0 := by omega
    rw [hexponent, hnone, pow_add, ← mul_assoc, Nat.mul_div_cancel _ (Nat.two_pow_pos k), pow_zero,
      Nat.div_one]
  · have hnone : e.toNat = 0 := by omega
    have hsplit : k = (-e).toNat + (e + 1074).toNat := by omega
    rw [hnone, hsplit, pow_zero, mul_one, pow_add, Nat.mul_div_mul_right _ _ (Nat.two_pow_pos _)]

/-- The whole part of an amount, as far as a word holds it. -/
theorem truncate_amount {x : Float} {n : ℕ} (h : Amount x n) (hfits : n / unitsOfOne < 2 ^ 64) :
    truncate x = n / unitsOfOne := by
  have hplain : truncate x =
      (UInt64.ofNatClamp (toInt 0 (2 ^ 64 - 1) x.toModel.unpack).toNat).toNat := rfl
  have hwhole : toInt 0 (2 ^ 64 - 1) x.toModel.unpack = (n / unitsOfOne : ℕ) := by
    rcases h.units with ⟨s, hx, rfl⟩ | ⟨m, e, hm, hx, -, he, -, rfl⟩
    · rw [hx, Nat.zero_div]
      rfl
    · rw [hx, ← whole_units m he]
      exact whole_part m e
  have hword : n / unitsOfOne < UInt64.size := hfits
  rw [hplain, hwhole, Int.toNat_natCast, UInt64.ofNatClamp, dif_pos hword]
  exact UInt64.toNat_ofNatLT

/-- Whole seconds are a double without an error. -/
theorem whole_seconds_amount {d : Duration} (hwhole : d.subNanos = 0)
    (hshort : d.wholeSeconds < 2 ^ 53) :
    Amount (d.seconds : Float) (d.wholeSeconds * unitsOfOne) := by
  have hseconds := short_count_units hshort
  have hnothing : Amount ((Scalar.ofNat 0 : Float) / Scalar.ofNat 1000000000) 0 :=
    ⟨.inl ⟨.positive, rfl, rfl⟩, unit_limit_pos⟩
  have hsum := add_reaches hseconds.reaches hnothing
  have hplain : (d.seconds : Float) = Scalar.ofNat d.wholeSeconds +
      Scalar.ofNat d.subNanos / Scalar.ofNat 1000000000 := rfl
  rw [add_zero, rounded_units hseconds.units] at hsum
  rw [hplain, hwhole]
  exact reaches_fits hsum hseconds.fits

/-- A thousand times a whole number is a double without an error. -/
theorem thousand_of_whole {x : Float} {n : ℕ} (h : Amount x (n * unitsOfOne))
    (hshort : 125 * n < 2 ^ 53) :
    Amount (x * Scalar.ofNat 1000) (1000 * n * unitsOfOne) := by
  have hexact : rounded (1000 * n * unitsOfOne) = 1000 * n * unitsOfOne := by
    obtain ⟨k, -, hone⟩ := units_of_one
    have height : 1000 * n * 2 ^ k = 125 * n * 2 ^ (3 + k) := by
      rw [pow_add]
      ring
    rw [hone, height]
    exact rounded_exact _ _ hshort
  have hfits : 1000 * n * unitsOfOne < unitLimit :=
    (Nat.mul_le_mul_right _ (by omega)).trans_lt (units_fit (j := 56) (by norm_num))
  have hproduct : x * Scalar.ofNat 1000 = .ofModel (.pack (mul Float.Model.Format.binary64
      x.toModel.unpack (Scalar.ofNat 1000 : Float).toModel.unpack)) := rfl
  rw [hproduct, thousand_factor]
  refine reaches_fits (pack_reaches ?_) hfits
  rcases h.units with ⟨s, hx, hzero⟩ | ⟨m, e, hm, hx, hlt, he, -, hsame⟩
  · have hnone : 1000 * n * unitsOfOne = 0 := by rw [mul_assoc, hzero, mul_zero]
    rw [hx, hnone]
    exact .inl ⟨_, rfl, rfl⟩
  · have hn := units_of_count_pos hm hsame
    have hlower := exponent_lower hlt hn hsame
    have hpos : 0 < 1000 * 2 ^ 43 := by norm_num
    have hfull : 2 ^ 52 ≤ m * (1000 * 2 ^ 43) :=
      (by norm_num : 2 ^ 52 ≤ 1000 * 2 ^ 43).trans (Nat.le_mul_of_pos_left _ hm)
    have hmul := mul_units e (-(43 : ℕ)) hm hpos (by omega) hfull
    have hunits : m * (1000 * 2 ^ 43) * 2 ^ (e + -(43 : ℕ) + 1074).toNat =
        1000 * n * unitsOfOne := by
      have hexponent : (e + 1074).toNat = 43 + (e + -(43 : ℕ) + 1074).toNat := by omega
      rw [mul_assoc 1000, ← hsame, hexponent, pow_add]
      ring
    rw [hunits, hexact] at hmul
    rw [hx]
    exact hmul

/-- The milliseconds of whole seconds are exact for more than two million years. -/
theorem whole_seconds_millis {d : Duration} (hwhole : d.subNanos = 0)
    (hshort : 125 * d.wholeSeconds < 2 ^ 53) :
    truncate ((d.seconds : Float) * Scalar.ofNat 1000) = 1000 * d.wholeSeconds := by
  have hseconds := whole_seconds_amount hwhole (by omega)
  have hmillis := thousand_of_whole hseconds hshort
  have hcount := Nat.mul_div_cancel (1000 * d.wholeSeconds) units_of_one_pos
  have htruncate := truncate_amount hmillis (by rw [hcount]; omega)
  rwa [hcount] at htruncate

end ScrapeTelemetry
