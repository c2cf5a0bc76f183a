import ScrapeTelemetry.Clock.Duration
import ScrapeTelemetry.Proofs.Number.Amounts

/-!
# Seconds as doubles

Whole numbers and parts of a second become amounts of known size, so that the seconds of
any length of time are finite, and positive unless no time passes.
-/

set_option autoImplicit false

namespace ScrapeTelemetry
open Scalar
open Float.Model (Format UnpackedFloat totalExponent)
open Float.Model.UnpackedFloat

@[irreducible] def unitsOfOne : ℕ := 2 ^ 1074

/-- The exponent stays a variable, so that the power is never computed. -/
theorem units_of_one : ∃ k, k = 1074 ∧ unitsOfOne = 2 ^ k := by
  unfold unitsOfOne
  exact ⟨1074, rfl, rfl⟩

theorem units_of_one_pos : 0 < unitsOfOne := by
  obtain ⟨k, -, hone⟩ := units_of_one
  rw [hone]
  exact Nat.two_pow_pos k

theorem two_pow_le_units {i j : ℕ} (h : i ≤ j + 1074) : 2 ^ i ≤ 2 ^ j * unitsOfOne := by
  obtain ⟨k, rfl, hone⟩ := units_of_one
  rw [hone, ← pow_add]
  exact Nat.pow_le_pow_right two_pos h

theorem units_fit {j : ℕ} (hj : j ≤ 971) : 2 ^ j * unitsOfOne < unitLimit := by
  obtain ⟨k, hk, hone⟩ := units_of_one
  have hscaled (l : ℕ) (hl : j + k ≤ l) : 2 ^ (j + k) < 2 ^ 53 * 2 ^ l :=
    (Nat.pow_le_pow_right two_pos hl).trans_lt
      (lt_mul_of_one_lt_left (Nat.two_pow_pos l) (by norm_num))
  rw [hone, ← pow_add]
  unfold unitLimit
  exact hscaled 2045 (by omega)

theorem rounded_le_units {n j : ℕ} (hn : n ≤ 2 ^ j * unitsOfOne) :
    rounded n ≤ 2 ^ j * unitsOfOne := by
  obtain ⟨k, -, hone⟩ := units_of_one
  have hpower := rounded_exact 1 (j + k) (by norm_num)
  rw [one_mul] at hpower
  rw [hone, ← pow_add] at hn ⊢
  rw [← hpower]
  exact rounded_le_rounded hn

theorem rounded_fits {n j : ℕ} (hj : j ≤ 971) (hn : n ≤ 2 ^ j * unitsOfOne) :
    rounded n < unitLimit :=
  (rounded_le_units hn).trans_lt (units_fit hj)

theorem rounded_pos {n : ℕ} (h : 0 < n) : 0 < rounded n :=
  Nat.mul_pos (nearest_pos h) (Nat.two_pow_pos _)

/-- A product is rounded where it has a full mantissa at its exponent. -/
theorem mul_units {m m' : ℕ} (e e' : ℤ) (hm : 0 < m) (hm' : 0 < m') (he : -1074 ≤ e + e')
    (hfull : 2 ^ 52 ≤ m * m') :
    UnpackedUnits (mul Format.binary64 (.finite .positive m e hm) (.finite .positive m' e' hm'))
      (rounded (m * m' * 2 ^ (e + e' + 1074).toNat)) := by
  have hpos : 0 < m * m' := Nat.mul_pos hm hm'
  have hlog := (Nat.le_log2 hpos.ne').mpr hfull
  exact .inr (round_exact_mantissa .positive (m * m') (e + e') hpos he (by omega))

/-- A mantissa that fits says how large its exponent is at least. -/
theorem exponent_lower {m n i : ℕ} (hlt : m < 2 ^ 53) (hn : 0 < n)
    (h : m * 2 ^ i = n * unitsOfOne) : 1021 < i := by
  obtain ⟨k, hk, hone⟩ := units_of_one
  have hpower : 2 ^ k < 2 ^ (53 + i) := by
    calc 2 ^ k ≤ n * 2 ^ k := Nat.le_mul_of_pos_left _ hn
      _ = m * 2 ^ i := by rw [h, hone]
      _ < 2 ^ 53 * 2 ^ i := Nat.mul_lt_mul_of_pos_right hlt (Nat.two_pow_pos i)
      _ = 2 ^ (53 + i) := (pow_add 2 53 i).symm
  have hexponent := (Nat.pow_lt_pow_iff_right one_lt_two).mp hpower
  omega

/-- A full mantissa says how large its exponent is at most. -/
theorem exponent_upper {m n i j : ℕ} (hfull : 2 ^ 52 ≤ m) (hn : n < 2 ^ j)
    (h : m * 2 ^ i = n * unitsOfOne) : i < j + 1022 := by
  obtain ⟨k, hk, hone⟩ := units_of_one
  have hpower : 2 ^ (52 + i) < 2 ^ (j + k) := by
    calc 2 ^ (52 + i) = 2 ^ 52 * 2 ^ i := pow_add 2 52 i
      _ ≤ m * 2 ^ i := Nat.mul_le_mul_right _ hfull
      _ = n * 2 ^ k := by rw [h, hone]
      _ < 2 ^ j * 2 ^ k := Nat.mul_lt_mul_of_pos_right hn (Nat.two_pow_pos k)
      _ = 2 ^ (j + k) := (pow_add 2 j k).symm
  have hexponent := (Nat.pow_lt_pow_iff_right one_lt_two).mp hpower
  omega

theorem units_of_count_pos {m n : ℕ} {e : ℤ} (hm : 0 < m)
    (h : m * 2 ^ (e + 1074).toNat = n * unitsOfOne) : 0 < n := by
  rcases Nat.eq_zero_or_pos n with rfl | hn
  · have hnone : m * 2 ^ (e + 1074).toNat ≠ 0 := by positivity
    exact absurd (h.trans (zero_mul _)) hnone
  · exact hn

theorem short_units {n : ℕ} (h : n < 2 ^ 53) :
    rounded (n * unitsOfOne) = n * unitsOfOne ∧ n * unitsOfOne < unitLimit := by
  have hexact : rounded (n * unitsOfOne) = n * unitsOfOne := by
    obtain ⟨k, -, hone⟩ := units_of_one
    rw [hone]
    exact rounded_exact n k h
  refine ⟨hexact, ?_⟩
  rw [← hexact]
  exact rounded_fits (j := 53) (by norm_num) (Nat.mul_le_mul_right _ h.le)

/-- A number with no more digits than a mantissa is converted exactly. -/
theorem converted_amount {n : ℕ} (h : n < 2 ^ 53) :
    Amount n.toUInt64.toFloat (n * unitsOfOne) := by
  obtain ⟨hexact, hfits⟩ := short_units h
  have hword : n.toUInt64.toNat = n := by
    change n % 2 ^ 64 = n
    omega
  have hunits : n * 2 ^ ((0 : ℤ) + 1074).toNat = n * unitsOfOne := by
    have hexponent : ((0 : ℤ) + 1074).toNat = 1074 := rfl
    unfold unitsOfOne
    rw [hexponent]
  have hinteger := normalize_units n 0 (by norm_num)
  nth_rewrite 1 [← hword] at hinteger
  rw [hunits, hexact] at hinteger
  exact reaches_fits (pack_reaches hinteger) hfits

theorem one_unpacked : (Float.ofBits 0x3FF0000000000000).toModel.unpack =
    .finite .positive (2 ^ 52) (-52) (by norm_num) := rfl

/-- What is converted exactly stays so when it is multiplied by one. -/
theorem short_count_units {n : ℕ} (h : n < 2 ^ 53) :
    Amount (Scalar.ofNat n : Float) (n * unitsOfOne) := by
  obtain ⟨hexact, hfits⟩ := short_units h
  have hplain : (Scalar.ofNat n : Float) =
      .ofModel (.pack (mul Format.binary64 n.toUInt64.toFloat.toModel.unpack
        (Float.ofBits 0x3FF0000000000000).toModel.unpack)) := by
    have hscientific : (Scalar.ofNat n : Float) = Float.ofScientific n false 0 := rfl
    rw [hscientific, Float.ofScientific, dif_pos ⟨h, by norm_num⟩]
    rfl
  rw [hplain, one_unpacked]
  refine reaches_fits (pack_reaches ?_) hfits
  rcases (converted_amount h).units with ⟨s, hs, hzero⟩ | ⟨m, e, hm, hs, hlt, he, hfull, hsame⟩
  · rw [hs]
    exact .inl ⟨_, rfl, hzero⟩
  · have hn := units_of_count_pos hm hsame
    have hlower := exponent_lower hlt hn hsame
    have hmul := mul_units e (-52) hm (Nat.two_pow_pos 52) (by omega)
      (Nat.le_mul_of_pos_left _ hm)
    have hexponent : (e + 1074).toNat = 52 + (e + -52 + 1074).toNat := by omega
    rw [hs, ← hexact, ← hsame, hexponent, pow_add, ← mul_assoc]
    exact hmul

/-- A longer number is shifted and multiplied by one. -/
theorem long_count_units {n : ℕ} (h : 2 ^ 53 ≤ n) :
    Reaches (Scalar.ofNat n : Float) (rounded (n * unitsOfOne)) := by
  have hplain : (Scalar.ofNat n : Float) =
      .ofModel (.pack (UnpackedFloat.ofScientific Format.binary64 n 0)) := by
    have hscientific : (Scalar.ofNat n : Float) = Float.ofScientific n false 0 := rfl
    rw [hscientific, Float.ofScientific, dif_neg (by omega)]
    rfl
  have hproduct : UnpackedFloat.ofScientific Format.binary64 n 0 =
      mul Format.binary64 (.finite .positive (n * 2 ^ 53) (-53) (by positivity))
        (.finite .positive 1 0 one_pos) := by
    rw [UnpackedFloat.ofScientific, dif_neg (by omega), if_neg (by norm_num), if_neg, if_pos le_rfl]
    · simp only [Nat.shiftLeft_eq]
      rfl
    · have hpower : (0 : ℤ) < 2 ^ Format.binary64.exponentBits := by positivity
      omega
  have hmul := mul_units (m := n * 2 ^ 53) (-53) 0 (by positivity) one_pos
    (by norm_num) (by omega)
  have hunits : n * 2 ^ 53 * 1 * 2 ^ ((-53 : ℤ) + 0 + 1074).toNat = n * unitsOfOne := by
    have hexponent : ((-53 : ℤ) + 0 + 1074).toNat = 1021 := rfl
    unfold unitsOfOne
    rw [hexponent, mul_one, mul_assoc, ← pow_add]
  rw [hunits] at hmul
  rw [hplain, hproduct]
  exact pack_reaches hmul

/-- A count that fits in 64 bits is an amount. -/
theorem count_amount {n : ℕ} (h : n < 2 ^ 64) :
    Amount (Scalar.ofNat n : Float) (rounded (n * unitsOfOne)) := by
  rcases lt_or_ge n (2 ^ 53) with hshort | hlong
  · have hamount := short_count_units hshort
    rwa [rounded_units hamount.units]
  · apply reaches_fits (long_count_units hlong)
    exact rounded_fits (j := 64) (by norm_num) (Nat.mul_le_mul_right _ h.le)

/-- The quotient of two full mantissas has a full mantissa or one digit more. -/
theorem quotient_digits {m m' : ℕ} (hfull : 2 ^ 52 ≤ m) (hlt : m < 2 ^ 53)
    (hfull' : 2 ^ 52 ≤ m') (hlt' : m' < 2 ^ 53) :
    2 ^ 52 ≤ m * 2 ^ 53 / m' ∧ m * 2 ^ 53 / m' < 2 ^ 54 := by
  constructor
  · rw [Nat.le_div_iff_mul_le (by omega)]
    exact Nat.mul_le_mul hfull hlt'.le
  · rw [Nat.div_lt_iff_lt_mul (by omega)]
    omega

theorem full_log {m : ℕ} (hfull : 2 ^ 52 ≤ m) (hlt : m < 2 ^ 53) : m.log2 = 52 :=
  (Nat.log2_eq_iff (by omega)).mpr ⟨hfull, hlt⟩

theorem div_core {m m' : ℕ} {e e' : ℤ} (hfull : 2 ^ 52 ≤ m) (hlt : m < 2 ^ 53)
    (hfull' : 2 ^ 52 ≤ m') (hlt' : m' < 2 ^ 53) (he : -1021 ≤ e - e') :
    divCore Format.binary64 m e m' e' =
      (m * 2 ^ 53 / m', e - e' - 53, accuracyOfFraction (m * 2 ^ 53 % m') m') := by
  have htarget : min (e - e') (Format.binary64.targetExponent
      (totalExponent m e - totalExponent m' e')) = e - e' - 53 := by
    simp only [Format.targetExponent, totalExponent, Format.mantissaBits, Format.minExponent,
      full_log hfull hlt, full_log hfull' hlt']
    norm_num
    omega
  have hshift : (e - e' - (e - e' - 53)).toNat = 53 := by omega
  unfold divCore
  simp only [htarget, hshift, Nat.shiftLeft_eq]

/-- The quotient of two amounts with full mantissas is positive, and not too large. -/
theorem div_units {m m' : ℕ} (e e' : ℤ) (hm : 0 < m) (hm' : 0 < m') (hfull : 2 ^ 52 ≤ m)
    (hlt : m < 2 ^ 53) (hfull' : 2 ^ 52 ≤ m') (hlt' : m' < 2 ^ 53) (he : -1021 ≤ e - e') :
    ∃ n, 0 < n ∧ n ≤ 2 ^ (e - e' + 1075).toNat ∧
      RoundedTo (div Format.binary64 (.finite .positive m e hm) (.finite .positive m' e' hm'))
        .positive n := by
  obtain ⟨hlow, hhigh⟩ := quotient_digits hfull hlt hfull' hlt'
  have hcore := div_core hfull hlt hfull' hlt' he
  have hdiv : div Format.binary64 (.finite .positive m e hm) (.finite .positive m' e' hm') =
      roundWithAccuracy Format.binary64 .positive (divCore Format.binary64 m e m' e').1
        (divCore Format.binary64 m e m' e').2.1 (divCore Format.binary64 m e m' e').2.2 := rfl
  rw [hdiv, hcore]
  generalize m * 2 ^ 53 / m' = q at hlow hhigh
  generalize accuracyOfFraction (m * 2 ^ 53 % m') m' = a
  have hq : 0 < q := by omega
  obtain ⟨k, hk⟩ := Nat.exists_eq_add_of_le ((Nat.le_log2 hq.ne').mpr hlow)
  have hdigit : k < 2 := by
    have hupper := (Nat.log2_lt hq.ne').mpr hhigh
    omega
  have hkept : 2 ^ 52 ≤ q / 2 ^ k ∧ q / 2 ^ k < 2 ^ 53 := by
    rw [Nat.le_div_iff_mul_le (Nat.two_pow_pos k), Nat.div_lt_iff_lt_mul (Nat.two_pow_pos k),
      ← pow_add, ← pow_add, ← hk]
    exact ⟨Nat.log2_self_le hq.ne', Nat.lt_log2_self.trans_le
      (Nat.pow_le_pow_right two_pos (by omega))⟩
  have hnear := rounded_mantissa_near (ExtendedMantissa.ofMantissaAndAccuracy q a >>> k)
  have hround := round_with_accuracy .positive q (e - e' - 53) a k (by omega)
  rw [shifted_mantissa] at hnear
  generalize (ExtendedMantissa.ofMantissaAndAccuracy q a >>> k).roundedMantissa = r at hnear hround
  refine ⟨r * 2 ^ (e - e' - 53 + k + 1074).toNat, ?_, ?_, hround (by omega)⟩
  · exact Nat.mul_pos (by omega) (Nat.two_pow_pos _)
  · calc r * 2 ^ (e - e' - 53 + k + 1074).toNat ≤
          2 ^ 53 * 2 ^ (e - e' - 53 + k + 1074).toNat := Nat.mul_le_mul_right _ (by omega)
      _ = 2 ^ (53 + (e - e' - 53 + k + 1074).toNat) := (pow_add 2 53 _).symm
      _ ≤ 2 ^ (e - e' + 1075).toNat := Nat.pow_le_pow_right two_pos (by omega)

theorem billion_unpacked : (Scalar.ofNat 1000000000 : Float).toModel.unpack =
    .finite .positive (1000000000 * 2 ^ 23) (-23) (by norm_num) := rfl

/-- A part of a second is an amount of at most two seconds, and of no units only if it is
zero. -/
theorem part_of_second {n : ℕ} (h : n < 1000000000) :
    ∃ b, Amount ((Scalar.ofNat n : Float) / Scalar.ofNat 1000000000) b ∧
      b ≤ 2 ^ 1 * unitsOfOne ∧ (0 < n → 0 < b) := by
  have hquotient : (Scalar.ofNat n : Float) / Scalar.ofNat 1000000000 =
      .ofModel (.pack (div Format.binary64 (Scalar.ofNat n : Float).toModel.unpack
        (Scalar.ofNat 1000000000 : Float).toModel.unpack)) := rfl
  rw [hquotient, billion_unpacked]
  have hcount := short_count_units (n := n) (by omega)
  rcases hcount.units with ⟨s, hs, hzero⟩ | ⟨m, e, hm, hs, hlt, he, hfull, hsame⟩
  · refine ⟨0, ?_, Nat.zero_le _, ?_⟩
    · rw [hs]
      exact reaches_fits (pack_reaches (.inl ⟨_, rfl, rfl⟩)) unit_limit_pos
    · intro hn
      exact absurd hzero (Nat.mul_pos hn units_of_one_pos).ne'
  · have hn := units_of_count_pos hm hsame
    have hlower := exponent_lower hlt hn hsame
    have hnormal : 2 ^ 52 ≤ m := by omega
    have hupper := exponent_upper (j := 30) hnormal (by omega) hsame
    have hbillion : 0 < 1000000000 * 2 ^ 23 := by norm_num
    obtain ⟨b, hb, hle, hround⟩ := div_units e (-23) hm hbillion hnormal hlt (by norm_num)
      (by norm_num) (by omega)
    have hbound : b ≤ 2 ^ 1 * unitsOfOne := hle.trans (two_pow_le_units (by omega))
    have hfits := rounded_fits (by norm_num) hbound
    rw [rounded_units (.inr hround)] at hfits
    refine ⟨b, ?_, hbound, fun _ => hb⟩
    rw [hs]
    exact reaches_fits (pack_reaches (.inr hround)) hfits

theorem amount_pos {x : Float} {n : ℕ} (h : Amount x n) (hn : 0 < n) : 0 < x := by
  rw [float_lt_iff]
  rcases h.units with ⟨s, -, hzero⟩ | ⟨m, e, hm, hx, -⟩
  · exact absurd hzero hn.ne'
  · rw [hx]
    rfl

/-- The seconds of a length of time are finite, and positive unless it is zero. -/
theorem seconds_positive (d : Duration) (hpos : 0 < d.nanos) (hfits : d.wholeSeconds < 2 ^ 64) :
    isFinite (d.seconds : Float) = true ∧ 0 < (d.seconds : Float) := by
  obtain ⟨b, hb, hle, hnone⟩ := part_of_second (Nat.mod_lt d.nanos (by norm_num))
  have hwhole := count_amount hfits
  have hlarge : rounded (d.wholeSeconds * unitsOfOne) ≤ 2 ^ 64 * unitsOfOne :=
    rounded_le_units (Nat.mul_le_mul_right _ hfits.le)
  have hbound : rounded (rounded (d.wholeSeconds * unitsOfOne) + b) < unitLimit :=
    rounded_fits (j := 65) (by norm_num) (by omega)
  have hsum : 0 < rounded (d.wholeSeconds * unitsOfOne) + b := by
    rcases Nat.eq_zero_or_pos (d.nanos % 1000000000) with hzero | hpart
    · have hseconds : 0 < d.wholeSeconds := by
        have hplain : d.wholeSeconds = d.nanos / 1000000000 := rfl
        omega
      exact Nat.add_pos_left (rounded_pos (Nat.mul_pos hseconds units_of_one_pos)) b
    · exact Nat.add_pos_right _ (hnone hpart)
  have hamount : Amount d.seconds (rounded (rounded (d.wholeSeconds * unitsOfOne) + b)) :=
    reaches_fits (add_reaches hwhole.reaches hb) hbound
  exact ⟨(reaches_finite hamount.reaches).mpr hbound, amount_pos hamount (rounded_pos hsum)⟩

end ScrapeTelemetry
