import Mathlib

/-!
# Rounding of magnitudes

A double is rounded on its mantissa, with the bits that fall off behind it. Counted in
units of the smallest double this is a rounding of whole numbers to 53 digits, which never turns
the order of two numbers around.
-/

set_option autoImplicit false

namespace ScrapeTelemetry
open Float.Model (Format totalExponent UnpackedFloat)
open Float.Model.UnpackedFloat

def codeOf (em : ExtendedMantissa) : ℕ :=
  4 * em.mantissa + 2 * em.roundBit.toNat + em.stickyBit.toNat

theorem code_shift_one (em : ExtendedMantissa) :
    codeOf em.shiftRightOne = 2 * (codeOf em / 4) + min 1 (codeOf em % 4) := by
  obtain ⟨m, r, s⟩ := em
  rcases Nat.mod_two_eq_zero_or_one m with hm | hm <;> cases r <;> cases s <;>
    simp [codeOf, ExtendedMantissa.shiftRightOne, hm] <;> omega

theorem rounded_of_code (em : ExtendedMantissa) :
    em.roundedMantissa = (codeOf em + codeOf em / 4 % 2 + 1) / 4 := by
  obtain ⟨m, r, s⟩ := em
  have hcode : codeOf ⟨m, r, s⟩ / 4 = m := by
    cases r <;> cases s <;> simp [codeOf] <;> omega
  rw [hcode]
  cases r <;> cases s <;>
    simp [codeOf, ExtendedMantissa.roundedMantissa, ExtendedMantissa.accuracy,
      Accuracy.roundToNearestEven] <;> omega

theorem shift_succ (em : ExtendedMantissa) (k : ℕ) :
    em >>> (k + 1) = (em >>> k).shiftRightOne := rfl

theorem shift_add (em : ExtendedMantissa) (j k : ℕ) : em >>> (j + k) = (em >>> j) >>> k := by
  induction k with
  | zero => rfl
  | succ k ih => exact congrArg ExtendedMantissa.shiftRightOne ih

theorem code_shift_le {em em' : ExtendedMantissa} (h : codeOf em ≤ codeOf em') (k : ℕ) :
    codeOf (em >>> k) ≤ codeOf (em' >>> k) := by
  induction k with
  | zero => exact h
  | succ k ih =>
    rw [shift_succ, shift_succ, code_shift_one, code_shift_one]
    omega

theorem shift_mantissa (em : ExtendedMantissa) (k : ℕ) :
    (em >>> k).mantissa = em.mantissa / 2 ^ k := by
  induction k with
  | zero => exact (Nat.div_one _).symm
  | succ k ih =>
    rw [pow_succ, ← Nat.div_div_eq_div_mul, ← ih]
    rfl

theorem shift_exact (m k : ℕ) :
    (⟨m * 2 ^ k, false, false⟩ : ExtendedMantissa) >>> k = ⟨m, false, false⟩ := by
  induction k generalizing m with
  | zero => rw [pow_zero, mul_one]; rfl
  | succ k ih =>
    have hfirst := ih (m * 2)
    rw [mul_assoc, ← pow_succ'] at hfirst
    rw [shift_succ, hfirst]
    simp [ExtendedMantissa.shiftRightOne]

theorem rounded_mantissa_near (em : ExtendedMantissa) :
    em.mantissa ≤ em.roundedMantissa ∧ em.roundedMantissa ≤ em.mantissa + 1 := by
  have hcode : codeOf em / 4 = em.mantissa := by
    obtain ⟨m, r, s⟩ := em
    cases r <;> cases s <;> simp [codeOf] <;> omega
  rw [rounded_of_code]
  omega

def nearest (k n : ℕ) : ℕ := ((⟨n, false, false⟩ : ExtendedMantissa) >>> k).roundedMantissa

theorem nearest_le_nearest (k : ℕ) {n n' : ℕ} (h : n ≤ n') : nearest k n ≤ nearest k n' := by
  have hstart : codeOf ⟨n, false, false⟩ ≤ codeOf ⟨n', false, false⟩ := by
    simp only [codeOf]
    omega
  rw [nearest, nearest, rounded_of_code, rounded_of_code]
  rcases (code_shift_le hstart k).eq_or_lt with hsame | hlt
  · rw [hsame]
  · exact Nat.div_le_div_right (by omega)

theorem nearest_exact (k m : ℕ) : nearest k (m * 2 ^ k) = m := by
  rw [nearest, shift_exact]
  rfl

theorem nearest_shifted (j k m : ℕ) : nearest (j + k) (m * 2 ^ j) = nearest k m := by
  rw [nearest, shift_add, shift_exact]
  rfl

def excessBits (n : ℕ) : ℕ := n.log2 + 1 - 53

def rounded (n : ℕ) : ℕ := nearest (excessBits n) n * 2 ^ excessBits n

theorem lt_two_pow_excess (n : ℕ) : n < 2 ^ 53 * 2 ^ excessBits n := by
  rw [← pow_add]
  exact Nat.lt_log2_self.trans_le (Nat.pow_le_pow_right (by norm_num) (by unfold excessBits; omega))

theorem excess_le {n j : ℕ} (h : n < 2 ^ (53 + j)) : excessBits n ≤ j := by
  rcases eq_or_ne n 0 with rfl | hn
  · simp [excessBits]
  · have hlog := (Nat.log2_lt hn).mpr h
    unfold excessBits
    omega

/-- A number no longer than a mantissa, but for zeros at its end, is left as it is. -/
theorem rounded_exact (m j : ℕ) (h : m < 2 ^ 53) : rounded (m * 2 ^ j) = m * 2 ^ j := by
  have hlt : m * 2 ^ j < 2 ^ (53 + j) := by
    rw [pow_add]
    exact Nat.mul_lt_mul_of_pos_right h (Nat.two_pow_pos j)
  obtain ⟨i, hi⟩ := Nat.exists_eq_add_of_le (excess_le hlt)
  have hsplit : m * 2 ^ j = m * 2 ^ i * 2 ^ excessBits (m * 2 ^ j) := by
    rw [mul_assoc, ← pow_add, Nat.add_comm i, ← hi]
  rw [rounded]
  generalize excessBits (m * 2 ^ j) = k at hsplit
  rw [hsplit, nearest_exact]

/-- A mantissa that rounding made too long, as one that fits. -/
theorem two_pow_carry (j : ℕ) : 2 ^ 53 * 2 ^ j = 2 ^ 52 * 2 ^ (j + 1) := by
  rw [pow_succ 2 j]
  omega

theorem nearest_le (n : ℕ) : nearest (excessBits n) n ≤ 2 ^ 53 := by
  have hle := nearest_le_nearest (excessBits n) (lt_two_pow_excess n).le
  rwa [nearest_exact] at hle

theorem rounded_rounded (n : ℕ) : rounded (rounded n) = rounded n := by
  rcases (nearest_le n).lt_or_eq with hlt | heq
  · exact rounded_exact _ _ hlt
  · have hshorter : rounded n = 2 ^ 52 * 2 ^ (excessBits n + 1) := by
      rw [rounded, heq, two_pow_carry]
    rw [hshorter]
    exact rounded_exact _ _ (by norm_num)

theorem two_pow_excess_le {n : ℕ} (h : excessBits n ≠ 0) : 2 ^ 52 * 2 ^ excessBits n ≤ n := by
  unfold excessBits at h ⊢
  rw [← pow_add]
  refine (Nat.pow_le_pow_right (by norm_num) (by omega)).trans (Nat.log2_self_le ?_)
  rintro rfl
  exact h rfl

theorem excess_le_excess {n n' : ℕ} (h : n ≤ n') : excessBits n ≤ excessBits n' := by
  apply excess_le
  rw [pow_add]
  exact h.trans_lt (lt_two_pow_excess n')

theorem rounded_le_rounded {n n' : ℕ} (h : n ≤ n') : rounded n ≤ rounded n' := by
  rcases (excess_le_excess h).eq_or_lt with hsame | hlt
  · rw [rounded, rounded, hsame]
    exact Nat.mul_le_mul_right _ (nearest_le_nearest _ h)
  · -- a power of two lies between the two numbers, and neither is rounded past it
    have habove : 2 ^ 52 ≤ nearest (excessBits n') n' := by
      have hle := nearest_le_nearest (excessBits n') (two_pow_excess_le (Nat.ne_zero_of_lt hlt))
      rwa [nearest_exact] at hle
    calc rounded n ≤ 2 ^ 53 * 2 ^ excessBits n := Nat.mul_le_mul_right _ (nearest_le n)
      _ = 2 ^ 52 * 2 ^ (excessBits n + 1) := two_pow_carry _
      _ ≤ 2 ^ 52 * 2 ^ excessBits n' :=
        Nat.mul_le_mul_left _ (Nat.pow_le_pow_right (by norm_num) hlt)
      _ ≤ rounded n' := Nat.mul_le_mul_right _ habove

theorem target_exponent (m : ℕ) (e : ℤ) :
    Format.binary64.targetExponent (totalExponent m e) = max (m.log2 + e - 52) (-1074) := by
  simp only [Format.targetExponent, totalExponent, Format.mantissaBits, Format.minExponent]
  norm_num
  omega

/-- A finite number of a sign and a magnitude in units of the smallest double, with a
mantissa of full length unless its exponent is the least. -/
def RoundedTo (u : UnpackedFloat) (s : Sign) (n : ℕ) : Prop :=
  ∃ m e h, u = .finite s m e h ∧ m < 2 ^ 53 ∧ -1074 ≤ e ∧ (2 ^ 52 ≤ m ∨ e = -1074) ∧
    m * 2 ^ (e + 1074).toNat = n

theorem shift_to_target (m : ℕ) (e : ℤ) (a : Accuracy) (k : ℕ)
    (hk : max (m.log2 + e - 52) (-1074) = e + k) :
    shiftToTargetExponent Format.binary64 m e a =
      (ExtendedMantissa.ofMantissaAndAccuracy m a >>> k, e + k) := by
  have hshift : (max ((m.log2 : ℤ) + e - 52) (-1074) - e).toNat = k := by omega
  simp only [shiftToTargetExponent, shiftToExponent, target_exponent, hshift]

theorem fitting_mantissa (s : Sign) (r : ℕ) (e : ℤ) (hpos : 0 < r) (hle : r ≤ 2 ^ 53)
    (he : -1074 ≤ e) (hfull : 2 ^ 52 ≤ r ∨ e = -1074) :
    RoundedTo
      (let shifted := shiftToTargetExponent Format.binary64 r e .exact
       if h : shifted.1.mantissa = 0 then .zero s
       else .finite s shifted.1.mantissa shifted.2 (Nat.pos_of_ne_zero h))
      s (r * 2 ^ (e + 1074).toNat) := by
  rcases hle.lt_or_eq with hlt | rfl
  · have hlog : r.log2 < 53 := (Nat.log2_lt hpos.ne').mpr hlt
    have hfulllog : 52 ≤ r.log2 ∨ e = -1074 := hfull.imp_left (Nat.le_log2 hpos.ne').mpr
    rw [shift_to_target r e .exact 0 (by omega)]
    have hmantissa : (ExtendedMantissa.ofMantissaAndAccuracy r .exact >>> 0).mantissa = r := rfl
    simp only [hmantissa, hpos.ne', ↓reduceDIte]
    exact ⟨r, e + (0 : ℕ), hpos, rfl, hlt, by omega, by omega, by simp⟩
  · rw [shift_to_target (2 ^ 53) e .exact 1 (by rw [Nat.log2_two_pow]; omega)]
    have hmantissa : (ExtendedMantissa.ofMantissaAndAccuracy (2 ^ 53) .exact >>> 1).mantissa =
        2 ^ 52 := rfl
    simp only [hmantissa, (Nat.two_pow_pos 52).ne', ↓reduceDIte]
    refine ⟨2 ^ 52, e + (1 : ℕ), _, rfl, by norm_num, by omega, .inl le_rfl, ?_⟩
    have hexponent : (e + (1 : ℕ) + 1074).toNat = (e + 1074).toNat + 1 := by omega
    rw [hexponent, two_pow_carry]

theorem shifted_mantissa (m : ℕ) (a : Accuracy) (k : ℕ) :
    (ExtendedMantissa.ofMantissaAndAccuracy m a >>> k).mantissa = m / 2 ^ k := by
  rw [shift_mantissa]
  rcases a with _ | o
  · rfl
  · cases o <;> rfl

/-- Rounding keeps the top of a mantissa; where it reaches the next power of two, one more
shift makes it fit. -/
theorem round_with_accuracy (s : Sign) (m : ℕ) (e : ℤ) (a : Accuracy) (k : ℕ)
    (hk : max (m.log2 + e - 52) (-1074) = e + k)
    (hpos : 0 < (ExtendedMantissa.ofMantissaAndAccuracy m a >>> k).roundedMantissa) :
    RoundedTo (roundWithAccuracy Format.binary64 s m e a) s
      ((ExtendedMantissa.ofMantissaAndAccuracy m a >>> k).roundedMantissa *
        2 ^ (e + k + 1074).toNat) := by
  have hnear := rounded_mantissa_near (ExtendedMantissa.ofMantissaAndAccuracy m a >>> k)
  rw [shifted_mantissa] at hnear
  have hlt : m / 2 ^ k < 2 ^ 53 := by
    rw [Nat.div_lt_iff_lt_mul (Nat.two_pow_pos k), ← pow_add]
    exact Nat.lt_log2_self.trans_le (Nat.pow_le_pow_right (by norm_num) (by omega))
  have hfull : 2 ^ 52 ≤ m / 2 ^ k ∨ e + k = -1074 := by
    by_cases hleast : e + k = -1074
    · exact .inr hleast
    · left
      rw [Nat.le_div_iff_mul_le (Nat.two_pow_pos k), ← pow_add]
      have hlog : m.log2 = 52 + k := by omega
      rw [← hlog]
      refine Nat.log2_self_le ?_
      rintro rfl
      rw [Nat.log2_zero] at hlog
      omega
  unfold roundWithAccuracy
  rw [shift_to_target m e a k hk]
  exact fitting_mantissa s _ (e + k) hpos (by omega) (by omega) (hfull.imp_left (by omega))

theorem log_of_shifted (m j : ℕ) (hm : m ≠ 0) : (m * 2 ^ j).log2 = m.log2 + j := by
  have hpos : 0 < m * 2 ^ j := Nat.mul_pos (Nat.pos_of_ne_zero hm) (Nat.two_pow_pos j)
  rw [Nat.log2_eq_iff hpos.ne', Nat.add_right_comm, pow_add, pow_add]
  exact ⟨Nat.mul_le_mul_right _ (Nat.log2_self_le hm),
    Nat.mul_lt_mul_of_pos_right Nat.lt_log2_self (Nat.two_pow_pos j)⟩

theorem nearest_pos {n : ℕ} (h : 0 < n) : 0 < nearest (excessBits n) n := by
  by_cases hexcess : excessBits n = 0
  · have hexact := nearest_exact 0 n
    rw [pow_zero, mul_one] at hexact
    rw [hexcess, hexact]
    exact h
  · have hle := nearest_le_nearest (excessBits n) (two_pow_excess_le hexcess)
    rw [nearest_exact] at hle
    exact (Nat.two_pow_pos 52).trans_le hle

/-- A number in units of the smallest double is rounded as a whole number. -/
theorem round_exact_mantissa (s : Sign) (m : ℕ) (e : ℤ) (hm : 0 < m) (he : -1074 ≤ e)
    (hlong : e ≤ max (m.log2 + e - 52) (-1074)) :
    RoundedTo (roundWithAccuracy Format.binary64 s m e .exact) s
      (rounded (m * 2 ^ (e + 1074).toNat)) := by
  obtain ⟨k, hk⟩ := Int.eq_ofNat_of_zero_le (sub_nonneg.mpr hlong)
  obtain ⟨j, hj⟩ := Int.eq_ofNat_of_zero_le (show 0 ≤ e + 1074 by omega)
  have hunits : (e + 1074).toNat = j := by omega
  have hexcess : excessBits (m * 2 ^ j) = j + k := by
    rw [excessBits, log_of_shifted m j hm.ne']
    omega
  have hnearest : nearest (excessBits (m * 2 ^ j)) (m * 2 ^ j) = nearest k m := by
    rw [hexcess, nearest_shifted]
  have hpos := nearest_pos (Nat.mul_pos hm (Nat.two_pow_pos j))
  rw [hnearest] at hpos
  have hround := round_with_accuracy s m e .exact k (by omega) hpos
  have hexponent : (e + k + 1074).toNat = excessBits (m * 2 ^ j) := by omega
  rw [hexponent] at hround
  rw [hunits, rounded, hnearest]
  exact hround

/-- The same, for a mantissa that may be too short. -/
theorem round_units (s : Sign) (m : ℕ) (e : ℤ) (hm : 0 < m) (he : -1074 ≤ e) :
    RoundedTo (UnpackedFloat.round Format.binary64 s m e) s
      (rounded (m * 2 ^ (e + 1074).toNat)) := by
  unfold UnpackedFloat.round
  simp only [target_exponent, decreaseExponent, Nat.shiftLeft_eq]
  generalize hj : (e - max ((m.log2 : ℤ) + e - 52) (-1074)).toNat = j
  have hlog := log_of_shifted m j hm.ne'
  have hround := round_exact_mantissa s (m * 2 ^ j) (e - j)
    (Nat.mul_pos hm (Nat.two_pow_pos j)) (by omega) (by omega)
  have hunits : (e + 1074).toNat = j + (e - j + 1074).toNat := by omega
  rw [hunits, pow_add, ← mul_assoc]
  exact hround

end ScrapeTelemetry
