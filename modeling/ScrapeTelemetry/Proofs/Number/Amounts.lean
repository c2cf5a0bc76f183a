import ScrapeTelemetry.Proofs.Number.Signs

/-!
# Sums of amounts

An amount is a finite double that is not below zero, and a whole number of units.
Adding amounts adds their units and rounds the sum, so fewer summands never
give more: a sum that is finite has no part that is not. A difference of amounts is
always finite.
-/

set_option autoImplicit false

namespace ScrapeTelemetry
open Scalar
open Float.Model (Format UnpackedFloat)
open Float.Model.UnpackedFloat

def UnpackedUnits (u : UnpackedFloat) (n : ℕ) : Prop :=
  (∃ s, u = .zero s ∧ n = 0) ∨ RoundedTo u .positive n

def Reaches (x : Float) (n : ℕ) : Prop :=
  if n < unitLimit then UnpackedUnits x.toModel.unpack n
  else x.toModel.unpack = .infinity .positive

structure Amount (x : Float) (n : ℕ) : Prop where
  units : UnpackedUnits x.toModel.unpack n
  fits : n < unitLimit

theorem unit_limit_pos : 0 < unitLimit := by
  unfold unitLimit
  positivity

theorem Amount.reaches {x : Float} {n : ℕ} (h : Amount x n) : Reaches x n := by
  rw [Reaches, if_pos h.fits]
  exact h.units

theorem reaches_fits {x : Float} {n : ℕ} (h : Reaches x n) (hn : n < unitLimit) : Amount x n := by
  rw [Reaches, if_pos hn] at h
  exact ⟨h, hn⟩

theorem rounded_limit : rounded unitLimit = unitLimit := by
  unfold unitLimit
  rw [two_pow_carry]
  exact rounded_exact _ _ (by norm_num)

theorem rounded_units {u : UnpackedFloat} {n : ℕ} (h : UnpackedUnits u n) : rounded n = n := by
  rcases h with ⟨s, -, rfl⟩ | ⟨m, e, hm, -, hlt, -, -, rfl⟩
  · rfl
  · exact rounded_exact m _ hlt

theorem pack_reaches {u : UnpackedFloat} {n : ℕ} (h : UnpackedUnits u n) :
    Reaches (.ofModel (.pack u)) n := by
  unfold Reaches
  split
  · rename_i hlt
    rcases h with ⟨s, rfl, hn⟩ | hround
    · exact .inl ⟨s, unpack_pack_zero s, hn⟩
    · refine .inr ?_
      rwa [unpack_pack_rounded hround hlt]
  · rename_i hge
    rcases h with ⟨s, -, rfl⟩ | hround
    · exact absurd unit_limit_pos hge
    · exact unpack_pack_overflow hround (not_lt.mp hge)

theorem reaches_finite {x : Float} {n : ℕ} (h : Reaches x n) :
    isFinite x = true ↔ n < unitLimit := by
  have hplain : isFinite x = x.toModel.unpack.isFinite := rfl
  unfold Reaches at h
  rw [hplain]
  split at h
  · rename_i hlt
    rcases h with ⟨s, hx, -⟩ | ⟨m, e, hm, hx, -⟩ <;> rw [hx] <;> exact iff_of_true rfl hlt
  · rename_i hge
    rw [h]
    exact iff_of_false Bool.false_ne_true hge

theorem normalize_units (m : ℕ) (e : ℤ) (he : -1074 ≤ e) :
    UnpackedUnits (UnpackedFloat.normalize Format.binary64 m e .positive)
      (rounded (m * 2 ^ (e + 1074).toNat)) := by
  rcases Nat.eq_zero_or_pos m with rfl | hm
  · rw [zero_mul]
    exact .inl ⟨.positive, rfl, rfl⟩
  · have hcompare : compare (m : ℤ) 0 = .gt := Int.compare_eq_gt.mpr (by omega)
    have hround := round_units .positive m e hm he
    unfold UnpackedFloat.normalize
    rw [hcompare, Int.toNat_natCast]
    exact .inr hround

/-- How far two exponents lie above the smaller one. -/
theorem common_exponent {e e' : ℤ} (he : -1074 ≤ e) (he' : -1074 ≤ e') :
    ∃ i j : ℕ, e - min e e' = i ∧ e' - min e e' = j ∧
      (e + 1074).toNat = i + (min e e' + 1074).toNat ∧
      (e' + 1074).toNat = j + (min e e' + 1074).toNat := by
  obtain ⟨i, hi⟩ := Int.eq_ofNat_of_zero_le (show 0 ≤ e - min e e' by omega)
  obtain ⟨j, hj⟩ := Int.eq_ofNat_of_zero_le (show 0 ≤ e' - min e e' by omega)
  exact ⟨i, j, hi, hj, by omega, by omega⟩

/-- Both mantissas are taken to the smaller exponent, where the units add up. -/
theorem add_unpacked {u v : UnpackedFloat} {a b : ℕ} (hu : UnpackedUnits u a)
    (hv : UnpackedUnits v b) :
    UnpackedUnits (add Format.binary64 u v) (rounded (a + b)) := by
  have ha := rounded_units hu
  have hb := rounded_units hv
  rcases hu with ⟨s, rfl, rfl⟩ | ⟨m, e, hm, rfl, hlt, he, hfull, rfl⟩
  · rcases hv with ⟨t, rfl, rfl⟩ | ⟨m, e, hm, rfl, hlt, he, hfull, rfl⟩
    · cases s <;> cases t <;> exact .inl ⟨_, rfl, rfl⟩
    · rw [zero_add, hb]
      exact .inr ⟨m, e, hm, rfl, hlt, he, hfull, rfl⟩
  · rcases hv with ⟨t, rfl, rfl⟩ | ⟨m', e', hm', rfl, hlt', he', hfull', rfl⟩
    · rw [add_zero, ha]
      exact .inr ⟨m, e, hm, rfl, hlt, he, hfull, rfl⟩
    · obtain ⟨i, j, hi, hj, hfirst, hsecond⟩ := common_exponent he he'
      have hsum := normalize_units (m * 2 ^ i + m' * 2 ^ j) (min e e') (by omega)
      rw [hfirst, hsecond, pow_add, pow_add, ← mul_assoc, ← mul_assoc, ← add_mul]
      simp only [add, decreaseExponent, hi, hj, Nat.shiftLeft_eq, Sign.apply, Int.toNat_natCast]
      exact_mod_cast hsum

theorem add_reaches {x y : Float} {a b : ℕ} (hx : Reaches x a) (hy : Amount y b) :
    Reaches (x + y) (rounded (a + b)) := by
  unfold Reaches at hx
  split at hx
  · exact pack_reaches (add_unpacked hx hy.units)
  · -- beyond all numbers a sum of amounts stays there
    rename_i hge
    have hlarge : unitLimit ≤ rounded (a + b) := by
      rw [← rounded_limit]
      exact rounded_le_rounded (by omega)
    rw [Reaches, if_neg (not_lt.mpr hlarge), model_add, hx]
    rcases hy.units with ⟨s, hy, -⟩ | ⟨m, e, hm, hy, -⟩ <;> rw [hy] <;>
      exact unpack_pack_infinity .positive

/-- Leaving summands out never makes a sum of amounts larger. -/
theorem part_of_sum {part all : List Float} (h : part.Sublist all)
    (hall : ∀ y ∈ all, ∃ b, Amount y b) {x y : Float} {a b : ℕ} (hx : Reaches x a)
    (hy : Reaches y b) (hab : a ≤ b) (hround : rounded a = a) :
    ∃ c d, Reaches (part.foldl (· + ·) x) c ∧ Reaches (all.foldl (· + ·) y) d ∧ c ≤ d := by
  induction h generalizing x y a b with
  | slnil => exact ⟨a, b, hx, hy, hab⟩
  | cons z h ih =>
    obtain ⟨c, hc⟩ := hall z List.mem_cons_self
    refine ih (fun w hw => hall w (List.mem_cons_of_mem z hw)) hx (add_reaches hy hc) ?_ hround
    rw [← hround]
    exact rounded_le_rounded (by omega)
  | cons_cons z h ih =>
    obtain ⟨c, hc⟩ := hall z List.mem_cons_self
    exact ih (fun w hw => hall w (List.mem_cons_of_mem z hw)) (add_reaches hx hc)
      (add_reaches hy hc) (rounded_le_rounded (by omega)) (rounded_rounded _)

theorem pack_rounded_finite {u : UnpackedFloat} {s : Sign} {n : ℕ} (h : RoundedTo u s n)
    (hn : n < unitLimit) : (Float.Model.pack u).unpack.isFinite = true := by
  rw [unpack_pack_rounded h hn]
  obtain ⟨m, e, hm, rfl, -⟩ := h
  rfl

/-- A difference that is no larger than an amount is finite. -/
theorem normalize_finite (m e : ℤ) (he : -1074 ≤ e) {x : Float} {n : ℕ} (hx : Amount x n)
    (hle : m.natAbs * 2 ^ (e + 1074).toNat ≤ n) :
    (Float.Model.pack (UnpackedFloat.normalize Format.binary64 m e .positive)).unpack.isFinite =
      true := by
  have hlt : rounded (m.natAbs * 2 ^ (e + 1074).toNat) < unitLimit := by
    have hround := rounded_le_rounded hle
    rw [rounded_units hx.units] at hround
    exact hround.trans_lt hx.fits
  unfold UnpackedFloat.normalize
  split
  · rename_i hless
    rw [Int.compare_eq_lt] at hless
    have habs : (-m).toNat = m.natAbs := by omega
    rw [habs]
    exact pack_rounded_finite (round_units _ _ e (by omega) he) hlt
  · rfl
  · rename_i hgreater
    rw [Int.compare_eq_gt] at hgreater
    have habs : m.toNat = m.natAbs := by omega
    rw [habs]
    exact pack_rounded_finite (round_units _ _ e (by omega) he) hlt

/-- Amounts differ by no more than the larger one. -/
theorem difference_finite {x y : Float} {a b : ℕ} (hx : Amount x a) (hy : Amount y b) :
    isFinite (x - y) = true := by
  change (x - y).toModel.unpack.isFinite = true
  rw [model_sub]
  rcases hx.units with ⟨s, hu, -⟩ | ⟨m, e, hm, hu, hlt, he, hfull, ha⟩
  · rcases hy.units with ⟨t, hv, -⟩ | ⟨m', e', hm', hv, hlt', he', hfull', hb⟩
    · rw [hu, hv]
      cases s <;> cases t <;> rfl
    · rw [hu, hv]
      exact pack_rounded_finite (s := .negative) ⟨m', e', hm', rfl, hlt', he', hfull', hb⟩ hy.fits
  · rcases hy.units with ⟨t, hv, -⟩ | ⟨m', e', hm', hv, -, he', -, hb⟩
    · rw [hu, hv]
      exact pack_rounded_finite (s := .positive) ⟨m, e, hm, rfl, hlt, he, hfull, ha⟩ hx.fits
    · obtain ⟨i, j, hi, hj, hfirst, hsecond⟩ := common_exponent he he'
      rw [hfirst, pow_add, ← mul_assoc] at ha
      rw [hsecond, pow_add, ← mul_assoc] at hb
      rw [hu, hv]
      simp only [sub, hi, hj, decreaseExponent, Nat.shiftLeft_eq, Sign.apply, Int.toNat_natCast]
      rcases le_total (m * 2 ^ i) (m' * 2 ^ j) with hle | hle
      · apply normalize_finite _ _ (by omega) hy
        rw [← hb]
        apply Nat.mul_le_mul_right
        omega
      · apply normalize_finite _ _ (by omega) hx
        rw [← ha]
        apply Nat.mul_le_mul_right
        omega

theorem zero_amount : Amount 0 0 := ⟨.inl ⟨.positive, rfl, rfl⟩, unit_limit_pos⟩

/-- A sum of amounts that is finite stays finite if some summands are left out. -/
theorem part_of_finite_sum {part all : List Float} (h : part.Sublist all)
    (hall : ∀ y ∈ all, ∃ b, Amount y b) (hfinite : isFinite (all.foldl (· + ·) 0) = true) :
    isFinite (part.foldl (· + ·) (0 : Float)) = true := by
  obtain ⟨c, d, hpart, hsum, hle⟩ :=
    part_of_sum h hall zero_amount.reaches zero_amount.reaches le_rfl rfl
  rw [reaches_finite hsum] at hfinite
  exact (reaches_finite hpart).mpr (hle.trans_lt hfinite)

theorem amount_of_sign {x : Float} (hfinite : isFinite x = true)
    (hsign : NotNegative x.toModel.unpack) : ∃ n, Amount x n := by
  change x.toModel.unpack.isFinite = true at hfinite
  rcases hx : x.toModel.unpack with s | _ | s | ⟨s, m, e, hm⟩
  · rw [hx] at hfinite
    exact Bool.noConfusion hfinite
  · rw [hx] at hfinite
    exact Bool.noConfusion hfinite
  · exact ⟨0, .inl ⟨s, hx, rfl⟩, unit_limit_pos⟩
  · obtain ⟨hround, hlt⟩ := unpacked_rounded hx
    rw [hx] at hsign
    cases s with
    | negative => exact False.elim hsign
    | positive => exact ⟨_, .inr hround, hlt⟩

/-- An increment is an amount, also where the difference is beyond all numbers. -/
theorem increment_amount {b v : Float} (h : b ≤ v) : ∃ n, Amount (zeroUnlessFinite (v - b)) n := by
  unfold zeroUnlessFinite
  split
  · rename_i hfinite
    exact amount_of_sign hfinite (difference_sign (float_not_lt h))
  · exact ⟨0, zero_amount⟩

end ScrapeTelemetry
