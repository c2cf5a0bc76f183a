import ScrapeTelemetry.Proofs.Number.Rounding

/-!
# Packed numbers

The 64 bits of a double hold every rounded number below a limit and make an infinity of
those from it on. What they hold has a mantissa of full length, but for the smallest
exponent.
-/

set_option autoImplicit false

namespace ScrapeTelemetry
open Float.Model (Format UnpackedFloat)
open Float.Model.UnpackedFloat

theorem bias_value : Format.binary64.exponentBias = 1023 := by decide

theorem implicit_bit (m : BitVec 52) : (1#1 ++ m).toNat = 2 ^ 52 + m.toNat := by
  rw [BitVec.toNat_append, ← Nat.shiftLeft_add_eq_or_of_lt m.isLt]
  rfl

theorem unpack_components (s : Sign) (e : BitVec 11) (m : BitVec 52) (he : e ≠ -1#11) :
    UnpackedFloat.unpack Format.binary64 (packComponents Format.binary64 s e m) =
      if e = 0#11 then
        if h : m = 0#52 then .zero s
        else .finite s m.toNat (-1074) (by simpa [BitVec.toNat_pos, BitVec.pos_iff_ne_zero])
      else .finite s (1#1 ++ m).toNat (e.toNat - 1075) (by rw [implicit_bit]; omega) := by
  unfold UnpackedFloat.unpack
  simp only [unpackExponent_packComponents, unpackMantissa_packComponents,
    unpackSign_packComponents, Sign.ofBitVec_toBitVec, bias_value]
  rw [if_neg he]
  by_cases hzero : e = 0#11
  · subst hzero
    rfl
  · rw [if_neg hzero, if_neg hzero]
    rfl

theorem finite_congr (s : Sign) {m m' : ℕ} {e e' : ℤ} (hm : 0 < m) (hm' : 0 < m')
    (h : m = m') (h' : e = e') : UnpackedFloat.finite s m e hm = .finite s m' e' hm' := by
  subst h h'
  rfl

/-- What is packed is there again, if its exponent fits. -/
theorem unpack_pack_finite (s : Sign) (m : ℕ) (e : ℤ) (hm : 0 < m) (hlt : m < 2 ^ 53)
    (he : -1074 ≤ e) (hfit : e ≤ 971) (hfull : 2 ^ 52 ≤ m ∨ e = -1074) :
    (Float.Model.pack (.finite s m e hm)).unpack = .finite s m e hm := by
  change UnpackedFloat.unpack Format.binary64 (UnpackedFloat.pack Format.binary64 _) = _
  unfold UnpackedFloat.pack
  simp only [bias_value, Format.mantissaBits]
  rw [if_neg (by omega)]
  by_cases hnormal : 2 ^ 52 ≤ m
  · have hlog : m.log2 = 52 := (Nat.log2_eq_iff hm.ne').mpr ⟨hnormal, hlt⟩
    have hbiased : (BitVec.ofNat 11 (e + (1023 : ℕ) + (52 : ℕ)).toNat).toNat =
        (e + 1075).toNat := by
      rw [BitVec.toNat_ofNat]
      omega
    rw [if_pos (by rw [hlog]), unpack_components]
    · rw [if_neg]
      · apply finite_congr
        · rw [implicit_bit, BitVec.toNat_ofNat]
          omega
        · rw [hbiased]
          omega
      · intro hzero
        rw [hzero, BitVec.toNat_zero] at hbiased
        omega
    · intro hall
      rw [hall] at hbiased
      have hmax : (-1#11).toNat = 2047 := by decide
      omega
  · have hleast : e = -1074 := hfull.resolve_left hnormal
    have hlog : m.log2 < 52 := (Nat.log2_lt hm.ne').mpr (by omega)
    have hmantissa : (BitVec.ofNat 52 m).toNat = m := by
      rw [BitVec.toNat_ofNat]
      omega
    rw [if_neg (by omega), unpack_components _ _ _ (by decide), if_pos rfl, dif_neg]
    · exact finite_congr s _ _ hmantissa hleast.symm
    · intro hzero
      rw [hzero, BitVec.toNat_zero] at hmantissa
      omega

theorem unpack_pack_infinity (s : Sign) :
    (Float.Model.pack (.infinity s)).unpack = .infinity s := by
  cases s <;> rfl

theorem unpack_pack_zero (s : Sign) : (Float.Model.pack (.zero s)).unpack = .zero s := by
  cases s <;> rfl

theorem pack_too_large (s : Sign) (m : ℕ) (e : ℤ) (hm : 0 < m) (he : 972 ≤ e) :
    Float.Model.pack (.finite s m e hm) = .pack (.infinity s) := by
  have hpack : UnpackedFloat.pack Format.binary64 (.finite s m e hm) =
      UnpackedFloat.pack Format.binary64 (.infinity s) := by
    simp only [UnpackedFloat.pack, bias_value]
    rw [if_pos (by omega)]
  simp only [Float.Model.pack, hpack]

theorem scaled_lt_iff (m j l : ℕ) (hlt : m < 2 ^ 53) (hfull : 2 ^ 52 ≤ m ∨ j = 0) :
    m * 2 ^ j < 2 ^ 53 * 2 ^ l ↔ j ≤ l := by
  constructor
  · intro hunits
    by_contra hlarge
    have hpower := Nat.pow_le_pow_right two_pos (not_le.mp hlarge)
    rw [Nat.succ_eq_add_one, pow_succ] at hpower
    have hle := Nat.mul_le_mul (hfull.resolve_right (by omega)) hpower
    omega
  · intro hle
    exact (Nat.mul_lt_mul_of_pos_right hlt (Nat.two_pow_pos j)).trans_le
      (Nat.mul_le_mul_left _ (Nat.pow_le_pow_right two_pos hle))

@[irreducible] def unitLimit : ℕ := 2 ^ 53 * 2 ^ 2045

theorem fits_iff (m : ℕ) (e : ℤ) (hlt : m < 2 ^ 53) (hfull : 2 ^ 52 ≤ m ∨ e = -1074) :
    m * 2 ^ (e + 1074).toNat < unitLimit ↔ e ≤ 971 := by
  have hscaled := scaled_lt_iff m (e + 1074).toNat 2045 hlt (hfull.imp_right (by omega))
  unfold unitLimit
  rw [hscaled]
  omega

theorem unpack_pack_rounded {u : UnpackedFloat} {s : Sign} {n : ℕ} (h : RoundedTo u s n)
    (hn : n < unitLimit) : (Float.Model.pack u).unpack = u := by
  obtain ⟨m, e, hm, rfl, hlt, he, hfull, rfl⟩ := h
  exact unpack_pack_finite s m e hm hlt he ((fits_iff m e hlt hfull).mp hn) hfull

theorem unpack_pack_overflow {u : UnpackedFloat} {s : Sign} {n : ℕ} (h : RoundedTo u s n)
    (hn : unitLimit ≤ n) : (Float.Model.pack u).unpack = .infinity s := by
  obtain ⟨m, e, hm, rfl, hlt, he, hfull, rfl⟩ := h
  rw [← not_lt, fits_iff m e hlt hfull] at hn
  rw [pack_too_large s m e hm (by omega), unpack_pack_infinity]

theorem unpacked_bits (b : BitVec Format.binary64.numBits) (s : Sign) (m : ℕ) (e : ℤ)
    (hm : 0 < m) (h : UnpackedFloat.unpack Format.binary64 b = .finite s m e hm) :
    m < 2 ^ 53 ∧ -1074 ≤ e ∧ e ≤ 971 ∧ (2 ^ 52 ≤ m ∨ e = -1074) := by
  have hmantissa : (unpackMantissa b).toNat < 2 ^ 52 := (unpackMantissa b).isLt
  have hexponent : (unpackExponent b).toNat < 2 ^ 11 := (unpackExponent b).isLt
  unfold UnpackedFloat.unpack at h
  simp only [bias_value] at h
  split at h
  · split at h <;> cases h
  rename_i hall
  have hmax : (unpackExponent b).toNat ≠ 2047 := fun hc => hall (BitVec.eq_of_toNat_eq hc)
  split at h
  · rename_i hzero
    split at h
    · cases h
    · cases h
      rw [hzero, BitVec.toNat_zero]
      omega
  · rename_i hzero
    have hpos : (unpackExponent b).toNat ≠ 0 := fun hc => hzero (BitVec.eq_of_toNat_eq hc)
    cases h
    rw [implicit_bit]
    omega

/-- The mantissa of a double has full length unless its exponent is the least. -/
theorem unpacked_rounded {x : Float.Model} {s : Sign} {m : ℕ} {e : ℤ} {hm : 0 < m}
    (h : x.unpack = .finite s m e hm) :
    RoundedTo x.unpack s (m * 2 ^ (e + 1074).toNat) ∧ m * 2 ^ (e + 1074).toNat < unitLimit := by
  obtain ⟨hlt, he, hfit, hfull⟩ := unpacked_bits _ s m e hm h
  exact ⟨⟨m, e, hm, h, hlt, he, hfull, rfl⟩, (fits_iff m e hlt hfull).mpr hfit⟩

theorem model_add (x y : Float) :
    (x + y).toModel = .pack (add Format.binary64 x.toModel.unpack y.toModel.unpack) := rfl

theorem model_sub (x y : Float) :
    (x - y).toModel = .pack (sub Format.binary64 x.toModel.unpack y.toModel.unpack) := rfl

theorem model_div (x y : Float) :
    (x / y).toModel = .pack (div Format.binary64 x.toModel.unpack y.toModel.unpack) := rfl

theorem float_lt_iff (x y : Float) : x < y ↔ x.toModel.unpack.lt y.toModel.unpack = true :=
  decide_eq_true_iff (p := x.toModel < y.toModel)

theorem float_le_iff (x y : Float) : x ≤ y ↔ x.toModel.unpack.le y.toModel.unpack = true :=
  decide_eq_true_iff (p := x.toModel ≤ y.toModel)

end ScrapeTelemetry
