import ScrapeTelemetry.Number.Scalar
import ScrapeTelemetry.Proofs.Number.Packing

/-!
# Adding to zero

Every sum here starts from zero. On double precision numbers the first addition is
exact: a number that was unpacked is there again when it is packed, so zero plus a number
is that number, but for the sign of a zero.
-/

set_option autoImplicit false

namespace ScrapeTelemetry
open Scalar
open Float.Model (Format UnpackedFloat)
open Float.Model.UnpackedFloat

class ZeroNeutral (α : Type) [Scalar α] : Prop where
  zero_finite : isFinite (0 : α) = true
  same_self : ∀ a : α, isFinite a → same a a
  same_zero_add : ∀ a : α, isFinite a → same (0 + a) a

theorem finite_zero_unless {α : Type} [Scalar α] [ZeroNeutral α] (a : α) :
    isFinite (zeroUnlessFinite a) = true := by
  unfold zeroUnlessFinite
  split
  · assumption
  · exact ZeroNeutral.zero_finite

instance : ZeroNeutral Rat where
  zero_finite := rfl
  same_self a _ := by simp [same]
  same_zero_add a _ := by
    change same ((0 : ℕ) + a) a = true
    simp [same]

theorem compare_self (u : UnpackedFloat) (h : u.isFinite = true) :
    u.compare u = some .eq := by
  cases u with
  | notANumber => exact Bool.noConfusion h
  | infinity s => exact Bool.noConfusion h
  | zero s => rfl
  | finite s m e hm => cases s <;> simp [UnpackedFloat.compare]

theorem same_of_compare (x y : Float)
    (hxy : x.toModel.unpack.compare y.toModel.unpack = some .eq)
    (hyx : y.toModel.unpack.compare x.toModel.unpack = some .eq) : same x y = true := by
  have hle : x ≤ y := by
    rw [float_le_iff, UnpackedFloat.le, hxy]
    rfl
  have hge : y ≤ x := by
    rw [float_le_iff, UnpackedFloat.le, hyx]
    rfl
  simp [same, hle, hge]

theorem float_same_self (a : Float) (h : a.toModel.unpack.isFinite = true) :
    same a a = true :=
  same_of_compare a a (compare_self _ h) (compare_self _ h)

theorem float_zero_add (a : Float) (h : a.toModel.unpack.isFinite = true) :
    same (Scalar.ofNat 0 + a) a = true := by
  have hadd : (Scalar.ofNat 0 + a : Float).toModel.unpack =
      (Float.Model.pack (add Format.binary64 (.zero .positive) a.toModel.unpack)).unpack := rfl
  have hself := compare_self a.toModel.unpack h
  rcases hu : a.toModel.unpack with s | _ | s | ⟨s, m, e, hm⟩
  · rw [hu] at h
    exact Bool.noConfusion h
  · rw [hu] at h
    exact Bool.noConfusion h
  · -- a negative zero becomes a positive one
    obtain ⟨t, ht⟩ : ∃ t, add Format.binary64 (.zero .positive) (.zero s) = .zero t := by
      cases s <;> exact ⟨_, rfl⟩
    rw [hu, ht, unpack_pack_zero] at hadd
    apply same_of_compare <;> rw [hadd, hu] <;> rfl
  · obtain ⟨hlt, he, hfit, hfull⟩ := unpacked_bits _ s m e hm hu
    have hsum : (Scalar.ofNat 0 + a : Float).toModel.unpack = a.toModel.unpack := by
      rw [hadd, hu]
      exact unpack_pack_finite s m e hm hlt he hfit hfull
    apply same_of_compare <;> rw [hsum] <;> exact hself

instance : ZeroNeutral Float where
  zero_finite := by rfl
  same_self := float_same_self
  same_zero_add := float_zero_add

end ScrapeTelemetry
