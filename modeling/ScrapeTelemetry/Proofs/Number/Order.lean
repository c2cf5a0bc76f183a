import ScrapeTelemetry.Proofs.Number.Amounts

/-!
# Doubles in order

Doubles that are numbers compare as keys of a total order do, infinities included and the
zeros of either sign alike. Numbers that are not negative have such a sum, also where it is
beyond all finite ones.
-/

set_option autoImplicit false

namespace ScrapeTelemetry
open Scalar
open Float.Model (Format UnpackedFloat)
open Float.Model.UnpackedFloat

def orderKey : UnpackedFloat → ℤ ×ₗ ℤ ×ₗ ℤ
  | .infinity .negative => toLex (-2, toLex (0, 0))
  | .finite .negative m e _ => toLex (-1, toLex (-e, -m))
  | .zero _ => toLex (0, toLex (0, 0))
  | .finite .positive m e _ => toLex (1, toLex (e, m))
  | .infinity .positive => toLex (2, toLex (0, 0))
  | .notANumber => toLex (3, toLex (0, 0))

def IsNumber (x : Float) : Prop := x.toModel.unpack ≠ .notANumber

def floatKey (x : Float) : ℤ ×ₗ ℤ ×ₗ ℤ := orderKey x.toModel.unpack

theorem finite_key_lt (s t : Sign) (m m' : ℕ) (e e' : ℤ) (hm : 0 < m) (hm' : 0 < m') :
    (UnpackedFloat.finite s m e hm).compare (.finite t m' e' hm') = some .lt ↔
      orderKey (.finite s m e hm) < orderKey (.finite t m' e' hm') := by
  have hplain : (compare e e').then (compare m m') = .lt ↔ e < e' ∨ e = e' ∧ m < m' := by
    rw [Ordering.then_eq_lt, compare_lt_iff_lt, compare_eq_iff_eq, compare_lt_iff_lt]
  have hswap : ((compare e e').then (compare m m')).swap = .lt ↔
      e' < e ∨ e = e' ∧ m' < m := by
    rw [← then_swap, Ordering.then_eq_lt, compare_lt_iff_lt, compare_eq_iff_eq,
      compare_lt_iff_lt, eq_comm (a := e')]
  cases s <;> cases t <;>
    simp [orderKey, Prod.Lex.toLex_lt_toLex, UnpackedFloat.compare, hplain, hswap]

theorem unpacked_lt_iff {u v : UnpackedFloat} (hu : u ≠ .notANumber) (hv : v ≠ .notANumber) :
    u.compare v = some .lt ↔ orderKey u < orderKey v := by
  rcases u with s | _ | s | ⟨s, m, e, hm⟩ <;> rcases v with t | _ | t | ⟨t, m', e', hm'⟩
  case finite.finite => exact finite_key_lt s t m m' e e' hm hm'
  case infinity.infinity => cases s <;> cases t <;> decide
  all_goals
    try cases s
    all_goals
      try cases t
      all_goals simp_all [orderKey, Prod.Lex.toLex_lt_toLex, UnpackedFloat.compare]

/-- Numbers compare as their keys do. -/
theorem float_lt_key {x y : Float} (hx : IsNumber x) (hy : IsNumber y) :
    x < y ↔ floatKey x < floatKey y := by
  rw [float_lt_iff, UnpackedFloat.lt, beq_iff_eq]
  exact unpacked_lt_iff hx hy

theorem compared {u v : UnpackedFloat} (hu : u ≠ .notANumber) (hv : v ≠ .notANumber) :
    ∃ o, u.compare v = some o := by
  rcases u with s | _ | s | ⟨s, m, e, hm⟩ <;> rcases v with t | _ | t | ⟨t, m', e', hm'⟩
  case notANumber.infinity | notANumber.notANumber | notANumber.zero | notANumber.finite =>
    exact absurd rfl hu
  all_goals
    try exact absurd rfl hv
  all_goals
    cases s
    all_goals
      cases t
      all_goals exact ⟨_, rfl⟩

theorem float_le_key {x y : Float} (hx : IsNumber x) (hy : IsNumber y) :
    x ≤ y ↔ floatKey x ≤ floatKey y := by
  obtain ⟨o, ho⟩ := compared hy hx
  rw [← not_lt, ← float_lt_key hy hx, float_le_iff, float_lt_iff, UnpackedFloat.le,
    UnpackedFloat.lt, compare_swap, ho]
  cases o <;> simp

theorem same_key {x y : Float} (hx : IsNumber x) (hy : IsNumber y) :
    same x y = true ↔ floatKey x = floatKey y := by
  have hkeys : floatKey x = floatKey y ↔ x ≤ y ∧ y ≤ x := by
    rw [float_le_key hx hy, float_le_key hy hx, le_antisymm_iff]
  rw [hkeys, same, Bool.and_eq_true, decide_eq_true_eq, decide_eq_true_eq]

theorem larger_number_eq {x : Float} (hx : IsNumber x) (y : Float) :
    larger x y = if x < y then y else x := by
  have hnan : isNaN x = false := by
    change x.toModel.unpack.isNaN = false
    unfold IsNumber at hx
    cases hu : x.toModel.unpack with
    | notANumber => exact absurd hu hx
    | infinity s | zero s | finite s m e hm => rfl
  rw [larger, hnan]
  rfl

theorem larger_key {x y : Float} (hx : IsNumber x) (hy : IsNumber y) :
    floatKey (larger x y) = max (floatKey x) (floatKey y) := by
  rw [larger_number_eq hx]
  split
  · rename_i hlt
    exact (max_eq_right ((float_lt_key hx hy).mp hlt).le).symm
  · rename_i hnot
    rw [float_lt_key hx hy, not_lt] at hnot
    exact (max_eq_left hnot).symm

theorem larger_number {x y : Float} (hx : IsNumber x) (hy : IsNumber y) :
    IsNumber (larger x y) := by
  rw [larger_number_eq hx]
  split
  · exact hy
  · exact hx

theorem number_of_nonneg {x : Float} (h : 0 ≤ x) : IsNumber x := by
  intro hnan
  rw [float_le_iff, hnan] at h
  exact Bool.noConfusion h

theorem nonneg_iff_reaches (x : Float) : 0 ≤ x ↔ ∃ n, Reaches x n := by
  rw [float_le_iff]
  constructor
  · intro h
    rcases hx : x.toModel.unpack with s | _ | s | ⟨s, m, e, hm⟩
    · rw [hx] at h
      cases s with
      | negative => exact Bool.noConfusion h
      | positive =>
        refine ⟨unitLimit, ?_⟩
        rw [Reaches, if_neg (lt_irrefl _), hx]
    · rw [hx] at h
      exact Bool.noConfusion h
    · exact ⟨0, Amount.reaches ⟨.inl ⟨s, hx, rfl⟩, unit_limit_pos⟩⟩
    · obtain ⟨hround, hlt⟩ := unpacked_rounded hx
      rw [hx] at h
      cases s with
      | negative => exact Bool.noConfusion h
      | positive => exact ⟨_, Amount.reaches ⟨.inr hround, hlt⟩⟩
  · rintro ⟨n, hn⟩
    unfold Reaches at hn
    split at hn
    · rcases hn with ⟨s, hx, -⟩ | ⟨m, e, hm, hx, -⟩ <;> rw [hx] <;> rfl
    · rw [hn]
      rfl

theorem float_zero_nonneg : (0 : Float) ≤ 0 := by decide +kernel

theorem float_add_nonneg {x y : Float} (hx : 0 ≤ x) (hy : 0 ≤ y) : 0 ≤ x + y := by
  rw [nonneg_iff_reaches] at hx hy ⊢
  obtain ⟨a, ha⟩ := hx
  obtain ⟨b, hb⟩ := hy
  rcases lt_or_ge b unitLimit with hlt | hge
  · exact ⟨_, add_reaches ha (reaches_fits hb hlt)⟩
  · -- what is added is beyond all numbers, and so is the sum
    rw [Reaches, if_neg (not_lt.mpr hge)] at hb
    refine ⟨unitLimit, ?_⟩
    rw [Reaches, if_neg (lt_irrefl _), model_add, hb]
    unfold Reaches at ha
    split at ha
    · rcases ha with ⟨s, hx, -⟩ | ⟨m, e, hm, hx, -⟩ <;> rw [hx] <;>
        exact unpack_pack_infinity .positive
    · rw [ha]
      exact unpack_pack_infinity .positive

theorem float_sum_nonneg (values : List Float) (start : Float) (hstart : 0 ≤ start)
    (h : ∀ v ∈ values, 0 ≤ v) : 0 ≤ values.foldl (· + ·) start := by
  induction values generalizing start with
  | nil => exact hstart
  | cons v values ih =>
    exact ih (start + v) (float_add_nonneg hstart (h v List.mem_cons_self))
      fun w hw => h w (List.mem_cons_of_mem v hw)

end ScrapeTelemetry
