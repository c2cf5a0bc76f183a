import ScrapeTelemetry.Proofs.Number.Exact
import ScrapeTelemetry.Window.Summary

/-!
# What a counter grew by

A window knows a counter at its two ends. Windows that follow each other show no less
than the one window over all of them: a reset inside hides what was counted before it,
and a window that ends before the reset still shows that.
-/

set_option autoImplicit false

namespace ScrapeTelemetry
open Scalar

theorem window_increase_exact {p c : Rat} (h : p ≤ c) : windowIncrease p c = c - p :=
  if_neg (not_lt.mpr h)

theorem window_increase_reset {p c : Rat} (h : c < p) (hc : 0 ≤ c) : windowIncrease p c = c := by
  have hlater : windowIncrease p c = larger c (Scalar.ofNat 0) := if_pos h
  have hzero : (Scalar.ofNat 0 : Rat) = 0 := Nat.cast_zero
  rw [hlater, hzero, larger_exact, max_eq_left hc]

theorem window_increase_self (c : Rat) : windowIncrease c c = 0 := by
  rw [window_increase_exact le_rfl, sub_self]

/-- No two values show a decrease, not even negative ones. -/
theorem window_increase_nonneg (p c : Rat) : 0 ≤ windowIncrease p c := by
  rcases le_or_gt p c with h | h
  · rw [window_increase_exact h]
    exact sub_nonneg.mpr h
  · have hlater : windowIncrease p c = larger c (Scalar.ofNat 0) := if_pos h
    have hzero : (Scalar.ofNat 0 : Rat) = 0 := Nat.cast_zero
    rw [hlater, hzero, larger_exact]
    exact le_max_right c 0

theorem difference_le_increase {p c : Rat} (hp : 0 ≤ p) (hc : 0 ≤ c) :
    c - p ≤ windowIncrease p c := by
  rcases le_or_gt p c with h | h
  · rw [window_increase_exact h]
  · rw [window_increase_reset h hc]
    exact sub_le_self c hp

theorem window_increase_triangle {a b c : Rat} (ha : 0 ≤ a) (hb : 0 ≤ b) (hc : 0 ≤ c) :
    windowIncrease a c ≤ windowIncrease a b + windowIncrease b c := by
  have hab := difference_le_increase ha hb
  have hbc := difference_le_increase hb hc
  rcases le_or_gt a c with h | h
  · rw [window_increase_exact h]
    linarith
  · rw [window_increase_reset h hc]
    -- the counter fell from `a` to `c`, so it fell before `b` or after it
    rcases le_or_gt b c with hle | hlt
    · rw [window_increase_reset (hle.trans_lt h) hb]
      linarith
    · rw [window_increase_reset hlt hc]
      linarith [window_increase_nonneg a b]

def increasesAlong (x : Rat) : List Rat → Rat
  | [] => 0
  | y :: l => windowIncrease x y + increasesAlong y l

theorem increase_le_along (x : Rat) (l : List Rat) (hx : 0 ≤ x) (hl : ∀ y ∈ l, 0 ≤ y) :
    windowIncrease x (l.getLastD x) ≤ increasesAlong x l := by
  induction l generalizing x with
  | nil => exact (window_increase_self x).le
  | cons y l ih =>
    have hy := hl y List.mem_cons_self
    have hlast : 0 ≤ l.getLastD y := hl _ List.getLastD_mem_cons
    have hrest := ih y hy fun z hz => hl z (List.mem_cons_of_mem y hz)
    rw [List.getLastD_cons, increasesAlong]
    linarith [window_increase_triangle hx hy hlast]

theorem along_of_ascending (x : Rat) (l : List Rat) (h : (x :: l).Pairwise (· ≤ ·)) :
    increasesAlong x l = windowIncrease x (l.getLastD x) := by
  induction l generalizing x with
  | nil => exact (window_increase_self x).symm
  | cons y l ih =>
    obtain ⟨hx, hyl⟩ := List.pairwise_cons.mp h
    have hlast : y ≤ l.getLastD y := by
      rcases List.mem_cons.mp (List.getLastD_mem_cons (l := l) (a := y)) with he | he
      · exact he.ge
      · exact (List.pairwise_cons.mp hyl).1 _ he
    have hxy := hx y List.mem_cons_self
    rw [List.getLastD_cons, increasesAlong, ih y hyl, window_increase_exact hxy,
      window_increase_exact hlast, window_increase_exact (hxy.trans hlast)]
    ring

end ScrapeTelemetry
