import Mathlib
import ScrapeTelemetry.Window.Buckets

/-!
# Observations in order of time

What was observed in a window has one order of time: it ascends, and observations of the same
time stay in the order they are listed in. Neighbours with the same key are then all that have
it, whatever the key is, if it grows with time.
-/

set_option autoImplicit false

namespace ScrapeTelemetry

section

variable {β : Type} (f : β → Int)

theorem least_class_first (k : Int) (l : List β) (hasc : l.Pairwise fun a b => f a ≤ f b)
    (hk : ∀ e ∈ l, k ≤ f e) :
    (l.filter fun e => f e = k) ++ (l.filter fun e => k < f e) = l := by
  induction l with
  | nil => rfl
  | cons a l ih =>
    obtain ⟨ha, hl⟩ := List.pairwise_cons.mp hasc
    have hrest := ih hl fun e he => hk e (List.mem_cons_of_mem a he)
    rcases (hk a List.mem_cons_self).eq_or_lt with hsame | hlater
    · have hnot : ¬ k < f a := by omega
      rw [List.filter_cons_of_pos (by simp [← hsame]),
        List.filter_cons_of_neg (by simpa using hnot), List.cons_append, hrest]
    · have hle : ∀ e ∈ a :: l, f a ≤ f e := List.forall_mem_cons.mpr ⟨le_rfl, ha⟩
      have hnone : (a :: l).filter (fun e => f e = k) = [] := by
        rw [List.filter_eq_nil_iff]
        intro e he
        simpa using (hlater.trans_le (hle e he)).ne'
      have hall : (a :: l).filter (fun e => k < f e) = a :: l := by
        rw [List.filter_eq_self]
        intro e he
        simpa using hlater.trans_le (hle e he)
      rw [hnone, hall, List.nil_append]

/-- The classes one after the other are the list. -/
theorem classes_in_order (ks : List Int) (hks : ks.Pairwise (· < ·)) (l : List β)
    (hasc : l.Pairwise fun a b => f a ≤ f b) (hmem : ∀ e ∈ l, f e ∈ ks) :
    (ks.map fun k => l.filter fun e => f e = k).flatten = l := by
  induction ks generalizing l with
  | nil =>
    cases l with
    | nil => rfl
    | cons a l => exact absurd (hmem a List.mem_cons_self) List.not_mem_nil
  | cons k ks ih =>
    obtain ⟨hk, hks⟩ := List.pairwise_cons.mp hks
    have hleast : ∀ e ∈ l, k ≤ f e := by
      intro e he
      rcases List.mem_cons.mp (hmem e he) with hsame | hlater
      · exact hsame.ge
      · exact (hk _ hlater).le
    have hrest := ih hks (l.filter fun e => k < f e) (hasc.filter _) (by
      intro e he
      obtain ⟨he, hlater⟩ := List.mem_filter.mp he
      have hne : f e ≠ k := (of_decide_eq_true hlater).ne'
      exact (List.mem_cons.mp (hmem e he)).resolve_left hne)
    have hsame : (ks.map fun j => (l.filter fun e => k < f e).filter fun e => f e = j) =
        ks.map fun j => l.filter fun e => f e = j := by
      apply List.map_congr_left
      intro j hj
      rw [List.filter_filter]
      apply List.filter_congr
      intro e _
      have hlater := hk j hj
      by_cases he : f e = j
      · simp [he, hlater]
      · simp [he]
    rw [List.map_cons, List.flatten_cons, ← hsame, hrest]
    exact least_class_first f k l hasc hleast

theorem keys_ascend (l : List β) (hasc : l.Pairwise fun a b => f a ≤ f b) :
    (l.map f).dedup.Pairwise (· < ·) := by
  have hle : (l.map f).dedup.Pairwise (· ≤ ·) :=
    (List.pairwise_map.mpr hasc).sublist (List.dedup_sublist _)
  exact (hle.and (List.nodup_dedup _)).imp fun h => lt_of_le_of_ne h.1 h.2

/-- An ascending list is known by its classes. -/
theorem ascending_ext {l l' : List β} (hasc : l.Pairwise fun a b => f a ≤ f b)
    (hasc' : l'.Pairwise fun a b => f a ≤ f b)
    (h : ∀ k, (l.filter fun e => f e = k) = l'.filter fun e => f e = k) : l = l' := by
  have hmem : ∀ e ∈ l', f e ∈ (l.map f).dedup := by
    intro e he
    have hclass : e ∈ l'.filter fun a => f a = f e := List.mem_filter.mpr ⟨he, by simp⟩
    rw [← h] at hclass
    exact List.mem_dedup.mpr (List.mem_map_of_mem (List.mem_of_mem_filter hclass))
  rw [← classes_in_order f _ (keys_ascend f l hasc) l' hasc' hmem]
  simp only [← h]
  exact (classes_in_order f _ (keys_ascend f l hasc) l hasc fun e he =>
    List.mem_dedup.mpr (List.mem_map_of_mem he)).symm

end

variable {α : Type}

def Snapshot.Inside (start now : Instant) (s : Snapshot α) : Prop :=
  ∃ t ∈ s.takenAt, start ≤ t ∧ t ≤ now

instance (start now : Instant) (s : Snapshot α) : Decidable (s.Inside start now) :=
  inferInstanceAs (Decidable (∃ t ∈ s.takenAt, start ≤ t ∧ t ≤ now))

def stamped? (s : Snapshot α) : Option (TimedSnapshot α) := s.takenAt.map fun t => (t, s)

variable (start now : Instant) (snapshots : List (Snapshot α))

def observedInside : List (TimedSnapshot α) :=
  (snapshots.filter fun s => s.Inside start now).filterMap stamped?

structure InTimeOrder (timed : List (TimedSnapshot α)) : Prop where
  ascending : timed.Pairwise fun a b => a.1 ≤ b.1
  stable : ∀ t, (timed.filter fun e => e.1 = t) =
    (observedInside start now snapshots).filter fun e => e.1 = t

theorem timed_between_sorts : timedBetween start now snapshots =
    (observedInside start now snapshots).mergeSort fun a b => a.1.nanos ≤ b.1.nanos := by
  rw [timedBetween, observedInside, List.filter_filterMap, List.filterMap_filter]
  congr 1
  apply List.filterMap_congr
  intro s _
  cases htaken : s.takenAt <;> simp [stamped?, Snapshot.Inside, htaken, Option.filter]

theorem timed_perm :
    (timedBetween start now snapshots).Perm (observedInside start now snapshots) := by
  rw [timed_between_sorts]
  exact List.mergeSort_perm _ _

theorem time_trans (a b c : TimedSnapshot α) (hab : decide (a.1.nanos ≤ b.1.nanos) = true)
    (hbc : decide (b.1.nanos ≤ c.1.nanos) = true) : decide (a.1.nanos ≤ c.1.nanos) = true :=
  decide_eq_true ((of_decide_eq_true hab).trans (of_decide_eq_true hbc))

theorem time_total (a b : TimedSnapshot α) :
    (decide (a.1.nanos ≤ b.1.nanos) || decide (b.1.nanos ≤ a.1.nanos)) = true := by
  rw [Bool.or_eq_true, decide_eq_true_eq, decide_eq_true_eq]
  exact le_total a.1.nanos b.1.nanos

theorem timed_ascending :
    (timedBetween start now snapshots).Pairwise fun a b => a.1 ≤ b.1 := by
  rw [timed_between_sorts]
  exact (List.pairwise_mergeSort time_trans time_total _).imp of_decide_eq_true

theorem timed_in_order : InTimeOrder start now snapshots (timedBetween start now snapshots) := by
  refine ⟨timed_ascending start now snapshots, fun t => ?_⟩
  have hsame : ((observedInside start now snapshots).filter fun e => e.1 = t).Pairwise
      fun a b => decide (a.1.nanos ≤ b.1.nanos) = true := by
    apply List.pairwise_of_forall_mem_list
    intro a ha b hb
    have hta := (List.mem_filter.mp ha).2
    have htb := (List.mem_filter.mp hb).2
    rw [decide_eq_true_eq] at hta htb ⊢
    rw [hta, htb]
  -- the sort keeps every ascending part of its list, and has no more of any time than the list
  have hkept := List.sublist_mergeSort time_trans time_total hsame List.filter_sublist
  rw [← timed_between_sorts] at hkept
  have hsub := hkept.filter fun e => e.1 = t
  rw [List.filter_filter] at hsub
  simp only [Bool.and_self] at hsub
  exact (hsub.eq_of_length ((timed_perm start now snapshots).filter _).length_eq.symm).symm

theorem in_order_iff (timed : List (TimedSnapshot α)) :
    InTimeOrder start now snapshots timed ↔ timed = timedBetween start now snapshots := by
  constructor
  · intro h
    have htimed := timed_in_order start now snapshots
    have hnanos (t : Instant) (k : Int) : t.nanos = k ↔ t = ⟨k⟩ := by
      cases t
      simp
    apply ascending_ext (fun e : TimedSnapshot α => e.1.nanos) h.ascending htimed.ascending
    intro k
    simp only [hnanos]
    exact (h.stable ⟨k⟩).trans (htimed.stable ⟨k⟩).symm
  · rintro rfl
    exact timed_in_order start now snapshots

theorem timed_taken (e : TimedSnapshot α) (he : e ∈ timedBetween start now snapshots) :
    e.2.takenAt = some e.1 ∧ e.2 ∈ snapshots := by
  rw [(timed_perm start now snapshots).mem_iff, observedInside, List.mem_filterMap] at he
  obtain ⟨s, hs, ht⟩ := he
  obtain ⟨t, htaken, rfl⟩ := Option.map_eq_some_iff.mp ht
  exact ⟨htaken, List.mem_of_mem_filter hs⟩

end ScrapeTelemetry
