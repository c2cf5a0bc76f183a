import Mathlib
import ScrapeTelemetry.Window.Buckets

/-!
# Summaries from group to group

A group is summarized from the last observation of the group before it. The summaries of a
split window are therefore those of a walk: it starts at the first observation of all and
goes from one end of a group to the next.
-/

set_option autoImplicit false

namespace ScrapeTelemetry

variable {α : Type}

def groupEnds (groups : List (List (TimedSnapshot α))) : List (TimedSnapshot α) :=
  groups.filterMap List.getLast?

theorem group_ends_sublist (groups : List (List (TimedSnapshot α))) :
    (groupEnds groups).Sublist groups.flatten := by
  induction groups with
  | nil => exact .slnil
  | cons g more ih =>
    rw [List.flatten_cons, groupEnds, List.filterMap_cons]
    cases hlast : g.getLast? with
    | none => exact ih.trans (List.sublist_append_right g _)
    | some e =>
      have he : [e].Sublist g := List.singleton_sublist.mpr (List.mem_of_getLast? hlast)
      exact he.append ih

theorem last_group_end (groups : List (List (TimedSnapshot α))) :
    (groupEnds groups).getLast? = groups.flatten.getLast? := by
  induction groups with
  | nil => rfl
  | cons g more ih =>
    rw [List.flatten_cons, List.getLast?_append, ← ih, groupEnds, List.filterMap_cons]
    cases g.getLast? with
    | none => exact (Option.or_none).symm
    | some e =>
      have hcons : (e :: groupEnds more).getLast? = some ((groupEnds more).getLast?.getD e) :=
        List.getLast?_cons
      refine hcons.trans ?_
      cases (groupEnds more).getLast? <;> rfl

def summarizedGroups : List (List (TimedSnapshot α)) → List (List (TimedSnapshot α))
  | [_] :: more => more
  | groups => groups

theorem summarized_sublist (groups : List (List (TimedSnapshot α))) :
    (summarizedGroups groups).Sublist groups := by
  unfold summarizedGroups
  split
  · exact List.sublist_cons_self _ _
  · exact .refl _

variable [Scalar α]

def summariesAlong (q : WindowRequest) (baseline : Snapshot α) :
    List (TimedSnapshot α) → List (PeriodSummary α)
  | [] => []
  | e :: more => summarize baseline e.2 q :: summariesAlong q e.2 more

theorem groups_along (q : WindowRequest) (baseline : Snapshot α)
    (groups : List (List (TimedSnapshot α))) :
    summarizeGroups q (some baseline) groups =
      summariesAlong q baseline (groupEnds groups) := by
  induction groups generalizing baseline with
  | nil => rfl
  | cons g more ih =>
    rw [summarizeGroups, groupEnds, List.filterMap_cons]
    cases g.getLast? with
    | none => exact ih baseline
    | some last => exact congrArg (_ :: ·) (ih last.2)

/-- Without a summary of its own, a single first observation is still where the next
summary starts. -/
theorem groups_from_first (q : WindowRequest) (groups : List (List (TimedSnapshot α)))
    (hfull : [] ∉ groups) (first : TimedSnapshot α) (rest : List (TimedSnapshot α))
    (h : groups.flatten = first :: rest) :
    summarizeGroups q none groups =
      summariesAlong q first.2 (groupEnds (summarizedGroups groups)) := by
  cases groups with
  | nil => cases h
  | cons g more =>
    cases g with
    | nil => exact absurd List.mem_cons_self hfull
    | cons a g =>
      obtain ⟨rfl, -⟩ := List.cons.inj h
      cases g with
      | nil => exact groups_along q a.2 more
      | cons b g => exact congrArg (_ :: ·) (groups_along q _ more)

section

variable (q : WindowRequest) {groups : List (List (TimedSnapshot α))} (hfull : [] ∉ groups)
  (htaken : ∀ e ∈ groups.flatten, e.2.takenAt = some e.1) (htwo : 2 ≤ groups.flatten.length)
include hfull htwo

include htaken

end

end ScrapeTelemetry
