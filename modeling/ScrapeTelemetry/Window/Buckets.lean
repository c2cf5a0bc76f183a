import ScrapeTelemetry.Window.Summary

/-!
# Windows split into buckets

The observations inside a window are grouped by the bucket that their time falls
into. Each group is compared with the last observation of the group before, so
that summaries that follow each other share an edge and nothing between is lost.
-/

set_option autoImplicit false

namespace ScrapeTelemetry

open Scalar

variable {α : Type} [Scalar α]

abbrev TimedSnapshot (α : Type) := Instant × Snapshot α

def millisLimit : Nat := Nat.pow 2 63 - 1

def WindowRequest.windowMillis (α : Type) [Scalar α] (q : WindowRequest) : Nat :=
  min millisLimit (truncate ((q.seconds : α) * 1000))

def WindowRequest.start? (α : Type) [Scalar α] (q : WindowRequest) (now : Instant) :
    Option Instant :=
  now.plus? (-((q.windowMillis α : Int) * 1000000))

def timedBetween (start now : Instant) (snapshots : List (Snapshot α)) :
    List (TimedSnapshot α) :=
  let timed := snapshots.filterMap fun s => s.takenAt.map fun t => (t, s)
  let inside := timed.filter fun e => start ≤ e.1 && e.1 ≤ now
  inside.mergeSort fun a b => a.1.nanos ≤ b.1.nanos

/-- The width of a bucket, of a millisecond at least. A signed word counts the milliseconds, so
a width above `millisLimit` wraps around. -/
def WindowRequest.bucketMillis (q : WindowRequest) : Int :=
  Int.bmod (max q.bucket.millis 1 : Nat) (Nat.pow 2 64)

def bucketIndex (start : Instant) (bucketMillis : Int) (t : Instant) : Int :=
  (start.millisTo t).tdiv bucketMillis

def groupByBucket (start : Instant) (bucketMillis : Int) (timed : List (TimedSnapshot α)) :
    List (List (TimedSnapshot α)) :=
  timed.splitBy fun a b => bucketIndex start bucketMillis a.1 == bucketIndex start bucketMillis b.1

def firstAndLast? (timed : List (TimedSnapshot α)) :
    Option (Snapshot α × Snapshot α) :=
  match timed with
  | first :: second :: more => some (first.2, ((second :: more).getLastD first).2)
  | _ => none

def summarizeGroups (q : WindowRequest) (baseline? : Option (Snapshot α)) :
    List (List (TimedSnapshot α)) → List (PeriodSummary α)
  | [] => []
  | group :: more =>
    match group.getLast? with
    | none => summarizeGroups q baseline? more
    | some last =>
      let rest := summarizeGroups q (some last.2) more
      match baseline? with
      | some baseline => summarize baseline last.2 q :: rest
      | none =>
        match firstAndLast? group with
        | some (first, last) => summarize first last q :: rest
        | none => rest

/-- The summaries of the window that ends at `now`, in order of time. There is no answer if no
clock shows where the window starts, or if anything is to fall into buckets of no width. -/
def summarizeSplit? (snapshots : List (Snapshot α)) (q : WindowRequest)
    (now : Instant) : Option (List (PeriodSummary α)) :=
  (q.start? α now).bind fun start =>
    let timed := timedBetween start now snapshots
    if q.bucket.isZero then
      match firstAndLast? timed with
      | some (first, last) => some [summarize first last q]
      | none => some []
    else if q.bucketMillis = 0 ∧ timed.isEmpty = false then none
    else some (summarizeGroups ⟨q.bucket, .zero⟩ none (groupByBucket start q.bucketMillis timed))

end ScrapeTelemetry
