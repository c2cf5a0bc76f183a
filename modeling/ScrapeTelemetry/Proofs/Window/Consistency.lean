import ScrapeTelemetry.Proofs.Slo.Consistency
import ScrapeTelemetry.Proofs.Window.Increase

/-!
# Summaries that agree with themselves

Each counter of a window may have been reset on its own, and counts what it shows after that.
However the counters fell, a summary has no more errors than requests, and shares and means
that belong to them.
-/

set_option autoImplicit false

namespace ScrapeTelemetry
open Scalar

structure PeriodSummary.Consistent (p : PeriodSummary Rat) : Prop where
  errors_nonneg : 0 ≤ p.errors
  errors_le : p.errors ≤ p.requests
  successRate : PercentOf p.requests p.successRate
  errorRate : PercentOf p.requests p.errorRate
  complementary : 0 < p.requests → p.successRate + p.errorRate = 100
  perSecond_nonneg : 0 ≤ p.requestsPerSecond
  mean_nonneg : 0 ≤ p.latency.mean

theorem window_mean_nonneg (earliest latest : Snapshot Rat) (q : WindowRequest) :
    0 ≤ (summarize earliest latest q).latency.mean := by
  have hmean : (summarize earliest latest q).latency.mean =
      if 0 < windowIncrease earliest.latencyCount latest.latencyCount then
        windowIncrease earliest.latencySum latest.latencySum /
          windowIncrease earliest.latencyCount latest.latencyCount
      else 0 := rfl
  rw [hmean]
  split
  · exact div_nonneg (window_increase_nonneg _ _) (window_increase_nonneg _ _)
  · exact le_rfl

/-- Whatever two observations show and whatever was reset between them, the figures of
their window agree with one another. -/
theorem summary_consistent (earliest latest : Snapshot Rat) (q : WindowRequest) :
    (summarize earliest latest q).Consistent := by
  have hrequests : 0 ≤ (summarize earliest latest q).requests := window_increase_nonneg _ _
  have herrors : (summarize earliest latest q).errors =
      min (windowIncrease earliest.errors latest.errors) (summarize earliest latest q).requests :=
    smaller_exact _ _
  have hnonneg : 0 ≤ (summarize earliest latest q).errors := by
    rw [herrors]
    exact le_min (window_increase_nonneg _ _) hrequests
  have hle : (summarize earliest latest q).errors ≤ (summarize earliest latest q).requests := by
    rw [herrors]
    exact min_le_right _ _
  constructor
  · exact hnonneg
  · exact hle
  · exact share_percent (sub_nonneg.mpr hle) (sub_le_self _ hnonneg)
  · exact share_percent hnonneg hle
  · exact shares_complementary
  · exact mean_per_second_nonneg hrequests _
  · exact window_mean_nonneg earliest latest q

end ScrapeTelemetry
