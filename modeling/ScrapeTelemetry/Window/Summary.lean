import ScrapeTelemetry.Clock.Instant
import ScrapeTelemetry.Counter
import ScrapeTelemetry.Latency.Histogram
import ScrapeTelemetry.Settings.Basic

/-!
# Summaries of a window

Two cumulative observations of a service give its figures for the time between
them. What went backwards was reset in between, and its later value counts.
-/

set_option autoImplicit false

namespace ScrapeTelemetry

open Scalar

variable {α : Type} [Scalar α]

structure WindowRequest where
  since : Duration
  bucket : Duration
  deriving DecidableEq, Repr

namespace WindowRequest

def defaultWindow : Duration := .ofSeconds 300

def default : WindowRequest := ⟨defaultWindow, .ofSeconds 60⟩

def ofSettings (s : TimingSettings) : WindowRequest := ⟨s.defaultWindow, default.bucket⟩

def seconds (q : WindowRequest) : α :=
  if q.since.isZero then defaultWindow.seconds else q.since.seconds

end WindowRequest

structure Snapshot (α : Type) where
  takenAt : Option Instant
  requests : α
  errors : α
  latencySum : α
  latencyCount : α
  bounds : List α
  buckets : List Nat

def Snapshot.ofHistogram (requests errors : α) (h : Histogram α) :
    Snapshot α where
  takenAt := none
  requests := requests
  errors := errors
  latencySum := h.sum
  latencyCount := h.observations
  bounds := h.spread.bounds
  buckets := h.spread.counts

structure PeriodSummary (α : Type) where
  start : Option Instant
  stop : Option Instant
  windowSeconds : α
  requests : α
  errors : α
  requestsPerSecond : α
  successRate : α
  errorRate : α
  latency : LatencyFigures α

def windowIncrease (earliest latest : α) : α :=
  zeroUnlessFinite (if latest < earliest then larger latest 0 else latest - earliest)

def spanSeconds (earliest latest : Snapshot α) (q : WindowRequest) : α :=
  match earliest.takenAt, latest.takenAt with
  | some start, some stop => if start < stop then start.secondsTo stop else q.seconds
  | _, _ => q.seconds

def sameBounds : List α → List α → Bool
  | [], [] => true
  | a :: as, b :: bs => same a b && sameBounds as bs
  | _, _ => false

def bucketsBetween (earliest latest : Snapshot α) : List Nat :=
  if sameBounds earliest.bounds latest.bounds then
    bucketIncrements earliest.buckets latest.buckets
  else latest.buckets

def summarize (earliest latest : Snapshot α) (q : WindowRequest) : PeriodSummary α :=
  let window := spanSeconds earliest latest q
  let requests := windowIncrease earliest.requests latest.requests
  let errors := smaller (windowIncrease earliest.errors latest.errors) requests
  let count := windowIncrease earliest.latencyCount latest.latencyCount
  let sum := windowIncrease earliest.latencySum latest.latencySum
  { start := earliest.takenAt
    stop := latest.takenAt
    windowSeconds := window
    requests := requests
    errors := errors
    requestsPerSecond := meanPerSecond requests window
    successRate := shareOf (requests - errors) requests
    errorRate := shareOf errors requests
    latency :=
      ⟨if 0 < count then zeroUnlessFinite (sum / count) else 0,
       .estimate latest.bounds (bucketsBetween earliest latest)⟩ }

end ScrapeTelemetry
