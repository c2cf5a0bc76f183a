import ScrapeTelemetry.Proofs.Number.Products
import ScrapeTelemetry.Proofs.Traffic.Families
import ScrapeTelemetry.Traffic.Recognizer

/-!
# Seconds as milliseconds

Only samples with a finite value are recognized. Two vendors time requests in seconds, and
the bounds and sums of their histograms are scaled after that check: what is larger than any
double once it is in milliseconds becomes infinite. Nothing else that is recognized does.
-/

set_option autoImplicit false

namespace ScrapeTelemetry
open Scalar

variable {α : Type}

def TrafficSample.role? : TrafficSample α → Option (SeriesRole α)
  | .ingressTiming s => some s.part
  | .meshTiming s => some s.part
  | .ingressCount _ | .meshCount _ | .node _ => none

namespace Sample

def inSeconds (s : Sample α) : Bool :=
  beginsWith s.name "traefik_service_request_duration_seconds_" ||
    beginsWith s.name "nginx_ingress_controller_request_duration_seconds_"

def toMillis [Scalar α] (s : Sample α) : α := if s.inSeconds then 1000 else 1

def bound? (s : Sample α) : Option Numeral :=
  (s.label? "le").bind fun le => Numeral.read? le.toList

end Sample

section
variable [Scalar α]

def Sample.Becomes (s : Sample α) (t : TrafficSample α) : Prop :=
  t.role? = none ∧ t.value = s.value ∨
    ∃ p, s.seriesRole? s.toMillis = some p ∧ t.role? = some p.1 ∧ t.value = p.2

theorem series_role_cases {s : Sample α} {scale : α} {p : SeriesRole α × α}
    (h : s.seriesRole? scale = some p) :
    (∃ n, s.bound? = some n ∧ p = (.bucket ((UpperBound.ofNumeral n).scale scale), s.value)) ∨
      p = (.sum, s.value * scale) ∨ p = (.count, s.value) := by
  unfold Sample.seriesRole? at h
  split at h
  · obtain ⟨n, hn, hrole⟩ := Option.bind_eq_some_iff.mp h
    split at hrole
    · cases hrole
    · exact .inl ⟨n, hn, (Option.some.inj hrole).symm⟩
  · split at h
    · exact .inr (.inl (Option.some.inj h).symm)
    · split at h
      · exact .inr (.inr (Option.some.inj h).symm)
      · cases h

section
variable {s : Sample α} {t : TrafficSample α} {vendor : Vendor} {backend? : Option String}

theorem ingress_count_becomes (h : s.ingressCount? vendor backend? = some t) : s.Becomes t := by
  obtain ⟨_, -, h⟩ := Option.bind_eq_some_iff.mp h
  split at h <;> cases h
  exact .inl ⟨rfl, rfl⟩

theorem ingress_timing_becomes {scale : α} (hscale : s.toMillis = scale)
    (h : s.ingressTiming? vendor backend? scale = some t) : s.Becomes t := by
  obtain ⟨_, -, h⟩ := Option.bind_eq_some_iff.mp h
  obtain ⟨p, hp, rfl⟩ := Option.map_eq_some_iff.mp h
  rw [← hscale] at hp
  exact .inr ⟨p, hp, rfl, rfl⟩

theorem mesh_count_becomes (h : s.meshCount? = some t) : s.Becomes t := by
  obtain ⟨_, -, rfl⟩ := Option.map_eq_some_iff.mp h
  exact .inl ⟨rfl, rfl⟩

theorem mesh_timing_becomes (hscale : s.toMillis = 1) (h : s.meshTiming? = some t) :
    s.Becomes t := by
  obtain ⟨p, hp, h⟩ := Option.bind_eq_some_iff.mp h
  obtain ⟨_, -, rfl⟩ := Option.map_eq_some_iff.mp h
  rw [← hscale] at hp
  exact .inr ⟨p, hp, rfl, rfl⟩

theorem node_reading_becomes {n : Recognizer} (h : n.nodeReading? s = some t) :
    s.Becomes t := by
  obtain ⟨_, -, h⟩ := Option.bind_eq_some_iff.mp h
  obtain ⟨_, -, rfl⟩ := Option.map_eq_some_iff.mp h
  exact .inl ⟨rfl, rfl⟩

/-- The scale that a metric is recognized with is that of its unit. -/
theorem recognized_becomes {n : Recognizer} (h : n.recognize s = some t) :
    isFinite s.value = true ∧ s.Becomes t := by
  unfold Recognizer.recognize at h
  rcases ite_eq_iff.mp h with ⟨-, h⟩ | ⟨hfinite, h⟩
  · cases h
  refine ⟨by simpa using hfinite, ?_⟩
  rcases ite_eq_iff.mp h with ⟨-, h⟩ | ⟨-, h⟩
  · exact ingress_count_becomes h
  rcases ite_eq_iff.mp h with ⟨htraefik, h⟩ | ⟨htraefik, h⟩
  · exact ingress_timing_becomes (if_pos (by rw [Sample.inSeconds, htraefik, Bool.true_or])) h
  rcases ite_eq_iff.mp h with ⟨-, h⟩ | ⟨-, h⟩
  · exact ingress_count_becomes h
  rcases ite_eq_iff.mp h with ⟨hnginx, h⟩ | ⟨hnginx, h⟩
  · exact ingress_timing_becomes (if_pos (by rw [Sample.inSeconds, hnginx, Bool.or_true])) h
  -- of the metrics that are left none is in seconds
  have hscale : s.toMillis = 1 := if_neg (by simp only [Sample.inSeconds, htraefik, hnginx,
    Bool.or_false, not_false_eq_true, Bool.false_eq_true])
  rcases ite_eq_iff.mp h with ⟨-, h⟩ | ⟨-, h⟩
  · exact ingress_count_becomes h
  rcases ite_eq_iff.mp h with ⟨-, h⟩ | ⟨-, h⟩
  · exact ingress_timing_becomes hscale h
  rcases ite_eq_iff.mp h with ⟨-, h⟩ | ⟨-, h⟩
  · exact ingress_timing_becomes hscale h
  rcases ite_eq_iff.mp h with ⟨-, h⟩ | ⟨-, h⟩
  · exact mesh_count_becomes h
  rcases ite_eq_iff.mp h with ⟨-, h⟩ | ⟨-, h⟩
  · exact mesh_timing_becomes hscale h
  rcases ite_eq_iff.mp h with ⟨-, h⟩ | ⟨-, h⟩
  · exact node_reading_becomes h
  · cases h

end
end

def FiniteInMillis (x : Float) : Prop := -largestThousandth ≤ x ∧ x ≤ largestThousandth

theorem scaled_finite_iff (s : Sample Float) {x : Float} (h : isFinite x = true) :
    isFinite (x * s.toMillis) = true ↔ (s.inSeconds = true → FiniteInMillis x) := by
  unfold Sample.toMillis
  split
  · rename_i hseconds
    rw [hseconds]
    exact (thousand_times_finite_iff h).trans ⟨fun hx _ => hx, fun hx => hx rfl⟩
  · rename_i hseconds
    exact iff_of_true (once_finite h) fun hs => absurd hs hseconds

theorem of_scalar_finite (a : α) [Scalar α] :
    (UpperBound.ofScalar a).isFinite = isFinite a := by
  unfold UpperBound.ofScalar
  split
  · rename_i h
    exact h.symm
  · rename_i h
    rw [Bool.not_eq_true] at h
    rw [h]
    split
    · rfl
    · split <;> rfl

/-- A numeral that denotes a finite double is the bound at that double. -/
theorem finite_bound {n : Numeral} (h : isFinite n.toFloat = true) :
    UpperBound.ofNumeral n = .finite n.toFloat := by
  cases n with
  | finite d => exact if_pos h
  | infinite negative => cases negative <;> exact absurd h (by decide +kernel)
  | undefined => exact absurd h (by decide +kernel)

/-- What is recognized has a finite value, and the bounds of its buckets are finite where they
denote a finite double; only where the metric is in seconds, its sums and bounds have to be
finite in milliseconds too. -/
theorem recognized_finite_iff (n : Recognizer) (s : Sample Float) (t : TrafficSample Float)
    (h : n.recognize s = some t) :
    (isFinite t.value = true ↔
      (s.inSeconds = true → t.role? = some .sum → FiniteInMillis s.value)) ∧
    ∀ b, t.role? = some (.bucket b) → ∃ le, s.bound? = some le ∧
      (isFinite le.toFloat = true →
        (b.isFinite = true ↔ (s.inSeconds = true → FiniteInMillis le.toFloat))) := by
  obtain ⟨hfinite, ⟨hrole, hvalue⟩ | ⟨p, hp, hrole, hvalue⟩⟩ := recognized_becomes h
  · rw [hrole, hvalue]
    exact ⟨iff_of_true hfinite fun _ => nofun, nofun⟩
  rw [hrole, hvalue]
  rcases series_role_cases hp with ⟨le, hle, rfl⟩ | rfl | rfl
  · refine ⟨iff_of_true hfinite fun _ => nofun, fun b hb => ⟨le, hle, fun hx => ?_⟩⟩
    cases hb
    rw [finite_bound hx, ← scaled_finite_iff s hx]
    exact Bool.coe_iff_coe.mpr (of_scalar_finite _)
  · refine ⟨?_, nofun⟩
    rw [scaled_finite_iff s hfinite]
    exact ⟨fun hscaled hs _ => hscaled hs, fun hscaled hs => hscaled hs rfl⟩
  · exact ⟨iff_of_true hfinite fun _ => nofun, nofun⟩

def longBucket : Sample Float :=
  ⟨"nginx_ingress_controller_request_duration_seconds_bucket", .histogramBucket,
    .ofList [("host", "shop.example"), ("le", "1e306")], 3⟩

def longSum : Sample Float :=
  ⟨"nginx_ingress_controller_request_duration_seconds_sum", .histogramSum,
    .ofList [("host", "shop.example")], 1e306⟩

theorem long_bucket_recognized :
    ∃ t, Recognizer.recognize {} longBucket = some t ∧
      (isFinite t.value = true ↔
        (longBucket.inSeconds = true → t.role? = some .sum → FiniteInMillis longBucket.value)) ∧
      ∀ b, t.role? = some (.bucket b) → ∃ le, longBucket.bound? = some le ∧
        (isFinite le.toFloat = true →
          (b.isFinite = true ↔ (longBucket.inSeconds = true → FiniteInMillis le.toFloat))) := by
  have hknown : (Recognizer.recognize {} longBucket).isSome = true := by decide +kernel
  obtain ⟨t, ht⟩ := Option.isSome_iff_exists.mp hknown
  exact ⟨t, ht, recognized_finite_iff {} longBucket t ht⟩

/-- Finite seconds can be an infinite sum and an infinite bound in milliseconds. -/
theorem long_durations_overflow :
    ¬ (∀ (n : Recognizer) (s : Sample Float) (t : TrafficSample Float),
        n.recognize s = some t → isFinite t.value = true) ∧
      ¬ ∀ (n : Recognizer) (s : Sample Float) (t : TrafficSample Float),
        n.recognize s = some t → ∀ b le, t.role? = some (.bucket b) → s.bound? = some le →
          isFinite le.toFloat = true → b.isFinite = true := by
  constructor
  · intro h
    have hsum : (Recognizer.recognize {} longSum).map (fun t => isFinite t.value) =
        some false := by
      decide +kernel
    obtain ⟨t, ht, hinfinite⟩ := Option.map_eq_some_iff.mp hsum
    rw [h {} longSum t ht] at hinfinite
    exact Bool.noConfusion hinfinite
  · intro h
    have hbucket : (Recognizer.recognize {} longBucket).bind TrafficSample.role? =
        some (.bucket .posInf) := by
      decide +kernel
    have hle : longBucket.bound? = some (.finite ⟨false, 1, 306⟩) := by decide +kernel
    obtain ⟨t, ht, hrole⟩ := Option.bind_eq_some_iff.mp hbucket
    exact Bool.noConfusion (h {} longBucket t ht .posInf _ hrole hle (by decide +kernel))

end ScrapeTelemetry
