import Mathlib

/-!
# Runs of a machine

A machine takes one input after another; each step gives its next state and an output.
What a run does is read off one step: the state before it and its own input.
-/

set_option autoImplicit false

namespace ScrapeTelemetry

variable {σ ι ω : Type} (step : σ → ι → σ × ω)

def outputs (s : σ) : List ι → List ω
  | [] => []
  | i :: more => (step s i).2 :: outputs (step s i).1 more

def stateAfter (s : σ) (inputs : List ι) : σ := inputs.foldl (fun s i => (step s i).1) s

/-- The input of the step before; `i0` stands where there was none. -/
def inputBefore (i0 : ι) (inputs : List ι) : ℕ → ι
  | 0 => i0
  | n + 1 => inputs.getD n i0

theorem input_before_map {κ : Type} (f : ι → κ) (i0 : ι) (inputs : List ι) (n : ℕ) :
    inputBefore (f i0) (inputs.map f) n = f (inputBefore i0 inputs n) := by
  cases n with
  | zero => rfl
  | succ n => exact List.getD_map inputs i0 f

theorem input_before_end (i0 : ι) (inputs : List ι) :
    inputBefore i0 inputs inputs.length = inputs.getLastD i0 := by
  cases inputs with
  | nil => rfl
  | cons i more =>
    rw [List.length_cons, inputBefore, List.getD_eq_getElem?_getD, List.getLastD_eq_getLast?,
      List.getLast?_eq_getElem?]
    rfl

theorem state_next (s : σ) (inputs : List ι) (n : ℕ) (h : n < inputs.length) :
    stateAfter step s (inputs.take (n + 1)) =
      (step (stateAfter step s (inputs.take n)) inputs[n]).1 := by
  unfold stateAfter
  rw [List.take_succ_eq_append_getElem h, List.foldl_append]
  rfl

theorem output_at (s : σ) (inputs : List ι) (n : ℕ) (h : n < inputs.length) :
    (outputs step s inputs)[n]? =
      some (step (stateAfter step s (inputs.take n)) inputs[n]).2 := by
  induction inputs generalizing s n with
  | nil => exact absurd h (Nat.not_lt_zero n)
  | cons i more ih =>
    cases n with
    | zero => rfl
    | succ n => exact ih (step s i).1 n (Nat.lt_of_succ_lt_succ h)

theorem outputs_append (s : σ) (inputs more : List ι) :
    outputs step s (inputs ++ more) =
      outputs step s inputs ++ outputs step (stateAfter step s inputs) more := by
  induction inputs generalizing s with
  | nil => rfl
  | cons i inputs ih => exact congrArg _ (ih (step s i).1)

/-- What each step keeps of two states and shows of two inputs, two runs keep and show. -/
theorem runs_related (R : σ → σ → Prop) (I : ι → ι → Prop) (O : ω → ω → Prop)
    (hstep : ∀ s t i j, R s t → I i j → R (step s i).1 (step t j).1 ∧ O (step s i).2 (step t j).2)
    {inputs inputs' : List ι} (h : List.Forall₂ I inputs inputs') (s t : σ) (hst : R s t) :
    R (stateAfter step s inputs) (stateAfter step t inputs') ∧
      List.Forall₂ O (outputs step s inputs) (outputs step t inputs') := by
  induction h generalizing s t with
  | nil => exact ⟨hst, .nil⟩
  | cons hij _ ih =>
    obtain ⟨hnext, hout⟩ := hstep s t _ _ hst hij
    obtain ⟨hstate, houts⟩ := ih _ _ hnext
    exact ⟨hstate, .cons hout houts⟩

/-- What every step leaves of its own input is there before each step of a run. -/
theorem last_input_holds (P : σ → ι → Prop) (s : σ) (i0 : ι) (h0 : P s i0)
    (hstep : ∀ s i, P (step s i).1 i) (inputs : List ι) (n : ℕ) (h : n ≤ inputs.length) :
    P (stateAfter step s (inputs.take n)) (inputBefore i0 inputs n) := by
  -- no induction: a step owes nothing to the state it starts from
  cases n with
  | zero => exact h0
  | succ n =>
    rw [state_next step s inputs n h, inputBefore, List.getD_eq_getElem inputs i0 h]
    exact hstep _ _

end ScrapeTelemetry
