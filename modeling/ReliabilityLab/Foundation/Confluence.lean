import Mathlib.Data.List.Basic

namespace ReliabilityLab

/-- States that go on by themselves, or wait for a label, and never have a choice. -/
structure Driven {State Label : Type} (step : State → Option Label → State → Prop) : Prop where
  determined : ∀ {s label t u}, step s label t → step s label u → t = u
  waits : ∀ {s t label u}, step s none t → ¬ step s (some label) u

section Runs
variable {State Label : Type} {step : State → Option Label → State → Prop}

/-- Steps one after another, with the labels that they took. -/
inductive Runs (step : State → Option Label → State → Prop) : State → List Label → State → Prop
  | refl {s} : Runs step s [] s
  | silent {s t u labels} : step s none t → Runs step t labels u → Runs step s labels u
  | labelled {s t u label labels} : step s (some label) t → Runs step t labels u → Runs step s (label :: labels) u

/-- The state does not go on by itself. -/
def Stopped (step : State → Option Label → State → Prop) (s : State) : Prop := ∀ t, ¬ step s none t

variable {s t u : State} {label : Label} {labels more : List Label}

theorem Runs.snoc_silent (runs : Runs step s labels t) (last : step t none u) : Runs step s labels u := by
  induction runs with
  | refl => exact .silent last .refl
  | silent first _ ih => exact .silent first (ih last)
  | labelled first _ ih => exact .labelled first (ih last)

theorem Runs.snoc_labelled (runs : Runs step s labels t) (last : step t (some label) u) :
    Runs step s (labels ++ [label]) u := by
  induction runs with
  | refl => exact .labelled last .refl
  | silent first _ ih => exact .silent first (ih last)
  | labelled first _ ih => exact .labelled first (ih last)

/-- A state that has stopped is on the way of every run that takes the same labels and more. -/
theorem Driven.continues (driven : Driven step) {all : List Label} (first : Runs step s labels t)
    (stopped : Stopped step t) (second : Runs step s all u) (split : all = labels ++ more) (stopped' : Stopped step u) :
    Runs step t more u := by
  induction first generalizing all with
  | refl => rwa [split, List.nil_append] at second
  | @silent s middle t labels gone _ ih =>
    cases second with
    | refl => exact absurd gone (stopped' middle)
    | silent other rest =>
      rw [driven.determined other gone] at rest
      exact ih stopped rest split
    | labelled other rest => exact absurd other (driven.waits gone)
  | @labelled s middle t label labels gone _ ih =>
    cases second with
    | refl => cases split
    | silent other rest => exact absurd gone (driven.waits other)
    | labelled other rest =>
      obtain ⟨same, tail⟩ := List.cons.inj split
      rw [same] at other
      rw [driven.determined other gone] at rest
      exact ih stopped rest tail

/-- Runs with the same labels that have stopped have met. -/
theorem Driven.meet (driven : Driven step) (first : Runs step s labels t) (stopped : Stopped step t)
    (second : Runs step s labels u) (stopped' : Stopped step u) : t = u := by
  have rest : Runs step t [] u := driven.continues first stopped second (List.append_nil labels).symm stopped'
  cases rest with
  | refl => rfl
  | silent gone _ => exact absurd gone (stopped _)

end Runs

end ReliabilityLab
