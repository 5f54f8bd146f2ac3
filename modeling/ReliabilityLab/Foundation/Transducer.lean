import Mathlib.Data.List.Forall2

namespace ReliabilityLab

/-- A machine that answers one input after another. -/
structure Transducer (State Input Output : Type) where
  step : State → Input → State × Output

namespace Transducer
variable {State Input Output : Type}

/-- The state after the inputs. -/
def after (M : Transducer State Input Output) : State → List Input → State
  | s, [] => s
  | s, input :: rest => M.after (M.step s input).1 rest

/-- The answers to the inputs. -/
def answers (M : Transducer State Input Output) : State → List Input → List Output
  | _, [] => []
  | s, input :: rest => (M.step s input).2 :: M.answers (M.step s input).1 rest

variable {M : Transducer State Input Output} {s : State}

@[simp] theorem after_nil : M.after s [] = s := rfl

@[simp] theorem after_cons {input : Input} {rest : List Input} :
    M.after s (input :: rest) = M.after (M.step s input).1 rest := rfl

@[simp] theorem answers_nil : M.answers s [] = [] := rfl

@[simp] theorem answers_cons {input : Input} {rest : List Input} :
    M.answers s (input :: rest) = (M.step s input).2 :: M.answers (M.step s input).1 rest := rfl

theorem after_append {inputs more : List Input} : M.after s (inputs ++ more) = M.after (M.after s inputs) more := by
  induction inputs generalizing s with
  | nil => rfl
  | cons input rest ih => exact ih

theorem answers_append {inputs more : List Input} :
    M.answers s (inputs ++ more) = M.answers s inputs ++ M.answers (M.after s inputs) more := by
  induction inputs generalizing s with
  | nil => rfl
  | cons input rest ih => rw [List.cons_append, answers_cons, answers_cons, ih, after_cons, List.cons_append]

/-- The invariant rule, with what it says of each answer. -/
theorem answers_related (holds : State → Prop) {related : Input → Output → Prop}
    (kept : ∀ s input, holds s → holds (M.step s input).1 ∧ related input (M.step s input).2)
    (start : holds s) (inputs : List Input) :
    holds (M.after s inputs) ∧ List.Forall₂ related inputs (M.answers s inputs) := by
  induction inputs generalizing s with
  | nil => exact ⟨start, .nil⟩
  | cons input rest ih =>
    obtain ⟨here, answered⟩ := kept s input start
    obtain ⟨there, later⟩ := ih here
    exact ⟨there, .cons answered later⟩

/-- An answer that only an open state gives, and that closes it for good, is given at most once. -/
theorem answered_once (opened : State → Prop) {grants : Output → Bool}
    (granted : ∀ s input, grants (M.step s input).2 = true → opened s ∧ ¬ opened (M.step s input).1)
    (closed : ∀ s input, ¬ opened s → ¬ opened (M.step s input).1) (inputs : List Input) :
    ((M.answers s inputs).filter grants).length ≤ 1 := by
  have none : ∀ inputs s, ¬ opened s → (M.answers s inputs).filter grants = [] := by
    intro inputs
    induction inputs with
    | nil => exact fun s _ => rfl
    | cons input rest ih =>
      intro s shut
      have other : ¬ grants (M.step s input).2 = true := fun grant => shut (granted s input grant).1
      rw [answers_cons, List.filter_cons_of_neg other]
      exact ih _ (closed s input shut)
  induction inputs generalizing s with
  | nil => exact Nat.zero_le 1
  | cons input rest ih =>
    rw [answers_cons]
    by_cases grant : grants (M.step s input).2 = true
    · rw [List.filter_cons_of_pos grant, none rest _ (granted s input grant).2]
      exact Nat.le_refl 1
    · rw [List.filter_cons_of_neg grant]
      exact ih

/-- A log of what the inputs of a kind bring holds it in the order of these inputs. -/
theorem log_after {Item : Type} {log : State → List Item} (kind : Item → Bool) (item : Input → Item)
    (appends : ∀ s input, log (M.step s input).1 = log s ++ if kind (item input) then [item input] else [])
    (inputs : List Input) : log (M.after s inputs) = log s ++ (inputs.map item).filter kind := by
  induction inputs generalizing s with
  | nil => rw [after_nil, List.map_nil, List.filter_nil, List.append_nil]
  | cons input rest ih =>
    rw [after_cons, ih, appends, List.append_assoc, List.map_cons]
    by_cases counts : kind (item input) = true
    · rw [if_pos counts, List.filter_cons_of_pos counts, List.singleton_append]
    · rw [if_neg counts, List.filter_cons_of_neg counts, List.nil_append]

/-- Two machines in step: alike inputs keep alike states, and get alike answers. -/
theorem in_step {State' Input' Output' : Type} {N : Transducer State' Input' Output'} {twins : Input → Input' → Prop}
    (alike : State → State' → Prop) (same : Output → Output' → Prop)
    (keeps : ∀ s t input other, alike s t → twins input other →
      alike (M.step s input).1 (N.step t other).1 ∧ same (M.step s input).2 (N.step t other).2)
    {t : State'} (start : alike s t) {inputs : List Input} {others : List Input'} (pairs : List.Forall₂ twins inputs others) :
    alike (M.after s inputs) (N.after t others) ∧ List.Forall₂ same (M.answers s inputs) (N.answers t others) := by
  induction pairs generalizing s t with
  | nil => exact ⟨start, .nil⟩
  | cons twin _ ih =>
    obtain ⟨here, answered⟩ := keeps _ _ _ _ start twin
    obtain ⟨there, later⟩ := ih here
    exact ⟨there, .cons answered later⟩

end Transducer

end ReliabilityLab
