import ReliabilityLab.Foundation.Interleaving

namespace ReliabilityLab

namespace Program
variable {Op : Type} {Answer : Op → Type} {Exn α β Reading State : Type}

/-- The program alone, from its first operation to its last. Readings are taken one after another. -/
def execute (apply : (op : Op) → Reading → State → Answer op × State) (readings : Nat → Reading) :
    Program Op Answer Exn α → Nat × State → Except Exn α × Nat × State
  | .ret value, here => (.ok value, here)
  | .raise error, here => (.error error, here)
  | .perform op next, (clock, s) =>
    (next (apply op (readings clock) s).1).execute apply readings (clock + 1, (apply op (readings clock) s).2)

variable {apply : (op : Op) → Reading → State → Answer op × State} {readings : Nat → Reading}

@[simp] theorem execute_ret {value : α} {here : Nat × State} :
    (Program.ret value : Program Op Answer Exn α).execute apply readings here = (.ok value, here) := rfl

@[simp] theorem execute_raise {error : Exn} {here : Nat × State} :
    (Program.raise error : Program Op Answer Exn α).execute apply readings here = (.error error, here) := rfl

theorem execute_perform {op : Op} {next : Answer op → Program Op Answer Exn α} {here : Nat × State} :
    (Program.perform op next).execute apply readings here =
      (next (apply op (readings here.1) here.2).1).execute apply readings
        (here.1 + 1, (apply op (readings here.1) here.2).2) := rfl

/-- A sequence returns where its first part and then the rest do. -/
theorem execute_bind_ok {p : Program Op Answer Exn α} {f : α → Program Op Answer Exn β} {here after : Nat × State}
    {result : β} : (p.bind f).execute apply readings here = (.ok result, after) ↔
      ∃ value middle, p.execute apply readings here = (.ok value, middle) ∧
        (f value).execute apply readings middle = (.ok result, after) := by
  induction p generalizing here with
  | ret value =>
    constructor
    · intro done
      exact ⟨value, here, rfl, done⟩
    · rintro ⟨_, _, same, done⟩
      cases same
      exact done
  | raise error => simp
  | perform op next ih => simp only [perform_bind, execute_perform, ih]

theorem execute_ofExcept_ok {result : Except Exn α} {here after : Nat × State} {value : α} :
    (ofExcept result : Program Op Answer Exn α).execute apply readings here = (.ok value, after) ↔
      result = .ok value ∧ after = here := by
  cases result with
  | ok known => simp [eq_comm]
  | error error => simp

/-- What every operation keeps, a whole execution keeps. -/
theorem execute_keeps {R : State → Prop} (kept : ∀ op reading s, R s → R (apply op reading s).2)
    (p : Program Op Answer Exn α) {here : Nat × State} (holds : R here.2) : R (p.execute apply readings here).2.2 := by
  induction p generalizing here with
  | ret value => exact holds
  | raise error => exact holds
  | perform op next ih =>
    have still := kept op (readings here.1) here.2 holds
    exact ih _ still

/-- Two states that answer a program alike, and that it does not change, give it the same outcome. -/
theorem execute_agree {P : Op → Prop} {A : (op : Op) → Answer op → Prop} {Q : α → Prop} {E : Exn → Prop}
    {p : Program Op Answer Exn α} {s t : State} {clock other : Nat} (within : p.Within P A Q E)
    (same : ∀ op reading reading', P op → A op (apply op reading s).1 ∧ (apply op reading s).2 = s ∧
      (apply op reading' t).2 = t ∧ (apply op reading' t).1 = (apply op reading s).1) :
    (p.execute apply readings (clock, s)).2.2 = s ∧ (p.execute apply readings (other, t)).2.2 = t ∧
      (p.execute apply readings (other, t)).1 = (p.execute apply readings (clock, s)).1 := by
  induction p generalizing clock other with
  | ret value => exact ⟨rfl, rfl, rfl⟩
  | raise error => exact ⟨rfl, rfl, rfl⟩
  | perform op next ih =>
    obtain ⟨kind, later⟩ := within () trivial trivial
    obtain ⟨given, first, second, answers⟩ := same op (readings clock) (readings other) kind
    simp only [execute_perform, first, second, answers]
    exact ih _ (later _ () given trivial)

end Program

namespace Machine
variable {Pid Op : Type} {Answer : Op → Type} {Exn α Reading State : Type} [DecidableEq Pid]
  {M : Machine Pid Op Answer Exn α Reading State} {apply : (op : Op) → Reading → State → Answer op × State}
  {readings : Nat → Reading}

/-- A party that nobody disturbs executes its program. -/
theorem leads_execute (readings : Nat → Reading) (clock : Nat) (reads : ∀ s reading, M.reads s reading)
    (performs : ∀ p op reading s, M.perform p op reading s (apply op reading s).1 (apply op reading s).2) {p : Pid}
    {program : Program Op Answer Exn α} {w : World Pid Op Answer Exn α Reading State}
    (ready : w.procs p = .ready program) :
    Leads M w ⟨(program.execute apply readings (clock, w.state)).2.2, Function.update w.procs p .idle⟩ := by
  induction program generalizing clock w with
  | ret value => exact .single (.finish ready nofun)
  | raise error => exact .single (.finish ready nofun)
  | perform op next ih =>
    have turn := leads_turn ready (reads w.state (readings clock)) (performs p op (readings clock) w.state)
    obtain ⟨answer, known⟩ : ∃ answer, (apply op (readings clock) w.state).1 = answer := ⟨_, rfl⟩
    have rest := @ih answer (clock + 1) ⟨(apply op (readings clock) w.state).2, Function.update w.procs p (.ready (next answer))⟩ (Function.update_self ..)
    rw [known] at turn
    rw [Function.update_idem] at rest
    rw [Program.execute_perform, known]
    exact turn.trans rest

/-- So a whole request can be carried out before anything else happens. -/
theorem Reachable.execute {w : World Pid Op Answer Exn α Reading State} (reach : Reachable M w)
    (reads : ∀ s reading, M.reads s reading)
    (performs : ∀ p op reading s, M.perform p op reading s (apply op reading s).1 (apply op reading s).2) {p : Pid}
    (idle : w.procs p = .idle) {program : Program Op Answer Exn α} (admitted : M.starts program) (clock : Nat) :
    Reachable M ⟨(program.execute apply readings (clock, w.state)).2.2, w.procs⟩ := by
  have started := reach.step (.start idle admitted)
  have done := (leads_execute readings clock reads performs
    (Function.update_self p _ w.procs)).reachable started
  rwa [Function.update_idem, ← idle, Function.update_eq_self] at done

end Machine

end ReliabilityLab
