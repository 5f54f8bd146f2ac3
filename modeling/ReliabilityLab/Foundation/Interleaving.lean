import Mathlib.Logic.Function.Basic
import Mathlib.Logic.Relation
import ReliabilityLab.Foundation.Program

namespace ReliabilityLab

/-- Parties running programs over one shared state. Each operation is atomic,
but its clock reading is taken before it, when the party reaches it. `ambient`
are the steps nobody takes (time, background tasks). -/
structure Machine (Pid Op : Type) (Answer : Op → Type) (Exn α Reading State : Type) where
  init : State → Prop
  starts : Program Op Answer Exn α → Prop
  reads : State → Reading → Prop
  perform : Pid → (op : Op) → Reading → State → Answer op → State → Prop
  ambient : State → State → Prop
  crash : Pid → State → State

/-- Where a party stands: nothing to do, in front of an operation, or with the
clock reading of that operation already taken. -/
inductive Process (Op : Type) (Answer : Op → Type) (Exn α Reading : Type) where
  | idle
  | ready (program : Program Op Answer Exn α)
  | issued (program : Program Op Answer Exn α) (reading : Reading)

def Process.rest {Op : Type} {Answer : Op → Type} {Exn α Reading : Type} :
    Process Op Answer Exn α Reading → Option (Program Op Answer Exn α)
  | .idle => none
  | .ready program => some program
  | .issued program _ => some program

structure World (Pid Op : Type) (Answer : Op → Type) (Exn α Reading State : Type) where
  state : State
  procs : Pid → Process Op Answer Exn α Reading

namespace Machine
variable {Pid Op : Type} {Answer : Op → Type} {Exn α Reading State : Type} [DecidableEq Pid]

/-- One step of the whole system. A party may crash anywhere, and a party that
is idle may start any admitted program. -/
inductive Step (M : Machine Pid Op Answer Exn α Reading State) :
    World Pid Op Answer Exn α Reading State → World Pid Op Answer Exn α Reading State → Prop
  | start {w p program} : w.procs p = .idle → M.starts program →
      Step M w ⟨w.state, Function.update w.procs p (.ready program)⟩
  | issue {w p op next reading} : w.procs p = .ready (.perform op next) → M.reads w.state reading →
      Step M w ⟨w.state, Function.update w.procs p (.issued (.perform op next) reading)⟩
  | commit {w p op next reading answer t} : w.procs p = .issued (.perform op next) reading →
      M.perform p op reading w.state answer t →
      Step M w ⟨t, Function.update w.procs p (.ready (next answer))⟩
  | finish {w p program} : w.procs p = .ready program →
      (∀ op next, program ≠ .perform op next) →
      Step M w ⟨w.state, Function.update w.procs p .idle⟩
  | crash {w p} : Step M w ⟨M.crash p w.state, Function.update w.procs p .idle⟩
  | ambient {w t} : M.ambient w.state t → Step M w ⟨t, w.procs⟩

inductive Reachable (M : Machine Pid Op Answer Exn α Reading State) :
    World Pid Op Answer Exn α Reading State → Prop
  | init {s} : M.init s → Reachable M ⟨s, fun _ => .idle⟩
  | step {w v} : Reachable M w → Step M w v → Reachable M v

/-- The runs of `M` all of whose operations meet `allowed` when performed. -/
def restrict (M : Machine Pid Op Answer Exn α Reading State)
    (allowed : Pid → Op → Reading → State → Prop) : Machine Pid Op Answer Exn α Reading State :=
  { M with
    perform := fun p op reading s answer t => M.perform p op reading s answer t ∧ allowed p op reading s }

theorem Reachable.of_restrict {M : Machine Pid Op Answer Exn α Reading State}
    {allowed : Pid → Op → Reading → State → Prop} {w : World Pid Op Answer Exn α Reading State}
    (reach : Reachable (M.restrict allowed) w) : Reachable M w := by
  induction reach with
  | init start => exact .init start
  | step _ move ih =>
    refine .step ih ?_
    cases move with
    | start idle admitted => exact .start idle admitted
    | issue ready reads => exact .issue ready reads
    | commit issued performed => exact .commit issued performed.1
    | finish ready ended => exact .finish ready ended
    | crash => exact .crash
    | ambient moved => exact .ambient moved

/-- What has to be shown, party by party and operation by operation, for every
party to keep to its discipline in every interleaving. -/
structure Disciplined (M : Machine Pid Op Answer Exn α Reading State)
    (D : Pid → Discipline Op Answer State) (inv : State → Prop) : Prop where
  same : ∀ p, (D p).inv = inv
  init : ∀ s, M.init s → inv s
  start : ∀ p program s, M.starts program → inv s →
    program.Obeys (D p) (fun _ _ => True) (fun _ _ => True) s
  own : ∀ p op reading s answer t, inv s → (D p).pre op s → M.perform p op reading s answer t →
    inv t ∧ (D p).step op s answer t
  others : ∀ p q op reading s answer t, p ≠ q → inv s → (D p).pre op s →
    M.perform p op reading s answer t → (D q).rely s t
  ambient : ∀ s t, inv s → M.ambient s t → inv t ∧ ∀ p, (D p).rely s t
  crash : ∀ p s, inv s → inv (M.crash p s) ∧ ∀ q, (D q).rely s (M.crash p s)

/-- Every party obeys its discipline for the rest of its program, and ends it with its postcondition. -/
def Keeps (D : Pid → Discipline Op Answer State) (Q : Pid → α → State → Prop) (E : Pid → Exn → State → Prop)
    (w : World Pid Op Answer Exn α Reading State) : Prop :=
  ∀ p program, (w.procs p).rest = some program → program.Obeys (D p) (Q p) (E p) w.state

section Keeps
variable {M : Machine Pid Op Answer Exn α Reading State} {D : Pid → Discipline Op Answer State} {inv : State → Prop}
  {Q : Pid → α → State → Prop} {E : Pid → Exn → State → Prop} {w v : World Pid Op Answer Exn α Reading State}

theorem Keeps.update (keeps : Keeps D Q E w) (returns : ∀ p value, (D p).Stable (Q p value))
    (raises : ∀ p error, (D p).Stable (E p error)) {p : Pid} {process : Process Op Answer Exn α Reading} {t : State}
    (self : ∀ program, process.rest = some program → program.Obeys (D p) (Q p) (E p) t)
    (others : ∀ q, q ≠ p → (D q).rely w.state t) : Keeps D Q E ⟨t, Function.update w.procs p process⟩ := by
  intro q program atQ
  by_cases same : q = p
  · subst same
    exact self program (by simpa using atQ)
  · simp only [Function.update_of_ne same] at atQ
    exact (keeps q program atQ).rely (others q same) (returns q) (raises q)

/-- One step of the system keeps the invariant and everybody's discipline. -/
theorem Step.keeps (rules : M.Disciplined D inv) (returns : ∀ p value, (D p).Stable (Q p value))
    (raises : ∀ p error, (D p).Stable (E p error))
    (start : ∀ p program s, M.starts program → inv s → program.Obeys (D p) (Q p) (E p) s) (move : Step M w v)
    (valid : inv w.state) (keeps : Keeps D Q E w) : inv v.state ∧ Keeps D Q E v := by
  cases move with
  | start idle admitted =>
    refine ⟨valid, keeps.update returns raises ?_ fun q _ => (D q).rely_refl _⟩
    intro program rest
    cases Option.some.inj rest
    exact start _ _ _ admitted valid
  | @issue p op next reading ready reads =>
    refine ⟨valid, keeps.update returns raises ?_ fun q _ => (D q).rely_refl _⟩
    intro program rest
    cases Option.some.inj rest
    exact keeps _ _ (by rw [ready]; rfl)
  | finish ready ended =>
    refine ⟨valid, keeps.update returns raises ?_ fun q _ => (D q).rely_refl _⟩
    intro program rest
    simp [Process.rest] at rest
  | @commit p op next reading answer t issued performed =>
    have obeys := keeps p (.perform op next) (by rw [issued]; rfl)
    obtain ⟨owed, after⟩ := obeys w.state ((D p).rely_refl _) (by rw [rules.same]; exact valid)
    obtain ⟨kept, own⟩ := rules.own p op reading _ answer t valid owed performed
    refine ⟨kept, keeps.update returns raises ?_ fun q other =>
      rules.others p q op reading _ answer t (Ne.symm other) valid owed performed⟩
    intro program rest
    cases Option.some.inj rest
    exact after answer t own (by rw [rules.same]; exact kept)
  | @crash p =>
    obtain ⟨kept, others⟩ := rules.crash p _ valid
    refine ⟨kept, keeps.update returns raises ?_ fun q _ => others q⟩
    intro program rest
    simp [Process.rest] at rest
  | @ambient t moved =>
    obtain ⟨kept, others⟩ := rules.ambient _ _ valid moved
    exact ⟨kept, fun p program rest => (keeps p program rest).rely (others p) (returns p) (raises p)⟩

end Keeps

/-- The rely-guarantee rule: obligations about single operations give the
invariant and everybody's discipline in every reachable world. -/
theorem Reachable.disciplined {M : Machine Pid Op Answer Exn α Reading State}
    {D : Pid → Discipline Op Answer State} {inv : State → Prop} (rules : M.Disciplined D inv)
    {w : World Pid Op Answer Exn α Reading State} (reach : Reachable M w) :
    inv w.state ∧ Keeps D (fun _ _ _ => True) (fun _ _ _ => True) w := by
  induction reach with
  | init start => exact ⟨rules.init _ start, fun p program rest => by simp [Process.rest] at rest⟩
  | step previous move ih =>
    exact move.keeps rules (fun _ _ _ _ _ holds => holds) (fun _ _ _ _ _ holds => holds) rules.start ih.1 ih.2

/-- The worlds that a system can come to from a world. -/
abbrev Leads (M : Machine Pid Op Answer Exn α Reading State) :
    World Pid Op Answer Exn α Reading State → World Pid Op Answer Exn α Reading State → Prop :=
  Relation.ReflTransGen (Step M)

theorem Leads.reachable {M : Machine Pid Op Answer Exn α Reading State}
    {w v : World Pid Op Answer Exn α Reading State} (leads : Leads M w v) (reach : Reachable M w) : Reachable M v := by
  induction leads with
  | refl => exact reach
  | tail _ move ih => exact ih.step move

/-- A party in front of an operation may read the clock and perform it at once. -/
theorem leads_turn {M : Machine Pid Op Answer Exn α Reading State} {w : World Pid Op Answer Exn α Reading State}
    {p : Pid} {op : Op} {next : Answer op → Program Op Answer Exn α} {reading : Reading} {answer : Answer op} {t : State}
    (ready : w.procs p = .ready (.perform op next)) (reads : M.reads w.state reading)
    (performed : M.perform p op reading w.state answer t) :
    Leads M w ⟨t, Function.update w.procs p (.ready (next answer))⟩ := by
  have issued : Step M w ⟨w.state, Function.update w.procs p (.issued (.perform op next) reading)⟩ := .issue ready reads
  have committed := Step.commit (w := ⟨w.state, Function.update w.procs p (.issued (.perform op next) reading)⟩)
    (Function.update_self ..) performed
  simp only [Function.update_idem] at committed
  exact .tail (.single issued) committed

theorem Reachable.turn {M : Machine Pid Op Answer Exn α Reading State} {w : World Pid Op Answer Exn α Reading State}
    {p : Pid} {op : Op} {next : Answer op → Program Op Answer Exn α} {reading : Reading} {answer : Answer op} {t : State}
    (reach : Reachable M w) (ready : w.procs p = .ready (.perform op next)) (reads : M.reads w.state reading)
    (performed : M.perform p op reading w.state answer t) :
    Reachable M ⟨t, Function.update w.procs p (.ready (next answer))⟩ :=
  (leads_turn ready reads performed).reachable reach

/-- The same rule from any world in which everybody keeps to a discipline. -/
theorem Leads.keeps {M : Machine Pid Op Answer Exn α Reading State} {D : Pid → Discipline Op Answer State}
    {inv : State → Prop} {Q : Pid → α → State → Prop} {E : Pid → Exn → State → Prop}
    {w v : World Pid Op Answer Exn α Reading State} (rules : M.Disciplined D inv)
    (returns : ∀ p value, (D p).Stable (Q p value)) (raises : ∀ p error, (D p).Stable (E p error))
    (start : ∀ p program s, M.starts program → inv s → program.Obeys (D p) (Q p) (E p) s) (leads : Leads M w v)
    (valid : inv w.state) (keeps : Keeps D Q E w) : inv v.state ∧ Keeps D Q E v := by
  induction leads with
  | refl => exact ⟨valid, keeps⟩
  | tail _ move ih => exact move.keeps rules returns raises start ih.1 ih.2

/-- In every reachable world a party in front of an operation owes, and has,
that operation's precondition. -/
theorem Reachable.owed {M : Machine Pid Op Answer Exn α Reading State}
    {D : Pid → Discipline Op Answer State} {inv : State → Prop} (rules : M.Disciplined D inv)
    {w : World Pid Op Answer Exn α Reading State} (reach : Reachable M w) {p : Pid} {op : Op}
    {next : Answer op → Program Op Answer Exn α} (at_op : (w.procs p).rest = some (.perform op next)) :
    (D p).pre op w.state := by
  obtain ⟨valid, keeps⟩ := reach.disciplined rules
  exact (keeps p _ at_op w.state ((D p).rely_refl _) (by rw [rules.same]; exact valid)).1

/-- An invariant that every operation keeps where its precondition holds. -/
theorem Reachable.invariant {M : Machine Pid Op Answer Exn α Reading State}
    {D : Pid → Discipline Op Answer State} {inv J : State → Prop} (rules : M.Disciplined D inv)
    (start : ∀ s, M.init s → J s)
    (own : ∀ p op reading s answer t, inv s → (D p).pre op s → M.perform p op reading s answer t → J s → J t)
    (ambient : ∀ s t, M.ambient s t → J s → J t) (crash : ∀ p s, J s → J (M.crash p s))
    {w : World Pid Op Answer Exn α Reading State} (reach : Reachable M w) : J w.state := by
  induction reach with
  | init initial => exact start _ initial
  | @step w v previous move ih =>
    cases move with
    | start | issue | finish => exact ih
    | @commit p op next reading answer t issued performed =>
      have owed : (D p).pre op w.state :=
        previous.owed rules (show (w.procs p).rest = some (.perform op next) by rw [issued]; rfl)
      exact own p op reading _ answer t (previous.disciplined rules).1 owed performed ih
    | crash => exact crash _ _ ih
    | ambient moved => exact ambient _ _ moved ih

end Machine

end ReliabilityLab
