import ReliabilityLab.Foundation.Interleaving

namespace ReliabilityLab

/-- A party on its own: before an operation time passes, then the operation
answers and changes the state as `act` says. -/
structure Solo (Op : Type) (Answer : Op → Type) (State : Type) where
  drift : State → State → Prop
  act : (op : Op) → State → Answer op × State
  drift_refl : ∀ s, drift s s
  drift_trans : ∀ {s t u}, drift s t → drift t u → drift s u

namespace Solo
variable {Op : Type} {Answer : Op → Type} {Exn α State : Type} (S : Solo Op Answer State)

/-- A program played by a party on its own, to its end or until it is cut off
in front of an operation. -/
inductive Played : Program Op Answer Exn α → State → Option (Except Exn α) → State → Prop
  | ret (value : α) (s : State) : Played (.ret value) s (some (.ok value)) s
  | raise (error : Exn) (s : State) : Played (.raise error) s (some (.error error)) s
  | cut {op : Op} {next : Answer op → Program Op Answer Exn α} {s t : State} :
      S.drift s t → Played (.perform op next) s none t
  | perform {op : Op} {next : Answer op → Program Op Answer Exn α} {s t u : State} {outcome : Option (Except Exn α)} :
      S.drift s t → Played (next (S.act op t).1) (S.act op t).2 outcome u → Played (.perform op next) s outcome u

/-- The first `count` operations of a program, without a pause. -/
def play : Program Op Answer Exn α → Nat → State → Option (Except Exn α) × State
  | .ret value, _, s => (some (.ok value), s)
  | .raise error, _, s => (some (.error error), s)
  | .perform _ _, 0, s => (none, s)
  | .perform op next, count + 1, s => play (next (S.act op s).1) count (S.act op s).2

/-- What has to hold in front of every operation, so that it holds wherever the program is cut off. -/
def recovering (recoverable : State → Prop) : Discipline Op Answer State where
  inv _ := True
  rely := S.drift
  pre _ := recoverable
  step op s answer t := S.act op s = (answer, t)
  rely_refl := S.drift_refl
  rely_trans := S.drift_trans

variable {S} {program : Program Op Answer Exn α} {recoverable : State → Prop} {Q : α → State → Prop}
  {E : Exn → State → Prop} {s t : State} {outcome : Option (Except Exn α)}

theorem played_play (count : Nat) : S.Played program s (S.play program count s).1 (S.play program count s).2 := by
  induction program generalizing count s with
  | ret value => exact .ret value s
  | raise error => exact .raise error s
  | perform op next ih =>
    cases count with
    | zero => exact .cut (S.drift_refl s)
    | succ count => exact .perform (S.drift_refl s) (ih _ count)

/-- Nothing can stop a program that is not cut off. -/
theorem played_total (program : Program Op Answer Exn α) (s : State) :
    ∃ outcome t, S.Played program s (some outcome) t := by
  induction program generalizing s with
  | ret value => exact ⟨_, _, .ret value s⟩
  | raise error => exact ⟨_, _, .raise error s⟩
  | perform op next ih =>
    obtain ⟨outcome, t, played⟩ := ih (S.act op s).1 (S.act op s).2
    exact ⟨outcome, t, .perform (S.drift_refl s) played⟩

theorem obeys_perform {op : Op} {next : Answer op → Program Op Answer Exn α} :
    (Program.perform op next).Obeys (S.recovering recoverable) Q E s ↔
      ∀ t, S.drift s t → recoverable t ∧
        (next (S.act op t).1).Obeys (S.recovering recoverable) Q E (S.act op t).2 := by
  constructor
  · intro obeys t moved
    obtain ⟨here, after⟩ := obeys t moved trivial
    exact ⟨here, after _ _ rfl trivial⟩
  · intro obeys t moved _
    obtain ⟨here, after⟩ := obeys t moved
    refine ⟨here, fun answer u acted _ => ?_⟩
    have both : S.act op t = (answer, u) := acted
    rw [both] at after
    exact after

/-- The recovery rule: what a play leaves behind, however far it gets. -/
theorem Played.leaves (played : S.Played program s outcome t) (obeys : program.Obeys (S.recovering recoverable) Q E s) :
    (outcome = none → recoverable t) ∧ (∀ value, outcome = some (.ok value) → Q value t) ∧
      ∀ error, outcome = some (.error error) → E error t := by
  induction played with
  | ret value s =>
    refine ⟨nofun, fun other same => ?_, nofun⟩
    cases same
    exact obeys
  | raise error s =>
    refine ⟨nofun, nofun, fun other same => ?_⟩
    cases same
    exact obeys
  | cut moved => exact ⟨fun _ => (obeys_perform.mp obeys _ moved).1, nofun, nofun⟩
  | perform moved _ ih => exact ih (obeys_perform.mp obeys _ moved).2

end Solo

namespace Machine
variable {Pid Op : Type} {Answer : Op → Type} {Exn α Reading State Site : Type} [DecidableEq Pid]

/-- A party on its own takes part in a system: its pauses and its operations are steps of it. -/
structure Hosts (M : Machine Pid Op Answer Exn α Reading State) (S : Solo Op Answer Site) (p : Pid)
    (view : Site → State) (reading : Site → Reading) : Prop where
  drift : ∀ s t, S.drift s t → Relation.ReflTransGen M.ambient (view s) (view t)
  reads : ∀ s, M.reads (view s) (reading s)
  perform : ∀ op s, M.perform p op (reading s) (view s) (S.act op s).1 (view (S.act op s).2)

variable {M : Machine Pid Op Answer Exn α Reading State} {S : Solo Op Answer Site} {p : Pid} {view : Site → State}
  {reading : Site → Reading}

theorem leads_ambient {procs : Pid → Process Op Answer Exn α Reading} {s t : State}
    (moved : Relation.ReflTransGen M.ambient s t) : Leads M ⟨s, procs⟩ ⟨t, procs⟩ := by
  induction moved with
  | refl => exact .refl
  | tail _ step ih => exact ih.tail (.ambient step)

theorem Hosts.leads (hosts : Hosts M S p view reading) {program : Program Op Answer Exn α} {s t : Site}
    {outcome : Option (Except Exn α)} (played : S.Played program s outcome t)
    {procs : Pid → Process Op Answer Exn α Reading} (ready : procs p = .ready program) :
    ∃ rest, Leads M ⟨view s, procs⟩ ⟨view t, Function.update procs p (.ready rest)⟩ ∧
      (outcome.isSome → ∀ op next, rest ≠ .perform op next) := by
  induction played generalizing procs with
  | ret value s =>
    refine ⟨.ret value, ?_, fun _ _ _ => nofun⟩
    rw [← ready, Function.update_eq_self]
  | raise error s =>
    refine ⟨.raise error, ?_, fun _ _ _ => nofun⟩
    rw [← ready, Function.update_eq_self]
  | @cut op next s t moved =>
    refine ⟨.perform op next, ?_, nofun⟩
    rw [← ready, Function.update_eq_self]
    exact leads_ambient (hosts.drift s t moved)
  | @perform op next s t u outcome moved _ ih =>
    have turned := leads_turn (w := ⟨view t, procs⟩) ready (hosts.reads t) (hosts.perform op t)
    obtain ⟨rest, leads, ended⟩ := ih (Function.update_self p _ procs)
    rw [Function.update_idem] at leads
    exact ⟨rest, ((leads_ambient (hosts.drift s t moved)).trans turned).trans leads, ended⟩

/-- A request played by a party leads back to a world in which that party is idle. -/
theorem Hosts.session (hosts : Hosts M S p view reading) {program : Program Op Answer Exn α} {s t : Site}
    {outcome : Option (Except Exn α)} (played : S.Played program s outcome t) (admitted : M.starts program)
    {procs : Pid → Process Op Answer Exn α Reading} (idle : procs p = .idle) :
    Leads M ⟨view s, procs⟩ ⟨if outcome.isSome then view t else M.crash p (view t), procs⟩ := by
  have started : Step M ⟨view s, procs⟩ ⟨view s, Function.update procs p (.ready program)⟩ := .start idle admitted
  obtain ⟨rest, leads, ended⟩ := hosts.leads played (Function.update_self p (.ready program) procs)
  rw [Function.update_idem] at leads
  have stopped : Function.update (Function.update procs p (.ready rest)) p .idle = procs := by
    rw [Function.update_idem, ← idle, Function.update_eq_self]
  refine (Relation.ReflTransGen.single started).trans (leads.tail ?_)
  cases outcome with
  | none =>
    have crashed : Step M ⟨view t, Function.update procs p (.ready rest)⟩ _ := .crash (p := p)
    rw [stopped] at crashed
    exact crashed
  | some result =>
    have finished : Step M ⟨view t, Function.update procs p (.ready rest)⟩ _ :=
      .finish (Function.update_self ..) (ended rfl)
    rw [stopped] at finished
    exact finished

end Machine

end ReliabilityLab
