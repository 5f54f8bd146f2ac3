import ReliabilityLab.Foundation.Interleaving

namespace ReliabilityLab

/-- One operation of a party: the state it met, its answer and the state it left. -/
structure Moment (Op : Type) (Answer : Op → Type) (State : Type) where
  op : Op
  before : State
  answer : Answer op
  after : State

namespace Program
variable {Op : Type} {Answer : Op → Type} {Exn α β State : Type}

/-- The program performs these operations, given these answers, and ends so. -/
inductive Ends : Program Op Answer Exn α → List (Moment Op Answer State) → Except Exn α → Prop
  | ret (value : α) : Ends (.ret value) [] (.ok value)
  | raise (error : Exn) : Ends (.raise error) [] (.error error)
  | perform {op : Op} {next : Answer op → Program Op Answer Exn α} {before : State} {answer : Answer op}
      {after : State} {log : List (Moment Op Answer State)} {outcome : Except Exn α} :
      Ends (next answer) log outcome → Ends (.perform op next) (⟨op, before, answer, after⟩ :: log) outcome

variable {log : List (Moment Op Answer State)}

theorem Ends.of_ret {value : α} {outcome : Except Exn α}
    (ends : Ends (.ret value : Program Op Answer Exn α) log outcome) : log = [] ∧ outcome = .ok value := by
  cases ends
  exact ⟨rfl, rfl⟩

theorem Ends.of_raise {error : Exn} {outcome : Except Exn α}
    (ends : Ends (.raise error : Program Op Answer Exn α) log outcome) : log = [] ∧ outcome = .error error := by
  cases ends
  exact ⟨rfl, rfl⟩

theorem Ends.of_perform {op : Op} {next : Answer op → Program Op Answer Exn α} {outcome : Except Exn α}
    (ends : Ends (.perform op next) log outcome) : ∃ before answer after later,
      log = ⟨op, before, answer, after⟩ :: later ∧ (next answer).Ends later outcome := by
  cases ends with
  | perform ends => exact ⟨_, _, _, _, rfl, ends⟩

theorem Ends.of_ofExcept {result outcome : Except Exn α}
    (ends : (ofExcept result : Program Op Answer Exn α).Ends log outcome) : log = [] ∧ outcome = result := by
  cases result with
  | ok value => exact ends.of_ret
  | error error => exact ends.of_raise

/-- A sequence ends in its first part, or goes on from the value of that part. -/
theorem Ends.of_bind {p : Program Op Answer Exn α} {f : α → Program Op Answer Exn β} {outcome : Except Exn β}
    (ends : (p.bind f).Ends log outcome) :
    (∃ value first later, p.Ends first (.ok value) ∧ (f value).Ends later outcome ∧ log = first ++ later) ∨
      ∃ error, p.Ends log (.error error) ∧ outcome = .error error := by
  induction p generalizing log with
  | ret value => exact .inl ⟨value, [], log, .ret value, ends, rfl⟩
  | raise error =>
    obtain ⟨rfl, rfl⟩ := ends.of_raise
    exact .inr ⟨error, .raise error, rfl⟩
  | perform op next ih =>
    obtain ⟨before, answer, after, rest, rfl, further⟩ := ends.of_perform
    rcases ih answer further with ⟨value, first, later, left, right, rfl⟩ | ⟨error, left, same⟩
    · exact .inl ⟨value, _ :: first, later, .perform left, right, rfl⟩
    · exact .inr ⟨error, .perform left, same⟩

theorem Ends.of_attempt {p : Program Op Answer Exn α} {outcome : Except Exn (Except Exn α)}
    (ends : p.attempt.Ends log outcome) : ∃ result, p.Ends log result ∧ outcome = .ok result := by
  induction p generalizing log with
  | ret value =>
    obtain ⟨rfl, rfl⟩ := ends.of_ret
    exact ⟨_, .ret value, rfl⟩
  | raise error =>
    obtain ⟨rfl, rfl⟩ := ends.of_ret
    exact ⟨_, .raise error, rfl⟩
  | perform op next ih =>
    obtain ⟨before, answer, after, rest, rfl, further⟩ := ends.of_perform
    obtain ⟨result, inner, same⟩ := ih answer further
    exact ⟨result, .perform inner, same⟩

/-- A guarded part always hands over to what follows. -/
theorem Ends.of_attempt_bind {p : Program Op Answer Exn α} {f : Except Exn α → Program Op Answer Exn β}
    {outcome : Except Exn β} (ends : (p.attempt.bind f).Ends log outcome) :
    ∃ result first later, p.Ends first result ∧ (f result).Ends later outcome ∧ log = first ++ later := by
  rcases ends.of_bind with ⟨value, first, later, left, right, split⟩ | ⟨error, left, -⟩
  · obtain ⟨result, inner, same⟩ := left.of_attempt
    cases same
    exact ⟨_, first, later, inner, right, split⟩
  · obtain ⟨result, -, same⟩ := left.of_attempt
    cases same

/-- One operation whose exceptions are raised. -/
theorem Ends.of_ask {op : Op} {read : Answer op → Except Exn α} {outcome : Except Exn α}
    (ends : ((ask op).bind fun answer => ofExcept (read answer) : Program Op Answer Exn α).Ends log outcome) :
    ∃ before answer after, log = [⟨op, before, answer, after⟩] ∧ outcome = read answer := by
  obtain ⟨before, answer, after, later, rfl, rest⟩ := ends.of_perform
  obtain ⟨rfl, rfl⟩ := rest.of_ofExcept
  exact ⟨before, answer, after, rfl, rfl⟩

/-- A rule about every run of a program, read off one of them. -/
theorem Ends.within {P : Op → Prop} {A : (op : Op) → Answer op → Prop} {Q : α → Prop} {E : Exn → Prop}
    {p : Program Op Answer Exn α} {outcome : Except Exn α} (ends : p.Ends log outcome) (within : p.Within P A Q E)
    (given : ∀ moment ∈ log, A moment.op moment.answer) : (∀ moment ∈ log, P moment.op) ∧
      (∀ value, outcome = .ok value → Q value) ∧ ∀ error, outcome = .error error → E error := by
  induction ends with
  | ret value =>
    refine ⟨fun moment member => absurd member List.not_mem_nil, fun other same => ?_, fun error same => ?_⟩
    · cases same
      exact within
    · cases same
  | raise error =>
    refine ⟨fun moment member => absurd member List.not_mem_nil, fun value same => ?_, fun other same => ?_⟩
    · cases same
    · cases same
      exact within
  | @perform op next before answer after log outcome ends ih =>
    obtain ⟨kind, later⟩ := within () trivial trivial
    obtain ⟨kinds, ending⟩ := ih (later answer () (given _ List.mem_cons_self) trivial) fun moment member =>
      given moment (List.mem_cons_of_mem _ member)
    refine ⟨fun moment member => ?_, ending⟩
    rcases List.mem_cons.mp member with rfl | member
    · exact kind
    · exact kinds moment member

end Program

namespace Machine
variable {Pid Op : Type} {Answer : Op → Type} {Exn α Reading State : Type} [DecidableEq Pid]
  {M : Machine Pid Op Answer Exn α Reading State} {w v : World Pid Op Answer Exn α Reading State} {p : Pid}
  {log : List (Moment Op Answer State)}

/-- A stretch of a run in which party `p` works on one program, with its operations in order.
Whatever else happens leaves the program of `p` where it is. -/
inductive Follows (M : Machine Pid Op Answer Exn α Reading State) (p : Pid)
    (w : World Pid Op Answer Exn α Reading State) :
    List (Moment Op Answer State) → World Pid Op Answer Exn α Reading State → Prop
  | refl : Follows M p w [] w
  | issue {log v op next reading} : Follows M p w log v → v.procs p = .ready (.perform op next) →
      M.reads v.state reading →
      Follows M p w log ⟨v.state, Function.update v.procs p (.issued (.perform op next) reading)⟩
  | commit {log v op next reading answer t} : Follows M p w log v → v.procs p = .issued (.perform op next) reading →
      M.perform p op reading v.state answer t →
      Follows M p w (log ++ [⟨op, v.state, answer, t⟩]) ⟨t, Function.update v.procs p (.ready (next answer))⟩
  | besides {log v u} : Follows M p w log v → Step M v u → u.procs p = v.procs p → Follows M p w log u

theorem Follows.leads (follows : Follows M p w log v) : Leads M w v := by
  induction follows with
  | refl => exact .refl
  | issue _ ready reads ih => exact ih.tail (.issue ready reads)
  | commit _ issued performed ih => exact ih.tail (.commit issued performed)
  | besides _ move _ ih => exact ih.tail move

/-- The rest of the program, and whatever it ends with. -/
theorem Follows.rest {program : Program Op Answer Exn α} (follows : Follows M p w log v)
    (begun : (w.procs p).rest = some program) : ∃ rest, (v.procs p).rest = some rest ∧
      ∀ more outcome, rest.Ends more outcome → program.Ends (log ++ more) outcome := by
  induction follows with
  | refl => exact ⟨program, begun, fun _ _ ends => ends⟩
  | issue _ ready _ ih =>
    obtain ⟨rest, atRest, onward⟩ := ih
    refine ⟨rest, ?_, onward⟩
    rw [ready] at atRest
    simpa [Process.rest] using atRest
  | @commit log v op next reading answer t _ issued _ ih =>
    obtain ⟨rest, atRest, onward⟩ := ih
    rw [issued] at atRest
    cases Option.some.inj atRest
    refine ⟨next answer, by simp [Process.rest], fun more outcome ends => ?_⟩
    rw [List.append_assoc]
    exact onward _ outcome (.perform ends)
  | besides _ _ same ih =>
    rw [same]
    exact ih

/-- A program that was followed to its end has ended with these operations. -/
theorem Follows.ends {program : Program Op Answer Exn α} {outcome : Except Exn α} (follows : Follows M p w log v)
    (begun : w.procs p = .ready program) (ended : v.procs p = .ready (.ofExcept outcome)) :
    program.Ends log outcome := by
  obtain ⟨rest, atRest, onward⟩ := follows.rest (congrArg Process.rest begun)
  rw [ended] at atRest
  cases Option.some.inj atRest
  have finished : @Program.Ends Op Answer Exn α State (.ofExcept outcome) [] outcome := by
    cases outcome with
    | ok value => exact .ret value
    | error error => exact .raise error
  have whole := onward [] outcome finished
  rwa [List.append_nil] at whole

theorem Follows.performed (follows : Follows M p w log v) :
    ∀ moment ∈ log, ∃ reading, M.perform p moment.op reading moment.before moment.answer moment.after := by
  induction follows with
  | refl => exact fun moment member => absurd member List.not_mem_nil
  | issue _ _ _ ih | besides _ _ _ ih => exact ih
  | commit _ _ performed ih =>
    intro moment member
    rcases List.mem_append.mp member with member | member
    · exact ih moment member
    · cases List.mem_singleton.mp member
      exact ⟨_, performed⟩

theorem Follows.trans {u : World Pid Op Answer Exn α Reading State} {more : List (Moment Op Answer State)}
    (first : Follows M p w log v) (later : Follows M p v more u) : Follows M p w (log ++ more) u := by
  induction later with
  | refl => simpa using first
  | issue _ ready reads ih => exact ih.issue ready reads
  | commit _ issued performed ih =>
    rw [← List.append_assoc]
    exact ih.commit issued performed
  | besides _ move same ih => exact ih.besides move same

/-- One operation, performed as soon as the party reaches it. -/
theorem follows_turn {op : Op} {next : Answer op → Program Op Answer Exn α} {reading : Reading} {answer : Answer op}
    {t : State} (ready : w.procs p = .ready (.perform op next)) (reads : M.reads w.state reading)
    (performed : M.perform p op reading w.state answer t) :
    Follows M p w [⟨op, w.state, answer, t⟩] ⟨t, Function.update w.procs p (.ready (next answer))⟩ := by
  have issued : Follows M p w [] ⟨w.state, Function.update w.procs p (.issued (.perform op next) reading)⟩ :=
    Follows.refl.issue ready reads
  have committed := issued.commit (Function.update_self ..) performed
  simpa only [Function.update_idem, List.nil_append] using committed

/-- What the others do, as far as party `p` stays where it is. -/
theorem Follows.of_leads {u : World Pid Op Answer Exn α Reading State} (leads : Relation.ReflTransGen
    (fun before after => Step M before after ∧ after.procs p = before.procs p) w u) : Follows M p w [] u := by
  induction leads with
  | refl => exact .refl
  | tail _ move ih => exact ih.besides move.1 move.2

end Machine

end ReliabilityLab
