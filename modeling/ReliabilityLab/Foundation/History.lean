import Mathlib.Data.Finset.Card
import ReliabilityLab.Foundation.Interleaving

namespace ReliabilityLab

/-- What a step of one party leaves in the record of a run. -/
inductive Entry (Pid Op : Type) (Answer : Op → Type) where
  | started (p : Pid)
  | asked (p : Pid) (op : Op)
  | answered (p : Pid) (op : Op) (answer : Answer op)

def Entry.party {Pid Op : Type} {Answer : Op → Type} : Entry Pid Op Answer → Pid
  | .started p => p
  | .asked p _ => p
  | .answered p _ _ => p

section Counting
variable {ε Pid : Type} [DecidableEq Pid] {party : ε → Pid} {history : List ε}

/-- The latest entry of a party; records have their latest entry first. -/
def latest (party : ε → Pid) (p : Pid) (history : List ε) : Option ε := history.find? fun entry => party entry = p

theorem latest_cons_self {entry : ε} : latest party (party entry) (entry :: history) = some entry := by
  simp [latest]

theorem latest_cons_of_ne {entry : ε} {p : Pid} (other : party entry ≠ p) :
    latest party p (entry :: history) = latest party p history := by
  simp [latest, other]

/-- If every use comes directly after a grant of its party, there are no more uses than grants. -/
theorem countP_le_of_latest {use grant : ε → Bool} (apart : ∀ entry, use entry = true → grant entry = false)
    (preceded : ∀ later entry earlier, history = later ++ entry :: earlier → use entry = true →
      ∃ before, latest party (party entry) earlier = some before ∧ grant before = true) :
    history.countP use ≤ history.countP grant := by
  -- `unused` are the parties whose latest entry is a grant
  suffices counted : ∃ unused : Finset Pid, history.countP use + unused.card ≤ history.countP grant ∧
      ∀ p before, latest party p history = some before → grant before = true → p ∈ unused by
    obtain ⟨unused, bound, -⟩ := counted
    omega
  induction history with
  | nil => exact ⟨∅, by simp, by simp [latest]⟩
  | cons entry earlier ih =>
    obtain ⟨unused, bound, listed⟩ := ih fun later other rest split =>
      preceded (entry :: later) other rest (by rw [split, List.cons_append])
    by_cases uses : use entry = true
    · obtain ⟨before, last, granted⟩ := preceded [] entry earlier rfl uses
      have member := listed _ before last granted
      refine ⟨unused.erase (party entry), ?_, fun p other found granted => ?_⟩
      · have fewer := Finset.card_erase_add_one member
        rw [List.countP_cons_of_pos uses, List.countP_cons_of_neg (by simp [apart entry uses])]
        omega
      · by_cases own : party entry = p
        · subst own
          rw [latest_cons_self] at found
          cases found
          simp [apart entry uses] at granted
        · rw [latest_cons_of_ne own] at found
          exact Finset.mem_erase.mpr ⟨Ne.symm own, listed p other found granted⟩
    · refine ⟨if grant entry then insert (party entry) unused else unused, ?_, fun p other found granted => ?_⟩
      · rw [List.countP_cons_of_neg uses]
        by_cases grants : grant entry = true
        · have more := Finset.card_insert_le (party entry) unused
          rw [if_pos grants, List.countP_cons_of_pos grants]
          omega
        · rw [if_neg grants, List.countP_cons_of_neg grants]
          exact bound
      · by_cases own : party entry = p
        · subst own
          rw [latest_cons_self] at found
          cases found
          simp [granted]
        · rw [latest_cons_of_ne own] at found
          have member := listed p other found granted
          split
          · exact Finset.mem_insert_of_mem member
          · exact member

end Counting

namespace Machine
variable {Pid Op : Type} {Answer : Op → Type} {Exn α Reading State : Type} [DecidableEq Pid]

/-- A reachable world, with the record of the way to it. -/
inductive Recorded (M : Machine Pid Op Answer Exn α Reading State) :
    List (Entry Pid Op Answer) → World Pid Op Answer Exn α Reading State → Prop
  | init {s} : M.init s → Recorded M [] ⟨s, fun _ => .idle⟩
  | start {history w p program} : Recorded M history w → w.procs p = .idle → M.starts program →
      Recorded M (.started p :: history) ⟨w.state, Function.update w.procs p (.ready program)⟩
  | issue {history w p op next reading} : Recorded M history w → w.procs p = .ready (.perform op next) →
      M.reads w.state reading →
      Recorded M (.asked p op :: history) ⟨w.state, Function.update w.procs p (.issued (.perform op next) reading)⟩
  | commit {history w p op next reading answer t} : Recorded M history w →
      w.procs p = .issued (.perform op next) reading → M.perform p op reading w.state answer t →
      Recorded M (.answered p op answer :: history) ⟨t, Function.update w.procs p (.ready (next answer))⟩
  | finish {history w p program} : Recorded M history w → w.procs p = .ready program →
      (∀ op next, program ≠ .perform op next) → Recorded M history ⟨w.state, Function.update w.procs p .idle⟩
  | crash {history w p} : Recorded M history w →
      Recorded M history ⟨M.crash p w.state, Function.update w.procs p .idle⟩
  | ambient {history w t} : Recorded M history w → M.ambient w.state t → Recorded M history ⟨t, w.procs⟩

variable {M : Machine Pid Op Answer Exn α Reading State} {history : List (Entry Pid Op Answer)}
  {w : World Pid Op Answer Exn α Reading State}

theorem Recorded.reachable (recorded : Recorded M history w) : Reachable M w := by
  induction recorded with
  | init start => exact .init start
  | start _ idle admitted ih => exact ih.step (.start idle admitted)
  | issue _ ready reads ih => exact ih.step (.issue ready reads)
  | commit _ issued performed ih => exact ih.step (.commit issued performed)
  | finish _ ready ended ih => exact ih.step (.finish ready ended)
  | crash _ ih => exact ih.step .crash
  | ambient _ moved ih => exact ih.step (.ambient moved)

theorem Reachable.recorded (reach : Reachable M w) : ∃ history, Recorded M history w := by
  induction reach with
  | init start => exact ⟨[], .init start⟩
  | step _ move ih =>
    obtain ⟨history, recorded⟩ := ih
    cases move with
    | start idle admitted => exact ⟨_, recorded.start idle admitted⟩
    | issue ready reads => exact ⟨_, recorded.issue ready reads⟩
    | commit issued performed => exact ⟨_, recorded.commit issued performed⟩
    | finish ready ended => exact ⟨_, recorded.finish ready ended⟩
    | crash => exact ⟨_, recorded.crash⟩
    | ambient moved => exact ⟨_, recorded.ambient moved⟩

/-- The world in which an entry was made. -/
theorem Recorded.at_entry {later earlier : List (Entry Pid Op Answer)} {entry : Entry Pid Op Answer}
    (recorded : Recorded M (later ++ entry :: earlier) w) : ∃ v, Recorded M (entry :: earlier) v := by
  generalize whole : later ++ entry :: earlier = history at recorded
  induction recorded generalizing later with
  | init => simp at whole
  | start previous idle admitted ih =>
    cases later with
    | nil => exact ⟨_, whole ▸ previous.start idle admitted⟩
    | cons _ later => exact ih (List.cons.inj whole).2
  | issue previous ready reads ih =>
    cases later with
    | nil => exact ⟨_, whole ▸ previous.issue ready reads⟩
    | cons _ later => exact ih (List.cons.inj whole).2
  | commit previous issued performed ih =>
    cases later with
    | nil => exact ⟨_, whole ▸ previous.commit issued performed⟩
    | cons _ later => exact ih (List.cons.inj whole).2
  | finish _ _ _ ih => exact ih whole
  | crash _ ih => exact ih whole
  | ambient _ _ ih => exact ih whole

/-- The step in which an answer was given. -/
theorem Recorded.answered {later earlier : List (Entry Pid Op Answer)} {p : Pid} {op : Op} {answer : Answer op}
    (recorded : Recorded M (later ++ .answered p op answer :: earlier) w) :
    ∃ v next reading t, Recorded M earlier v ∧ v.procs p = .issued (.perform op next) reading ∧
      M.perform p op reading v.state answer t := by
  obtain ⟨u, made⟩ := recorded.at_entry
  generalize whole : Entry.answered p op answer :: earlier = history at made
  induction made with
  | init | start | issue => cases whole
  | commit previous issued performed =>
    cases whole
    exact ⟨_, _, _, _, previous, issued, performed⟩
  | finish _ _ _ ih | crash _ ih | ambient _ _ ih => exact ih whole

end Machine

/-- What a party may do, told by an account that it keeps of its own questions and answers. -/
structure Protocol (Op : Type) (Answer : Op → Type) (σ : Type) where
  start : σ
  ask : σ → Op → σ
  hear : σ → (op : Op) → Answer op → σ
  owes : Op → σ → Prop

namespace Protocol
variable {Pid Op : Type} {Answer : Op → Type} {σ : Type} (P : Protocol Op Answer σ)

/-- The protocol as a discipline: nobody else touches the account. -/
def discipline : Discipline Op Answer σ where
  inv _ := True
  rely := Eq
  pre := P.owes
  step op account answer next := next = P.hear (P.ask account op) op answer
  rely_refl _ := rfl
  rely_trans first second := first.trans second

/-- The rest of a program keeps to the protocol, from an account on. -/
abbrev Admits {Exn α : Type} (program : Program Op Answer Exn α) (account : σ) : Prop :=
  program.Obeys P.discipline (fun _ _ => True) (fun _ _ => True) account

/-- The account of a party, from the record. -/
def account [DecidableEq Pid] (p : Pid) : List (Entry Pid Op Answer) → σ
  | [] => P.start
  | .started q :: earlier => if q = p then P.start else account p earlier
  | .asked q op :: earlier => if q = p then P.ask (account p earlier) op else account p earlier
  | .answered q op answer :: earlier => if q = p then P.hear (account p earlier) op answer else account p earlier

theorem admits_within {Exn α : Type} {K : Op → Prop} {Q : α → Prop} {E : Exn → Prop} {R : σ → Prop}
    {program : Program Op Answer Exn α} {account : σ} (within : program.Within K (fun _ _ => True) Q E)
    (owed : ∀ op account, K op → R account → P.owes op account)
    (kept : ∀ op account answer, K op → R account → R (P.hear (P.ask account op) op answer)) (holds : R account) :
    program.Obeys P.discipline (fun value after => Q value ∧ R after) (fun error after => E error ∧ R after) account := by
  refine within.obeys ?_ (fun op before kind _ here => owed op before kind here) ?_ holds
  · rintro before _ rfl here
    exact here
  · rintro op before answer _ kind - here rfl
    exact ⟨trivial, kept op before answer kind here⟩

/-- Where the account of a party has to put it. -/
def Stands {Exn α Reading : Type} (account : σ) : Process Op Answer Exn α Reading → Prop
  | .idle => True
  | .ready program => P.Admits program account
  | .issued program _ => ∃ op next before, program = .perform op next ∧ account = P.ask before op ∧
      P.owes op before ∧ ∀ answer, P.Admits (next answer) (P.hear account op answer)

variable {P} [DecidableEq Pid] {p : Pid} {earlier : List (Entry Pid Op Answer)}

@[simp] theorem account_started_self : P.account p (.started p :: earlier) = P.start := if_pos rfl

@[simp] theorem account_asked_self {op : Op} :
    P.account p (.asked p op :: earlier) = P.ask (P.account p earlier) op := if_pos rfl

@[simp] theorem account_answered_self {op : Op} {answer : Answer op} :
    P.account p (.answered p op answer :: earlier) = P.hear (P.account p earlier) op answer := if_pos rfl

theorem account_of_ne {entry : Entry Pid Op Answer} (other : entry.party ≠ p) :
    P.account p (entry :: earlier) = P.account p earlier := by
  cases entry <;> exact if_neg other

end Protocol

namespace Machine
variable {Pid Op : Type} {Answer : Op → Type} {Exn α Reading State σ : Type} [DecidableEq Pid]
  {M : Machine Pid Op Answer Exn α Reading State} {P : Protocol Op Answer σ}
  {history : List (Entry Pid Op Answer)} {w : World Pid Op Answer Exn α Reading State}

theorem stands_update {p : Pid} {entry : Entry Pid Op Answer} {process : Process Op Answer Exn α Reading}
    (stands : ∀ q, P.Stands (P.account q history) (w.procs q)) (own : entry.party = p)
    (self : P.Stands (P.account p (entry :: history)) process) :
    ∀ q, P.Stands (P.account q (entry :: history)) (Function.update w.procs p process q) := by
  intro q
  by_cases same : q = p
  · subst same
    rwa [Function.update_self]
  · rw [Function.update_of_ne same, Protocol.account_of_ne (own.trans_ne (Ne.symm same))]
    exact stands q

theorem stands_idle {p : Pid} (stands : ∀ q, P.Stands (P.account q history) (w.procs q)) (q : Pid) :
    P.Stands (P.account q history) (Function.update w.procs p .idle q) := by
  by_cases same : q = p
  · subst same
    rw [Function.update_self]
    trivial
  · rw [Function.update_of_ne same]
    exact stands q

/-- The protocol rule: every party stands where its own entries put it. -/
theorem Recorded.stands (start : ∀ program, M.starts program → P.Admits program P.start)
    (recorded : Recorded M history w) : ∀ p, P.Stands (P.account p history) (w.procs p) := by
  induction recorded with
  | init => exact fun _ => trivial
  | start _ idle admitted ih =>
    refine stands_update ih rfl ?_
    rw [Protocol.account_started_self]
    exact start _ admitted
  | @issue history w p op next reading _ ready reads ih =>
    have here := ih p
    rw [ready] at here
    obtain ⟨owed, after⟩ := here _ rfl trivial
    refine stands_update ih rfl ?_
    rw [Protocol.account_asked_self]
    exact ⟨op, next, _, rfl, rfl, owed, fun answer => after answer _ rfl trivial⟩
  | @commit history w p op next reading answer t _ issued performed ih =>
    have here := ih p
    rw [issued] at here
    obtain ⟨_, _, before, same, asked, owed, after⟩ := here
    cases same
    refine stands_update ih rfl ?_
    rw [Protocol.account_answered_self]
    exact after answer
  | finish _ _ _ ih => exact stands_idle ih
  | crash _ ih => exact stands_idle ih
  | ambient _ _ ih => exact ih

/-- What a party with a reading in hand asked for was owed. -/
theorem Recorded.owed_issued (start : ∀ program, M.starts program → P.Admits program P.start)
    (recorded : Recorded M history w) {p : Pid} {op : Op} {next : Answer op → Program Op Answer Exn α}
    {reading : Reading} (issued : w.procs p = .issued (.perform op next) reading) :
    ∃ before, P.account p history = P.ask before op ∧ P.owes op before := by
  have here := recorded.stands start p
  rw [issued] at here
  obtain ⟨_, _, before, same, asked, owed, -⟩ := here
  cases same
  exact ⟨before, asked, owed⟩

/-- What was asked was owed. -/
theorem Recorded.asked (start : ∀ program, M.starts program → P.Admits program P.start) {p : Pid} {op : Op}
    {later earlier : List (Entry Pid Op Answer)} (recorded : Recorded M (later ++ .asked p op :: earlier) w) :
    P.owes op (P.account p earlier) := by
  obtain ⟨v, made⟩ := recorded.at_entry
  generalize whole : Entry.asked p op :: earlier = history at made
  induction made with
  | init | start | commit => cases whole
  | @issue history v _ _ _ _ previous ready =>
    cases whole
    have here := previous.stands start p
    rw [ready] at here
    exact (here _ rfl trivial).1
  | finish _ _ _ ih | crash _ ih | ambient _ _ ih => exact ih whole

end Machine

end ReliabilityLab
