import Mathlib.Logic.Basic

namespace ReliabilityLab

/-- A sequential program over atomic operations. Everything between two
operations is pure, so other programs can only interfere at a `perform` node. -/
inductive Program (Op : Type) (Answer : Op → Type) (Exn α : Type) where
  | ret (value : α)
  | raise (error : Exn)
  | perform (op : Op) (next : Answer op → Program Op Answer Exn α)

namespace Program
variable {Op : Type} {Answer : Op → Type} {Exn α β γ : Type}

def bind : Program Op Answer Exn α → (α → Program Op Answer Exn β) → Program Op Answer Exn β
  | .ret value, f => f value
  | .raise error, _ => .raise error
  | .perform op next, f => .perform op fun answer => (next answer).bind f

def tryCatch : Program Op Answer Exn α → (Exn → Program Op Answer Exn α) → Program Op Answer Exn α
  | .ret value, _ => .ret value
  | .raise error, h => h error
  | .perform op next, h => .perform op fun answer => (next answer).tryCatch h

/-- Run to the end and hand over the outcome instead of raising. -/
def attempt : Program Op Answer Exn α → Program Op Answer Exn (Except Exn α)
  | .ret value => .ret (.ok value)
  | .raise error => .ret (.error error)
  | .perform op next => .perform op fun answer => (next answer).attempt

/-- One operation, with its answer. -/
def ask (op : Op) : Program Op Answer Exn (Answer op) := .perform op .ret

def ofExcept : Except Exn α → Program Op Answer Exn α
  | .ok value => .ret value
  | .error error => .raise error

instance : Monad (Program Op Answer Exn) where
  pure := .ret
  bind := bind

@[simp] theorem pure_eq (value : α) : (pure value : Program Op Answer Exn α) = .ret value := rfl

@[simp] theorem bind_eq (p : Program Op Answer Exn α) (f : α → Program Op Answer Exn β) :
    p >>= f = p.bind f := rfl

@[simp] theorem ret_bind (value : α) (f : α → Program Op Answer Exn β) :
    (Program.ret value : Program Op Answer Exn α).bind f = f value := rfl

@[simp] theorem raise_bind (error : Exn) (f : α → Program Op Answer Exn β) :
    (Program.raise error : Program Op Answer Exn α).bind f = .raise error := rfl

@[simp] theorem ofExcept_ok (value : α) : (ofExcept (.ok value) : Program Op Answer Exn α) = .ret value := rfl

@[simp] theorem ofExcept_error (error : Exn) : (ofExcept (.error error) : Program Op Answer Exn α) = .raise error := rfl

@[simp] theorem perform_bind (op : Op) (next : Answer op → Program Op Answer Exn α)
    (f : α → Program Op Answer Exn β) :
    (Program.perform op next).bind f = .perform op fun answer => (next answer).bind f := rfl

theorem bind_assoc (p : Program Op Answer Exn α) (f : α → Program Op Answer Exn β)
    (g : β → Program Op Answer Exn γ) : (p.bind f).bind g = p.bind fun value => (f value).bind g := by
  induction p with
  | ret value => rfl
  | raise error => rfl
  | perform op next ih => simp only [perform_bind, ih]

end Program

/-- What one party of a concurrent system relies on and has to establish.
`inv` holds of the shared state at all times, `rely` bounds the steps of all
others, `pre` is owed before an operation, `step` is what the operation
itself may do. -/
structure Discipline (Op : Type) (Answer : Op → Type) (State : Type) where
  inv : State → Prop
  rely : State → State → Prop
  pre : Op → State → Prop
  step : (op : Op) → State → Answer op → State → Prop
  rely_refl : ∀ s, rely s s
  rely_trans : ∀ {s t u}, rely s t → rely t u → rely s u

/-- A predicate the steps of the others cannot falsify. -/
def Discipline.Stable {Op : Type} {Answer : Op → Type} {State : Type}
    (D : Discipline Op Answer State) (Q : State → Prop) : Prop :=
  ∀ s t, D.rely s t → Q s → Q t

namespace Program
variable {Op : Type} {Answer : Op → Type} {Exn α β State : Type}

/-- The weakest precondition of a program among interfering ones: every
operation is performed with its `pre`, a return satisfies `Q`, a raise `E`. -/
def Obeys (D : Discipline Op Answer State) :
    Program Op Answer Exn α → (α → State → Prop) → (Exn → State → Prop) → State → Prop
  | .ret value, Q, _, s => Q value s
  | .raise error, _, E, s => E error s
  | .perform op next, Q, E, s =>
      ∀ t, D.rely s t → D.inv t → D.pre op t ∧
        ∀ answer u, D.step op t answer u → D.inv u → (next answer).Obeys D Q E u

variable {D : Discipline Op Answer State}

@[simp] theorem obeys_ret {value : α} {Q : α → State → Prop} {E : Exn → State → Prop} {s : State} :
    (Program.ret value : Program Op Answer Exn α).Obeys D Q E s ↔ Q value s := Iff.rfl

@[simp] theorem obeys_raise {error : Exn} {Q : α → State → Prop} {E : Exn → State → Prop} {s : State} :
    (Program.raise error : Program Op Answer Exn α).Obeys D Q E s ↔ E error s := Iff.rfl

theorem obeys_perform {op : Op} {next : Answer op → Program Op Answer Exn α}
    {Q : α → State → Prop} {E : Exn → State → Prop} {s : State} :
    (Program.perform op next).Obeys D Q E s ↔ ∀ t, D.rely s t → D.inv t → D.pre op t ∧
      ∀ answer u, D.step op t answer u → D.inv u → (next answer).Obeys D Q E u := Iff.rfl

theorem Obeys.mono {p : Program Op Answer Exn α} {Q Q' : α → State → Prop}
    {E E' : Exn → State → Prop} {s : State} (holds : p.Obeys D Q E s)
    (returns : ∀ value t, Q value t → Q' value t) (raises : ∀ error t, E error t → E' error t) :
    p.Obeys D Q' E' s := by
  induction p generalizing s with
  | ret value => exact returns value s holds
  | raise error => exact raises error s holds
  | perform op next ih =>
    intro t others valid
    obtain ⟨owed, after⟩ := holds t others valid
    exact ⟨owed, fun answer u own kept => ih answer (after answer u own kept)⟩

theorem obeys_bind {p : Program Op Answer Exn α} {f : α → Program Op Answer Exn β}
    {Q : β → State → Prop} {E : Exn → State → Prop} {s : State} :
    (p.bind f).Obeys D Q E s ↔ p.Obeys D (fun value t => (f value).Obeys D Q E t) E s := by
  induction p generalizing s with
  | ret value => rfl
  | raise error => rfl
  | perform op next ih => simp only [perform_bind, obeys_perform, ih]

theorem obeys_tryCatch {p : Program Op Answer Exn α} {h : Exn → Program Op Answer Exn α}
    {Q : α → State → Prop} {E : Exn → State → Prop} {s : State} :
    (p.tryCatch h).Obeys D Q E s ↔ p.Obeys D Q (fun error t => (h error).Obeys D Q E t) s := by
  induction p generalizing s with
  | ret value => rfl
  | raise error => rfl
  | perform op next ih => simp only [tryCatch, obeys_perform, ih]

theorem obeys_attempt {p : Program Op Answer Exn α} {Q : Except Exn α → State → Prop}
    {E : Exn → State → Prop} {s : State} :
    p.attempt.Obeys D Q E s ↔
      p.Obeys D (fun value => Q (.ok value)) (fun error => Q (.error error)) s := by
  induction p generalizing s with
  | ret value => rfl
  | raise error => rfl
  | perform op next ih => simp only [attempt, obeys_perform, ih]

/-- Steps of the others before the next operation are already accounted for,
so only the postconditions have to be stable. -/
theorem Obeys.rely {p : Program Op Answer Exn α} {Q : α → State → Prop} {E : Exn → State → Prop}
    {s t : State} (holds : p.Obeys D Q E s) (others : D.rely s t)
    (returns : ∀ value, D.Stable (Q value)) (raises : ∀ error, D.Stable (E error)) :
    p.Obeys D Q E t := by
  cases p with
  | ret value => exact returns value s t others holds
  | raise error => exact raises error s t others holds
  | perform op next => exact fun u later => holds u (D.rely_trans others later)

/-- Where no operation has a precondition, every program obeys. -/
theorem obeys_free (free : ∀ op s, D.pre op s) (p : Program Op Answer Exn α) (s : State) :
    p.Obeys D (fun _ _ => True) (fun _ _ => True) s := by
  induction p generalizing s with
  | ret value => trivial
  | raise error => trivial
  | perform op next ih => exact fun t _ _ => ⟨free op t, fun answer u _ _ => ih answer u⟩

end Program

/-- A discipline without a state: which operations are performed, where they
give only certain answers. -/
def Discipline.stateless {Op : Type} {Answer : Op → Type} (P : Op → Prop) (A : (op : Op) → Answer op → Prop) :
    Discipline Op Answer Unit where
  inv _ := True
  rely _ _ := True
  pre op _ := P op
  step op _ answer _ := A op answer
  rely_refl _ := trivial
  rely_trans _ _ := trivial

namespace Program
variable {Op : Type} {Answer : Op → Type} {Exn α State : Type}

/-- The program performs operations of one kind only, given answers of one
kind, and ends in `Q` or `E`. -/
abbrev Within (P : Op → Prop) (A : (op : Op) → Answer op → Prop) (Q : α → Prop) (E : Exn → Prop)
    (p : Program Op Answer Exn α) : Prop :=
  p.Obeys (.stateless P A) (fun value _ => Q value) (fun error _ => E error) ()

variable {P : Op → Prop} {A : (op : Op) → Answer op → Prop} {Q : α → Prop} {E : Exn → Prop}

theorem within_bind {β : Type} {p : Program Op Answer Exn α} {f : α → Program Op Answer Exn β} {R : β → Prop}
    (first : p.Within P A Q E) (later : ∀ value, Q value → (f value).Within P A R E) : (p.bind f).Within P A R E :=
  obeys_bind.mpr (first.mono (fun value _ returned => later value returned) fun _ _ raised => raised)

theorem within_ofExcept {result : Except Exn α} (returns : ∀ value, result = .ok value → Q value)
    (raises : ∀ error, result = .error error → E error) :
    (ofExcept result : Program Op Answer Exn α).Within P A Q E := by
  cases result with
  | ok value => exact returns value rfl
  | error error => exact raises error rfl

/-- One operation whose exceptions are raised. -/
theorem within_ask {op : Op} {read : Answer op → Except Exn α} (kind : P op)
    (returns : ∀ answer value, A op answer → read answer = .ok value → Q value)
    (raises : ∀ answer error, A op answer → read answer = .error error → E error) :
    ((ask op).bind fun answer => ofExcept (read answer) : Program Op Answer Exn α).Within P A Q E :=
  fun _ _ _ => ⟨kind, fun answer _ given _ => within_ofExcept (fun value same => returns answer value given same)
    fun error same => raises answer error given same⟩

/-- The frame rule: what the others and operations of this kind keep, the whole program keeps. -/
theorem Within.obeys {D : Discipline Op Answer State} {p : Program Op Answer Exn α} {R : State → Prop} {s : State}
    (within : p.Within P A Q E) (stable : D.Stable R) (owed : ∀ op s, P op → D.inv s → R s → D.pre op s)
    (kept : ∀ op s answer t, P op → D.inv s → R s → D.step op s answer t → A op answer ∧ R t) (holds : R s) :
    p.Obeys D (fun value t => Q value ∧ R t) (fun error t => E error ∧ R t) s := by
  induction p generalizing s with
  | ret value => exact ⟨within, holds⟩
  | raise error => exact ⟨within, holds⟩
  | perform op next ih =>
    intro t others valid
    obtain ⟨kind, after⟩ := within () trivial trivial
    have here := stable s t others holds
    refine ⟨owed op t kind valid here, fun answer u step _ => ?_⟩
    obtain ⟨given, later⟩ := kept op t answer u kind valid here step
    exact ih answer (after answer () given trivial) later

theorem Within.weaken {P' : Op → Prop} {A' : (op : Op) → Answer op → Prop} {p : Program Op Answer Exn α}
    (within : p.Within P A Q E) (wider : ∀ op, P op → P' op) (fewer : ∀ op answer, A' op answer → A op answer) :
    p.Within P' A' Q E := by
  induction p with
  | ret value => exact within
  | raise error => exact within
  | perform op next ih =>
    obtain ⟨kind, after⟩ := within () trivial trivial
    exact fun _ _ _ => ⟨wider op kind, fun answer u given _ => ih answer (after answer u (fewer op answer given) trivial)⟩

end Program

/-- Two programs that only answers outside of `A` can tell apart. -/
inductive Program.Same {Op : Type} {Answer : Op → Type} {Exn α : Type} (A : (op : Op) → Answer op → Prop) :
    Program Op Answer Exn α → Program Op Answer Exn α → Prop
  | ret (value : α) : Same A (.ret value) (.ret value)
  | raise (error : Exn) : Same A (.raise error) (.raise error)
  | perform (op : Op) {next other : Answer op → Program Op Answer Exn α} :
      (∀ answer, A op answer → Same A (next answer) (other answer)) → Same A (.perform op next) (.perform op other)

namespace Program
variable {Op : Type} {Answer : Op → Type} {Exn α β : Type} {A : (op : Op) → Answer op → Prop}

theorem Same.refl (p : Program Op Answer Exn α) : Same A p p := by
  induction p with
  | ret value => exact .ret value
  | raise error => exact .raise error
  | perform op next ih => exact .perform op fun answer _ => ih answer

theorem same_bind {P : Op → Prop} {Q : α → Prop} {E : Exn → Prop} {p : Program Op Answer Exn α}
    {f g : α → Program Op Answer Exn β} (within : p.Within P A Q E)
    (same : ∀ value, Q value → Same A (f value) (g value)) : Same A (p.bind f) (p.bind g) := by
  induction p with
  | ret value => exact same value within
  | raise error => exact .raise error
  | perform op next ih =>
    exact .perform op fun answer given => ih answer ((within () trivial trivial).2 answer () given trivial)

end Program

end ReliabilityLab
