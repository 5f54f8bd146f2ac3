import Mathlib.Data.List.Forall2

namespace ReliabilityLab

/-- How a check ends early: it refuses its input, or an exception escapes from it. -/
inductive Stop (Exn : Type) where
  | refused
  | raised (error : Exn)
  deriving DecidableEq

/-- A check that passes with a value, refuses, or raises. -/
abbrev Check (Exn α : Type) := Except (Stop Exn) α

namespace Check
variable {Exn α β γ σ ε : Type}

def require (condition : Prop) [Decidable condition] : Check Exn Unit :=
  if condition then .ok () else .error .refused

def raise (error : Exn) : Check Exn α := .error (.raised error)

/-- The value, or a refusal. -/
def some? : Option α → Check Exn α
  | some value => .ok value
  | none => .error .refused

/-- An exception of `result` escapes. -/
def lift : Except Exn α → Check Exn α
  | .ok value => .ok value
  | .error error => .error (.raised error)

/-- An exception escapes. -/
def Raises (check : Check Exn α) : Prop := ∃ error, check = .error (.raised error)

theorem bind_ok {Error : Type} {check : Except Error α} {next : α → Except Error β} {result : β} :
    check >>= next = .ok result ↔ ∃ value, check = .ok value ∧ next value = .ok result := by
  cases check <;> simp [bind, Except.bind]

theorem require_ok {condition : Prop} [Decidable condition] {done : Unit} :
    (require condition : Check Exn Unit) = .ok done ↔ condition := by
  unfold require
  split <;> simp [*]

theorem require_bind_ok {condition : Prop} [Decidable condition] {next : Unit → Check Exn β} {result : β} :
    require condition >>= next = .ok result ↔ condition ∧ next () = .ok result := by
  unfold require
  split <;> simp [bind, Except.bind, *]

theorem some?_ok {found : Option α} {value : α} : (some? found : Check Exn α) = .ok value ↔ found = some value := by
  cases found <;> simp [some?]

theorem lift_ok {result : Except Exn α} {value : α} : (lift result : Check Exn α) = .ok value ↔ result = .ok value := by
  cases result <;> simp [lift]

theorem some?_bind_ok {found : Option α} {next : α → Check Exn β} {result : β} :
    some? found >>= next = .ok result ↔ ∃ value, found = some value ∧ next value = .ok result := by
  cases found <;> simp [some?, bind, Except.bind]

@[simp] theorem raises_ok {value : α} : ¬ Raises (.ok value : Check Exn α) := by simp [Raises]

@[simp] theorem raises_pure {value : α} : ¬ Raises (pure value : Check Exn α) := raises_ok

@[simp] theorem raises_refused : ¬ Raises (.error .refused : Check Exn α) := by simp [Raises]

@[simp] theorem raises_raise {error : Exn} : Raises (raise error : Check Exn α) := ⟨error, rfl⟩

@[simp] theorem raises_require {condition : Prop} [Decidable condition] :
    ¬ Raises (require condition : Check Exn Unit) := by
  unfold require
  split <;> simp

@[simp] theorem raises_some? {found : Option α} : ¬ Raises (some? found : Check Exn α) := by
  cases found <;> simp [some?]

@[simp] theorem raises_lift {result : Except Exn α} : Raises (lift result) ↔ ∃ error, result = .error error := by
  cases result <;> simp [lift, Raises]

/-- A sequence raises where its head does, or its tail after a head that passed. -/
theorem raises_bind {check : Check Exn α} {next : α → Check Exn β} :
    Raises (check >>= next) ↔ Raises check ∨ ∃ value, check = .ok value ∧ Raises (next value) := by
  rcases check with (_ | error) | value <;> simp [bind, Except.bind, Raises]

@[simp] theorem raises_map {check : Check Exn α} {f : α → β} : Raises (f <$> check) ↔ Raises check := by
  rcases check with (_ | error) | value <;> simp [Functor.map, Except.map, Raises]

/-- A checker reads its input once, event by event. -/
def run (step : σ → ε → Check Exn σ) : σ → List ε → Check Exn σ
  | state, [] => .ok state
  | state, event :: rest => step state event >>= fun next => run step next rest

theorem run_append {step : σ → ε → Check Exn σ} {state : σ} {first second : List ε} :
    run step state (first ++ second) = run step state first >>= fun middle => run step middle second := by
  induction first generalizing state with
  | nil => rfl
  | cons event rest ih =>
    simp only [List.cons_append, run]
    cases step state event with
    | error stop => rfl
    | ok next => exact ih

/-- A run over a split input stops by in the state in between. -/
theorem run_split {step : σ → ε → Check Exn σ} {state final : σ} {first second : List ε} :
    run step state (first ++ second) = .ok final ↔
      ∃ middle, run step state first = .ok middle ∧ run step middle second = .ok final := by
  rw [run_append, bind_ok]

theorem run_cons_ok {step : σ → ε → Check Exn σ} {state final : σ} {event : ε} {rest : List ε} :
    run step state (event :: rest) = .ok final ↔
      ∃ next, step state event = .ok next ∧ run step next rest = .ok final := by
  rw [run, bind_ok]

/-- A run raises where a step does, in a state that the events before it lead to. -/
theorem raises_run {step : σ → ε → Check Exn σ} {state : σ} {events : List ε} :
    Raises (run step state events) ↔ ∃ before event after middle, events = before ++ event :: after ∧
      run step state before = .ok middle ∧ Raises (step middle event) := by
  induction events generalizing state with
  | nil => simp [run]
  | cons event rest ih =>
    rw [run, raises_bind]
    constructor
    · rintro (here | ⟨next, stepped, later⟩)
      · exact ⟨[], event, rest, state, rfl, rfl, here⟩
      · obtain ⟨before, other, after, middle, rfl, ran, raises⟩ := ih.mp later
        exact ⟨event :: before, other, after, middle, rfl, run_cons_ok.mpr ⟨next, stepped, ran⟩, raises⟩
    · rintro ⟨before, other, after, middle, split, ran, raises⟩
      cases before with
      | nil =>
        cases ran
        cases split
        exact .inl raises
      | cons head before =>
        cases split
        obtain ⟨next, stepped, later⟩ := run_cons_ok.mp ran
        exact .inr ⟨next, stepped, ih.mpr ⟨before, other, after, middle, rfl, later, raises⟩⟩

/-- An invariant of the events read so far and the state they lead to. -/
theorem run_invariant {step : σ → ε → Check Exn σ} {invariant : List ε → σ → Prop}
    (keeps : ∀ seen state event next, invariant seen state → step state event = .ok next →
      invariant (seen ++ [event]) next)
    {seen events : List ε} {state final : σ} (start : invariant seen state)
    (accepted : run step state events = .ok final) : invariant (seen ++ events) final := by
  induction events generalizing seen state with
  | nil =>
    cases accepted
    simpa using start
  | cons event rest ih =>
    obtain ⟨next, stepped, later⟩ := run_cons_ok.mp accepted
    simpa using ih (keeps seen state event next start stepped) later

/-- What holds of the state after every step and is kept from then on. -/
theorem run_keeps {step : σ → ε → Check Exn σ} {property : σ → Prop}
    (keeps : ∀ state event next, property state → step state event = .ok next → property next)
    {events : List ε} {state final : σ} (start : property state)
    (accepted : run step state events = .ok final) : property final :=
  @run_invariant _ _ _ step (fun _ => property) (fun _ => keeps) [] _ _ _ start accepted

theorem forM_ok {check : α → Check Exn Unit} {values : List α} (passed : values.forM check = .ok ()) :
    ∀ value ∈ values, check value = .ok () := by
  induction values with
  | nil => simp
  | cons head tail ih =>
    obtain ⟨done, first, rest⟩ := bind_ok.mp (show (check head >>= fun _ => tail.forM check) = .ok () from passed)
    exact List.forall_mem_cons.mpr ⟨first, ih rest⟩

/-- The event adds an entry to the list if it is of the kind, and none otherwise. -/
def Adds (kind : ε → Bool) (related : ε → γ → Prop) (event : ε) (old new : List γ) : Prop :=
  if kind event then ∃ entry, related event entry ∧ new = old ++ [entry] else new = old

/-- A run collects one entry for each event of a kind, in their order. -/
theorem run_collects {step : σ → ε → Check Exn σ} {kind : ε → Bool} {related : ε → γ → Prop} {collect : σ → List γ}
    (adds : ∀ state event next, step state event = .ok next → Adds kind related event (collect state) (collect next))
    {events : List ε} {state final : σ} (start : collect state = [])
    (accepted : run step state events = .ok final) : List.Forall₂ related (events.filter kind) (collect final) := by
  have keeps : ∀ seen state event next, List.Forall₂ related (List.filter kind seen) (collect state) →
      step state event = .ok next → List.Forall₂ related (List.filter kind (seen ++ [event])) (collect next) := by
    intro seen state event next collected stepped
    have added := adds state event next stepped
    unfold Adds at added
    rw [List.filter_append]
    by_cases counts : kind event = true
    · rw [if_pos counts] at added
      obtain ⟨entry, matching, grown⟩ := added
      rw [grown, List.filter_cons_of_pos counts]
      exact List.rel_append collected (.cons matching .nil)
    · rw [if_neg counts] at added
      rw [added, List.filter_cons_of_neg counts]
      simpa using collected
  simpa using @run_invariant _ _ _ step _ keeps [] events _ _ (by simp [start]) accepted

end Check

theorem ok_of_toOption {ε α : Type} {result : Except ε α} {value : α} (read : result.toOption = some value) :
    result = .ok value := by
  cases result with
  | ok other => exact congrArg _ (Option.some.inj read)
  | error => cases read

/-- A list is read entry by entry. -/
theorem mapM_ok {ε α β : Type} {f : α → Except ε β} {items : List α} {values : List β} :
    items.mapM f = .ok values ↔ List.Forall₂ (fun item value => f item = .ok value) items values := by
  induction items generalizing values with
  | nil =>
    rw [List.mapM_nil, List.forall₂_nil_left_iff]
    exact ⟨fun done => (Except.ok.inj done).symm, fun none => none ▸ rfl⟩
  | cons item rest ih =>
    rw [List.mapM_cons, List.forall₂_cons_left_iff]
    constructor
    · intro done
      obtain ⟨value, read, done⟩ := Check.bind_ok.mp done
      obtain ⟨later, others, done⟩ := Check.bind_ok.mp done
      cases done
      exact ⟨value, later, read, ih.mp others, rfl⟩
    · rintro ⟨value, later, read, others, rfl⟩
      exact Check.bind_ok.mpr ⟨value, read, Check.bind_ok.mpr ⟨later, ih.mpr others, rfl⟩⟩

theorem forall₂_through {α β γ : Type} {first : α → β → Prop} {second : β → γ → Prop} {both : α → γ → Prop}
    (joins : ∀ a b c, first a b → second b c → both a c) {as : List α} {bs : List β} {cs : List γ}
    (left : List.Forall₂ first as bs) (right : List.Forall₂ second bs cs) : List.Forall₂ both as cs := by
  induction left generalizing cs with
  | nil =>
    cases right
    exact .nil
  | cons here _ ih =>
    cases right with
    | cons there rest => exact .cons (joins _ _ _ here there) (ih rest)

theorem exists_related {α β : Type} {related : α → β → Prop} {left : List α} {right : List β}
    (pairs : List.Forall₂ related left right) : ∀ a ∈ left, ∃ b ∈ right, related a b := by
  induction pairs with
  | nil => simp
  | cons first _ ih =>
    rw [List.forall_mem_cons]
    refine ⟨⟨_, List.mem_cons_self, first⟩, fun a inside => ?_⟩
    obtain ⟨b, there, pair⟩ := ih a inside
    exact ⟨b, List.mem_cons_of_mem _ there, pair⟩

/-- Lists that compare equal do so entry by entry. -/
theorem forall₂_of_beq {α : Type} [BEq α] {left right : List α} (same : (left == right) = true) :
    List.Forall₂ (fun a b => (a == b) = true) left right := by
  induction left generalizing right with
  | nil =>
    cases right with
    | nil => exact .nil
    | cons => cases same
  | cons head tail ih =>
    cases right with
    | nil => cases same
    | cons first rest =>
      obtain ⟨equal, more⟩ := Bool.and_eq_true_iff.mp same
      exact .cons equal (ih more)

/-- The only entry comes from the only event of its kind. -/
theorem only_of_collected {ε γ : Type} {kind : ε → Bool} {related : ε → γ → Prop} {events : List ε} {entry : γ}
    (collected : List.Forall₂ related (events.filter kind) [entry]) :
    ∃ event ∈ events, related event entry ∧ ∀ other ∈ events, kind other = true → other = event := by
  obtain ⟨event, rest, matching, none, single⟩ := List.forall₂_cons_right_iff.mp collected
  rw [List.forall₂_nil_right_iff.mp none] at single
  have there : event ∈ events.filter kind := by simp [single]
  refine ⟨event, List.mem_of_mem_filter there, matching, fun other member counts => ?_⟩
  simpa [single] using List.mem_filter.mpr ⟨member, counts⟩

/-- Two places of one list: the first is before the second, or the same, or after it. -/
theorem split_order {α : Type} {before after front back : List α} {a b : α}
    (same : before ++ a :: after = front ++ b :: back) :
    (∃ middle, front = before ++ a :: middle ∧ after = middle ++ b :: back) ∨ a = b ∨
      ∃ middle, before = front ++ b :: middle ∧ back = middle ++ a :: after := by
  rcases List.append_eq_append_iff.mp same with ⟨middle, first, second⟩ | ⟨middle, first, second⟩
  · cases middle with
    | nil => exact .inr (.inl (List.cons.inj second).1)
    | cons head middle =>
      obtain ⟨rfl, rest⟩ := List.cons.inj second
      exact .inl ⟨middle, first, rest⟩
  · cases middle with
    | nil => exact .inr (.inl (List.cons.inj second).1.symm)
    | cons head middle =>
      obtain ⟨rfl, rest⟩ := List.cons.inj second
      exact .inr (.inr ⟨middle, first, rest⟩)

end ReliabilityLab
