import Mathlib.Logic.Function.Basic
import Mathlib.Logic.Relation
import ReliabilityLab.Domain

namespace ReliabilityLab

/-- `_RunLockEntry`: a lock, and how many contexts use it. -/
structure RunLockEntry where
  locked : Bool
  users : Int

/-- `_RunLocks`: the table, and the entries that were ever created. An entry is known by its number. -/
structure RunLocks where
  locks : Uuid → Option Nat
  entries : Nat → RunLockEntry
  created : Nat

namespace RunLocks

def empty : RunLocks := ⟨fun _ => none, fun _ => ⟨false, 0⟩, 0⟩

variable (table : RunLocks) (runId : Uuid) (entry : Nat)

def put (value : RunLockEntry) : RunLocks := { table with entries := Function.update table.entries entry value }

/-- The first block of `hold` under the guard. The default of `setdefault` is created in any case. -/
def register : RunLocks × Nat :=
  let fresh := { table.put table.created ⟨false, 0⟩ with created := table.created + 1 }
  let entry := (table.locks runId).getD table.created
  let known := { fresh with locks := Function.update table.locks runId (some entry) }
  (known.put entry { known.entries entry with users := (known.entries entry).users + 1 }, entry)

/-- `entry.lock.acquire()`, where it does not wait. -/
def acquire : RunLocks := table.put entry { table.entries entry with locked := true }

def release : RunLocks := table.put entry { table.entries entry with locked := false }

/-- The last block of `hold` under the guard. -/
def deregister : RunLocks :=
  let left := table.put entry { table.entries entry with users := (table.entries entry).users - 1 }
  if (left.entries entry).users = 0 ∧ left.locks runId = some entry then
    { left with locks := Function.update left.locks runId none }
  else left

end RunLocks

/-- Where a context is between its two blocks under the guard. -/
inductive HoldPhase where
  | waiting
  | body
  | leaving (raised : Bool)
  deriving DecidableEq

/-- A context of `hold` that is registered. -/
structure HoldContext where
  runId : Uuid
  entry : Nat
  phase : HoldPhase
  deriving DecidableEq

/-- The table, and the contexts that are registered in it. -/
structure LockWorld where
  table : RunLocks
  contexts : List HoldContext

namespace LockWorld

def initial : LockWorld := ⟨.empty, []⟩

/-- One atomic step of one context. Waiting for the lock and the body may raise. -/
inductive Step : LockWorld → LockWorld → Prop
  | register (world : LockWorld) (runId : Uuid) :
      Step world ⟨(world.table.register runId).1, world.contexts ++ [⟨runId, (world.table.register runId).2, .waiting⟩]⟩
  | acquire {table : RunLocks} {before after : List HoldContext} {runId : Uuid} {entry : Nat} :
      (table.entries entry).locked = false →
      Step ⟨table, before ++ ⟨runId, entry, .waiting⟩ :: after⟩
        ⟨table.acquire entry, before ++ ⟨runId, entry, .body⟩ :: after⟩
  | interrupt {table : RunLocks} {before after : List HoldContext} {runId : Uuid} {entry : Nat} :
      Step ⟨table, before ++ ⟨runId, entry, .waiting⟩ :: after⟩
        ⟨table, before ++ ⟨runId, entry, .leaving true⟩ :: after⟩
  | release {table : RunLocks} {before after : List HoldContext} {runId : Uuid} {entry : Nat} (raised : Bool) :
      Step ⟨table, before ++ ⟨runId, entry, .body⟩ :: after⟩
        ⟨table.release entry, before ++ ⟨runId, entry, .leaving raised⟩ :: after⟩
  | deregister {table : RunLocks} {before after : List HoldContext} {runId : Uuid} {entry : Nat} {raised : Bool} :
      Step ⟨table, before ++ ⟨runId, entry, .leaving raised⟩ :: after⟩
        ⟨table.deregister runId entry, before ++ after⟩

abbrev Reachable (world : LockWorld) : Prop := Relation.ReflTransGen Step initial world

/-- How many contexts are registered with this entry. -/
def users (contexts : List HoldContext) (entry : Nat) : Nat := contexts.countP (·.entry = entry)

/-- How many contexts with this entry are in their body. -/
def holders (contexts : List HoldContext) (entry : Nat) : Nat :=
  contexts.countP fun context => context.entry = entry ∧ context.phase = .body

/-- Entries count their contexts, and the table knows exactly those that have some. -/
structure Consistent (world : LockWorld) : Prop where
  shared : ∀ context ∈ world.contexts, world.table.locks context.runId = some context.entry
  used : ∀ runId entry, world.table.locks runId = some entry → 0 < users world.contexts entry
  old : ∀ runId entry, world.table.locks runId = some entry → entry < world.table.created
  apart : ∀ runId other entry, world.table.locks runId = some entry → world.table.locks other = some entry → runId = other
  counted : ∀ entry, entry < world.table.created → (world.table.entries entry).users = users world.contexts entry
  exclusive : ∀ entry, entry < world.table.created →
    holders world.contexts entry = if (world.table.entries entry).locked = true then 1 else 0

variable {world next : LockWorld} {before after : List HoldContext} {table : RunLocks} {runId : Uuid} {entry : Nat}
  {phase : HoldPhase}

theorem users_split (context : HoldContext) (entry : Nat) : users (before ++ context :: after) entry =
    users (before ++ after) entry + if context.entry = entry then 1 else 0 := by
  simp only [users, List.countP_append, List.countP_cons, decide_eq_true_eq]
  omega

theorem holders_split (context : HoldContext) (entry : Nat) : holders (before ++ context :: after) entry =
    holders (before ++ after) entry + if context.entry = entry ∧ context.phase = .body then 1 else 0 := by
  simp only [holders, List.countP_append, List.countP_cons, decide_eq_true_eq]
  omega

theorem consistent_initial : Consistent initial := by
  refine ⟨?_, ?_, ?_, ?_, ?_, ?_⟩
  · simp [initial]
  · intro runId entry known
    cases known
  · intro runId entry known
    cases known
  · intro runId other entry known
    cases known
  · intro entry old
    cases old
  · intro entry old
    cases old

/-- A context that only changes its phase leaves everything but its lock. -/
theorem Consistent.move {later : HoldPhase} {locked : Bool}
    (consistent : Consistent ⟨table, before ++ ⟨runId, entry, phase⟩ :: after⟩)
    (lock : holders (before ++ ⟨runId, entry, later⟩ :: after) entry = if locked = true then 1 else 0) :
    Consistent ⟨table.put entry { table.entries entry with locked := locked },
      before ++ ⟨runId, entry, later⟩ :: after⟩ := by
  have same : ∀ other, users (before ++ ⟨runId, entry, later⟩ :: after) other =
      users (before ++ ⟨runId, entry, phase⟩ :: after) other := by
    intro other
    rw [users_split, users_split]
  refine ⟨?_, ?_, consistent.old, consistent.apart, ?_, ?_⟩
  · intro context inside
    rw [List.mem_append, List.mem_cons] at inside
    rcases inside with early | rfl | late
    · exact consistent.shared context (by simp [early])
    · exact consistent.shared ⟨runId, entry, phase⟩ (by simp)
    · exact consistent.shared context (by simp [late])
  · intro run known found
    rw [same]
    exact consistent.used run known found
  · intro other old
    have counted := consistent.counted other old
    rw [same, ← counted]
    by_cases here : other = entry
    · subst here
      simp [RunLocks.put]
    · simp [RunLocks.put, here]
  · intro other old
    by_cases here : other = entry
    · subst here
      simpa [RunLocks.put] using lock
    · have exclusive := consistent.exclusive other old
      rw [holders_split] at exclusive ⊢
      simpa [RunLocks.put, here, Ne.symm here] using exclusive

theorem Consistent.entry_old (consistent : Consistent ⟨table, before ++ ⟨runId, entry, phase⟩ :: after⟩) :
    entry < table.created :=
  consistent.old runId entry (consistent.shared ⟨runId, entry, phase⟩ (by simp))

theorem Consistent.acquire (consistent : Consistent ⟨table, before ++ ⟨runId, entry, .waiting⟩ :: after⟩)
    (free : (table.entries entry).locked = false) :
    Consistent ⟨table.acquire entry, before ++ ⟨runId, entry, .body⟩ :: after⟩ := by
  have none := consistent.exclusive entry consistent.entry_old
  refine consistent.move ?_
  rw [holders_split] at none ⊢
  simp only [free, reduceCtorEq, and_false, if_false, Bool.false_eq_true, Nat.add_zero] at none
  simp [none]

theorem Consistent.release (consistent : Consistent ⟨table, before ++ ⟨runId, entry, .body⟩ :: after⟩) (raised : Bool) :
    Consistent ⟨table.release entry, before ++ ⟨runId, entry, .leaving raised⟩ :: after⟩ := by
  have one := consistent.exclusive entry consistent.entry_old
  refine consistent.move ?_
  rw [holders_split] at one ⊢
  simp only [and_self, if_true] at one
  have bound : (if (table.entries entry).locked = true then 1 else 0) ≤ 1 := by
    split <;> omega
  simp only [reduceCtorEq, and_false, if_false, Bool.false_eq_true, Nat.add_zero]
  omega

theorem Consistent.interrupt (consistent : Consistent ⟨table, before ++ ⟨runId, entry, .waiting⟩ :: after⟩) :
    Consistent ⟨table, before ++ ⟨runId, entry, .leaving true⟩ :: after⟩ := by
  have kept := consistent.exclusive entry consistent.entry_old
  have moved : Consistent ⟨table.put entry { table.entries entry with locked := (table.entries entry).locked },
      before ++ ⟨runId, entry, .leaving true⟩ :: after⟩ := by
    refine consistent.move ?_
    rw [holders_split] at kept ⊢
    simpa using kept
  have unchanged : table.put entry { table.entries entry with locked := (table.entries entry).locked } = table := by
    simp [RunLocks.put]
  rwa [unchanged] at moved

/-- A new entry has no contexts. -/
theorem Consistent.fresh (consistent : Consistent world) : users world.contexts world.table.created = 0 ∧
    holders world.contexts world.table.created = 0 := by
  have none : ∀ context ∈ world.contexts, context.entry ≠ world.table.created := by
    intro context inside
    have old := consistent.old _ _ (consistent.shared context inside)
    omega
  constructor
  · refine List.countP_eq_zero.mpr fun context inside => ?_
    simpa using none context inside
  · refine List.countP_eq_zero.mpr fun context inside => ?_
    simp [none context inside]

theorem users_append (context : HoldContext) (contexts : List HoldContext) (entry : Nat) :
    users (contexts ++ [context]) entry = users contexts entry + if context.entry = entry then 1 else 0 := by
  simp [users, List.countP_append, List.countP_cons]

theorem holders_append (contexts : List HoldContext) (runId : Uuid) (entry other : Nat) :
    holders (contexts ++ [⟨runId, other, .waiting⟩]) entry = holders contexts entry := by
  simp [holders, List.countP_append]

theorem register_locks (run : Uuid) : (table.register runId).1.locks run =
    if run = runId then some (table.register runId).2 else table.locks run := by
  by_cases here : run = runId
  · subst here
    simp [RunLocks.register, RunLocks.put]
  · simp [RunLocks.register, RunLocks.put, here]

/-- The entry of the run, or the one that was just created. -/
theorem register_entry : table.locks runId = some (table.register runId).2 ∨
    table.locks runId = none ∧ (table.register runId).2 = table.created := by
  cases known : table.locks runId with
  | none => exact .inr ⟨rfl, by simp [RunLocks.register, known]⟩
  | some entry => exact .inl (by simp [RunLocks.register, known])

theorem register_entries (other : Nat) : (table.register runId).1.entries other =
    let found := if other = table.created then ⟨false, 0⟩ else table.entries other
    if other = (table.register runId).2 then { found with users := found.users + 1 } else found := by
  by_cases here : other = (table.register runId).2
  · subst here
    simp [RunLocks.register, RunLocks.put, Function.update_apply]
  · have away : other ≠ (table.locks runId).getD table.created := here
    simp [RunLocks.register, RunLocks.put, Function.update_apply, away]

theorem register_locked (other : Nat) : ((table.register runId).1.entries other).locked =
    if other = table.created then false else (table.entries other).locked := by
  have found : (if other = table.created then (⟨false, 0⟩ : RunLockEntry) else table.entries other).locked =
      if other = table.created then false else (table.entries other).locked := by
    split <;> rfl
  rw [register_entries]
  dsimp only
  split
  · exact found
  · exact found

theorem Consistent.register (consistent : Consistent world) (runId : Uuid) :
    Consistent ⟨(world.table.register runId).1,
      world.contexts ++ [⟨runId, (world.table.register runId).2, .waiting⟩]⟩ := by
  obtain ⟨unused, free⟩ := consistent.fresh
  have created : (world.table.register runId).1.created = world.table.created + 1 := rfl
  have origin : world.table.locks runId = some (world.table.register runId).2 ∨
      world.table.locks runId = none ∧ (world.table.register runId).2 = world.table.created := register_entry
  have bound : (world.table.register runId).2 ≤ world.table.created := by
    rcases origin with known | ⟨-, new⟩
    · exact (consistent.old _ _ known).le
    · exact new.le
  refine ⟨?_, ?_, ?_, ?_, ?_, ?_⟩
  · rw [List.forall_mem_append, List.forall_mem_singleton]
    refine ⟨fun context inside => ?_, by simp [register_locks]⟩
    have known := consistent.shared context inside
    rw [register_locks]
    split
    · rename_i here
      rw [here] at known
      rcases origin with same | ⟨none, -⟩
      · rw [← same, known]
      · rw [none] at known
        cases known
    · exact known
  · intro run entry found
    rw [register_locks] at found
    rw [users_append]
    split at found
    · cases found
      simp
    · have used := consistent.used run entry found
      omega
  · intro run entry found
    rw [register_locks] at found
    rw [created]
    split at found
    · cases found
      omega
    · have old := consistent.old run entry found
      omega
  · have mixed : ∀ other, world.table.locks other = some (world.table.register runId).2 → runId = other := by
      intro other known
      rcases origin with same | ⟨-, new⟩
      · exact consistent.apart _ _ _ same known
      · have old := consistent.old other _ known
        omega
    intro run other entry first second
    rw [register_locks] at first second
    split at first <;> split at second
    · rename_i here there
      rw [here, there]
    · rename_i here _
      cases first
      rw [here]
      exact mixed other second
    · rename_i _ there
      cases second
      rw [there]
      exact (mixed run first).symm
    · exact consistent.apart run other entry first second
  · intro other old
    rw [created] at old
    rw [users_append, register_entries]
    by_cases new : other = world.table.created
    · subst new
      by_cases mine : world.table.created = (world.table.register runId).2
      · simp [← mine, unused]
      · simp [mine, Ne.symm mine, unused]
    · have counted := consistent.counted other (by omega)
      by_cases mine : other = (world.table.register runId).2
      · subst mine
        simp [new, counted]
      · simp [new, mine, Ne.symm mine, counted]
  · intro other old
    rw [created] at old
    rw [holders_append, register_locked]
    by_cases new : other = world.table.created
    · subst new
      simp [free]
    · have exclusive := consistent.exclusive other (by omega)
      simp [new, exclusive]

/-- The last context of a run takes its entry out of the table. -/
theorem Consistent.deregister {raised : Bool}
    (consistent : Consistent ⟨table, before ++ ⟨runId, entry, .leaving raised⟩ :: after⟩) :
    Consistent ⟨table.deregister runId entry, before ++ after⟩ := by
  have mine : table.locks runId = some entry := consistent.shared ⟨runId, entry, .leaving raised⟩ (by simp)
  have old : entry < table.created := consistent.entry_old
  have counted := consistent.counted entry old
  rw [users_split, if_pos rfl] at counted
  have left : (table.entries entry).users - 1 = users (before ++ after) entry := by
    push_cast at counted
    omega
  have inside : ∀ context ∈ before ++ after, context ∈ before ++ ⟨runId, entry, .leaving raised⟩ :: after := by
    intro context there
    rcases List.mem_append.mp there with early | late
    · simp [early]
    · simp [late]
  -- what is said about entries does not depend on whether the entry leaves the table
  have entries : ∀ other, (table.deregister runId entry).entries other =
      if other = entry then { table.entries entry with users := users (before ++ after) entry } else table.entries other := by
    intro other
    have written : (table.deregister runId entry).entries =
        Function.update table.entries entry { table.entries entry with users := (table.entries entry).users - 1 } := by
      simp only [RunLocks.deregister]
      split <;> rfl
    rw [written, left, Function.update_apply]
  have created : (table.deregister runId entry).created = table.created := by
    simp only [RunLocks.deregister]
    split <;> rfl
  have locks : (table.deregister runId entry).locks =
      if users (before ++ after) entry = 0 then Function.update table.locks runId none else table.locks := by
    have empty : ((table.entries entry).users - 1 = 0) = (users (before ++ after) entry = 0) := by
      rw [left]
      exact propext Int.natCast_eq_zero
    simp only [RunLocks.deregister, RunLocks.put, Function.update_self, empty, mine, and_true]
    split <;> rfl
  have known : ∀ run other, (table.deregister runId entry).locks run = some other →
      table.locks run = some other ∧ 0 < users (before ++ after) other := by
    intro run other found
    rw [locks] at found
    by_cases empty : users (before ++ after) entry = 0
    · rw [if_pos empty, Function.update_apply] at found
      split at found
      · cases found
      · rename_i away
        have used := consistent.used run other found
        have apart : entry ≠ other := by
          rintro rfl
          exact away (consistent.apart run runId entry found mine)
        rw [users_split, if_neg apart] at used
        exact ⟨found, by omega⟩
    · rw [if_neg empty] at found
      have used := consistent.used run other found
      rw [users_split] at used
      refine ⟨found, ?_⟩
      by_cases same : entry = other
      · subst same
        omega
      · rw [if_neg same] at used
        omega
  refine ⟨?_, ?_, ?_, ?_, ?_, ?_⟩
  · intro context there
    have shared := consistent.shared context (inside context there)
    rw [locks]
    split
    · rename_i empty
      have away : context.runId ≠ runId := by
        intro same
        rw [same, mine] at shared
        have none := List.countP_eq_zero.mp empty context there
        exact none (by simpa using (Option.some.inj shared).symm)
      rwa [Function.update_of_ne away]
    · exact shared
  · exact fun run other found => (known run other found).2
  · intro run other found
    rw [created]
    exact consistent.old run other (known run other found).1
  · intro run second other found there
    exact consistent.apart run second other (known run other found).1 (known second other there).1
  · intro other before_created
    rw [created] at before_created
    rw [entries]
    by_cases same : other = entry
    · rw [if_pos same, same]
    · have counted := consistent.counted other before_created
      rw [users_split, if_neg (Ne.symm same), Nat.add_zero] at counted
      rw [if_neg same, counted]
  · intro other before_created
    rw [created] at before_created
    have exclusive := consistent.exclusive other before_created
    rw [holders_split] at exclusive
    rw [entries]
    by_cases same : other = entry
    · subst same
      simpa using exclusive
    · simpa [same] using exclusive

theorem Consistent.step (consistent : Consistent world) (move : Step world next) : Consistent next := by
  cases move with
  | register _ runId => exact consistent.register runId
  | acquire free => exact consistent.acquire free
  | interrupt => exact consistent.interrupt
  | release raised => exact consistent.release raised
  | deregister => exact consistent.deregister

theorem reachable_consistent (reach : Reachable world) : Consistent world := by
  induction reach with
  | refl => exact consistent_initial
  | tail _ move ih => exact ih.step move

theorem Consistent.one_body (consistent : Consistent world) (runId : Uuid) :
    (world.contexts.countP fun context => context.runId = runId ∧ context.phase = .body) ≤ 1 := by
  cases known : world.table.locks runId with
  | none =>
    have nobody : (world.contexts.countP fun context => context.runId = runId ∧ context.phase = .body) = 0 := by
      refine List.countP_eq_zero.mpr fun context inside => ?_
      have shared := consistent.shared context inside
      intro mine
      simp only [decide_eq_true_eq] at mine
      rw [mine.1, known] at shared
      cases shared
    omega
  | some entry =>
    have among : (world.contexts.countP fun context => context.runId = runId ∧ context.phase = .body) ≤
        holders world.contexts entry := by
      refine List.countP_mono_left fun context inside mine => ?_
      simp only [decide_eq_true_eq] at mine ⊢
      have shared := consistent.shared context inside
      rw [mine.1, known] at shared
      exact ⟨(Option.some.inj shared).symm, mine.2⟩
    have exclusive := consistent.exclusive entry (consistent.old runId entry known)
    split at exclusive <;> omega

theorem Consistent.registered (consistent : Consistent world) (known : world.table.locks runId = some entry) :
    users world.contexts entry = world.contexts.countP (·.runId = runId) := by
  refine List.countP_congr fun context inside => ?_
  have shared := consistent.shared context inside
  simp only [decide_eq_true_eq]
  constructor
  · intro same
    rw [same] at shared
    exact consistent.apart _ _ entry shared known
  · intro same
    rw [same, known] at shared
    exact (Option.some.inj shared).symm

/-- In every interleaving of contexts at most one per run is in its body, and they all wait for the same lock. An
entry is in the table exactly while it is used, and its count is that of its contexts. -/
theorem run_locks_exclusive (reach : Reachable world) :
    (∀ runId, (world.contexts.countP fun context => context.runId = runId ∧ context.phase = .body) ≤ 1) ∧
    (∀ first ∈ world.contexts, ∀ second ∈ world.contexts, first.runId = second.runId →
      first.entry = second.entry ∧ world.table.locks first.runId = some first.entry) ∧
    (∀ entry, entry < world.table.created →
      ((∃ runId, world.table.locks runId = some entry) ↔ 0 < (world.table.entries entry).users) ∧
      (world.table.entries entry).users = users world.contexts entry) ∧
    (∀ runId entry, world.table.locks runId = some entry → entry < world.table.created ∧
      (world.table.entries entry).users = world.contexts.countP (·.runId = runId)) ∧
    (world.contexts = [] → ∀ runId, world.table.locks runId = none) := by
  have consistent := reachable_consistent reach
  refine ⟨consistent.one_body, ?_, ?_, ?_, ?_⟩
  · intro first inside second there same
    have one := consistent.shared first inside
    have two := consistent.shared second there
    rw [← same, one] at two
    exact ⟨Option.some.inj two, one⟩
  · intro entry old
    have counted := consistent.counted entry old
    refine ⟨⟨?_, ?_⟩, counted⟩
    · rintro ⟨runId, known⟩
      have used := consistent.used runId entry known
      omega
    · intro positive
      have used : 0 < users world.contexts entry := by omega
      obtain ⟨context, inside, same⟩ := List.countP_pos_iff.mp used
      have shared := consistent.shared context inside
      simp only [decide_eq_true_eq] at same
      exact ⟨context.runId, same ▸ shared⟩
  · intro runId entry known
    have old := consistent.old runId entry known
    have counted := consistent.counted entry old
    rw [consistent.registered known] at counted
    exact ⟨old, counted⟩
  · intro empty runId
    cases known : world.table.locks runId with
    | none => rfl
    | some entry =>
      have used := consistent.used runId entry known
      rw [empty] at used
      cases used

/-- One context is in its body, and another one waits for it. -/
def contended : LockWorld :=
  ⟨((RunLocks.empty.register 7).1.register 7).1.acquire 0, [⟨7, 0, .body⟩, ⟨7, 0, .waiting⟩]⟩

theorem contended_reachable : Reachable contended := by
  have first : Step initial ⟨(RunLocks.empty.register 7).1, [⟨7, 0, .waiting⟩]⟩ := .register initial 7
  have second : Step ⟨(RunLocks.empty.register 7).1, [⟨7, 0, .waiting⟩]⟩
      ⟨((RunLocks.empty.register 7).1.register 7).1, [⟨7, 0, .waiting⟩, ⟨7, 0, .waiting⟩]⟩ := .register _ 7
  have third : Step ⟨((RunLocks.empty.register 7).1.register 7).1, [⟨7, 0, .waiting⟩, ⟨7, 0, .waiting⟩]⟩ contended :=
    @Step.acquire _ [] _ 7 0 rfl
  exact ((Relation.ReflTransGen.single first).tail second).tail third

theorem run_locks_exclusive_contended :
    (contended.contexts.countP fun context => context.runId = 7 ∧ context.phase = .body) ≤ 1 ∧
      (contended.table.entries 0).users = 2 :=
  ⟨(run_locks_exclusive contended_reachable).1 7,
    ((run_locks_exclusive contended_reachable).2.2.2.1 7 0 rfl).2⟩

end LockWorld

end ReliabilityLab
