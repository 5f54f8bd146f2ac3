import ReliabilityLab.Storage.Tables
import Mathlib.Data.List.Nodup
import Mathlib.Data.List.Pairwise
import Mathlib.Data.List.Sort

namespace ReliabilityLab

section Position
variable {α : Type} {before : α → α → Prop} [DecidableRel before]

/-- In a list in a strict order a place among the first `n` is a matter of how many come before. -/
theorem mem_take_iff_count (asymm : ∀ a b, before a b → ¬ before b a) {items : List α} (sorted : items.Pairwise before)
    {item : α} (member : item ∈ items) (n : Nat) :
    item ∈ items.take n ↔ (items.filter fun other => decide (before other item)).length < n := by
  induction items generalizing n with
  | nil => exact absurd member List.not_mem_nil
  | cons first rest ih =>
    obtain ⟨ahead, sorted⟩ := List.pairwise_cons.mp sorted
    have irrefl : ¬ before first first := fun self => asymm first first self self
    rcases List.mem_cons.mp member with rfl | later
    · have none : rest.filter (fun other => decide (before other item)) = [] := by
        rw [List.filter_eq_nil_iff]
        intro other inside
        simpa using asymm item other (ahead other inside)
      cases n with
      | zero => simp
      | succ n => simp [none, irrefl]
    · have front : before first item := ahead item later
      have different : item ≠ first := by
        rintro rfl
        exact irrefl front
      cases n with
      | zero => simp
      | succ n => simp [different, front, ih sorted later n]

end Position

/-- `created_at` of a UTC datetime in the JSON of a payload: the fraction is left out when
it is zero, and the text ends with `Z`. -/
def createdChars (wall : Nat) : List Char :=
  secondText (wall / 1000000) ++ DateTime.fractionText (wall % 1000000) ++ ['Z']

/-- A row of `runs`: its key, and of its payload the run with the time of its creation. -/
structure ListedRow where
  id : String
  run : Run
  createdAt : DateTime
  utc : createdAt.offset = 0

namespace ListedRow

def createdText (row : ListedRow) : String := String.ofList (createdChars row.createdAt.wall)

/-- `ORDER BY json_extract(payload, '$.created_at') DESC, id DESC`. -/
def Precedes (a b : ListedRow) : Prop := b.createdText < a.createdText ∨ a.createdText = b.createdText ∧ b.id ≤ a.id

instance : DecidableRel Precedes := fun a b =>
  inferInstanceAs (Decidable (b.createdText < a.createdText ∨ a.createdText = b.createdText ∧ b.id ≤ a.id))

/-- Created later, or at the same instant and of the greater id. -/
def Newer (a b : ListedRow) : Prop :=
  b.createdAt.instant < a.createdAt.instant ∨ a.createdAt.instant = b.createdAt.instant ∧ b.id < a.id

def second (row : ListedRow) : Nat := row.createdAt.wall / 1000000

def micro (row : ListedRow) : Nat := row.createdAt.wall % 1000000

end ListedRow

/-- The table of runs; the id is the primary key. -/
structure RunTable where
  rows : List ListedRow
  distinct : (rows.map (·.id)).Nodup

/-- `list_runs`, with the lease that the outer join finds for each run. -/
def listRuns (table : RunTable) (leases : String → Option RunExecutionLeaseRow) (limit : Int) :
    Except Exn (List (ListedRow × Option RunExecutionLeaseRow)) :=
  if 1 ≤ limit ∧ limit ≤ 1000 then
    .ok (((table.rows.insertionSort ListedRow.Precedes).take limit.toNat).map fun row => (row, leases row.id))
  else .error .valueError

/-- The newest runs, newest first: none that is left out is newer than one that is listed. -/
structure Newest (table : RunTable) (limit : Nat) (listed : List ListedRow) : Prop where
  stored : listed ⊆ table.rows
  length : listed.length = min limit table.rows.length
  ordered : listed.Pairwise ListedRow.Newer
  latest : ∀ row ∈ listed, ∀ other ∈ table.rows, other ∉ listed → row.Newer other

/-- Where whole and fractional seconds meet in one second, `limit` runs are of later seconds. -/
def SecondsApart (table : RunTable) (limit : Nat) : Prop :=
  ∀ whole ∈ table.rows, ∀ part ∈ table.rows, whole.second = part.second → whole.micro = 0 → part.micro ≠ 0 →
    limit ≤ (table.rows.filter fun row => whole.second < row.second).length

namespace ListedRow
variable {a b : ListedRow}

/-! The text of a creation: by the second, and within it whole seconds after all fractions,
because the decimal point sorts before the letter. -/

theorem second_lt (row : ListedRow) : row.second < maxDays * 86400 :=
  Nat.div_lt_of_lt_mul (by rw [mul_comm]; exact row.createdAt.wall_lt)

theorem createdText_eq (row : ListedRow) :
    row.createdText = String.ofList (secondText row.second ++ (DateTime.fractionText row.micro ++ ['Z'])) := by
  rw [createdText, createdChars, List.append_assoc]
  rfl

theorem createdText_lt_of_second (earlier : a.second < b.second) : a.createdText < b.createdText := by
  rw [createdText_eq, createdText_eq, String.lt_iff, String.toList_ofList, String.toList_ofList]
  exact append_lt_append_of_lt (secondText_ordered.width a.second_lt b.second_lt)
    (secondText_ordered.mono earlier b.second_lt) _ _

theorem createdText_lt_of_micro (same : a.second = b.second) (part : a.micro ≠ 0) (less : a.micro < b.micro) :
    a.createdText < b.createdText := by
  have inside : b.micro < 1000000 := Nat.mod_lt _ (by omega)
  have later : b.micro ≠ 0 := by omega
  rw [createdText_eq, createdText_eq, String.lt_iff, String.toList_ofList, String.toList_ofList, same]
  apply append_lt_append_left
  simp only [DateTime.fractionText, part, later, if_false, List.cons_append]
  refine List.cons_lt_cons_iff.mpr (Or.inr ⟨rfl, ?_⟩)
  exact append_lt_append_of_lt (by simp only [digits_length]) ((digits_ordered 6).mono less inside) _ _

theorem createdText_lt_of_whole (same : a.second = b.second) (part : a.micro ≠ 0) (whole : b.micro = 0) :
    a.createdText < b.createdText := by
  rw [createdText_eq, createdText_eq, String.lt_iff, String.toList_ofList, String.toList_ofList, same]
  apply append_lt_append_left
  simp only [DateTime.fractionText, part, whole, if_false, if_true, List.cons_append, List.nil_append]
  exact List.cons_lt_cons_iff.mpr (Or.inl (by decide))

theorem instant_eq (row : ListedRow) : row.createdAt.instant = 1000000 * row.second + row.micro := by
  have parts := Nat.div_add_mod row.createdAt.wall 1000000
  have zone := row.utc
  simp only [DateTime.instant, second, micro]
  omega

theorem micro_lt (row : ListedRow) : row.micro < 1000000 := Nat.mod_lt _ (by omega)

/-- The order of the listing, for two rows of different ids. -/
def Before (a b : ListedRow) : Prop := b.createdText < a.createdText ∨ a.createdText = b.createdText ∧ b.id < a.id

instance : DecidableRel Before := fun a b =>
  inferInstanceAs (Decidable (b.createdText < a.createdText ∨ a.createdText = b.createdText ∧ b.id < a.id))

theorem before_asymm (a b : ListedRow) (front : Before a b) : ¬ Before b a := by
  rintro (text | ⟨text, id⟩)
  · rcases front with text' | ⟨text', _⟩
    · exact lt_asymm text text'
    · exact lt_irrefl _ (text' ▸ text)
  · rcases front with text' | ⟨_, id'⟩
    · exact lt_irrefl _ (text ▸ text')
    · exact lt_asymm id id'

/-- What comes first is of a later second, or is newer; else it is a whole second that
a fraction of the same second follows. -/
theorem Before.newer_or (front : Before a b) : a.Newer b ∨ a.second = b.second ∧ a.micro = 0 ∧ b.micro ≠ 0 := by
  have instantA := a.instant_eq
  have instantB := b.instant_eq
  have insideB := b.micro_lt
  have notLess : ¬ a.createdText < b.createdText := by
    rcases front with text | ⟨text, _⟩
    · exact lt_asymm text
    · exact text ▸ lt_irrefl _
  rcases Nat.lt_trichotomy a.second b.second with earlier | same | later
  · exact absurd (createdText_lt_of_second earlier) notLess
  · by_cases whole : a.micro = 0 <;> by_cases whole' : b.micro = 0
    · have equal : a.createdText = b.createdText := by rw [createdText_eq, createdText_eq, same, whole, whole']
      have id : b.id < a.id := by
        rcases front with text | ⟨_, id⟩
        · exact absurd (equal ▸ text) (lt_irrefl _)
        · exact id
      exact Or.inl (Or.inr ⟨by omega, id⟩)
    · exact Or.inr ⟨same, whole, whole'⟩
    · exact absurd (createdText_lt_of_whole same whole whole') notLess
    · rcases Nat.lt_trichotomy a.micro b.micro with less | equal | more
      · exact absurd (createdText_lt_of_micro same whole less) notLess
      · have text : a.createdText = b.createdText := by rw [createdText_eq, createdText_eq, same, equal]
        have id : b.id < a.id := by
          rcases front with less | ⟨_, id⟩
          · exact absurd (text ▸ less) (lt_irrefl _)
          · exact id
        exact Or.inl (Or.inr ⟨by omega, id⟩)
      · exact Or.inl (Or.inl (by omega))
  · exact Or.inl (Or.inl (by omega))

theorem before_of_second (later : b.second < a.second) : Before a b := Or.inl (createdText_lt_of_second later)

/-- A whole second comes before the fractions that follow it in time. -/
theorem before_of_whole (same : a.second = b.second) (whole : a.micro = 0) (part : b.micro ≠ 0) : Before a b :=
  Or.inl (createdText_lt_of_whole same.symm part whole)

theorem not_newer_of_whole (same : a.second = b.second) (whole : a.micro = 0) (part : b.micro ≠ 0) : ¬ a.Newer b := by
  have instantA := a.instant_eq
  have instantB := b.instant_eq
  rintro (later | ⟨equal, _⟩) <;> omega

end ListedRow

namespace RunTable
open ListedRow
variable (table : RunTable)

def ordered : List ListedRow := table.rows.insertionSort Precedes

theorem mem_ordered {row : ListedRow} : row ∈ table.ordered ↔ row ∈ table.rows := List.mem_insertionSort _

theorem ordered_before : table.ordered.Pairwise Before := by
  have total : Std.Total Precedes := ⟨fun a b => by
    rcases lt_trichotomy a.createdText b.createdText with less | same | more
    · exact Or.inr (Or.inl less)
    · rcases le_total a.id b.id with le | le
      · exact Or.inr (Or.inr ⟨same.symm, le⟩)
      · exact Or.inl (Or.inr ⟨same, le⟩)
    · exact Or.inl (Or.inl more)⟩
  have trans : IsTrans ListedRow Precedes := ⟨fun a b c ab bc => by
    rcases ab with ab | ⟨ab, idAb⟩ <;> rcases bc with bc | ⟨bc, idBc⟩
    · exact Or.inl (bc.trans ab)
    · exact Or.inl (bc ▸ ab)
    · exact Or.inl (ab ▸ bc)
    · exact Or.inr ⟨ab.trans bc, idBc.trans idAb⟩⟩
  have sorted : table.ordered.Pairwise Precedes := List.pairwise_insertionSort _ _
  have apart : table.ordered.Pairwise fun a b => a.id ≠ b.id := by
    have distinct := (List.perm_insertionSort Precedes table.rows).map (·.id)
    exact List.pairwise_map.mp (distinct.nodup_iff.mpr table.distinct)
  exact sorted.imp₂ (fun a b le other => le.imp_right fun same => ⟨same.1, lt_of_le_of_ne same.2 (Ne.symm other)⟩) apart

/-- A run is listed where fewer than `limit` come before it. -/
theorem mem_take_iff {row : ListedRow} (stored : row ∈ table.rows) (limit : Nat) :
    row ∈ table.ordered.take limit ↔ (table.rows.filter fun other => decide (Before other row)).length < limit := by
  rw [mem_take_iff_count before_asymm table.ordered_before (table.mem_ordered.mpr stored)]
  have same := (List.perm_insertionSort Precedes table.rows).filter fun other => decide (Before other row)
  rw [ordered, same.length_eq]

theorem later_le_before (row : ListedRow) : (table.rows.filter fun other => decide (row.second < other.second)).length ≤
    (table.rows.filter fun other => decide (Before other row)).length := by
  apply List.Sublist.length_le
  apply List.monotone_filter_right
  intro other later
  exact decide_eq_true (before_of_second (of_decide_eq_true later))

variable {table} {limit : Nat}

/-- No whole second is listed whose own second has a fraction. -/
theorem whole_not_listed (apart : SecondsApart table limit) {whole part : ListedRow} (stored : part ∈ table.rows)
    (same : whole.second = part.second) (zero : whole.micro = 0) (positive : part.micro ≠ 0) :
    whole ∉ table.ordered.take limit := by
  intro listed
  have inside : whole ∈ table.rows := table.mem_ordered.mp (List.mem_of_mem_take listed)
  have few := (table.mem_take_iff inside limit).mp listed
  have many := apart whole inside part stored same zero positive
  have bound := table.later_le_before whole
  omega

theorem newest_of_apart (apart : SecondsApart table limit) : Newest table limit (table.ordered.take limit) := by
  have split : (table.ordered.take limit ++ table.ordered.drop limit).Pairwise Before := by
    rw [List.take_append_drop]
    exact table.ordered_before
  obtain ⟨front, -, crossing⟩ := List.pairwise_append.mp split
  constructor
  · intro row listed
    exact table.mem_ordered.mp (List.mem_of_mem_take listed)
  · rw [List.length_take, ordered, List.length_insertionSort]
  · refine front.imp_of_mem fun {a b} listedA listedB before => ?_
    rcases before.newer_or with newer | ⟨same, zero, positive⟩
    · exact newer
    · have stored := table.mem_ordered.mp (List.mem_of_mem_take listedB)
      exact absurd listedA (whole_not_listed apart stored same zero positive)
  · intro row listed other stored out
    have dropped : other ∈ table.ordered.drop limit := by
      have whole := table.mem_ordered.mpr stored
      rw [← List.take_append_drop limit table.ordered, List.mem_append] at whole
      exact whole.resolve_left out
    rcases (crossing row listed other dropped).newer_or with newer | ⟨same, zero, positive⟩
    · exact newer
    · exact absurd listed (whole_not_listed apart stored same zero positive)

/-- Of the whole seconds of one second, the one of the greatest id comes first. -/
theorem first_whole {whole : ListedRow} (stored : whole ∈ table.rows) (zero : whole.micro = 0) :
    ∃ first ∈ table.rows, first.second = whole.second ∧ first.micro = 0 ∧
      ∀ other ∈ table.rows, Before other first → whole.second < other.second := by
  let alike (row : ListedRow) : Bool := row.second = whole.second && row.micro = 0
  have sorted : (table.ordered.filter alike).Pairwise Before := table.ordered_before.sublist List.filter_sublist
  have member : ∀ row, row ∈ table.ordered.filter alike ↔ row ∈ table.rows ∧ row.second = whole.second ∧ row.micro = 0 := by
    intro row
    rw [List.mem_filter, table.mem_ordered]
    simp [alike]
  cases group : table.ordered.filter alike with
  | nil =>
    have inside := (member whole).mpr ⟨stored, rfl, zero⟩
    rw [group] at inside
    exact absurd inside List.not_mem_nil
  | cons first rest =>
    obtain ⟨there, same, zero'⟩ := (member first).mp (group ▸ List.mem_cons_self)
    refine ⟨first, there, same, zero', fun other inside before => ?_⟩
    by_contra notLater
    rcases Nat.lt_or_ge other.second first.second with earlier | later
    · exact before_asymm _ _ before (before_of_second earlier)
    · have together : first.second = other.second := by omega
      by_cases part : other.micro = 0
      · have among := (member other).mpr ⟨inside, by omega, part⟩
        rw [group] at among sorted
        rcases List.mem_cons.mp among with rfl | behind
        · exact before_asymm _ _ before before
        · exact before_asymm _ _ before ((List.pairwise_cons.mp sorted).1 other behind)
      · exact before_asymm _ _ before (before_of_whole together zero' part)

/-- Two listed runs are listed in the order of their creation. -/
theorem newer_of_before (newest : Newest table limit (table.ordered.take limit)) {a b : ListedRow}
    (listedA : a ∈ table.ordered.take limit) (listedB : b ∈ table.ordered.take limit) (before : Before a b) : a.Newer b := by
  let Told (a b : ListedRow) : Prop := (Before a b → a.Newer b) ∧ (Before b a → b.Newer a)
  have front : (table.ordered.take limit).Pairwise Before := table.ordered_before.sublist (List.take_sublist _ _)
  have both : (table.ordered.take limit).Pairwise Told := by
    refine front.imp₂ (fun a b before newer => ?_) newest.ordered
    exact ⟨fun _ => newer, fun back => absurd back (before_asymm _ _ before)⟩
  have self : ∀ row ∈ table.ordered.take limit, Told row row := fun row _ =>
    ⟨fun again => absurd again (before_asymm _ _ again), fun again => absurd again (before_asymm _ _ again)⟩
  have symm : Std.Symm Told := ⟨fun _ _ told => ⟨told.2, told.1⟩⟩
  exact (both.forall_of_forall self listedA listedB).1 before

theorem apart_of_newest (newest : Newest table limit (table.ordered.take limit)) : SecondsApart table limit := by
  intro whole stored part inside same zero positive
  obtain ⟨first, there, second, zero', leading⟩ := first_whole stored zero
  have together : first.second = part.second := second.trans same
  have behind : ¬ first.Newer part := not_newer_of_whole together zero' positive
  have hidden : first ∉ table.ordered.take limit := by
    intro listed
    by_cases shown : part ∈ table.ordered.take limit
    · exact behind (newer_of_before newest listed shown (before_of_whole together zero' positive))
    · exact behind (newest.latest first listed part inside shown)
  rw [table.mem_take_iff there, not_lt, ← List.countP_eq_length_filter] at hidden
  rw [← List.countP_eq_length_filter]
  refine hidden.trans (List.countP_mono_left fun other inside before => ?_)
  exact decide_eq_true (leading other inside (of_decide_eq_true before))

end RunTable

/-- The listing gives the newest runs, newest first, exactly where no whole second that
would be listed shares its second with a fraction. -/
theorem newest_runs_listed (table : RunTable) (leases : String → Option RunExecutionLeaseRow) (limit : Int)
    (valid : 1 ≤ limit ∧ limit ≤ 1000) :
    ∃ listed, listRuns table leases limit = .ok (listed.map fun row => (row, leases row.id)) ∧
      (Newest table limit.toNat listed ↔ SecondsApart table limit.toNat) := by
  refine ⟨table.ordered.take limit.toNat, if_pos valid, ?_⟩
  constructor
  · exact RunTable.apart_of_newest
  · exact RunTable.newest_of_apart

theorem midnight_inside (micros : Nat) (small : micros < 1000000000) : 63924076800000000 + micros < maxWall := by
  have bound : 63924076800000000 + 1000000000 ≤ maxWall := by decide
  omega

/-- A run of that many microseconds after midnight. -/
def rowAt (id : String) (number micros : Nat) (small : micros < 1000000000) : ListedRow where
  id := id
  run := { Run.new number (number + 10) "demo" .resilient with version := 1 }
  createdAt := .utc (63924076800000000 + micros) (midnight_inside micros small)
  utc := rfl

def midnightRow : ListedRow := rowAt "1" 1 0 (Nat.le_of_ble_eq_true rfl)

/-- Created a microsecond later. -/
def fractionRow : ListedRow := rowAt "2" 2 1 (Nat.le_of_ble_eq_true rfl)

def nextSecondRow : ListedRow := rowAt "3" 3 1000000 (Nat.le_of_ble_eq_true rfl)

theorem midnight_distinct : ([midnightRow, fractionRow].map (·.id)).Nodup := by decide

def midnightTable : RunTable := ⟨[midnightRow, fractionRow], midnight_distinct⟩

/-- Asked for one run the listing gives the older one. -/
theorem older_run_listed : listRuns midnightTable (fun _ => none) 1 = .ok [(midnightRow, none)] ∧
    midnightRow.createdAt.instant < fractionRow.createdAt.instant ∧ ¬ Newest midnightTable 1 [midnightRow] := by
  have first : ListedRow.Precedes midnightRow fractionRow :=
    (ListedRow.before_of_whole (by decide) (by decide) (by decide)).imp_right fun same => ⟨same.1, same.2.le⟩
  have listed : midnightTable.rows.insertionSort ListedRow.Precedes = [midnightRow, fractionRow] :=
    List.Pairwise.insertionSort_eq (by simpa [midnightTable] using first)
  refine ⟨?_, by decide, fun newest => ?_⟩
  · rw [listRuns, if_pos (by decide), listed]
    rfl
  · have other : fractionRow ∉ [midnightRow] := by
      intro inside
      have same := congrArg ListedRow.id (List.mem_singleton.mp inside)
      exact absurd same (by decide)
    have behind := newest.latest midnightRow List.mem_cons_self fractionRow (by simp [midnightTable]) other
    exact ListedRow.not_newer_of_whole (by decide) (by decide) (by decide) behind

theorem later_distinct : ([midnightRow, fractionRow, nextSecondRow].map (·.id)).Nodup := by decide

/-- One run of a later second hides the second that mixes both. -/
theorem newest_runs_listed_later : ∃ listed,
    listRuns ⟨[midnightRow, fractionRow, nextSecondRow], later_distinct⟩ (fun _ => none) 1 =
        .ok (listed.map fun row => (row, none)) ∧
      Newest ⟨[midnightRow, fractionRow, nextSecondRow], later_distinct⟩ 1 listed := by
  obtain ⟨listed, done, newest⟩ :=
    newest_runs_listed ⟨[midnightRow, fractionRow, nextSecondRow], later_distinct⟩ (fun _ => none) 1 (by decide)
  have apart : SecondsApart ⟨[midnightRow, fractionRow, nextSecondRow], later_distinct⟩ 1 := by
    unfold SecondsApart
    decide
  exact ⟨listed, done, newest.mpr apart⟩

end ReliabilityLab
