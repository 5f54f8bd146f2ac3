import Mathlib.Algebra.BigOperators.Group.Finset.Basic
import Mathlib.Algebra.Order.BigOperators.Group.Finset
import ReliabilityLab.Evaluation.Graders
import ReliabilityLab.Foundation.Checker
import ReliabilityLab.Foundation.CommonSubsequence
import ReliabilityLab.Mobile.Report

namespace ReliabilityLab

open Mobile Check

/-- The accuracy of a grade before it is rounded. -/
def SequenceGrade.score (grade : SequenceGrade) : ℚ≥0 :=
  if grade.denominator = 0 then 1 else grade.matchCount / grade.denominator

/-! Both tables are the general one. -/

theorem lcsRow_eq (item : String) (above left : Nat) (right : List String) (row : List Nat) :
    lcsRow item above left right row = commonRow (fun a b => decide (a = b)) item above left right row := by
  induction right generalizing above left row with
  | nil => simp [lcsRow, commonRow]
  | cons other rest ih =>
    cases row with
    | nil => simp [lcsRow, commonRow]
    | cons next row =>
      simp only [lcsRow, commonRow, decide_eq_true_eq, ih]

theorem lcsLength_eq (left right : List String) :
    lcsLength left right = commonLength (fun a b => decide (a = b)) left right := by
  have rows : (fun (previous : List Nat) (item : String) => lcsRow item 0 0 right previous) =
      fun previous item => commonRow (fun a b => decide (a = b)) item 0 0 right previous := by
    funext previous item
    exact lcsRow_eq item 0 0 right previous
  rw [lcsLength, rows, commonLength]

theorem gradeRow_eq (name : Json) (above left : Nat) (right : List Json) (row : List Nat) :
    gradeRow name above left right row = commonRow (· == ·) name above left right row := by
  induction right generalizing above left row with
  | nil => simp [gradeRow, commonRow]
  | cons other rest ih =>
    cases row with
    | nil => simp [gradeRow, commonRow]
    | cons next row =>
      simp only [gradeRow, commonRow, ih]

theorem gradeMatches_eq (expected actual : List Json) :
    gradeMatches expected actual = commonLength (· == ·) expected actual := by
  have rows : (fun (previous : List Nat) (name : Json) => gradeRow name 0 0 actual previous) =
      fun previous name => commonRow (· == ·) name 0 0 actual previous := by
    funext previous name
    exact gradeRow_eq name 0 0 actual previous
  rw [gradeMatches, rows, commonLength]

theorem gradeMatches_longest (expected actual : List Json) :
    LongestCommon (· == ·) expected actual (gradeMatches expected actual) := by
  rw [gradeMatches_eq]
  exact commonLength_longest expected actual

theorem haveCommon_iff {left right : List String} {length : Nat} :
    HaveCommon (fun a b => decide (a = b)) left right length ↔
      ∃ common : List String, common.Sublist left ∧ common.Sublist right ∧ common.length = length := by
  constructor
  · rintro ⟨xs, ys, inLeft, inRight, agree, rfl⟩
    have same : xs = ys := by
      rw [← List.forall₂_eq_eq_eq]
      exact agree.imp fun a b equal => of_decide_eq_true equal
    exact ⟨xs, inLeft, same ▸ inRight, rfl⟩
  · rintro ⟨common, inLeft, inRight, rfl⟩
    have agree : List.Forall₂ (fun a b : String => decide (a = b) = true) common common :=
      List.forall₂_same.mpr fun a _ => decide_eq_true rfl
    exact ⟨common, common, inLeft, inRight, agree, rfl⟩

/-- `_lcs_length` is the length of a longest common subsequence. -/
theorem lcsLength_common (left right : List String) :
    ∃ common : List String, common.Sublist left ∧ common.Sublist right ∧ common.length = lcsLength left right := by
  rw [lcsLength_eq]
  exact haveCommon_iff.mp (commonLength_common left right)

theorem common_le_lcsLength {left right common : List String} (inLeft : common.Sublist left)
    (inRight : common.Sublist right) : common.length ≤ lcsLength left right := by
  rw [lcsLength_eq]
  exact common_le_commonLength (haveCommon_iff.mpr ⟨common, inLeft, inRight, rfl⟩)

theorem matchCount_le (expected actual : List String) :
    (toolSequenceGrade expected actual).matchCount ≤ (toolSequenceGrade expected actual).denominator := by
  obtain ⟨common, inExpected, -, length⟩ := lcsLength_common expected actual
  have shorter := inExpected.length_le
  have bound : expected.length ≤ max expected.length actual.length := Nat.le_max_left _ _
  simp only [toolSequenceGrade]
  omega

theorem matchCount_eq_iff {expected actual : List String} :
    (toolSequenceGrade expected actual).matchCount = (toolSequenceGrade expected actual).denominator ↔
      expected = actual := by
  simp only [toolSequenceGrade]
  constructor
  · intro full
    obtain ⟨common, inExpected, inActual, length⟩ := lcsLength_common expected actual
    have left := inExpected.length_le
    have right := inActual.length_le
    have first : common = expected := inExpected.eq_of_length (by omega)
    have second : common = actual := inActual.eq_of_length (by omega)
    rw [← first, second]
  · rintro rfl
    have whole := common_le_lcsLength (List.Sublist.refl expected) (List.Sublist.refl expected)
    have bound := matchCount_le expected expected
    simp only [toolSequenceGrade] at bound
    omega

/-! Both graders count over the distinct names of the calls. -/

theorem sum_counts {names calls : List String} (distinct : names.Nodup) (within : ∀ name ∈ calls, name ∈ names) :
    (names.map fun name => calls.count name).sum = calls.length := by
  rw [← List.sum_toFinset _ distinct]
  have whole : ∑ name ∈ names.toFinset, (calls : Multiset String).count name = (calls : Multiset String).card :=
    Multiset.sum_count_eq_card fun name called => List.mem_toFinset.mpr (within name called)
  simpa only [Multiset.coe_count, Multiset.coe_card] using whole

/-- Calls that match are not among the excess. -/
theorem matchCount_add_unnecessary (expected actual : List String) :
    (toolSequenceGrade expected actual).matchCount + unnecessaryCallCount expected actual ≤ actual.length := by
  obtain ⟨common, inExpected, inActual, length⟩ := lcsLength_common expected actual
  have distinct : actual.dedup.Nodup := List.nodup_dedup actual
  have matched : (actual.dedup.map fun name => common.count name).sum = lcsLength expected actual := by
    rw [← length]
    exact sum_counts distinct fun name called => List.mem_dedup.mpr (inActual.subset called)
  have whole : (actual.dedup.map fun name => actual.count name).sum = actual.length :=
    sum_counts distinct fun name called => List.mem_dedup.mpr called
  have each : ∀ name ∈ actual.dedup,
      common.count name + (actual.count name - expected.count name) ≤ actual.count name := by
    intro name _
    have fewer := inExpected.count_le name
    have within := inActual.count_le name
    omega
  simp only [toolSequenceGrade, unnecessaryCallCount]
  rw [← matched, ← whole, ← List.sum_map_add]
  exact List.sum_le_sum each

namespace Mobile

/-! On names the graders of both applications agree. -/

theorem str_beq (a b : String) : ((.str a : Json) == .str b) = decide (a = b) := rfl

theorem gradeRow_str (name : String) (above left : Nat) (right : List String) (row : List Nat) :
    gradeRow (.str name) above left (right.map .str) row = lcsRow name above left right row := by
  induction right generalizing above left row with
  | nil => simp [gradeRow, lcsRow]
  | cons other rest ih =>
    cases row with
    | nil => simp [gradeRow, lcsRow]
    | cons next row =>
      simp only [List.map_cons, gradeRow, lcsRow, str_beq, decide_eq_true_eq, ih]

theorem gradeMatches_str (expected actual : List String) :
    gradeMatches (expected.map .str) (actual.map .str) = lcsLength expected actual := by
  simp only [gradeMatches, lcsLength, List.foldl_map, List.map_map, gradeRow_str]
  rfl

theorem countOf_str (calls : List String) (name : String) : countOf (calls.map .str) (.str name) = calls.count name := by
  induction calls with
  | nil => rfl
  | cons call calls ih =>
    simp only [countOf, List.map_cons, List.filter_cons, str_beq, List.count_cons] at ih ⊢
    by_cases same : call = name <;> simp [same, ih]

/-- The distinct names that `keysOf` collects. -/
theorem keysOf_str (calls : List String) :
    ∃ names : List String, keysOf (calls.map .str) = names.map .str ∧ names.Nodup ∧ ∀ name, name ∈ names ↔ name ∈ calls := by
  have collected : ∀ (calls names : List String), names.Nodup →
      ∃ more : List String,
        (calls.map Json.str).foldl (fun keys value => if keys.any (· == value) then keys else keys ++ [value])
          (names.map Json.str) = more.map .str ∧ more.Nodup ∧ ∀ name, name ∈ more ↔ name ∈ names ∨ name ∈ calls := by
    intro calls
    induction calls with
    | nil =>
      intro names distinct
      exact ⟨names, rfl, distinct, by simp⟩
    | cons call calls ih =>
      intro names distinct
      have known : (names.map Json.str).any (· == .str call) = decide (call ∈ names) := by
        rw [Bool.eq_iff_iff, decide_eq_true_eq]
        simp [str_beq]
      simp only [List.map_cons, List.foldl_cons, known, decide_eq_true_eq]
      by_cases old : call ∈ names
      · obtain ⟨more, same, distinct', members⟩ := ih names distinct
        rw [if_pos old]
        refine ⟨more, same, distinct', fun name => ?_⟩
        rw [members, List.mem_cons]
        constructor
        · rintro (before | later)
          · exact Or.inl before
          · exact Or.inr (Or.inr later)
        · rintro (before | rfl | later)
          · exact Or.inl before
          · exact Or.inl old
          · exact Or.inr later
      · have fresh : (names ++ [call]).Nodup := by
          rw [List.nodup_append]
          simpa [distinct] using fun name inside (same : name = call) => old (same ▸ inside)
        obtain ⟨more, same, distinct', members⟩ := ih (names ++ [call]) fresh
        rw [if_neg old]
        refine ⟨more, by simpa using same, distinct', fun name => ?_⟩
        rw [members]
        simp [or_assoc]
  obtain ⟨names, same, distinct, members⟩ := collected calls [] List.nodup_nil
  exact ⟨names, same, distinct, fun name => by simp [members]⟩

theorem excess_str (expected actual : List String) :
    excess (actual.map .str) (expected.map .str) = unnecessaryCallCount expected actual := by
  obtain ⟨names, same, distinct, members⟩ := keysOf_str actual
  have sets : names.toFinset = actual.dedup.toFinset := by
    ext name
    simp [members]
  rw [excess, same, List.map_map]
  have counts : (fun value : Json => countOf (actual.map .str) value - countOf (expected.map .str) value) ∘ Json.str =
      fun name => actual.count name - expected.count name := by
    funext name
    simp only [Function.comp_apply, countOf_str]
  rw [counts, ← List.sum_toFinset _ distinct, sets, List.sum_toFinset _ (List.nodup_dedup actual), unnecessaryCallCount]

/-- The names of the tools that the policy called, as `_case` reads them from the events. -/
def calledTools (events : List MobileEvent) : Except MobileError (List Json) := do
  let payloads := (events.filter (·.eventType = .policyAction)).map (·.payload)
  let types ← project payloads ["type"]
  let calls := (payloads.zip types).filter fun entry => entry.2.any (named · "call_tool")
  let names ← project (calls.map (·.1)) ["tool_name"]
  pure names.flatten

/-- The sequence that a scenario expects. -/
def expectedTools (scenario : Dict) : Except MobileError (List Json) := do
  elements (← item (.obj scenario) "expected_tool_sequence")

theorem hashed_ok {bag result : List Json} (done : hashed bag = .ok result) : result = bag := by
  unfold hashed at done
  split at done
  · cases done
    rfl
  · cases done

/-- A graded case has the numbers of the sequences that the scenario and the events give. -/
theorem gradeCase_sequence {app : MobileApp} {run : MobileRun} {events : List MobileEvent} {case : MobileCase}
    (graded : app.gradeCase run events = .ok case) :
    ∃ scenario expected actual, app.scenario? run.scenarioId = some scenario ∧
      expectedTools scenario = .ok expected ∧ calledTools events = .ok actual ∧
      case.matched = gradeMatches expected actual ∧ case.longer = max expected.length actual.length ∧
      case.unnecessary = excess actual expected := by
  unfold MobileApp.gradeCase at graded
  cases found : app.scenario? run.scenarioId with
  | none =>
    rw [found] at graded
    cases graded
  | some scenario =>
    rw [found] at graded
    simp only [bind_ok] at graded
    obtain ⟨value, same, types, typed, names, named, started, _, successes, _, failures, _, graded⟩ := graded
    cases same
    split at graded <;> [skip; cases graded]
    simp only [bind_ok] at graded
    obtain ⟨outcome, _, listed, _, declared, _, faults, _, injected, _, graded⟩ := graded
    split at graded <;> [skip; cases graded]
    simp only [bind_ok] at graded
    obtain ⟨injections, _, outputs, _, sequence, field, expected, read, sameExpected, first, sameActual, second, made⟩ :=
      graded
    cases made
    cases hashed_ok first
    cases hashed_ok second
    have scenarioSide : expectedTools scenario = .ok expected := bind_ok.mpr ⟨sequence, field, read⟩
    have eventSide : calledTools events = .ok names.flatten := by
      simp only [calledTools, bind_ok]
      exact ⟨types, typed, names, named, rfl⟩
    exact ⟨scenario, expected, names.flatten, rfl, scenarioSide, eventSide, rfl, rfl, rfl⟩

theorem scoreOf_str {case : MobileCase} {expected actual : List String}
    (matched : case.matched = gradeMatches (expected.map .str) (actual.map .str))
    (longer : case.longer = max (expected.map Json.str).length (actual.map Json.str).length) :
    scoreOf case = (toolSequenceGrade expected actual).score := by
  rw [gradeMatches_str] at matched
  rw [List.length_map, List.length_map] at longer
  rw [scoreOf, SequenceGrade.score, matched, longer]
  rfl

/-- The mobile grader on named tools is the desktop grader. -/
theorem gradeCase_agrees {app : MobileApp} {run : MobileRun} {events : List MobileEvent} {case : MobileCase}
    {scenario : Dict} {expected actual : List String} (graded : app.gradeCase run events = .ok case)
    (found : app.scenario? run.scenarioId = some scenario) (declared : expectedTools scenario = .ok (expected.map .str))
    (called : calledTools events = .ok (actual.map .str)) :
    scoreOf case = (toolSequenceGrade expected actual).score ∧ case.unnecessary = unnecessaryCallCount expected actual := by
  obtain ⟨scenario', expected', actual', found', declared', called', matched, longer, unnecessary⟩ := gradeCase_sequence graded
  cases Option.some.inj (found'.symm.trans found)
  cases Except.ok.inj (declared'.symm.trans declared)
  cases Except.ok.inj (called'.symm.trans called)
  exact ⟨scoreOf_str matched longer, by rw [unnecessary, excess_str]⟩

end Mobile

/-- Both tables find the longest common subsequence; what is derived from it is bounded
as a grade must be, and the two graders agree. -/
theorem sequence_grading_exact (expected actual : List String) :
    (∃ common : List String,
        common.Sublist expected ∧ common.Sublist actual ∧ common.length = lcsLength expected actual) ∧
      (∀ common : List String,
        common.Sublist expected → common.Sublist actual → common.length ≤ lcsLength expected actual) ∧
      (∀ left right : List Json, LongestCommon (· == ·) left right (gradeMatches left right)) ∧
      (toolSequenceGrade expected actual).matchCount ≤ (toolSequenceGrade expected actual).denominator ∧
      ((toolSequenceGrade expected actual).matchCount = (toolSequenceGrade expected actual).denominator ↔
        expected = actual) ∧
      (toolSequenceGrade expected actual).matchCount + unnecessaryCallCount expected actual ≤ actual.length ∧
      gradeMatches (expected.map .str) (actual.map .str) = lcsLength expected actual ∧
      excess (actual.map .str) (expected.map .str) = unnecessaryCallCount expected actual ∧
      ∀ (app : MobileApp) (run : MobileRun) (events : List MobileEvent) (case : MobileCase) (scenario : Dict),
        app.gradeCase run events = .ok case → app.scenario? run.scenarioId = some scenario →
        expectedTools scenario = .ok (expected.map .str) → calledTools events = .ok (actual.map .str) →
        scoreOf case = (toolSequenceGrade expected actual).score ∧
          case.unnecessary = unnecessaryCallCount expected actual := by
  refine ⟨lcsLength_common expected actual, ?_, gradeMatches_longest, matchCount_le expected actual, matchCount_eq_iff,
    matchCount_add_unnecessary expected actual, gradeMatches_str expected actual, excess_str expected actual, ?_⟩
  · intro common inExpected inActual
    exact common_le_lcsLength inExpected inActual
  · intro app run events case scenario graded found declared called
    exact gradeCase_agrees graded found declared called

end ReliabilityLab
