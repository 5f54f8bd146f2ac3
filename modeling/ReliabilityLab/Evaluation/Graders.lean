import ReliabilityLab.Evaluation.Models

namespace ReliabilityLab

structure SequenceGrade where
  matchCount : Nat
  denominator : Nat
  deriving DecidableEq

/-- One row of the table of `_lcs_length`, from the row above it; `above` is the
entry above the one that was filled last, `left` that one itself. -/
def lcsRow (item : String) : Nat → Nat → List String → List Nat → List Nat
  | above, left, other :: rest, next :: row =>
    let entry := if item = other then above + 1 else max next left
    entry :: lcsRow item next entry rest row
  | _, _, _, _ => []

def lcsLength (left right : List String) : Nat :=
  (left.foldl (fun previous item => lcsRow item 0 0 right previous) (right.map fun _ => 0)).getLastD 0

/-- Order and multiplicity, by the longest common subsequence over the longer sequence. -/
def toolSequenceGrade (expected actual : List String) : SequenceGrade :=
  ⟨lcsLength expected actual, max expected.length actual.length⟩

/-- Multiset excess; retries are no logical calls. -/
def unnecessaryCallCount (expected actual : List String) : Nat :=
  (actual.dedup.map fun name => actual.count name - expected.count name).sum

/-- `ceil(percentile * n)`, with the product rounded to a float. -/
def percentileRank (percentile : ℚ≥0) (count : Nat) : Nat := ⌈(double.round (percentile * count)).getD 0⌉₊

def nearestRankPercentile (values : List Nat) (percentile : ℚ≥0) : Nat :=
  (values.insertionSort (· ≤ ·)).getD (percentileRank percentile values.length - 1) 0

/-- `float(q)`; too large a fraction raises. -/
def toFloat (q : ℚ≥0) : Except Exn ℚ≥0 :=
  match double.round q with
  | some value => .ok value
  | none => .error .overflow

/-- A validated field between 0 and 1. -/
def toRate (q : ℚ≥0) : Except Exn Rate :=
  if small : q ≤ 1 then .ok ⟨q, small⟩ else .error .validationError

def floatRate (q : ℚ≥0) : Except Exn Rate := toFloat q >>= toRate

/-- A sum of decimals: every addition is rounded, and overflow is trapped. -/
def sumDecimals : ℚ≥0 → List ℚ≥0 → Except Exn ℚ≥0
  | total, [] => .ok total
  | total, value :: rest =>
    match decimalContext.round (total + value) with
    | some next => sumDecimals next rest
    | none => .error .overflow

/-- A float literal: the double next to the written value. -/
def floatLiteral (q : ℚ≥0) : ℚ≥0 := (double.round q).getD 0

section Aggregate
variable (cases : List CaseResult)

def total (field : CaseResult → Nat) : Nat := (cases.map field).sum

def sequenceScore (case : CaseResult) : ℚ≥0 :=
  if case.sequenceDenominator = 0 then 1 else case.sequenceMatchCount / case.sequenceDenominator

def sequenceAverage : ℚ≥0 := (cases.map sequenceScore).sum / cases.length

def correctCount : Nat := (cases.filter (·.correct)).length

def recoveryFraction : ℚ≥0 := total cases (·.recoveredTransientFaultCount) / total cases (·.verifiedTransientFaultCount)

def invalidFraction : ℚ≥0 := total cases (·.invalidOutputAcceptedCount) / total cases (·.acceptedOutputCount)

/-- No rate where nothing had to be recovered. -/
def recoveryRate : Except Exn (Option Rate) :=
  if total cases (·.verifiedTransientFaultCount) = 0 then .ok none else some <$> floatRate (recoveryFraction cases)

def latencyMs (percentile : ℚ≥0) : ℚ≥0 :=
  nearestRankPercentile (cases.map (·.latencyNs)) (floatLiteral percentile) / 1000000

/-- Macro-average of the cases; a division by a zero count is never made. -/
def aggregateCases : Except Exn ModeMetrics := do
  let taskCorrectnessRate ← floatRate (correctCount cases / cases.length)
  let toolSequenceAccuracy ← floatRate (sequenceAverage cases)
  let recoveryRate ← recoveryRate cases
  let invalidOutputRate ← floatRate (invalidFraction cases)
  let p50LatencyMs ← toFloat (latencyMs cases (50 / 100))
  let p95LatencyMs ← toFloat (latencyMs cases (95 / 100))
  let estimatedCostUsd ← sumDecimals 0 (cases.map (·.estimatedCostUsd))
  pure {
    caseCorrectCount := correctCount cases
    caseCount := cases.length
    taskCorrectnessRate
    terminalSuccessCount := (cases.filter (·.terminalSuccess)).length
    toolSequenceAccuracy
    toolSequenceCaseCount := cases.length
    recoveredTransientFaultCount := total cases (·.recoveredTransientFaultCount)
    transientFaultCount := total cases (·.verifiedTransientFaultCount)
    recoveryRate
    invalidOutputAcceptedCount := total cases (·.invalidOutputAcceptedCount)
    acceptedOutputCount := total cases (·.acceptedOutputCount)
    invalidOutputRate
    invalidOutputDetectedCount := total cases (·.invalidOutputDetectedCount)
    invalidOutputRejectedCount := total cases (·.invalidOutputRejectedCount)
    malformedFaultInjectedCount := total cases (·.malformedFaultInjectedCount)
    unnecessaryCallCount := total cases (·.unnecessaryCallCount)
    retryAttemptCount := total cases (·.retryAttemptCount)
    p50LatencyMs
    p95LatencyMs
    estimatedInputTokens := total cases (·.estimatedInputTokens)
    estimatedOutputTokens := total cases (·.estimatedOutputTokens)
    estimatedCostUsd }

end Aggregate

example : toolSequenceGrade ["a", "b", "c"] ["b", "x", "c"] = ⟨2, 3⟩ := by decide

end ReliabilityLab
