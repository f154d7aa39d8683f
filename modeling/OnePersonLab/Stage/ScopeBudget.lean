import Mathlib.Algebra.Field.Rat
import OnePersonLab.Stage.FindingClosure

/-!
# The scope budget of a stage

A stage may spend repair attempts, time and tokens. The budget is read from an
untrusted record; a budget that was read once is read the same way again.
-/

namespace OnePersonLab.Stage

open Contract Lib

inductive StageQualityScopeBudgetStopReason where
  | maxAttemptsExhausted
  | maxElapsedExhausted
  | maxTokensExhausted
  deriving DecidableEq, Repr

def StageQualityScopeBudgetStopReason.text : StageQualityScopeBudgetStopReason → String
  | .maxAttemptsExhausted => "max_attempts_exhausted"
  | .maxElapsedExhausted => "max_elapsed_exhausted"
  | .maxTokensExhausted => "max_tokens_exhausted"

structure StageQualityScopeBudget where
  maxAttempts : Nat
  maxElapsedMs : Option Nat
  maxTokens : Option Nat
  deriving DecidableEq

structure StageQualityScopeBudgetUsage where
  attemptsUsed : Nat
  /-- Only new workflow histories carry it. -/
  managedAttemptsUsed : Option Nat
  elapsedMs : Nat
  tokensUsed : Option Nat
  deriving DecidableEq

/-- `Number.MAX_SAFE_INTEGER`. -/
def maxSafeInteger : Nat := 9007199254740991

/-- A week in milliseconds. -/
def maxElapsedLimit : Nat := 7 * 24 * 60 * 60 * 1000

/-- The total over the attempts of a run, unknown as long as one is unknown. -/
def aggregateStageQualityScopeTokenUsage (observations : List (Option Nat)) :
    Checked (Option Nat) := do
  ensure (∀ observation ∈ observations, ∀ tokens ∈ observation, tokens ≤ maxSafeInteger)
    "Stage quality token observations must be non-negative safe integers when present."
  if observations = [] ∨ none ∈ observations then return none
  return some (observations.filterMap id).sum

/-! ## Reading a budget -/

/-- `Number.isInteger` with bounds on an untrusted value. -/
def integerBetween? (value : Json) (minimum maximum : Nat) : Option Nat :=
  match value with
  | .number number =>
    if number.den = 1 ∧ (minimum : ℤ) ≤ number.num ∧ number.num ≤ maximum then
      some number.num.toNat
    else none
  | _ => none

def boundedInteger (value : Json) (field : String) (minimum maximum : Nat) : Checked Nat :=
  match integerBetween? value minimum maximum with
  | some number => .ok number
  | none => fail s!"{field} must be an integer between {minimum} and {maximum}."

/-- `undefined` and `null` alike are missing. -/
def present? : Option Json → Option Json
  | some .null => none
  | value => value

def optionalBound (value : Option Json) (field : String) (maximum : Nat) :
    Checked (Option Nat) :=
  match present? value with
  | none => .ok none
  | some limit => do
    let limit ← boundedInteger limit field 1 maximum
    return some limit

/-- The record of a declared budget, empty when there is none. -/
def declaredScopeBudget (value : Option Json) : Checked JsonRecord :=
  match present? value with
  | none => .ok []
  | some (.object fields) => .ok fields
  | some _ => fail "scope_budget must be an object when declared."

/-- A field that is absent or has its one legal value. -/
def ensureDeclares (record : JsonRecord) (field : String) (value : Json) (message : String) :
    Checked Unit :=
  ensure (field? record field = none ∨ field? record field = some value) message

def normalizeStageQualityScopeBudget (value : Option Json) (legacyMaxRepairRounds : Option Nat) :
    Checked StageQualityScopeBudget := do
  let input ← declaredScopeBudget value
  ensureDeclares input "surface_kind" (.string "opl_stage_quality_scope_budget")
    "scope_budget.surface_kind is unsupported."
  ensureDeclares input "version" (.string "opl-stage-quality-scope-budget.v1")
    "scope_budget.version is unsupported."
  let declared := (present? (field? input "max_attempts")).getD
    (.ofNat (legacyMaxRepairRounds.getD 3))
  let maxAttempts ← boundedInteger declared "scope_budget.max_attempts" 0 3
  ensure (∀ rounds ∈ legacyMaxRepairRounds, maxAttempts = rounds)
    "scope_budget.max_attempts must equal formal_review.max_repair_rounds during v1 migration."
  let maxElapsedMs ← optionalBound (field? input "max_elapsed_ms")
    "scope_budget.max_elapsed_ms" maxElapsedLimit
  let maxTokens ← optionalBound (field? input "max_tokens") "scope_budget.max_tokens"
    maxSafeInteger
  ensureDeclares input "token_budget_requires_observed_usage" (.bool true)
    "Token budget enforcement requires observed usage and cannot infer missing telemetry."
  ensureDeclares input "foreground_execution_must_use_managed_attempt" (.bool true)
    "Foreground quality execution cannot bypass the managed StageAttempt budget."
  return { maxAttempts, maxElapsedMs, maxTokens }

/-- The record that a normalized budget is kept as. -/
def StageQualityScopeBudget.toRecord (budget : StageQualityScopeBudget) : JsonRecord := [
  ("surface_kind", .string "opl_stage_quality_scope_budget"),
  ("version", .string "opl-stage-quality-scope-budget.v1"),
  ("max_attempts", .ofNat budget.maxAttempts),
  ("max_elapsed_ms", (budget.maxElapsedMs.map Json.ofNat).getD .null),
  ("max_tokens", (budget.maxTokens.map Json.ofNat).getD .null),
  ("token_budget_requires_observed_usage", .bool true),
  ("foreground_execution_must_use_managed_attempt", .bool true)]

/-! ## Evaluating it -/

inductive ScopeBudgetDisposition where
  | continue_
  | hardStopNoConsumableArtifact
  | completeWithQualityDebt
  deriving DecidableEq, Repr

structure ScopeBudgetEvaluation where
  disposition : ScopeBudgetDisposition
  exhaustedReasons : List StageQualityScopeBudgetStopReason
  deriving DecidableEq

def evaluateStageQualityScopeBudget (budget : StageQualityScopeBudget)
    (usage : StageQualityScopeBudgetUsage) (hasConsumableArtifact : Bool) :
    Checked ScopeBudgetEvaluation := do
  let budget ← normalizeStageQualityScopeBudget (some (.object budget.toRecord)) none
  let attemptsUsed ← boundedInteger (.ofNat usage.attemptsUsed) "usage.attempts_used" 0 1000000
  let elapsedMs ← boundedInteger (.ofNat usage.elapsedMs) "usage.elapsed_ms" 0 maxSafeInteger
  let tokensUsed ← match usage.tokensUsed with
    | none => pure none
    | some tokens => do
      let tokens ← boundedInteger (.ofNat tokens) "usage.tokens_used" 0 maxSafeInteger
      pure (some tokens)
  let exhaustedReasons :=
    (if budget.maxAttempts ≤ attemptsUsed then
      [StageQualityScopeBudgetStopReason.maxAttemptsExhausted] else []) ++
    (if ∃ limit ∈ budget.maxElapsedMs, limit ≤ elapsedMs then [.maxElapsedExhausted] else []) ++
    (if ∃ limit ∈ budget.maxTokens, ∃ tokens ∈ tokensUsed, limit ≤ tokens then
      [.maxTokensExhausted] else [])
  let disposition := if exhaustedReasons = [] then .continue_
    else if hasConsumableArtifact then .completeWithQualityDebt
    else ScopeBudgetDisposition.hardStopNoConsumableArtifact
  return { disposition, exhaustedReasons }

theorem integerBetween?_eq_some {value : Json} {minimum maximum number : Nat}
    (read : integerBetween? value minimum maximum = some number) :
    minimum ≤ number ∧ number ≤ maximum := by
  cases value with
  | number rational =>
    simp only [integerBetween?, Option.ite_none_right_eq_some, Option.some.injEq] at read
    obtain ⟨⟨-, low, high⟩, rfl⟩ := read
    omega
  | _ => simp [integerBetween?] at read

end OnePersonLab.Stage
