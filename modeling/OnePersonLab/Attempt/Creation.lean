import Mathlib.Data.List.MinMax
import Mathlib.Logic.Function.Basic
import OnePersonLab.Contract.Text

/-!
# The creation of stage attempts

A call looks for an attempt under its idempotency key, or counts the attempts before a new
one, and inserts its row in a later transaction. A stable id is the digest of its parts and
stands for them; JSON values are their texts. The inputs have passed the checks of the
role, the context and the stage run, which read no row that a creation writes.
-/

namespace OnePersonLab.Attempt

open Contract

/-! ## Inputs -/

inductive ScopeKind where
  | workItem
  | domain
  | system
  deriving DecidableEq, Repr

structure StageAttemptCreateInput where
  domainId : String
  stageId : String
  actionId : Option String
  providerKind : String
  idempotencyBoundaryId : Option String
  workspaceLocator : String
  idempotencyWorkspaceLocator : Option String
  sourceFingerprint : Option String
  stageAttemptExecutorPolicy : Option String
  scopeKind : Option ScopeKind
  /-- The scope snapshot, which its digest stands for. -/
  executionScope : Option String
  taskId : Option String
  stageRunId : Option String
  qualityCycleId : Option String
  attemptRole : Option String
  qualityRoundIndex : Option Nat
  parentAttemptRef : Option String
  /-- The texts of the refs, the context and the budget, which only the derived key is made of. -/
  qualityParts : List String
  newAttempt : Bool
  deriving DecidableEq

/-- The scope columns of a row; the others follow from the snapshot. -/
structure ScopeColumns where
  scopeKind : ScopeKind
  executionScope : Option String
  deriving DecidableEq

/-- `normalizeRuntimeExecutionScopeWrite(...).columns`. -/
def scopeColumns (input : StageAttemptCreateInput) : ScopeColumns :=
  match input.executionScope with
  | some scope => ⟨.workItem, some scope⟩
  | none => ⟨input.scopeKind.getD .domain, none⟩

/-- `normalizeRuntimeExecutionScopeWrite(...).declared`. -/
def scopeDeclared (input : StageAttemptCreateInput) : Bool :=
  input.scopeKind.isSome || input.executionScope.isSome

/-! ## Keys and ids -/

/-- The parts of a derived key. -/
structure DerivedParts where
  domainId : String
  stageId : String
  actionId : Option String
  providerKind : String
  workspaceLocator : String
  sourceFingerprint : Option String
  stageAttemptExecutorPolicy : Option String
  scopeKind : Option ScopeKind
  executionScope : Option String
  taskId : Option String
  stageRunId : Option String
  qualityCycleId : Option String
  attemptRole : Option String
  qualityRoundIndex : Option Nat
  parentAttemptRef : Option String
  qualityParts : List String
  deriving DecidableEq

inductive BaseKey where
  | explicit (domainId stageId providerKind boundaryId : String)
  | derived (parts : DerivedParts)
  deriving DecidableEq

inductive IdempotencyKey where
  | base (key : BaseKey)
  | newAttempt (key : BaseKey) (ordinal : Nat)
  deriving DecidableEq

/-- The parts of an id besides its last one. -/
structure IdParts where
  domainId : String
  stageId : String
  actionId : Option String
  providerKind : String
  workspaceLocator : String
  sourceFingerprint : Option String
  stageAttemptExecutorPolicy : Option String
  taskId : Option String
  stageRunId : Option String
  qualityCycleId : Option String
  attemptRole : Option String
  qualityRoundIndex : Option Nat
  parentAttemptRef : Option String
  deriving DecidableEq

inductive StageAttemptId where
  | explicit (key : IdempotencyKey)
  | created (parts : IdParts) (createdAt : Int)
  | numbered (parts : IdParts) (ordinal : Nat)
  deriving DecidableEq

inductive CreateFailure where
  | emptyBoundary
  | scopeConflict
  | uniqueConstraint
  deriving DecidableEq

def CreateFailure.message : CreateFailure → String
  | .emptyBoundary => "StageAttempt idempotency boundary id must be non-empty when provided."
  | .scopeConflict => "Runtime identity is already bound to a different execution scope."
  | .uniqueConstraint => "UNIQUE constraint failed: stage_attempts.stage_attempt_id"

def derivedParts (input : StageAttemptCreateInput) : DerivedParts where
  domainId := input.domainId
  stageId := input.stageId
  actionId := trimmedText input.actionId
  providerKind := input.providerKind
  workspaceLocator := input.idempotencyWorkspaceLocator.getD input.workspaceLocator
  sourceFingerprint := trimmedText input.sourceFingerprint
  stageAttemptExecutorPolicy := input.stageAttemptExecutorPolicy
  scopeKind := input.scopeKind
  executionScope := input.executionScope
  taskId := trimmedText input.taskId
  stageRunId := trimmedText input.stageRunId
  qualityCycleId := trimmedText input.qualityCycleId
  attemptRole := input.attemptRole
  qualityRoundIndex := input.qualityRoundIndex
  parentAttemptRef := trimmedText input.parentAttemptRef
  qualityParts := input.qualityParts

/-- `stageAttemptBaseIdempotencyKey`, with `explicitStageAttemptIdempotencyKey`. -/
def stageAttemptBaseIdempotencyKey (input : StageAttemptCreateInput) :
    Except CreateFailure BaseKey :=
  match input.idempotencyBoundaryId with
  | none => .ok (.derived (derivedParts input))
  | some boundaryId =>
    if trim boundaryId = "" then .error .emptyBoundary
    else .ok (.explicit input.domainId input.stageId input.providerKind (trim boundaryId))

def idParts (input : StageAttemptCreateInput) : IdParts where
  domainId := input.domainId
  stageId := input.stageId
  actionId := trimmedText input.actionId
  providerKind := input.providerKind
  workspaceLocator := input.workspaceLocator
  sourceFingerprint := trimmedText input.sourceFingerprint
  stageAttemptExecutorPolicy := input.stageAttemptExecutorPolicy
  taskId := input.taskId
  stageRunId := trimmedText input.stageRunId
  qualityCycleId := trimmedText input.qualityCycleId
  attemptRole := input.attemptRole
  qualityRoundIndex := input.qualityRoundIndex.or (if input.attemptRole.isSome then some 0 else none)
  parentAttemptRef := trimmedText input.parentAttemptRef

/-! ## Rows -/

/-- A row of `stage_attempts`, with the columns that a later creation reads. -/
structure StageAttemptRow where
  stageAttemptId : StageAttemptId
  idempotencyKey : IdempotencyKey
  providerKind : String
  domainId : String
  stageId : String
  taskId : Option String
  scope : ScopeColumns
  createdAt : Int
  deriving DecidableEq

/-- `stageAttemptOrdinalForNewAttempt`. -/
def stageAttemptOrdinalForNewAttempt (rows : List StageAttemptRow)
    (input : StageAttemptCreateInput) : Nat :=
  rows.countP (fun row => row.domainId = input.domainId && row.stageId = input.stageId &&
    row.providerKind = input.providerKind &&
    row.taskId.getD "" = (trimmedText input.taskId).getD "") + 1

/-- The earliest row with a key. -/
def findByIdempotencyKey (rows : List StageAttemptRow) (key : IdempotencyKey) :
    Option StageAttemptRow :=
  @List.argmin _ _ Int.instLinearOrder.toPreorder inferInstance StageAttemptRow.createdAt
    (rows.filter (·.idempotencyKey = key))

/-- `assertRuntimeRowScopeMatchesWrite`. -/
def assertRuntimeRowScopeMatchesWrite (row : StageAttemptRow) (input : StageAttemptCreateInput) :
    Except CreateFailure Unit :=
  if scopeDeclared input = true ∧ row.scope ≠ scopeColumns input then .error .scopeConflict
  else .ok ()

structure CreateResult where
  created : Bool
  stageAttemptId : StageAttemptId
  deriving DecidableEq

/-- `idempotentStageAttemptResult`, after the check of the scope. -/
def existingResult (row : StageAttemptRow) (input : StageAttemptCreateInput) :
    Except CreateFailure CreateResult := do
  assertRuntimeRowScopeMatchesWrite row input
  return ⟨false, row.stageAttemptId⟩

/-- What a call has found before its transaction: a result, or the row that it will insert. -/
inductive Lookup where
  | found (result : CreateResult)
  | insert (row : StageAttemptRow)
  deriving DecidableEq

/-- A call with an explicit boundary recovers from a conflict. -/
def recovers (input : StageAttemptCreateInput) : Bool :=
  input.idempotencyBoundaryId.isSome && !input.newAttempt

/-- The row of a call under its key and id. -/
def newRow (input : StageAttemptCreateInput) (stageAttemptId : StageAttemptId)
    (key : IdempotencyKey) (createdAt : Int) : StageAttemptRow where
  stageAttemptId := stageAttemptId
  idempotencyKey := key
  providerKind := input.providerKind
  domainId := input.domainId
  stageId := input.stageId
  taskId := trimmedText input.taskId
  scope := scopeColumns input
  createdAt := createdAt

/-- `createStageAttempt` up to its transaction: one statement reads the table. -/
def lookupStageAttempt (rows : List StageAttemptRow) (input : StageAttemptCreateInput)
    (createdAt : Int) : Except CreateFailure Lookup := do
  let baseKey ← stageAttemptBaseIdempotencyKey input
  if input.newAttempt then
    let ordinal := stageAttemptOrdinalForNewAttempt rows input
    return .insert (newRow input (.numbered (idParts input) ordinal)
      (.newAttempt baseKey ordinal) createdAt)
  else
    match findByIdempotencyKey rows (.base baseKey) with
    | some existing => do
      let result ← existingResult existing input
      return .found result
    | none =>
      let stageAttemptId : StageAttemptId :=
        if recovers input then .explicit (.base baseKey) else .created (idParts input) createdAt
      return .insert (newRow input stageAttemptId (.base baseKey) createdAt)

/-- The transaction: `none` when the primary key is taken. -/
def insertStageAttempt (rows : List StageAttemptRow) (row : StageAttemptRow) :
    Option (List StageAttemptRow) :=
  if rows.any (·.stageAttemptId = row.stageAttemptId) then none else some (rows ++ [row])

/-- The look-up after a conflict, by id and key. -/
def recoverStageAttempt (rows : List StageAttemptRow) (input : StageAttemptCreateInput)
    (row : StageAttemptRow) : Except CreateFailure CreateResult :=
  match rows.find? fun existing => existing.stageAttemptId = row.stageAttemptId &&
      existing.idempotencyKey = row.idempotencyKey with
  | some existing => existingResult existing input
  | none => .error .uniqueConstraint

/-! ## Interleaved calls -/

/-- Where a call is between its statements. -/
inductive CallPhase where
  | inserting (input : StageAttemptCreateInput) (row : StageAttemptRow)
  | recovering (input : StageAttemptCreateInput) (row : StageAttemptRow)

/-- A call that has returned, or has thrown for want of a free id. -/
structure Ended where
  input : StageAttemptCreateInput
  outcome : Except CreateFailure CreateResult
  deriving DecidableEq

structure AttemptWorld where
  rows : List StageAttemptRow
  calls : Nat → Option CallPhase
  ended : List Ended

inductive CreateStep where
  | lookup (call : Nat) (input : StageAttemptCreateInput) (createdAt : Int)
  | insert (call : Nat)
  | recover (call : Nat)
  /-- The process of the call ends. -/
  | abandon (call : Nat)

def AttemptWorld.empty : AttemptWorld := ⟨[], fun _ => none, []⟩

def AttemptWorld.enter (world : AttemptWorld) (call : Nat) (phase : CallPhase) : AttemptWorld :=
  { world with calls := Function.update world.calls call (some phase) }

def AttemptWorld.leave (world : AttemptWorld) (call : Nat) (input : StageAttemptCreateInput)
    (outcome : Except CreateFailure CreateResult) : AttemptWorld :=
  { world with
    calls := Function.update world.calls call none
    ended := ⟨input, outcome⟩ :: world.ended }

/-- A call that the checks of its own input or scope refuse, or that its process leaves. -/
def AttemptWorld.drop (world : AttemptWorld) (call : Nat) : AttemptWorld :=
  { world with calls := Function.update world.calls call none }

/-- One statement or transaction of one call. -/
def AttemptWorld.step (world : AttemptWorld) : CreateStep → AttemptWorld
  | .lookup call input createdAt =>
    match lookupStageAttempt world.rows input createdAt with
    | .error _ => world.drop call
    | .ok (.found result) => world.leave call input (.ok result)
    | .ok (.insert row) => world.enter call (.inserting input row)
  | .insert call =>
    match world.calls call with
    | some (.inserting input row) =>
      match insertStageAttempt world.rows row with
      | some rows =>
        { world with rows := rows }.leave call input (.ok ⟨true, row.stageAttemptId⟩)
      | none =>
        if recovers input then world.enter call (.recovering input row)
        else world.leave call input (.error .uniqueConstraint)
    | _ => world
  | .recover call =>
    match world.calls call with
    | some (.recovering input row) =>
      match recoverStageAttempt world.rows input row with
      | .ok result => world.leave call input (.ok result)
      | .error .scopeConflict => world.drop call
      | .error failure => world.leave call input (.error failure)
    | _ => world
  | .abandon call => world.drop call

def AttemptWorld.run (world : AttemptWorld) (steps : List CreateStep) : AttemptWorld :=
  steps.foldl AttemptWorld.step world

end OnePersonLab.Attempt
