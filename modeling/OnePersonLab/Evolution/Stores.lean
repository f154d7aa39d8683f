import Mathlib.Logic.Function.Basic
import OnePersonLab.Evolution.OperationResult
import OnePersonLab.Evolution.Ports
import OnePersonLab.Evolution.StateMachine

/-!
# The in-memory stores

The object store, the operation journal, the event store and the version
registry of `in-memory-adapters.ts`. Every operation takes a store and gives
the store after it together with the answer; a refused operation leaves the
store as it was.
-/

namespace OnePersonLab.Evolution

open Contract

/-! ## Objects -/

inductive FoundryObject where
  | request (request : DesignRequest)
  | blueprint (blueprint : AgentBlueprint)
  | candidate (candidate : MaterializedCandidate)
  | evidence (evidence : EvidenceBundle)
  | proposal (proposal : EvolutionProposal)
  deriving DecidableEq

def FoundryObject.toJson : FoundryObject → Json
  | .request value => value.toJson
  | .blueprint value => value.toJson
  | .candidate value => value.toJson
  | .evidence value => value.toJson
  | .proposal value => value.toJson

/-- A map from strings, as the stores keep it. -/
abbrev StringMap (α : Type) := String → Option α

abbrev StringMap.set {α : Type} (map : StringMap α) (key : String) (value : α) : StringMap α :=
  Function.update map key (some value)

abbrev StringMap.delete {α : Type} (map : StringMap α) (key : String) : StringMap α :=
  Function.update map key none

structure StoredObject where
  digest : String
  ref : String
  deriving DecidableEq

/-- `InMemoryFoundryObjectStore.put`. Values stand for their canonical texts. -/
def putObject (platform : Platform) (objects : StringMap FoundryObject) (value : FoundryObject) :
    Checked (StringMap FoundryObject × StoredObject) := do
  let digest ← foundryContentDigest platform value.toJson
  match objects digest with
  | some existing =>
    ensure (existing = value) "Content-addressed Foundry object collision."
    return (objects, { digest, ref := s!"foundry-object:{digest}" })
  | none => return (objects.set digest value, { digest, ref := s!"foundry-object:{digest}" })

/-! ## The operation journal -/

abbrev Journal := StringMap FoundryOperationResult

def readResult (platform : Platform) (journal : Journal)
    (identity : FoundryEvaluationOperationIdentity) : Checked (Option FoundryOperationResult) := do
  let operation ← validateFoundryEvaluationOperationIdentity identity
  match journal operation.operationKey with
  | none => return none
  | some result => some <$> validateFoundryOperationResult platform result operation

structure OperationCommit where
  identity : FoundryEvaluationOperationIdentity
  evidenceDigest : String
  evidenceRef : String
  completedAt : String
  deriving DecidableEq

def commitResult (platform : Platform) (journal : Journal) (input : OperationCommit) :
    Checked (Journal × FoundryOperationResult) := do
  let result ← materializeFoundryOperationResult platform input.identity input.evidenceDigest
    input.evidenceRef input.completedAt
  match journal result.operationKey with
  | some existing =>
    ensure (existing = result)
      "Foundry operation key is already committed with a different result."
    return (journal, existing)
  | none => return (journal.set result.operationKey result, result)

/-! ## The event store -/

structure EventStore where
  runs : StringMap (List FoundryRunEvent)
  targetLocks : StringMap String

def EventStore.empty : EventStore := ⟨fun _ => none, fun _ => none⟩

def EventStore.read (store : EventStore) (runId : String) : List FoundryRunEvent :=
  (store.runs runId).getD []

structure CreateInput where
  targetKey : String
  event : FoundryRunEvent
  deriving DecidableEq

structure AppendInput where
  targetKey : String
  expectedRevision : Nat
  event : FoundryRunEvent
  deriving DecidableEq

def EventStore.create (platform : Platform) (store : EventStore) (input : CreateInput) :
    Checked EventStore := do
  ensure (store.runs input.event.runId = none) "FoundryRun already exists."
  ensure (((store.targetLocks input.targetKey).getD "") = "")
    "Target Agent already has an active write FoundryRun."
  verifyFoundryEventChain platform [input.event]
  return {
    runs := store.runs.set input.event.runId [input.event]
    targetLocks := store.targetLocks.set input.targetKey input.event.runId }

/-- The recorded event with the idempotency key. -/
def replayOf (events : List FoundryRunEvent) (idempotencyKey : String) : Option FoundryRunEvent :=
  events.find? fun entry => entry.idempotencyKey = idempotencyKey

def EventStore.append (platform : Platform) (store : EventStore) (input : AppendInput) :
    Checked (EventStore × FoundryRunEvent) :=
  match store.runs input.event.runId with
  | none => fail "FoundryRun does not exist."
  | some events =>
    match replayOf events input.event.idempotencyKey with
    | some replay =>
      (fun recorded => (store, recorded)) <$>
        assertFoundryEventReplay replay input.event input.expectedRevision
    | none => do
      ensure ((events.getLast?.map FoundryRunEvent.revision) = some input.expectedRevision)
        "FoundryRun revision compare-and-swap failed."
      verifyFoundryEventChain platform (events ++ [input.event])
      return ({
        runs := store.runs.set input.event.runId (events ++ [input.event])
        targetLocks :=
          if input.event.toState.terminal then store.targetLocks.delete input.targetKey
          else store.targetLocks }, input.event)

/-! ## The version registry -/

/-- A transaction with the run whose step called for it, `none` for a rollback.
The registry does not record the caller: `madeBy` is kept for the statements only. -/
structure CommittedTransaction extends ActivationTransaction where
  madeBy : Option String
  deriving DecidableEq

structure RegistryState where
  versions : List AgentVersion
  qualifications : List QualificationRecord
  activation : ActivationPointer
  transactions : List CommittedTransaction
  deriving DecidableEq

def targetKey (targetAgentId targetDomainId : String) : String :=
  targetAgentId ++ "\x00" ++ targetDomainId

/-- The state of a target that nothing was written to. -/
def RegistryState.initial (targetAgentId targetDomainId : String) : RegistryState where
  versions := []
  qualifications := []
  activation := {
    targetAgentId, targetDomainId, activeVersionDigest := none, revision := 0, updatedAt := none }
  transactions := []

abbrev Registry := StringMap RegistryState

def Registry.state (registry : Registry) (targetAgentId targetDomainId : String) : RegistryState :=
  (registry (targetKey targetAgentId targetDomainId)).getD
    (.initial targetAgentId targetDomainId)

structure RegisterInput where
  targetAgentId : String
  targetDomainId : String
  blueprintDigest : String
  candidate : MaterializedCandidate
  evidenceDigest : String
  riskTier : FoundryRiskTier
  qualifiedAt : String
  deriving DecidableEq

structure RegisteredVersion where
  version : AgentVersion
  qualification : QualificationRecord
  deriving DecidableEq

/-- The records that registering an input writes. -/
def RegisterInput.records (platform : Platform) (input : RegisterInput) : RegisteredVersion :=
  let qualificationBase : QualificationRecord := {
    qualificationId := s!"qualification:{input.targetAgentId}:{input.candidate.candidateDigest}"
    qualificationDigest := ""
    targetAgentId := input.targetAgentId
    targetDomainId := input.targetDomainId
    blueprintDigest := input.blueprintDigest
    candidateDigest := input.candidate.candidateDigest
    evidenceDigest := input.evidenceDigest
    riskTier := input.riskTier
    qualifiedAt := input.qualifiedAt }
  let qualificationDigest := platform.digest (.object qualificationBase.base)
  let versionBase : AgentVersion := {
    versionId := s!"version:{input.targetAgentId}:{input.candidate.candidateDigest}"
    versionDigest := ""
    targetAgentId := input.targetAgentId
    targetDomainId := input.targetDomainId
    blueprintDigest := input.blueprintDigest
    candidateDigest := input.candidate.candidateDigest
    candidateRef := input.candidate.candidateRef
    qualificationDigest
    createdAt := input.qualifiedAt }
  { version := { versionBase with versionDigest := platform.digest (.object versionBase.base) }
    qualification := { qualificationBase with qualificationDigest } }

def RegistryState.register (platform : Platform) (state : RegistryState) (input : RegisterInput) :
    Checked (RegistryState × RegisteredVersion) :=
  let records := input.records platform
  match state.versions.find? fun entry =>
      entry.candidateDigest = input.candidate.candidateDigest with
  | some existing =>
    match state.qualifications.find? fun entry =>
        entry.qualificationDigest = existing.qualificationDigest with
    | none => fail "Version qualification record is missing."
    | some existingQualification => do
      ensure (existing = records.version ∧ existingQualification = records.qualification)
        "Candidate digest is already registered with different immutable metadata."
      return (state, { version := existing, qualification := existingQualification })
  | none =>
    return ({ state with
      versions := state.versions ++ [records.version]
      qualifications := state.qualifications ++ [records.qualification] }, records)

def RegistryState.versionOf (state : RegistryState) (versionDigest : String) :
    Option AgentVersion :=
  state.versions.find? fun entry => entry.versionDigest = versionDigest

/-- `resolveVersion`: no ref, or an empty one, resolves the active version. -/
def RegistryState.resolveVersion (state : RegistryState) (ref : Option String) :
    Option AgentVersion :=
  if ref.getD "" = "" then
    state.versions.find? fun entry => some entry.versionDigest = state.activation.activeVersionDigest
  else state.versionOf (ref.getD "")

def assertActivationRuntimeBindingVerification
    (verification : ActivationRuntimeBindingVerification) (kind : ActivationTransactionKind)
    (expectedRevision : Nat) (version : AgentVersion) : Checked Unit := do
  ensure (verification.transactionKind = kind)
    "Activation runtime binding verification transaction kind is invalid."
  ensure (verification.targetAgentId = version.targetAgentId ∧
      verification.targetDomainId = version.targetDomainId)
    "Activation runtime binding verification target identity is invalid."
  ensure (verification.versionId = version.versionId ∧
      verification.versionDigest = version.versionDigest ∧
      verification.candidateDigest = version.candidateDigest ∧
      verification.candidateRef = version.candidateRef)
    "Activation runtime binding verification does not match the exact AgentVersion."
  ensure (verification.expectedActivationRevision = expectedRevision)
    "Activation runtime binding verification expected revision is invalid."
  ensure (verification.preflightRef ≠ "" ∧ verification.runtimeBindingRef ≠ "")
    "Activation runtime binding verification prepared runtime binding ref is invalid."

structure ActivationInput where
  transactionKind : ActivationTransactionKind
  targetAgentId : String
  targetDomainId : String
  expectedRevision : Nat
  versionDigest : String
  occurredAt : String
  authorityReceiptRef : Option String
  runtimeBindingVerification : ActivationRuntimeBindingVerification
  deriving DecidableEq

/-- The input that a committed transaction came from, as far as it is recorded. -/
def CommittedTransaction.input (entry : CommittedTransaction) : ActivationInput where
  transactionKind := entry.transactionKind
  targetAgentId := entry.targetAgentId
  targetDomainId := entry.targetDomainId
  expectedRevision := entry.previousRevision
  versionDigest := entry.toVersionDigest
  occurredAt := entry.occurredAt
  authorityReceiptRef := entry.authorityReceiptRef
  runtimeBindingVerification := entry.runtimeBindingVerification

/-- What `#activate` of the registry checks of a rollback. -/
def RegistryState.assertRollback (state : RegistryState) (input : ActivationInput) :
    Checked Unit := do
  ensure (input.transactionKind = .rollback →
      state.activation.activeVersionDigest ≠ some input.versionDigest)
    "Rollback target version is already active."
  ensure (input.transactionKind = .rollback →
      ∃ entry ∈ state.transactions, entry.toVersionDigest = input.versionDigest)
    "Rollback target version has never been active."

/-- The transaction that an input commits. -/
def RegistryState.transaction (state : RegistryState) (input : ActivationInput) :
    ActivationTransaction where
  transactionId := s!"activation:{input.targetAgentId}:{state.transactions.length + 1}"
  transactionKind := input.transactionKind
  targetAgentId := input.targetAgentId
  targetDomainId := input.targetDomainId
  fromVersionDigest := state.activation.activeVersionDigest
  toVersionDigest := input.versionDigest
  previousRevision := state.activation.revision
  nextRevision := state.activation.revision + 1
  authorityReceiptRef := input.authorityReceiptRef
  occurredAt := input.occurredAt
  runtimeBindingVerification := input.runtimeBindingVerification

/-- `#activate` of the registry: a compare-and-swap of the activation pointer. -/
def RegistryState.activate (state : RegistryState) (input : ActivationInput)
    (madeBy : Option String) : Checked (RegistryState × ActivationTransaction) :=
  match state.versionOf input.versionDigest with
  | none => fail "Activation target version does not exist."
  | some targetVersion => do
    assertActivationRuntimeBindingVerification input.runtimeBindingVerification
      input.transactionKind input.expectedRevision targetVersion
    match state.transactions.find? fun entry => entry.previousRevision = input.expectedRevision with
    | some replay =>
      ensure (replay.transactionKind = input.transactionKind ∧
          replay.toVersionDigest = input.versionDigest ∧
          replay.authorityReceiptRef = input.authorityReceiptRef ∧
          replay.runtimeBindingVerification = input.runtimeBindingVerification)
        "Activation transaction replay conflicts with immutable history."
      return (state, replay.toActivationTransaction)
    | none =>
      ensure (state.activation.revision = input.expectedRevision)
        "ActivationPointer compare-and-swap failed."
      state.assertRollback input
      let transaction := state.transaction input
      return ({ state with
        activation := { state.activation with
          activeVersionDigest := some input.versionDigest
          revision := transaction.nextRevision
          updatedAt := some input.occurredAt }
        transactions := state.transactions ++ [{ transaction with madeBy }] }, transaction)

end OnePersonLab.Evolution
