import OnePersonLab.Evolution.KernelParts
import OnePersonLab.Lib.Interleaving

/-!
# What the kernel asks of its ports

One request is one call of a port. The stores are one `World` and each of their
calls is atomic; designer, compiler, evaluator, owner gate, activation runtime
and clock may answer anything of their type. Any call may also fail, and a
store call that fails may have taken effect.
-/

namespace OnePersonLab.Evolution.Kernel

open Contract Lib

/-- The dependencies that the constructor checks, as far as they are data. -/
structure FoundryKernel where
  platform : Platform
  designerProducerId : String
  evaluatorId : String
  activityMaxAttempts : Nat
  propagateTransientActivityFailures : Bool
  /-- "Foundry designer and evaluator must use independent producer identities." -/
  independent : designerProducerId ≠ evaluatorId
  /-- "Foundry activity retry budget must be an integer from 1 to 3." -/
  retryBudget : 1 ≤ activityMaxAttempts ∧ activityMaxAttempts ≤ 3

inductive ActivityPhase where
  | design
  | diagnose
  deriving DecidableEq

structure FoundryActivityIdentity where
  runId : String
  iteration : Nat
  phase : ActivityPhase
  inputDigest : String
  deriving DecidableEq

structure DiagnoseInput where
  request : DesignRequest
  blueprint : AgentBlueprint
  evidence : EvidenceBundle
  activity : FoundryActivityIdentity
  deriving DecidableEq

structure MaterializeInput where
  runId : String
  blueprint : AgentBlueprint
  blueprintDigest : String
  deriving DecidableEq

/-- The input of `evaluate`, and of `canary` with the qualified version. -/
structure EvaluateInput where
  operationIdentity : FoundryEvaluationOperationIdentity
  runId : String
  request : DesignRequest
  blueprint : AgentBlueprint
  blueprintDigest : String
  candidate : MaterializedCandidate
  version : Option AgentVersion
  baselineVersion : Option AgentVersion
  deriving DecidableEq

structure PreflightInput where
  transactionKind : ActivationTransactionKind
  version : AgentVersion
  expectedActivationRevision : Nat
  deriving DecidableEq

/-- What the kernel reads of a baseline adoption preflight receipt. -/
structure BaselineAdoptionPreflightReceipt where
  admitted : Bool
  failureCode : Option String
  activationRevision : Option Nat
  deriving DecidableEq

inductive KernelRequest where
  | putObject (value : FoundryObject)
  | getObject (digest : String)
  | createEvents (input : CreateInput)
  | appendEvent (input : AppendInput)
  | readEvents (runId : String)
  | readResult (identity : FoundryEvaluationOperationIdentity)
  | commitResult (input : OperationCommit)
  | registerVersion (input : RegisterInput)
  | resolveVersion (ref : Option String) (targetAgentId targetDomainId : String)
  | readActivation (targetAgentId targetDomainId : String)
  | activationHistory (targetAgentId targetDomainId : String)
  | swapActivation (input : ActivationInput) (madeBy : Option String)
  | design (request : DesignRequest) (activity : FoundryActivityIdentity)
  | diagnose (input : DiagnoseInput)
  | materialize (input : MaterializeInput)
  | evaluate (phase : FoundryEvaluationOperationPhase) (input : EvaluateInput)
  | preflightActivation (input : PreflightInput)
  | verifyOwner (context : OwnerGateVerificationContext)
  | preflightBaselineAdoption (request : DesignRequest) (runId : String)
  | now
  | createRunId

@[reducible] def KernelResponse : KernelRequest → Type
  | .putObject _ => StoredObject
  | .getObject _ => Option FoundryObject
  | .createEvents _ => Unit
  | .appendEvent _ => FoundryRunEvent
  | .readEvents _ => List FoundryRunEvent
  | .readResult _ => Option FoundryOperationResult
  | .commitResult _ => FoundryOperationResult
  | .registerVersion _ => RegisteredVersion
  | .resolveVersion _ _ _ => Option AgentVersion
  | .readActivation _ _ => ActivationPointer
  | .activationHistory _ _ => List ActivationTransaction
  | .swapActivation _ _ => ActivationTransaction
  | .design _ _ => AgentBlueprint
  | .diagnose _ => EvolutionProposal
  | .materialize _ => MaterializedCandidate
  | .evaluate _ _ => EvidenceBundle
  | .preflightActivation _ => ActivationRuntimePreflight
  | .verifyOwner _ => OwnerGateVerification
  | .preflightBaselineAdoption _ _ => BaselineAdoptionPreflightReceipt
  | .now => String
  | .createRunId => String

abbrev kernelInterface : Interface := ⟨KernelRequest, KernelResponse, Failure⟩

abbrev KernelProgram (α : Type) := Program kernelInterface α

/-- Ask a port. -/
def ask (request : KernelRequest) : KernelProgram (KernelResponse request) :=
  Program.call (I := kernelInterface) request

def throwFailure {α : Type} (failure : Failure) : KernelProgram α := .done (.error failure)

/-- `fail` inside a program. -/
def reject {α : Type} (message : String) : KernelProgram α := throwFailure (.contract message)

/-- A check inside a program. -/
def check {α : Type} (checked : Checked α) : KernelProgram α := .done checked

/-! ## The stores as one world -/

/-- The stores, with the verifications that the owner gate has handed out. No
store keeps these: `verifications` is there for the statements only. -/
structure World where
  objects : StringMap FoundryObject
  journal : Journal
  events : EventStore
  registry : Registry
  verifications : List OwnerGateVerification

def World.empty : World := ⟨fun _ => none, fun _ => none, .empty, fun _ => none, []⟩

/-- Carry out a store operation that may be refused. -/
def World.attempt {σ α : Type} (world : World) (operation : Checked (σ × α))
    (store : σ → World) : World × Except Failure α :=
  match operation with
  | .ok (changed, response) => (store changed, .ok response)
  | .error failure => (world, .error failure)

/-- A store call; `none` for the requests that no store serves. -/
def World.serve (platform : Platform) (world : World) :
    (request : KernelRequest) → Option (World × Except Failure (KernelResponse request))
  | .putObject value =>
    some (world.attempt (putObject platform world.objects value)
      fun objects => { world with objects })
  | .getObject digest => some (world, .ok (world.objects digest))
  | .createEvents input =>
    some (world.attempt ((fun store => (store, ())) <$> world.events.create platform input)
      fun events => { world with events })
  | .appendEvent input =>
    some (world.attempt (world.events.append platform input) fun events => { world with events })
  | .readEvents runId => some (world, .ok (world.events.read runId))
  | .readResult identity => some (world, readResult platform world.journal identity)
  | .commitResult input =>
    some (world.attempt (commitResult platform world.journal input)
      fun journal => { world with journal })
  | .registerVersion input =>
    some (world.attempt
      ((world.registry.state input.targetAgentId input.targetDomainId).register platform input)
      fun state => { world with
        registry := world.registry.set (targetKey input.targetAgentId input.targetDomainId) state })
  | .resolveVersion ref targetAgentId targetDomainId =>
    some (world, .ok ((world.registry.state targetAgentId targetDomainId).resolveVersion ref))
  | .readActivation targetAgentId targetDomainId =>
    some (world, .ok (world.registry.state targetAgentId targetDomainId).activation)
  | .activationHistory targetAgentId targetDomainId =>
    some (world, .ok ((world.registry.state targetAgentId targetDomainId).transactions.map
      CommittedTransaction.toActivationTransaction))
  | .swapActivation input madeBy =>
    some (world.attempt
      ((world.registry.state input.targetAgentId input.targetDomainId).activate input madeBy)
      fun state => { world with
        registry := world.registry.set (targetKey input.targetAgentId input.targetDomainId) state })
  | .design _ _ | .diagnose _ | .materialize _ | .evaluate _ _ | .preflightActivation _
  | .verifyOwner _ | .preflightBaselineAdoption _ _ | .now | .createRunId => none

/-- What a port outside the stores may answer. The default id generator of the
kernel makes ids without surrounding white space; nothing else is promised. -/
def plausibleAnswer : (request : KernelRequest) → Except Failure (KernelResponse request) → Prop
  | .createRunId, .ok runId => trim runId = runId
  | _, _ => True

/-- The world after an answer from outside the stores. -/
def World.heard (world : World) :
    (request : KernelRequest) → Except Failure (KernelResponse request) → World
  | .verifyOwner _, .ok verification =>
    { world with verifications := world.verifications ++ [verification] }
  | _, _ => world

/-- One call of a port, with the failures that may strike it. -/
inductive Performs (platform : Platform) :
    World → (request : KernelRequest) → World → Except Failure (KernelResponse request) → Prop where
  | served {world request after answer} : world.serve platform request = some (after, answer) →
      Performs platform world request after answer
  | answered {world request answer} : world.serve platform request = none →
      plausibleAnswer request answer →
      Performs platform world request (world.heard request answer) answer
  | lost {world request} (failure : Failure) : Performs platform world request world (.error failure)
  | unacknowledged {world request after answer} (failure : Failure) :
      world.serve platform request = some (after, answer) →
      Performs platform world request after (.error failure)

/-- What may be relied on where nothing breaks down: the clock tells the time, in
its canonical form, and there is an id for every new run. -/
def reliableAnswer (platform : Platform) :
    (request : KernelRequest) → Except Failure (KernelResponse request) → Prop
  | .now, .ok instant => (platform.dateParse instant).map platform.toISOString = some instant
  | .now, .error _ => False
  | .createRunId, .error _ => False
  | _, _ => True

/-- One call of a port that is carried out and answered. Designer, compiler,
evaluator and owner gate may still answer or fail as they like. -/
inductive Serves (platform : Platform) :
    World → (request : KernelRequest) → World → Except Failure (KernelResponse request) → Prop where
  | served {world request after answer} : world.serve platform request = some (after, answer) →
      Serves platform world request after answer
  | answered {world request answer} : world.serve platform request = none →
      plausibleAnswer request answer → reliableAnswer platform request answer →
      Serves platform world request (world.heard request answer) answer

theorem Serves.performs {platform : Platform} {world after : World} {request : KernelRequest}
    {answer : Except Failure (KernelResponse request)}
    (served : Serves platform world request after answer) :
    Performs platform world request after answer := by
  cases served with
  | served done => exact .served done
  | answered unserved fits _ => exact .answered unserved fits

abbrev kernelMachine (platform : Platform) : Machine kernelInterface World := Performs platform

abbrev servingMachine (platform : Platform) : Machine kernelInterface World := Serves platform

end OnePersonLab.Evolution.Kernel
