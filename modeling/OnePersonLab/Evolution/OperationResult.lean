import OnePersonLab.Evolution.ProtocolValidation

/-!
# Evaluation operations and their journaled results

An evaluation is identified by its run, its generation, its phase and the last
event hash it starts from; the journal keeps one result under that key.
-/

namespace OnePersonLab.Evolution

open Contract

inductive FoundryEvaluationOperationPhase where
  | evaluate
  | canary
  deriving DecidableEq, Repr

def FoundryEvaluationOperationPhase.text : FoundryEvaluationOperationPhase → String
  | .evaluate => "evaluate"
  | .canary => "canary"

structure FoundryEvaluationOperationIdentity where
  runId : String
  generation : Nat
  phase : FoundryEvaluationOperationPhase
  inputDigest : String
  operationKey : String
  deriving DecidableEq

structure FoundryOperationResult extends FoundryEvaluationOperationIdentity where
  resultDigest : String
  evidenceDigest : String
  evidenceRef : String
  completedAt : String
  deriving DecidableEq

/-- What `encodeURIComponent` leaves as it is. -/
def uriUnreserved (c : Char) : Bool :=
  c.isAlphanum || "-_.!~*'()".toList.contains c

def upperHexDigit (value : Nat) : Char :=
  if value < 10 then Char.ofNat (48 + value) else Char.ofNat (55 + value)

def percentEncoded (byte : UInt8) : List Char :=
  ['%', upperHexDigit (byte.toNat / 16), upperHexDigit (byte.toNat % 16)]

def encodeURIComponent (text : String) : String :=
  String.ofList ((characters text).flatMap fun c =>
    if uriUnreserved c then [c] else (String.utf8EncodeChar c).flatMap percentEncoded)

/-- `requiredString` of this module: it does not trim. -/
def nonEmptyString (value field : String) : Checked String := do
  ensure (value ≠ "") s!"{field} must be a non-empty string."
  return value

def operationDigest (value field : String) : Checked String := do
  let digest ← nonEmptyString value field
  ensure (isSha256Digest digest = true) s!"{field} must be a SHA-256 digest."
  return digest

def operationKeyOf (runId : String) (generation : Nat) (phase : FoundryEvaluationOperationPhase)
    (inputDigest : String) : String :=
  "/".intercalate
    ["opl-foundry-evaluation.v1", encodeURIComponent runId, toString generation, phase.text,
      inputDigest]

def foundryEvaluationOperationIdentity (runId : String) (generation : Nat)
    (phase : FoundryEvaluationOperationPhase) (inputDigest : String) :
    Checked FoundryEvaluationOperationIdentity := do
  let runId ← nonEmptyString runId "operation.run_id"
  ensure (generation ≤ maxSafeInteger)
    "operation.generation must be a non-negative safe integer."
  let inputDigest ← operationDigest inputDigest "operation.input_digest"
  return {
    runId, generation, phase, inputDigest,
    operationKey := operationKeyOf runId generation phase inputDigest }

def validateFoundryEvaluationOperationIdentity (identity : FoundryEvaluationOperationIdentity) :
    Checked FoundryEvaluationOperationIdentity := do
  let canonical ← foundryEvaluationOperationIdentity identity.runId identity.generation
    identity.phase identity.inputDigest
  ensure (identity.operationKey = canonical.operationKey)
    "Foundry evaluation operation key is not canonical."
  return canonical

/-- The result without its own digest. -/
def FoundryOperationResult.base (result : FoundryOperationResult) : Json :=
  .object [
    ("surface_kind", .string "opl_foundry_operation_result"),
    ("version", .string "opl-foundry-operation-result.v1"),
    ("run_id", .string result.runId),
    ("generation", .ofNat result.generation),
    ("phase", .string result.phase.text),
    ("input_digest", .string result.inputDigest),
    ("operation_key", .string result.operationKey),
    ("evidence_digest", .string result.evidenceDigest),
    ("evidence_ref", .string result.evidenceRef),
    ("completed_at", .string result.completedAt)]

def materializeFoundryOperationResult (platform : Platform)
    (identity : FoundryEvaluationOperationIdentity)
    (evidenceDigest evidenceRef completedAt : String) : Checked FoundryOperationResult := do
  let identity ← validateFoundryEvaluationOperationIdentity identity
  let evidenceDigest ← operationDigest evidenceDigest "operation_result.evidence_digest"
  let evidenceRef ← nonEmptyString evidenceRef "operation_result.evidence_ref"
  let completedAt ← nonEmptyString completedAt "operation_result.completed_at"
  let base : FoundryOperationResult :=
    { identity with evidenceDigest, evidenceRef, completedAt, resultDigest := "" }
  let resultDigest ← foundryContentDigest platform base.base
  return { base with resultDigest }

def validateFoundryOperationResult (platform : Platform) (value : FoundryOperationResult)
    (expectedIdentity : FoundryEvaluationOperationIdentity) : Checked FoundryOperationResult := do
  let result ← materializeFoundryOperationResult platform
    value.toFoundryEvaluationOperationIdentity value.evidenceDigest value.evidenceRef
    value.completedAt
  ensure (value.resultDigest = result.resultDigest)
    "Foundry operation result digest does not match its canonical content."
  let expectedOperation ← validateFoundryEvaluationOperationIdentity expectedIdentity
  ensure (expectedOperation = result.toFoundryEvaluationOperationIdentity)
    "Foundry operation result does not match the requested operation identity."
  return result

end OnePersonLab.Evolution
