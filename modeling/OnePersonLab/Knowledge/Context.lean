import Mathlib.Algebra.Field.Rat
import Mathlib.Data.List.Dedup
import OnePersonLab.Knowledge.NothingLost
import OnePersonLab.Lib.JsonSchema
import OnePersonLab.Lib.TextEncoding

/-!
# Knowledge contexts

A stage run gets a context: the receipt of a recall and the bodies it selected. One process
binds it from files; another one validates the value that it is handed.
-/

namespace OnePersonLab.Knowledge

open Contract Lib Lib.JsonText

/-- A JSON value; its numbers stand for those of the source language. -/
abbrev JsonValue := JsonText.Tree ℚ

/-! ## Binding -/

structure KnowledgeBody where
  selected : SelectedKnowledge
  content : Utf16
  sizeBytes : Nat

structure KnowledgeContext where
  receipt : RecallReceipt
  bodies : List KnowledgeBody

def maxBodyBytes : Nat := 256 * 1024

def maxContextBytes : Nat := 512 * 1024

section

variable (platform : KnowledgePlatform) (input : RecallInput) (files reread : KnowledgeFiles)

/-- The body of a selected item, read for the second time. -/
def bindBody (selected : SelectedKnowledge) : Checked KnowledgeBody := do
  ensure (reread.root selected.layer = true) "Knowledge context root is missing."
  let bytes ← reread.body selected.layer selected.bodyRef
  ensure ((platform.canonicalSha256 bytes).val = selected.sha256)
    "Knowledge changed during context binding."
  ensure (bytes ≠ [] ∧ bytes.length ≤ maxBodyBytes)
    "Knowledge body exceeds the supported text size."
  match decodeUtf8 bytes with
  | none => .error (.runtime "The encoded data was not valid for encoding utf-8")
  | some content => return ⟨selected, content, bytes.length⟩

def bindDurableKnowledgeContext (sources : KnowledgeSources) : Checked KnowledgeContext := do
  let receipt ← recallDurableKnowledge platform input files sources
  let bodies ← mapEach (bindBody platform reread) receipt.selected
  ensure ((bodies.map (·.sizeBytes)).sum ≤ maxContextBytes)
    "Stage knowledge selection exceeds its context budget; narrow applicability."
  return ⟨receipt, bodies⟩

end

/-! ## Values -/

def text (value : String) : JsonValue := .string (unitsOf value)

namespace SelectedKnowledge

def fields (selected : SelectedKnowledge) : List (String × JsonValue) :=
  [("knowledge_id", text selected.knowledgeId), ("layer", text selected.layer.text),
    ("body_ref", text selected.bodyRef), ("sha256", text selected.sha256),
    ("selection_reason", text selected.selectionReason)]

end SelectedKnowledge

def KnowledgeBody.value (body : KnowledgeBody) : JsonValue :=
  record (body.selected.fields ++
    [("content", .string body.content), ("size_bytes", .number body.sizeBytes)])

/-- `taskIntent ?? null`. -/
def taskValue : Option String → JsonValue
  | none => .null
  | some task => text task

/-- What a receipt cannot do. -/
def boundaryValue : JsonValue :=
  record [("context_evidence_only", .bool true), ("can_authorize_quality_verdict", .bool false),
    ("can_authorize_domain_truth", .bool false), ("can_replace_owner_receipt", .bool false)]

def RecallReceipt.value (receipt : RecallReceipt) : JsonValue :=
  record [("surface_kind", text "opl_durable_knowledge_recall_receipt"),
    ("version", text "durable-knowledge-recall-receipt.v1"),
    ("domain_id", text receipt.domainId), ("stage_id", text receipt.stageId),
    ("task_intent", taskValue receipt.taskIntent),
    ("selected", .array (receipt.selected.map fun selected => record selected.fields)),
    ("quality_debt", .array (receipt.qualityDebt.map text)),
    ("authority_boundary", boundaryValue)]

def KnowledgeContext.value (context : KnowledgeContext) : JsonValue :=
  record [("receipt", context.receipt.value),
    ("bodies", .array (context.bodies.map (·.value)))]

/-! ## The receipt schema -/

/-- `^sha256:[a-f0-9]{64}$`. -/
def digestSchema : Schema := .string fun value =>
  isSha256Digest (String.ofList (scalarsOf value))

def selectedSchema : Schema :=
  .object ["knowledge_id", "layer", "body_ref", "sha256", "selection_reason"]
    [("knowledge_id", .nonEmpty),
      ("layer", .oneOf ["agent_pack", "workspace_shared", "workspace_project", "dated_state"]),
      ("body_ref", .nonEmpty), ("sha256", digestSchema), ("selection_reason", .nonEmpty)]

def boundarySchema : Schema :=
  .object ["context_evidence_only", "can_authorize_quality_verdict", "can_authorize_domain_truth",
      "can_replace_owner_receipt"]
    [("context_evidence_only", .bool true), ("can_authorize_quality_verdict", .bool false),
      ("can_authorize_domain_truth", .bool false), ("can_replace_owner_receipt", .bool false)]

/-- `durable-knowledge-recall-receipt.schema.json`. -/
def receiptSchema : Schema :=
  .object ["surface_kind", "version", "domain_id", "stage_id", "selected", "authority_boundary"]
    [("surface_kind", .const "opl_durable_knowledge_recall_receipt"),
      ("version", .const "durable-knowledge-recall-receipt.v1"), ("domain_id", .nonEmpty),
      ("stage_id", .nonEmpty), ("task_intent", .either (.string fun _ => true) .null),
      ("selected", .array selectedSchema), ("quality_debt", .array .nonEmpty),
      ("authority_boundary", boundarySchema)]

/-! ## Validation -/

def memberText? (value : JsonValue) (key : String) : Option Utf16 :=
  (value.member? key).bind Tree.text?

def memberNumber? (value : JsonValue) (key : String) : Option ℚ :=
  (value.member? key).bind Tree.number?

def memberItems? (value : JsonValue) (key : String) : Option (List JsonValue) :=
  (value.member? key).bind Tree.items?

/-- `Buffer.from(body.content)`. -/
def contentBytes (body : JsonValue) : Option Bytes := (memberText? body "content").map encodeUtf8

/-- The body repeats the entry of the receipt and has its bytes. -/
def bodyMatches (platform : KnowledgePlatform) (body selected : JsonValue) : Bool :=
  match contentBytes body, memberNumber? body "size_bytes" with
  | some bytes, some size =>
    size.den = 1 && decide (0 < size) && decide (size ≤ maxBodyBytes) &&
      decide (memberText? body "knowledge_id" = memberText? selected "knowledge_id") &&
      decide (memberText? body "layer" = memberText? selected "layer") &&
      decide (memberText? body "body_ref" = memberText? selected "body_ref") &&
      decide (memberText? body "sha256" = memberText? selected "sha256") &&
      decide (some (unitsOf (platform.canonicalSha256 bytes).val) = memberText? selected "sha256") &&
      decide ((bytes.length : ℚ) = size)
  | _, _ => false

/-- `reduce((size, body) => size + body.size_bytes, 0)`. -/
def totalSize (bodies : List JsonValue) : ℚ :=
  (bodies.map fun body => (memberNumber? body "size_bytes").getD 0).sum

def validateDurableKnowledgeContext (platform : KnowledgePlatform) (value : JsonValue)
    (domainId stageId : String) : Checked JsonValue := do
  let some bodies := memberItems? value "bodies"
    | fail "Knowledge context must contain a receipt and bodies."
  let some receipt := value.member? "receipt"
    | fail "Payload failed JSON Schema validation."
  ensure (receiptSchema.accepts receipt = true) "Payload failed JSON Schema validation."
  let selected := (memberItems? receipt "selected").getD []
  ensure (memberText? receipt "domain_id" = some (unitsOf domainId) ∧
      memberText? receipt "stage_id" = some (unitsOf stageId) ∧ bodies.length = selected.length)
    "Knowledge context identity mismatch."
  ensure ((selected.map (memberText? · "knowledge_id")).dedup.length = bodies.length)
    "Knowledge context contains duplicate identities."
  ensure (∀ pair ∈ bodies.zip selected, bodyMatches platform pair.1 pair.2 = true)
    "Knowledge context bytes differ from recall receipt."
  ensure (totalSize bodies ≤ maxContextBytes) "Knowledge context exceeds its text budget."
  return value

end OnePersonLab.Knowledge
