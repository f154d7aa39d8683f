import OnePersonLab.Stage.RouteSelection

/-!
# Closeout packets and their admission

A closeout packet is read from a JSON record: texts are trimmed, refs are collected once
each. An attempt admits a packet that names no other attempt, run or execution scope; a
work item requires its lineage, and a domain route a log of the stage.
-/

namespace OnePersonLab.Attempt

open Contract Stage

/-! ## Records -/

/-- Object spread: a field that exists keeps its place. -/
def setField (record : JsonRecord) (key : String) (value : Json) : JsonRecord :=
  if hasOwn record key then
    record.map fun field => if field.1 = key then (key, value) else field
  else record ++ [(key, value)]

def withoutFields (record : JsonRecord) (keys : List String) : JsonRecord :=
  record.filter fun field => field.1 ∉ keys

/-! ## Packets as they are sent -/

/-- `WorkItemExecutionScopeSnapshot`: its digest, the other fields that identify it, and
where its work item lives. -/
structure ScopeSnapshot where
  scopeDigest : String
  binding : String
  location : String
  deriving DecidableEq, Repr

/-- A field that may hold a snapshot. -/
inductive ScopeField where
  | snapshot (scope : ScopeSnapshot)
  | text (ref : String)
  | malformed
  deriving DecidableEq

/-- `requireWorkItemExecutionScopeSnapshot`. -/
def requireWorkItemExecutionScopeSnapshot : ScopeField → Checked ScopeSnapshot
  | .snapshot scope => .ok scope
  | .text _ | .malformed => fail "Execution scope snapshot must be an object."

inductive CloseoutSurface where
  | stageAttempt
  | stageMemory
  | domainStage
  deriving DecidableEq, Repr

def CloseoutSurface.ofText? : String → Option CloseoutSurface
  | "stage_attempt_closeout_packet" => some .stageAttempt
  | "stage_memory_closeout_packet" => some .stageMemory
  | "domain_stage_closeout_packet" => some .domainStage
  | _ => none

def CloseoutSurface.text : CloseoutSurface → String
  | .stageAttempt => "stage_attempt_closeout_packet"
  | .stageMemory => "stage_memory_closeout_packet"
  | .domainStage => "domain_stage_closeout_packet"

/-- A packet before it is read. A text or a record of another kind reads as absent. -/
structure SentPacket where
  surfaceKind : Option String
  stageAttemptId : Option String
  stageRunId : Option String
  idempotencyKey : Option String
  closeoutId : Option String
  scopeDigest : Option String
  executionScope : Option ScopeField
  closeoutRefs : Option Json
  closeoutRefMetadata : Option Json
  closeoutRef : Option String
  receiptRef : Option String
  packetRef : Option String
  consumedRefs : Option Json
  consumedMemoryRefs : Option Json
  writebackReceiptRefs : Option Json
  rejectedWrites : Option Json
  domainOutput : Option Json
  nextOwner : Option String
  domainReadyVerdict : Option String
  tokenUsage : Option JsonRecord
  usageRefs : Option Json
  sessionUsageRefs : Option JsonRecord
  costSummary : Option JsonRecord
  userStageLog : Option JsonRecord
  stageLogSummary : Option JsonRecord
  humanStageLog : Option JsonRecord
  routeImpact : Option JsonRecord
  authorityBoundary : Option JsonRecord
  deriving DecidableEq

/-! ## Packets as they are read -/

/-- `domain_output`, whose other fields are fixed. -/
structure DomainOutput where
  domainId : String
  outputRef : String
  deriving DecidableEq

/-- `TypedStageCloseoutPacket`. -/
structure CloseoutPacket where
  surfaceKind : CloseoutSurface
  stageAttemptId : Option String
  stageRunId : Option String
  idempotencyKey : Option String
  closeoutId : Option String
  executionScope : Option ScopeSnapshot
  scopeDigest : Option String
  closeoutRefs : List String
  closeoutRefMetadata : List JsonRecord
  consumedRefs : List String
  consumedMemoryRefs : List String
  writebackReceiptRefs : List String
  rejectedWrites : List JsonRecord
  domainOutput : Option DomainOutput
  nextOwner : Option String
  domainReadyVerdict : Option String
  tokenUsage : Option JsonRecord
  usageRefs : List String
  sessionUsageRefs : Option JsonRecord
  costSummary : Option JsonRecord
  userStageLog : Option JsonRecord
  stageLogSummary : Option JsonRecord
  humanStageLog : Option JsonRecord
  routeImpact : Option JsonRecord
  authorityBoundary : JsonRecord
  deriving DecidableEq

def stringMetadataFields : List String :=
  ["ref_kind", "kind", "uri", "sha256", "ref", "artifact_identity_receipt_ref"]

def unsupportedMetadata : String :=
  "closeout_refs object metadata contains an unsupported field or value."

/-- A size in bytes is a number that is not negative. -/
def isSizeInBytes : Json → Bool
  | .number value => decide (0 ≤ value)
  | _ => false

/-- The ref of a metadata record, and the record as it is kept. -/
def readCloseoutRefMetadata (entry : JsonRecord) : Checked (String × JsonRecord) := do
  ensure (∀ field ∈ entry, field.1 ∈ stringMetadataFields ∨ field.1 = "size_bytes")
    unsupportedMetadata
  ensure (∀ field ∈ stringMetadataFields, hasOwn entry field = true →
    textField? entry field ≠ none) unsupportedMetadata
  ensure (∀ size ∈ field? entry "size_bytes", isSizeInBytes size = true) unsupportedMetadata
  match (textField? entry "ref").or (textField? entry "uri") with
  | none => fail unsupportedMetadata
  | some ref =>
    let texts := stringMetadataFields.filterMap fun field =>
      (textField? entry field).map fun text => (field, Json.string text)
    let size := ((field? entry "size_bytes").map fun size => ("size_bytes", size)).toList
    return (ref, setField (texts ++ size) "ref" (.string ref))

/-- An entry of `closeout_refs`: its ref, and its metadata when it is a record. -/
def readCloseoutRefEntry (entry : Json) : Checked (String × Option JsonRecord) :=
  match text? (some entry), entry with
  | some ref, _ => .ok (ref, none)
  | none, .object fields => do
    let read ← readCloseoutRefMetadata fields
    return (read.1, some read.2)
  | none, _ => fail unsupportedMetadata

/-- `readCloseoutRefEntries`. -/
def readCloseoutRefEntries : Option Json → Checked (List (String × Option JsonRecord))
  | some (.array entries) => entries.mapM readCloseoutRefEntry
  | _ => .ok []

def isObject : Json → Bool
  | .object _ => true
  | _ => false

/-- `closeout_ref_metadata` holds records only. -/
def readExplicitRefMetadata (value : Option Json) : Checked (List (String × Option JsonRecord)) :=
  match present? value with
  | none => .ok []
  | some (.array entries) => do
    ensure (∀ entry ∈ entries, isObject entry = true)
      "closeout_ref_metadata must contain refs-only metadata objects."
    readCloseoutRefEntries (some (.array entries))
  | some _ => fail "closeout_ref_metadata must be an array of refs-only metadata."

/-- A ref that an agent has written: a locator, or an exact ref by its locator. -/
def readAgentRef (field : String) (entry : Json) : Checked String :=
  let ref := match entry with
    | .object fields => textField? fields "ref"
    | entry => text? (some entry)
  match ref with
  | some ref => .ok ref
  | none => fail s!"{field} must contain non-empty string refs."

/-- `readAgentRefList`. -/
def readAgentRefList (value : Option Json) (field : String) : Checked (List String) :=
  match present? value with
  | none => .ok []
  | some (.array entries) => do
    let refs ← entries.mapM (readAgentRef field)
    return refs.eraseDups
  | some _ => fail s!"{field} must contain refs."

/-- `normalizeDomainOutput`. -/
def normalizeDomainOutput (value : Option Json) (closeoutRefs : List String) :
    Checked (Option DomainOutput) :=
  match present? value with
  | none => .ok none
  | some (.object fields) =>
    if textField? fields "surface_kind" = some "domain_owned_stage_output_ref" ∧
        textField? fields "version" = some "domain-owned-stage-output-ref.v1" then
      match textField? fields "domain_id", textField? fields "output_ref" with
      | some domainId, some outputRef => do
        ensure (outputRef ∈ closeoutRefs)
          "domain_output.output_ref must be present in closeout_refs."
        return some ⟨domainId, outputRef⟩
      | _, _ => fail "domain_output must declare the canonical refs-only output shape."
    else fail "domain_output must declare the canonical refs-only output shape."
  | some _ => fail "domain_output must be a refs-only JSON object."

/-- The snapshot of a sent packet; a ref counts as none. -/
def sentExecutionScope : Option ScopeField → Checked (Option ScopeSnapshot)
  | none => .ok none
  | some (.text ref) => if trim ref ≠ "" then .ok none else
      some <$> requireWorkItemExecutionScopeSnapshot (.text ref)
  | some field => some <$> requireWorkItemExecutionScopeSnapshot field

def closeoutTransportOnly : JsonRecord :=
  [("opl", .string "closeout_transport_only"), ("domain", .string "truth_quality_artifact_gate_owner")]

/-- The refs of a packet, each once. -/
def collectedCloseoutRefs (value : SentPacket)
    (entries explicit : List (String × Option JsonRecord)) : List String :=
  (entries.map Prod.fst ++ explicit.map Prod.fst ++
    ([value.closeoutRef, value.receiptRef, value.packetRef].filterMap trimmedText)).eraseDups

/-- `normalizeTypedStageCloseoutPacket`. -/
def normalizeTypedStageCloseoutPacket (value : SentPacket) : Checked CloseoutPacket :=
  match (trimmedText value.surfaceKind).bind CloseoutSurface.ofText? with
  | none => fail "Stage closeout packet must declare a supported typed surface_kind."
  | some surfaceKind => do
    let entries ← readCloseoutRefEntries value.closeoutRefs
    let explicit ← readExplicitRefMetadata value.closeoutRefMetadata
    let closeoutRefs := collectedCloseoutRefs value entries explicit
    ensure (closeoutRefs ≠ []) "Typed stage closeout must include at least one closeout ref."
    let domainOutput ← normalizeDomainOutput value.domainOutput closeoutRefs
    let executionScope ← sentExecutionScope value.executionScope
    let explicitScopeDigest := trimmedText value.scopeDigest
    ensure (∀ scope ∈ executionScope, ∀ digest ∈ explicitScopeDigest, scope.scopeDigest = digest)
      "Typed stage closeout scope_digest conflicts with its execution_scope snapshot."
    let consumedRefs ← readAgentRefList value.consumedRefs "consumed_refs"
    let consumedMemoryRefs ← readAgentRefList value.consumedMemoryRefs "consumed_memory_refs"
    let writebackReceiptRefs ← readAgentRefList value.writebackReceiptRefs "writeback_receipt_refs"
    let usageRefs ← readAgentRefList value.usageRefs "usage_refs"
    return {
      surfaceKind, closeoutRefs, domainOutput, executionScope, consumedRefs, consumedMemoryRefs
      writebackReceiptRefs, usageRefs
      stageAttemptId := trimmedText value.stageAttemptId
      stageRunId := trimmedText value.stageRunId
      idempotencyKey := trimmedText value.idempotencyKey
      closeoutId := trimmedText value.closeoutId
      scopeDigest := (executionScope.map ScopeSnapshot.scopeDigest).or explicitScopeDigest
      closeoutRefMetadata := (entries ++ explicit).filterMap Prod.snd
      rejectedWrites := asRecordList value.rejectedWrites
      nextOwner := trimmedText value.nextOwner
      domainReadyVerdict := trimmedText value.domainReadyVerdict
      tokenUsage := value.tokenUsage
      sessionUsageRefs := value.sessionUsageRefs
      costSummary := value.costSummary
      userStageLog := value.userStageLog
      stageLogSummary := value.stageLogSummary
      humanStageLog := value.humanStageLog
      routeImpact := value.routeImpact
      authorityBoundary := value.authorityBoundary.getD closeoutTransportOnly }

/-- The authority of a packet is kept as it was sent. -/
theorem normalizeTypedStageCloseoutPacket_authority {sent : SentPacket} {packet : CloseoutPacket}
    (read : normalizeTypedStageCloseoutPacket sent = .ok packet) :
    packet.authorityBoundary = sent.authorityBoundary.getD closeoutTransportOnly := by
  unfold normalizeTypedStageCloseoutPacket at read
  cases surface : (trimmedText sent.surfaceKind).bind CloseoutSurface.ofText? with
  | none => simp [surface] at read
  | some surfaceKind =>
    simp only [surface, bind_eq_ok, ensure_eq_ok, pure_eq_ok] at read
    obtain ⟨_, -, _, -, _, -, _, -, _, -, _, -, _, -, _, -, _, -, _, -, rfl⟩ := read
    rfl

/-! ## Identity -/

/-- The scope of an attempt's row. -/
inductive RowScope where
  | workItem (scope : ScopeSnapshot)
  | domain
  | system
  /-- The identity of the row is unresolved or quarantined. -/
  | unresolved
  deriving DecidableEq

def RowScope.kindText : RowScope → String
  | .workItem _ => "work_item"
  | .domain => "domain"
  | .system => "system"
  | .unresolved => "identity_unresolved"

/-- What admission reads of an attempt. -/
structure AttemptIdentity where
  stageAttemptId : String
  idempotencyKey : String
  stageRunId : Option String
  scope : RowScope
  workspaceLocator : JsonRecord
  routeImpact : JsonRecord

/-- The identity that a packet or a signal carries. -/
structure IngressIdentity where
  stageAttemptId : Option String
  stageRunId : Option String
  scopeKind : Option String
  scopeDigest : Option String
  executionScope : Option ScopeField
  deriving DecidableEq

def CloseoutPacket.ingress (packet : CloseoutPacket) : IngressIdentity where
  stageAttemptId := packet.stageAttemptId
  stageRunId := packet.stageRunId
  scopeKind := none
  scopeDigest := packet.scopeDigest
  executionScope := packet.executionScope.map .snapshot

inductive IngressFailure where
  | unresolved
  | missing
  | mismatch
  | scopeMissing
  | scopeMismatch
  deriving DecidableEq, Repr

/-- The snapshot of an ingress identity; one that is no snapshot is a contract failure. -/
def ingressScope : Option ScopeField → Except IngressFailure (Option ScopeSnapshot)
  | none => .ok none
  | some field =>
    match requireWorkItemExecutionScopeSnapshot field with
    | .ok scope => .ok (some scope)
    | .error _ => .error .scopeMismatch

/-- `requireFamilyRuntimeIngressIdentity`. -/
def requireFamilyRuntimeIngressIdentity (runtime : AttemptIdentity) (ingress : IngressIdentity) :
    Except IngressFailure Unit :=
  let expectedAttemptId := trimmedText (some runtime.stageAttemptId)
  let expectedStageRunId := trimmedText runtime.stageRunId
  let actualAttemptId := trimmedText ingress.stageAttemptId
  let actualStageRunId := trimmedText ingress.stageRunId
  let actualScopeKind := trimmedText ingress.scopeKind
  let mismatched : Bool :=
    (actualAttemptId.isSome && expectedAttemptId ≠ actualAttemptId) ||
    (actualStageRunId.isSome && expectedStageRunId ≠ actualStageRunId) ||
    (actualScopeKind.isSome && some runtime.scope.kindText ≠ actualScopeKind)
  match runtime.scope with
  | .unresolved => .error .unresolved
  | .workItem scope =>
    if actualAttemptId = none ∨ actualStageRunId = none then .error .missing
    else if mismatched then .error .mismatch
    else do
      let carried ← ingressScope ingress.executionScope
      match (trimmedText ingress.scopeDigest).or (carried.map ScopeSnapshot.scopeDigest) with
      | none => .error .scopeMissing
      | some digest =>
        if digest ≠ scope.scopeDigest then .error .scopeMismatch
        else if ∃ snapshot ∈ carried, (snapshot.scopeDigest, snapshot.binding) ≠
            (scope.scopeDigest, scope.binding) then .error .scopeMismatch
        else .ok ()
  | .domain | .system =>
    if mismatched then .error .mismatch
    else do
      let carried ← ingressScope ingress.executionScope
      if carried ≠ none ∨ trimmedText ingress.scopeDigest ≠ none ∨
          ingress.scopeKind = some "work_item" then .error .scopeMismatch
      else .ok ()

/-! ## Admission -/

inductive CloseoutRejection where
  | stageAttemptIdMismatch
  | idempotencyKeyMismatch
  | domainRouteUserStageLogMissing
  | executionScopeMissing
  | executionScopeMismatch
  | executionIdentityMissing
  | executionIdentityMismatch
  | executionIdentityUnresolved
  deriving DecidableEq, Repr

def IngressFailure.rejection : IngressFailure → CloseoutRejection
  | .unresolved => .executionIdentityUnresolved
  | .missing => .executionIdentityMissing
  | .mismatch => .executionIdentityMismatch
  | .scopeMissing => .executionScopeMissing
  | .scopeMismatch => .executionScopeMismatch

def isDomainRouteAttempt (workspaceLocator : JsonRecord) : Bool :=
  textField? workspaceLocator "task_kind" = some "domain_route/stage-route" ||
    textField? workspaceLocator "runtime_request_kind" = some "domain_route_stage_route" ||
    textField? workspaceLocator "surface_kind" = some "opl_domain_route_runtime_request"

/-- `recordHasDomainProvidedStageLog` of a route impact. -/
def routeImpactHasStageLog (routeImpact : JsonRecord) : Bool :=
  ["user_stage_log", "stage_log_summary", "human_stage_log"].any fun field =>
    ((field? routeImpact field).bind asRecord?).isSome

/-- `recordHasDomainProvidedStageLog` of a packet. -/
def CloseoutPacket.hasStageLog (packet : CloseoutPacket) : Bool :=
  packet.userStageLog.isSome || packet.stageLogSummary.isSome || packet.humanStageLog.isSome

def hasDomainProvidedStageLog (packet : CloseoutPacket) (attemptRouteImpact : JsonRecord) : Bool :=
  packet.hasStageLog || routeImpactHasStageLog (packet.routeImpact.getD []) ||
    routeImpactHasStageLog attemptRouteImpact

/-- `validateCloseoutPacketForAttempt`. -/
def validateCloseoutPacketForAttempt (packet : CloseoutPacket) (attempt : AttemptIdentity) :
    Except CloseoutRejection Unit :=
  let attemptId := trimmedText (some attempt.stageAttemptId)
  let idempotencyKey := trimmedText (some attempt.idempotencyKey)
  if attemptId ≠ none ∧ packet.stageAttemptId ≠ none ∧ packet.stageAttemptId ≠ attemptId then
    .error .stageAttemptIdMismatch
  else if idempotencyKey ≠ none ∧ packet.idempotencyKey ≠ none ∧
      packet.idempotencyKey ≠ idempotencyKey then
    .error .idempotencyKeyMismatch
  else match requireFamilyRuntimeIngressIdentity attempt packet.ingress with
  | .error failure => .error failure.rejection
  | .ok () =>
    if isDomainRouteAttempt attempt.workspaceLocator = true ∧
        hasDomainProvidedStageLog packet attempt.routeImpact = false then
      .error .domainRouteUserStageLogMissing
    else .ok ()

end OnePersonLab.Attempt
