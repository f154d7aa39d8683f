import OnePersonLab.Contract.Text

/-!
# The work item control ledger

One file holds the user's lifecycle and visibility of every work item, with the
transitions that led there. A call reads the file, checks the generation that it was told
to expect, and replaces the file by one with its own transition at the front.
-/

namespace OnePersonLab.Evidence

open Contract

/-! ## Records -/

inductive LifecycleState where
  | active
  | deliveredPaused
  | paused
  | stopped
  deriving DecidableEq, Repr

inductive VisibilityState where
  | visible
  | archived
  deriving DecidableEq, Repr

inductive ControlAxis where
  | lifecycle
  | visibility
  deriving DecidableEq, Repr

structure WorkItemControlIdentity where
  agentId : String
  projectId : String
  workItemId : String
  deriving DecidableEq

structure WorkItemControlEntry where
  identity : WorkItemControlIdentity
  controlKey : String
  lifecycleState : Option LifecycleState
  visibilityState : VisibilityState
  lifecycleReason : Option String
  lifecycleSource : Option String
  lifecycleUpdatedAt : Option String
  visibilityReason : Option String
  visibilitySource : Option String
  visibilityUpdatedAt : Option String
  generation : Int
  updatedAt : String
  deriving DecidableEq

structure WorkItemControlTransition where
  entry : WorkItemControlEntry
  transitionId : String
  controlAxis : ControlAxis
  previousLifecycleState : Option LifecycleState
  previousVisibilityState : VisibilityState
  reason : Option String
  source : String
  deriving DecidableEq

structure WorkItemControlLedger where
  generation : Int
  updatedAt : Option String
  items : List WorkItemControlEntry
  transitions : List WorkItemControlTransition
  deriving DecidableEq

/-- A state of the first version: the user's, or `archived`. -/
inductive LegacyLifecycleState where
  | user (state : LifecycleState)
  | archived
  deriving DecidableEq

structure LegacyEntry where
  identity : WorkItemControlIdentity
  controlKey : String
  lifecycleState : LegacyLifecycleState
  reason : Option String
  source : String
  generation : Int
  updatedAt : String
  deriving DecidableEq

structure LegacyTransition where
  entry : LegacyEntry
  transitionId : String
  previousState : Option LegacyLifecycleState
  deriving DecidableEq

structure LegacyLedger where
  generation : Int
  updatedAt : Option String
  items : List LegacyEntry
  transitions : List LegacyTransition
  deriving DecidableEq

/-- What the ledger file may hold. `invalid` is a payload that the reader refuses, with its message. -/
inductive LedgerFile where
  | absent
  | v1 (ledger : LegacyLedger)
  | v2 (ledger : WorkItemControlLedger)
  | invalid (message : String)
  deriving DecidableEq

inductive ControlFailure where
  | usage (message : String)
  | generationConflict (expected current : Int)
  | invalidLedger (message : String)
  deriving DecidableEq

/-! ## Reading the ledger -/

def emptyLedger : WorkItemControlLedger := ⟨0, none, [], []⟩

/-- The states of an entry go with their sources and times. -/
def normalEntry (entry : WorkItemControlEntry) : Bool :=
  0 ≤ entry.generation &&
    entry.lifecycleState.isSome == entry.lifecycleSource.isSome &&
    entry.lifecycleState.isSome == entry.lifecycleUpdatedAt.isSome &&
    entry.visibilitySource.isSome == entry.visibilityUpdatedAt.isSome

def migrateLegacyEntry (entry : LegacyEntry) : WorkItemControlEntry :=
  match entry.lifecycleState with
  | .archived =>
    { identity := entry.identity
      controlKey := entry.controlKey
      lifecycleState := none
      visibilityState := .archived
      lifecycleReason := none
      lifecycleSource := none
      lifecycleUpdatedAt := none
      visibilityReason := entry.reason
      visibilitySource := some entry.source
      visibilityUpdatedAt := some entry.updatedAt
      generation := entry.generation
      updatedAt := entry.updatedAt }
  | .user state =>
    { identity := entry.identity
      controlKey := entry.controlKey
      lifecycleState := some state
      visibilityState := .visible
      lifecycleReason := entry.reason
      lifecycleSource := some entry.source
      lifecycleUpdatedAt := some entry.updatedAt
      visibilityReason := none
      visibilitySource := none
      visibilityUpdatedAt := none
      generation := entry.generation
      updatedAt := entry.updatedAt }

def migrateLegacyTransition (transition : LegacyTransition) : WorkItemControlTransition where
  entry := migrateLegacyEntry transition.entry
  transitionId := transition.transitionId
  controlAxis := if transition.entry.lifecycleState = .archived then .visibility else .lifecycle
  previousLifecycleState :=
    match transition.previousState with
    | some (.user state) => some state
    | _ => none
  previousVisibilityState :=
    if transition.previousState = some .archived then .archived else .visible
  reason := transition.entry.reason
  source := transition.entry.source

def readWorkItemControlLedger : LedgerFile → Except ControlFailure WorkItemControlLedger
  | .absent => .ok emptyLedger
  | .invalid message => .error (.invalidLedger message)
  | .v2 ledger =>
    if ledger.items.all normalEntry && ledger.transitions.all (normalEntry ·.entry) then .ok ledger
    else .error (.invalidLedger "Work item control ledger contains an invalid v2 entry.")
  | .v1 ledger =>
    if ledger.items.all (0 ≤ ·.generation) && ledger.transitions.all (0 ≤ ·.entry.generation) then
      .ok {
        generation := ledger.generation
        updatedAt := ledger.updatedAt
        items := ledger.items.map migrateLegacyEntry
        transitions := ledger.transitions.map migrateLegacyTransition }
    else .error (.invalidLedger "Work item control ledger contains an invalid v1 entry.")

/-! ## Requests -/

/-- The state that a request asks for, as it was given. -/
inductive RequestedState where
  | lifecycle (state : String)
  | visibility (state : String)
  deriving DecidableEq

/-- `setWorkItemControlState` and `setWorkItemVisibilityState`. -/
structure ControlRequest where
  identity : WorkItemControlIdentity
  state : RequestedState
  reason : Option String
  source : Option String
  expectedGeneration : Option Int
  dryRun : Bool
  deriving DecidableEq

def RequestedState.actionId : RequestedState → String
  | .lifecycle _ => "work_item_lifecycle_set"
  | .visibility _ => "work_item_visibility_set"

def requiredIdentityValue (value field actionId : String) : Except ControlFailure String :=
  if trim value = "" then .error (.usage s!"{actionId} requires payload.{field}.")
  else .ok (trim value)

def normalizedIdentity (raw : WorkItemControlIdentity) (actionId : String) :
    Except ControlFailure WorkItemControlIdentity := do
  let agentId ← requiredIdentityValue raw.agentId "agent_id" actionId
  let projectId ← requiredIdentityValue raw.projectId "project_id" actionId
  let workItemId ← requiredIdentityValue raw.workItemId "work_item_id" actionId
  return ⟨agentId, projectId, workItemId⟩

/-- What is set: a lifecycle or a visibility. -/
inductive ControlState where
  | lifecycle (state : LifecycleState)
  | visibility (state : VisibilityState)
  deriving DecidableEq

def ControlState.axis : ControlState → ControlAxis
  | .lifecycle _ => .lifecycle
  | .visibility _ => .visibility

def supportedState (requested : RequestedState) : Except ControlFailure ControlState :=
  match requested with
  | .lifecycle "active" => .ok (.lifecycle .active)
  | .lifecycle "delivered_paused" => .ok (.lifecycle .deliveredPaused)
  | .lifecycle "paused" => .ok (.lifecycle .paused)
  | .lifecycle "stopped" => .ok (.lifecycle .stopped)
  | .lifecycle _ =>
    .error (.usage s!"{requested.actionId} requires a supported lifecycle_state.")
  | .visibility "visible" => .ok (.visibility .visible)
  | .visibility "archived" => .ok (.visibility .archived)
  | .visibility _ =>
    .error (.usage s!"{requested.actionId} requires a supported visibility_state.")

def normalizedReason (value : Option String) : Option String := trimmedText value

def normalizedSource (value : Option String) : String := (trimmedText value).getD "opl_app"

/-! ## Control keys -/

/-- The characters that `encodeURIComponent` keeps. -/
def isUriUnreserved (byte : UInt8) : Bool :=
  let c := Char.ofNat byte.toNat
  ('A' ≤ c && c ≤ 'Z') || ('a' ≤ c && c ≤ 'z') || ('0' ≤ c && c ≤ '9') ||
    ['-', '_', '.', '!', '~', '*', '\'', '(', ')'].contains c

def upperHexDigit (digit : Nat) : Char :=
  if digit < 10 then Char.ofNat ('0'.toNat + digit) else Char.ofNat ('A'.toNat + digit - 10)

def encodeUriByte (byte : UInt8) : List Char :=
  if isUriUnreserved byte then [Char.ofNat byte.toNat]
  else ['%', upperHexDigit (byte.toNat / 16), upperHexDigit (byte.toNat % 16)]

def encodeURIComponent (text : String) : String :=
  String.ofList ((bytes text).flatMap encodeUriByte)

def workItemControlKey (identity : WorkItemControlIdentity) : String :=
  "/".intercalate
    ([identity.agentId, identity.projectId, identity.workItemId].map encodeURIComponent)

/-! ## Setting a state -/

def assertExpectedGeneration (expectedGeneration : Option Int) (ledger : WorkItemControlLedger) :
    Except ControlFailure Unit :=
  match expectedGeneration with
  | none => .ok ()
  | some expected =>
    if expected ≠ ledger.generation then .error (.generationConflict expected ledger.generation)
    else .ok ()

def newControlEntry (identity : WorkItemControlIdentity) (controlKey : String) (generation : Int)
    (updatedAt : String) : WorkItemControlEntry where
  identity := identity
  controlKey := controlKey
  lifecycleState := none
  visibilityState := .visible
  lifecycleReason := none
  lifecycleSource := none
  lifecycleUpdatedAt := none
  visibilityReason := none
  visibilitySource := none
  visibilityUpdatedAt := none
  generation := generation
  updatedAt := updatedAt

/-- The entry with one of its axes set. -/
def WorkItemControlEntry.set (base : WorkItemControlEntry) (reason : Option String)
    (source : String) (generation : Int) (updatedAt : String) :
    ControlState → WorkItemControlEntry
  | .lifecycle state =>
    { base with
      lifecycleState := some state
      lifecycleReason := reason
      lifecycleSource := some source
      lifecycleUpdatedAt := some updatedAt
      generation := generation
      updatedAt := updatedAt }
  | .visibility state =>
    { base with
      visibilityState := state
      visibilityReason := reason
      visibilitySource := some source
      visibilityUpdatedAt := some updatedAt
      generation := generation
      updatedAt := updatedAt }

inductive ReceiptStatus where
  | dryRun
  | applied
  deriving DecidableEq, Repr

structure ControlReceipt where
  status : ReceiptStatus
  actionId : String
  controlAxis : ControlAxis
  ledgerGeneration : Int
  previousState : Option ControlState
  currentState : ControlState
  current : WorkItemControlEntry
  deriving DecidableEq

/-- What a call has worked out from the ledger that it read. -/
structure Prepared where
  receipt : ControlReceipt
  transition : WorkItemControlTransition
  nextLedger : WorkItemControlLedger
  deriving DecidableEq

/-- `setWorkItemControlAxis`, up to the point where it writes. -/
def setWorkItemControlAxis (ledger : WorkItemControlLedger) (identity : WorkItemControlIdentity)
    (state : ControlState) (request : ControlRequest) (updatedAt uuid : String) :
    Except ControlFailure Prepared := do
  assertExpectedGeneration request.expectedGeneration ledger
  let controlKey := workItemControlKey identity
  let previous := ledger.items.find? (·.controlKey = controlKey)
  let previousLifecycleState := previous.bind WorkItemControlEntry.lifecycleState
  let previousVisibilityState :=
    (previous.map WorkItemControlEntry.visibilityState).getD .visible
  let nextGeneration := ledger.generation + 1
  let reason := normalizedReason request.reason
  let source := normalizedSource request.source
  let base := previous.getD (newControlEntry identity controlKey nextGeneration updatedAt)
  let entry := base.set reason source nextGeneration updatedAt state
  let previousState :=
    match state.axis with
    | .lifecycle => previousLifecycleState.map ControlState.lifecycle
    | .visibility => some (.visibility previousVisibilityState)
  let receipt : ControlReceipt :=
    { status := if request.dryRun then .dryRun else .applied
      actionId := request.state.actionId
      controlAxis := state.axis
      ledgerGeneration := nextGeneration
      previousState := previousState
      currentState := state
      current := entry }
  let transition : WorkItemControlTransition :=
    { entry := entry
      transitionId := "opl://work-item-control/" ++ controlKey ++ "/" ++ uuid
      controlAxis := state.axis
      previousLifecycleState := previousLifecycleState
      previousVisibilityState := previousVisibilityState
      reason := reason
      source := source }
  return {
    receipt := receipt
    transition := transition
    nextLedger :=
      { generation := nextGeneration
        updatedAt := some updatedAt
        items := entry :: ledger.items.filter (·.controlKey ≠ controlKey)
        transitions := transition :: ledger.transitions } }

/-- A call up to the point where it writes. -/
def prepareControl (file : LedgerFile) (request : ControlRequest) (updatedAt uuid : String) :
    Except ControlFailure (WorkItemControlLedger × Prepared) := do
  let identity ← normalizedIdentity request.identity request.state.actionId
  let state ← supportedState request.state
  let ledger ← readWorkItemControlLedger file
  let prepared ← setWorkItemControlAxis ledger identity state request updatedAt uuid
  return (ledger, prepared)

end OnePersonLab.Evidence
