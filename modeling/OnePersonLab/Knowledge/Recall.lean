import Mathlib.Logic.Relation
import OnePersonLab.Knowledge.Catalog

/-!
# The recall of durable knowledge

A recall selects from the effective items those that stand for the domain, the stage and the
task, and leaves out an item when another one that stands replaces it. An item that names a
successor never stands, whether or not there is such an item. Nothing is lost exactly when
every current item leads to one that stands, and no replacements run in a circle.
-/

namespace OnePersonLab.Knowledge

open Contract Lib

/-! ## Bodies -/

/-- The files of a recall: which roots are given, a body within the root of its layer and the
source of a projection. -/
structure KnowledgeFiles where
  root : KnowledgeLayer → Bool
  body : KnowledgeLayer → String → Checked Bytes
  source : String → String → Checked Bytes

section

variable (platform : KnowledgePlatform) (files : KnowledgeFiles)

/-- A projection has not changed. -/
def checkProjection (item : DurableKnowledgeItem) (sha256 : String) :
    Option ProjectionSource → Checked Unit
  | none => .ok ()
  | some source => do
    ensure (item.layer ≠ .agentPack ∧ startsWith source.root "/" = true)
      "Projection sources require an explicit workspace-owned absolute source root."
    let sourceBytes ← files.source source.root source.ref
    ensure (sourceBytes.length ≤ 256 * 1024 ∧ source.sha256 = sha256 ∧
        (platform.canonicalSha256 sourceBytes).val = source.sha256)
      "Knowledge projection source changed; owner review and projection refresh are required."

/-- The digest of the body. -/
def resolveDurableKnowledgeBody (item : DurableKnowledgeItem) : Checked String := do
  ensure (files.root item.layer = true)
    "Durable knowledge body root is unavailable for its layer."
  let bytes ← files.body item.layer item.bodyRef
  let sha256 := (platform.canonicalSha256 bytes).val
  ensure (∀ declared ∈ item.bodySha256, declared = sha256)
    "Durable knowledge body digest does not match the catalog declaration."
  checkProjection platform files item sha256 item.projectionSource
  return sha256

end

/-! ## Selection -/

/-- What a recall is for. -/
structure RecallInput where
  domainId : String
  stageId : String
  taskIntent : Option String
  now : Int

structure SelectedKnowledge where
  knowledgeId : String
  layer : KnowledgeLayer
  bodyRef : String
  sha256 : String
  selectionReason : String
  deriving DecidableEq, Repr

structure RecallReceipt where
  domainId : String
  stageId : String
  taskIntent : Option String
  selected : List SelectedKnowledge
  qualityDebt : List String
  deriving DecidableEq, Repr

section

variable (platform : KnowledgePlatform) (input : RecallInput)

/-- The domain, the stage and, if there are tasks, the task are among those of the item. -/
def Applicable (item : DurableKnowledgeItem) : Prop :=
  input.domainId ∈ item.domains ∧ input.stageId ∈ item.stages ∧
    (item.tasks.getD [] ≠ [] → input.taskIntent.getD "" ∈ item.tasks.getD [])

instance (item : DurableKnowledgeItem) : Decidable (Applicable input item) :=
  inferInstanceAs (Decidable (_ ∧ _ ∧ (_ → _)))

/-- Active, without a successor, and applicable. -/
def Eligible (item : DurableKnowledgeItem) : Prop :=
  item.status = .active ∧ item.successorIds = [] ∧ Applicable input item

instance (item : DurableKnowledgeItem) : Decidable (Eligible input item) :=
  inferInstanceAs (Decidable (_ ∧ _ ∧ _))

/-- `Date.parse(item.reviewed_at) > now`. -/
def reviewInFuture (item : DurableKnowledgeItem) : Bool :=
  (platform.parseDate item.reviewedAt).any fun reviewed => input.now < reviewed

/-- `Date.parse(item.next_review_at) <= now`. -/
def reviewOverdue (item : DurableKnowledgeItem) : Bool :=
  (platform.parseDate item.nextReviewAt).any fun next => next ≤ input.now

/-- `Date.parse(other.reviewed_at) <= now && Date.parse(other.next_review_at) > now`. -/
def reviewCurrent (item : DurableKnowledgeItem) : Bool :=
  ((platform.parseDate item.reviewedAt).any fun reviewed => reviewed ≤ input.now) &&
    (platform.parseDate item.nextReviewAt).any fun next => input.now < next

/-- A review debt of an item. -/
def reviewDebt (kind : String) (item : DurableKnowledgeItem) (date : String) : String :=
  s!"knowledge_review_{kind}:{item.knowledgeId}:{date}"

/-- The other item takes the place of this one. -/
def Replaces (other item : DurableKnowledgeItem) : Prop :=
  other.layer = item.layer ∧ item.knowledgeId ∈ other.supersededIds ∧ Eligible input other ∧
    reviewCurrent platform input other = true

instance (other item : DurableKnowledgeItem) : Decidable (Replaces platform input other item) :=
  inferInstanceAs (Decidable (_ ∧ _ ∧ _ ∧ _))

variable (files : KnowledgeFiles)

/-- One turn of the loop: what the item adds to the selection and to the debt. -/
def recallItem (items : List DurableKnowledgeItem) (item : DurableKnowledgeItem) :
    Checked (List SelectedKnowledge × List String) :=
  if ¬ Eligible input item then .ok ([], [])
  else if reviewInFuture platform input item = true then
    .ok ([], [reviewDebt "in_future" item item.reviewedAt])
  else if reviewOverdue platform input item = true then
    .ok ([], [reviewDebt "overdue" item item.nextReviewAt])
  else if ∃ other ∈ items, Replaces platform input other item then .ok ([], [])
  else do
    let sha256 ← resolveDurableKnowledgeBody platform files item
    return ([⟨item.knowledgeId, item.layer, item.bodyRef, sha256,
      s!"active_for:{input.domainId}/{input.stageId}"⟩], [])

def recallDurableKnowledge (sources : KnowledgeSources) : Checked RecallReceipt := do
  let (items, debt) ← collectDurableKnowledgeItems platform sources
  let turns ← mapEach (recallItem platform input files items) items
  return {
    domainId := input.domainId
    stageId := input.stageId
    taskIntent := input.taskIntent
    selected := turns.flatMap (·.1)
    qualityDebt := debt ++ turns.flatMap (·.2) }

end

end OnePersonLab.Knowledge
