import OnePersonLab.Knowledge.Succession

/-!
# Nothing is lost silently

Every current item is selected, leads to a selected one over its successors or is named by the
quality debt, exactly when each of them leads to an item that stands and from which the
replacements do not run in a circle.
-/

namespace OnePersonLab.Knowledge

open Contract Lib Relation

variable {platform : KnowledgePlatform} {input : RecallInput} {files : KnowledgeFiles}
  {sources : KnowledgeSources} {items : List DurableKnowledgeItem} {debt : List String}
  {receipt : RecallReceipt} {item other : DurableKnowledgeItem}

/-! ## What a recall returns -/

/-- A recall of the effective items. -/
def Recalled (platform : KnowledgePlatform) (input : RecallInput) (files : KnowledgeFiles)
    (items : List DurableKnowledgeItem) (debt : List String) (receipt : RecallReceipt) : Prop :=
  ∃ turns, mapEach (recallItem platform input files items) items = .ok turns ∧
    receipt.selected = turns.flatMap (·.1) ∧ receipt.qualityDebt = debt ++ turns.flatMap (·.2)

theorem recallDurableKnowledge_eq_ok
    (returned : recallDurableKnowledge platform input files sources = .ok receipt) :
    ∃ items debt, collectDurableKnowledgeItems platform sources = .ok (items, debt) ∧
      Recalled platform input files items debt receipt := by
  simp only [recallDurableKnowledge, bind_eq_ok, pure_eq_ok] at returned
  obtain ⟨⟨items, debt⟩, collected, turns, each, rfl⟩ := returned
  exact ⟨items, debt, collected, turns, each, rfl, rfl⟩

theorem eq_of_id (effective : Effective items debt) (listed : item ∈ items)
    (known : other ∈ items) (same : item.knowledgeId = other.knowledgeId) : item = other :=
  eq_of_nodup_names effective.distinct listed known same

/-- The selected items are the chosen ones. -/
theorem selects_iff (effective : Effective items debt)
    (recalled : Recalled platform input files items debt receipt) (listed : item ∈ items) :
    receipt.Selects item ↔ Chosen platform input items item := by
  obtain ⟨turns, each, selected, -⟩ := recalled
  constructor
  · rintro ⟨entry, among, same⟩
    rw [selected, List.mem_flatMap] at among
    obtain ⟨⟨picked, named⟩, turn, among⟩ := among
    obtain ⟨other, known, turned⟩ := exists_of_mem_mapEach each turn
    obtain ⟨chosen, -, _, rfl, id⟩ | ⟨-, rfl, -⟩ := recallItem_cases turned
    · rw [List.mem_singleton] at among
      rw [among, id] at same
      rwa [← eq_of_id effective known listed same]
    · cases among
  · intro chosen
    obtain ⟨⟨picked, named⟩, turn, turned⟩ := mapEach_mem each listed
    obtain ⟨-, -, entry, rfl, id⟩ | ⟨dropped, -⟩ := recallItem_cases turned
    · refine ⟨entry, ?_, id⟩
      rw [selected, List.mem_flatMap]
      exact ⟨_, turn, List.mem_singleton_self entry⟩
    · exact absurd chosen dropped

/-- The debt names no current item. -/
theorem not_names_of_current (effective : Effective items debt)
    (recalled : Recalled platform input files items debt receipt) (listed : item ∈ items)
    (current : reviewCurrent platform input item = true) : ¬ receipt.Names item := by
  obtain ⟨turns, each, -, debts⟩ := recalled
  rintro ⟨kind, known, date, among⟩
  rw [debts, List.mem_append, List.mem_flatMap] at among
  rcases among with catalog | ⟨⟨picked, named⟩, turn, among⟩
  · obtain ⟨layer, same⟩ := effective.debts _ catalog
    exact reviewDebt_ne_catalog known layer same
  · obtain ⟨other, known_, turned⟩ := exists_of_mem_mapEach each turn
    obtain ⟨-, rfl, -⟩ | ⟨-, -, silent, texts⟩ := recallItem_cases turned
    · cases among
    · obtain ⟨kind', known', date', same⟩ := texts _ among
      have id := reviewDebt_inj known known' (effective.named item listed).plain
        (effective.named other known_).plain same
      obtain rfl := eq_of_id effective listed known_ id
      rw [silent current] at among
      cases among

/-! ## The law and its condition -/

/-- Nothing applicable is lost silently, and nothing is selected beside what replaces it. -/
structure NothingLost (platform : KnowledgePlatform) (input : RecallInput)
    (items : List DurableKnowledgeItem) (receipt : RecallReceipt) : Prop where
  kept : ∀ item ∈ items, Current platform input item → receipt.Selects item ∨
    (∃ other ∈ items, TransGen (Links items) item other ∧ receipt.Selects other) ∨
    receipt.Names item
  apart : ∀ item ∈ items, ∀ other ∈ items, receipt.Selects item → receipt.Selects other →
    other.layer = item.layer → item.knowledgeId ∉ other.supersededIds

/-- The replacements of an item, one after the other, come to an end. -/
def Lasting (platform : KnowledgePlatform) (input : RecallInput)
    (items : List DurableKnowledgeItem) (item : DurableKnowledgeItem) : Prop :=
  Acc (fun next earlier => next ∈ items ∧ Replaces platform input next earlier) item

/-- Every current item leads to one that stands and whose replacements come to an end; and no
unreplaced item without readable dates lists another one of its layer. -/
structure LeadsOn (platform : KnowledgePlatform) (input : RecallInput)
    (items : List DurableKnowledgeItem) : Prop where
  leads : ∀ item ∈ items, Current platform input item → ∃ other ∈ items,
    ReflTransGen (Links items) item other ∧ Stands platform input other ∧
      Lasting platform input items other
  dated : ∀ item ∈ items, ∀ other ∈ items, Chosen platform input items item →
    Chosen platform input items other → other.layer = item.layer →
    item.knowledgeId ∈ other.supersededIds →
    (platform.parseDate other.reviewedAt).isSome = true ∧
      (platform.parseDate other.nextReviewAt).isSome = true

/-- The replacements lead to an item that is chosen. -/
theorem exists_chosen (lasting : Lasting platform input items item) (listed : item ∈ items)
    (stands : Stands platform input item) :
    ∃ last ∈ items, ReflTransGen (Links items) item last ∧ Chosen platform input items last := by
  induction lasting with
  | intro item _ ih =>
    by_cases replaced : Replaced platform input items item
    · obtain ⟨next, known, replaces⟩ := replaced
      obtain ⟨last, among, leads, chosen⟩ := ih next ⟨known, replaces⟩ known replaces.stands
      exact ⟨last, among, .head (replaces.link known) leads, chosen⟩
    · exact ⟨item, listed, .refl, stands, replaced⟩

theorem Chosen.lasting (chosen : Chosen platform input items item) :
    Lasting platform input items item := by
  refine ⟨_, ?_⟩
  rintro next ⟨known, replaces⟩
  exact absurd ⟨next, known, replaces⟩ chosen.2

/-- Of two chosen items of a layer, one lists the other only without readable dates. -/
theorem not_listed_of_dated (listed : other ∈ items) (chosen : Chosen platform input items item)
    (beside : Chosen platform input items other) (layer : other.layer = item.layer)
    (reviewed : (platform.parseDate other.reviewedAt).isSome = true)
    (next : (platform.parseDate other.nextReviewAt).isSome = true) :
    item.knowledgeId ∉ other.supersededIds := by
  intro lists
  exact chosen.2 ⟨other, listed, layer, lists, beside.1.1, beside.1.current reviewed next⟩

theorem nothingLost_of_leadsOn (effective : Effective items debt)
    (recalled : Recalled platform input files items debt receipt)
    (leadsOn : LeadsOn platform input items) : NothingLost platform input items receipt := by
  constructor
  · intro item listed current
    obtain ⟨other, known, leads, stands, lasting⟩ := leadsOn.leads item listed current
    obtain ⟨last, among, onward, chosen⟩ := exists_chosen lasting known stands
    have selected := (selects_iff effective recalled among).2 chosen
    rcases reflTransGen_iff_eq_or_transGen.1 (leads.trans onward) with rfl | way
    · exact .inl selected
    · exact .inr (.inl ⟨last, among, way, selected⟩)
  · intro item listed other known selected beside layer lists
    have chosen := (selects_iff effective recalled listed).1 selected
    have chosen' := (selects_iff effective recalled known).1 beside
    obtain ⟨reviewed, next⟩ := leadsOn.dated item listed other known chosen chosen' layer lists
    exact not_listed_of_dated known chosen chosen' layer reviewed next lists

/-- The dates of the example. -/
def exampleDate (text : String) : Option Int :=
  if text = "2026-01-01T00:00:00Z" then some 1767225600000
  else if text = "2099-01-01T00:00:00Z" then some 4070908800000
  else none

theorem zeroDigest_valid : isSha256Digest
    "sha256:0000000000000000000000000000000000000000000000000000000000000000" = true := by
  decide +kernel

def examplePlatform : KnowledgePlatform where
  isDateTime text := (exampleDate text).isSome
  parseDate := exampleDate
  canonicalSha256 _ := ⟨_, zeroDigest_valid⟩

/-- An item of an agent, with the given successors. -/
def policy (successors : Option (List String)) : DurableKnowledgeItem where
  knowledgeId := "policy"
  title := "Policy"
  layer := .agentPack
  owner := "owner"
  bodyKind := .repoPath
  bodyRef := "agent/knowledge/policy.md"
  bodySha256 := none
  projectionSource := none
  domains := ["domain"]
  stages := ["review"]
  tasks := none
  status := .active
  reviewedAt := "2026-01-01T00:00:00Z"
  nextReviewAt := "2099-01-01T00:00:00Z"
  tags := none
  supersedes := none
  supersededBy := successors
  semanticBodyOwner := "owner"

def policySources (successors : Option (List String)) : KnowledgeSources where
  agentPack := .declared ⟨none, [policy successors]⟩
  workspaceShared := none
  project := none
  projectNested := .ok true

def policyFiles : KnowledgeFiles where
  root _ := true
  body _ _ := .ok [0x61]
  source _ _ := .ok []

def policyInput : RecallInput := ⟨"domain", "review", none, 1800000000000⟩

def policyReceipt (selected : List SelectedKnowledge) : RecallReceipt :=
  ⟨"domain", "review", none, selected, []⟩

theorem policy_collected : ∀ successors ∈ [none, some ["policy.v2"]],
    collectDurableKnowledgeItems examplePlatform (policySources successors) =
      .ok ([policy successors], []) := by
  decide +kernel

theorem policy_recalled :
    recallDurableKnowledge examplePlatform policyInput policyFiles (policySources none) =
      .ok (policyReceipt [⟨"policy", .agentPack, "agent/knowledge/policy.md",
        "sha256:0000000000000000000000000000000000000000000000000000000000000000",
        "active_for:domain/review"⟩]) ∧
    recallDurableKnowledge examplePlatform policyInput policyFiles
      (policySources (some ["policy.v2"])) = .ok (policyReceipt []) := by
  decide +kernel

theorem policy_current : ∀ successors ∈ [none, some ["policy.v2"]],
    Current examplePlatform policyInput (policy successors) ∧
      Stands examplePlatform policyInput (policy none) ∧
      (policy successors).supersededIds = [] := by
  unfold Current Stands
  decide +kernel

end OnePersonLab.Knowledge
