import OnePersonLab.Knowledge.NothingLost

/-!
# Recalls are exact

The selection of a recall has an entry for every item that stands and is not replaced, in the
order of the items, and no other; and each describes the body that the item has now.
-/

namespace OnePersonLab.Knowledge

open Contract Lib

variable {platform : KnowledgePlatform} {input : RecallInput} {files : KnowledgeFiles}
  {items all : List DurableKnowledgeItem} {item : DurableKnowledgeItem} {receipt : RecallReceipt}

instance : Decidable (Chosen platform input items item) :=
  inferInstanceAs (Decidable ((Eligible input item ∧ _ ∧ _) ∧
    ¬ ∃ other ∈ items, Replaces platform input other item))

/-- The entry is about the item and its body, which is the declared one. -/
structure Describes (platform : KnowledgePlatform) (files : KnowledgeFiles)
    (entry : SelectedKnowledge) (item : DurableKnowledgeItem) : Prop where
  knowledgeId : entry.knowledgeId = item.knowledgeId
  layer : entry.layer = item.layer
  bodyRef : entry.bodyRef = item.bodyRef
  body : ∃ bytes, files.body item.layer item.bodyRef = .ok bytes ∧
    entry.sha256 = (platform.canonicalSha256 bytes).val
  declared : ∀ declared ∈ item.bodySha256, declared = entry.sha256

theorem recallItem_chosen {selected : List SelectedKnowledge} {named : List String}
    (turn : recallItem platform input files items item = .ok (selected, named))
    (chosen : Chosen platform input items item) :
    ∃ entry, selected = [entry] ∧ Describes platform files entry item := by
  obtain ⟨⟨eligible, begun, lasting⟩, unreplaced⟩ := chosen
  unfold recallItem at turn
  rw [if_neg (not_not.2 eligible), if_neg (by simp [begun]), if_neg (by simp [lasting]),
    if_neg (show ¬ ∃ other ∈ items, Replaces platform input other item from unreplaced)] at turn
  simp only [resolveDurableKnowledgeBody, bind_eq_ok, ensure_eq_ok, pure_eq_ok] at turn
  obtain ⟨sha256, ⟨_, -, bytes, read, _, declared, _, -, rfl⟩, same⟩ := turn
  cases same
  exact ⟨_, rfl, rfl, rfl, rfl, ⟨bytes, read, rfl⟩, declared⟩

/-- The turns over some of the items. -/
theorem describes_of_turns {turns : List (List SelectedKnowledge × List String)}
    (each : mapEach (recallItem platform input files all) items = .ok turns) :
    List.Forall₂ (Describes platform files) (turns.flatMap (·.1))
      (items.filter fun item => Chosen platform input all item) := by
  induction items generalizing turns with
  | nil =>
    cases each
    exact .nil
  | cons item items ih =>
    simp only [mapEach, bind_eq_ok, pure_eq_ok] at each
    obtain ⟨⟨selected, named⟩, turn, rest, others, rfl⟩ := each
    rw [List.flatMap_cons, List.filter_cons]
    by_cases chosen : Chosen platform input all item
    · obtain ⟨entry, rfl, describes⟩ := recallItem_chosen turn chosen
      rw [if_pos (decide_eq_true chosen)]
      exact .cons describes (ih others)
    · obtain ⟨stands, -⟩ | ⟨-, rfl, -⟩ := recallItem_cases turn
      · exact absurd stands chosen
      · rw [if_neg (by simpa using chosen)]
        exact ih others

end OnePersonLab.Knowledge
