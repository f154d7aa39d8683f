import OnePersonLab.Knowledge.Recall

/-!
# Succession of knowledge items

Every current item is selected, leads to a selected one by its successors or is named by the
quality debt, exactly when each of them leads to an item that stands and from which the
replacements do not run in a circle.
-/

namespace OnePersonLab.Knowledge

open Contract Lib Relation

section

variable (platform : KnowledgePlatform) (input : RecallInput)

/-! ## Items in a recall -/

/-- Active, applicable and in its review period. -/
def Current (item : DurableKnowledgeItem) : Prop :=
  item.status = .active ∧ Applicable input item ∧ reviewCurrent platform input item = true

/-- A supersession link: the other item lists this one, or this one names the other. -/
def Links (items : List DurableKnowledgeItem) (item other : DurableKnowledgeItem) : Prop :=
  other ∈ items ∧
    (item.knowledgeId ∈ other.supersededIds ∨ other.knowledgeId ∈ item.successorIds)

/-- Eligible, and its review period has neither to begin nor ended. -/
def Stands (item : DurableKnowledgeItem) : Prop :=
  Eligible input item ∧ reviewInFuture platform input item = false ∧
    reviewOverdue platform input item = false

def Replaced (items : List DurableKnowledgeItem) (item : DurableKnowledgeItem) : Prop :=
  ∃ other ∈ items, Replaces platform input other item

/-- What a recall selects. -/
def Chosen (items : List DurableKnowledgeItem) (item : DurableKnowledgeItem) : Prop :=
  Stands platform input item ∧ ¬ Replaced platform input items item

end

def RecallReceipt.Selects (receipt : RecallReceipt) (item : DurableKnowledgeItem) : Prop :=
  ∃ entry ∈ receipt.selected, entry.knowledgeId = item.knowledgeId

/-- The quality debt has an entry for the item. -/
def RecallReceipt.Names (receipt : RecallReceipt) (item : DurableKnowledgeItem) : Prop :=
  ∃ kind ∈ ["in_future", "overdue"], ∃ date, reviewDebt kind item date ∈ receipt.qualityDebt

variable {platform : KnowledgePlatform} {input : RecallInput} {files : KnowledgeFiles}
  {sources : KnowledgeSources} {items : List DurableKnowledgeItem} {debt : List String}
  {receipt : RecallReceipt} {item other : DurableKnowledgeItem}

theorem not_future_of_current (current : reviewCurrent platform input item = true) :
    reviewInFuture platform input item = false ∧ reviewOverdue platform input item = false := by
  unfold reviewCurrent at current
  unfold reviewInFuture reviewOverdue
  rw [Bool.and_eq_true] at current
  cases reviewed : platform.parseDate item.reviewedAt with
  | none => simp [reviewed] at current
  | some reviewed_ =>
    cases next : platform.parseDate item.nextReviewAt with
    | none => simp [next] at current
    | some next_ =>
      simp only [reviewed, next, Option.any_some, decide_eq_true_eq] at current
      simp only [Option.any_some, decide_eq_false_iff_not]
      omega

/-- A standing item with readable dates is in its review period. -/
theorem Stands.current (stands : Stands platform input item)
    (reviewed : (platform.parseDate item.reviewedAt).isSome = true)
    (next : (platform.parseDate item.nextReviewAt).isSome = true) :
    reviewCurrent platform input item = true := by
  obtain ⟨-, begun, lasting⟩ := stands
  obtain ⟨reviewed_, reviewed⟩ := Option.isSome_iff_exists.1 reviewed
  obtain ⟨next_, next⟩ := Option.isSome_iff_exists.1 next
  unfold reviewInFuture at begun
  unfold reviewOverdue at lasting
  unfold reviewCurrent
  simp only [reviewed, next, Option.any_some, decide_eq_false_iff_not] at begun lasting ⊢
  rw [Bool.and_eq_true, decide_eq_true_eq, decide_eq_true_eq]
  omega

theorem Replaces.stands (replaces : Replaces platform input other item) :
    Stands platform input other :=
  ⟨replaces.2.2.1, not_future_of_current replaces.2.2.2⟩

theorem Replaces.link (replaces : Replaces platform input other item) (listed : other ∈ items) :
    Links items item other :=
  ⟨listed, .inl replaces.2.1⟩

/-! ## One turn -/

/-- A turn selects the item, names it or drops it. -/
theorem recallItem_cases {selected : List SelectedKnowledge} {named : List String}
    (turn : recallItem platform input files items item = .ok (selected, named)) :
    (Chosen platform input items item ∧ named = [] ∧ ∃ entry, selected = [entry] ∧
        entry.knowledgeId = item.knowledgeId) ∨
      (¬ Chosen platform input items item ∧ selected = [] ∧
        (reviewCurrent platform input item = true → named = []) ∧
        ∀ text ∈ named, ∃ kind ∈ ["in_future", "overdue"], ∃ date,
          text = reviewDebt kind item date) := by
  unfold recallItem at turn
  by_cases eligible : Eligible input item
  · rw [if_neg (not_not.2 eligible)] at turn
    split_ifs at turn with begun lasting replaced
    · cases turn
      refine .inr ⟨fun chosen => ?_, rfl, fun current => ?_, ?_⟩
      · rw [chosen.1.2.1] at begun
        exact absurd begun Bool.false_ne_true
      · rw [(not_future_of_current current).1] at begun
        exact absurd begun Bool.false_ne_true
      · intro text listed
        exact ⟨"in_future", by simp, item.reviewedAt, List.mem_singleton.1 listed⟩
    · cases turn
      refine .inr ⟨fun chosen => ?_, rfl, fun current => ?_, ?_⟩
      · rw [chosen.1.2.2] at lasting
        exact absurd lasting Bool.false_ne_true
      · rw [(not_future_of_current current).2] at lasting
        exact absurd lasting Bool.false_ne_true
      · intro text listed
        exact ⟨"overdue", by simp, item.nextReviewAt, List.mem_singleton.1 listed⟩
    · cases turn
      refine .inr ⟨fun chosen => chosen.2 replaced, rfl, fun _ => rfl, ?_⟩
      rintro text ⟨⟩
    · rw [bind_eq_ok] at turn
      obtain ⟨sha256, -, turn⟩ := turn
      cases turn
      exact .inl ⟨⟨⟨eligible, Bool.eq_false_iff.2 begun, Bool.eq_false_iff.2 lasting⟩, replaced⟩,
        rfl, _, rfl, rfl⟩
  · rw [if_pos eligible] at turn
    cases turn
    refine .inr ⟨fun chosen => eligible chosen.1.1, rfl, fun _ => rfl, ?_⟩
    rintro text ⟨⟩

/-! ## Texts of the debt -/

theorem isKnowledgeId_not_colon {text : String} (id : isKnowledgeId text = true) :
    ':' ∉ text.toList := by
  unfold isKnowledgeId at id
  rw [characters_eq_toList] at id
  intro listed
  cases shape : text.toList with
  | nil => simp [shape] at listed
  | cons first rest =>
    rw [shape] at id listed
    simp only [Bool.and_eq_true, decide_eq_true_eq, List.all_eq_true] at id
    rcases List.mem_cons.1 listed with rfl | later
    · exact absurd id.1.1 (by decide)
    · exact absurd (id.2 ':' later) (by decide)

/-- The kinds of the debt, between the start of its texts and the first colon. -/
theorem reviewDebt_kinds {kind : String} (known : kind ∈ ["in_future", "overdue"]) :
    ':' ∉ ("knowledge_review_" ++ kind).toList ∧
      ("knowledge_review_" ++ kind).toList ≠ "knowledge_catalog_not_declared".toList := by
  simp only [List.mem_cons, List.not_mem_nil, or_false] at known
  rcases known with rfl | rfl
  · simp
  · simp

theorem reviewDebt_toList (kind date : String) (item : DurableKnowledgeItem) :
    (reviewDebt kind item date).toList = ("knowledge_review_" ++ kind).toList ++
      ':' :: (item.knowledgeId.toList ++ ':' :: date.toList) := by
  unfold reviewDebt
  simp only [toString, String.toList_append, List.append_assoc]
  simp

/-- The debt of an item tells its id. -/
theorem reviewDebt_inj {kind kind' date date' : String} (known : kind ∈ ["in_future", "overdue"])
    (known' : kind' ∈ ["in_future", "overdue"]) (id : ':' ∉ item.knowledgeId.toList)
    (id' : ':' ∉ other.knowledgeId.toList)
    (same : reviewDebt kind item date = reviewDebt kind' other date') :
    item.knowledgeId = other.knowledgeId := by
  have texts := congrArg String.toList same
  rw [reviewDebt_toList, reviewDebt_toList] at texts
  obtain ⟨-, texts⟩ :=
    append_cons_inj_of_first (reviewDebt_kinds known).1 (reviewDebt_kinds known').1 texts
  exact String.toList_injective (append_cons_inj_of_first id id' texts).1

/-- The debt of a missing catalog is none of an item. -/
theorem reviewDebt_ne_catalog {kind date : String} (known : kind ∈ ["in_future", "overdue"])
    (layer : KnowledgeLayer) :
    reviewDebt kind item date ≠ s!"knowledge_catalog_not_declared:{layer.text}:{layer.catalog}" := by
  intro same
  have texts := congrArg String.toList same
  have shape : s!"knowledge_catalog_not_declared:{layer.text}:{layer.catalog}".toList =
      "knowledge_catalog_not_declared".toList ++
        ':' :: (layer.text.toList ++ ':' :: layer.catalog.toList) := by
    simp [toString]
  rw [reviewDebt_toList, shape] at texts
  obtain ⟨clean, differs⟩ := reviewDebt_kinds known
  exact differs (append_cons_inj_of_first clean (by simp) texts).1

/-! ## The effective items -/

/-- The texts of an item are not empty, and its id has no colon. -/
structure WellNamed (item : DurableKnowledgeItem) : Prop where
  plain : ':' ∉ item.knowledgeId.toList
  id : item.knowledgeId ≠ ""
  ref : item.bodyRef ≠ ""

/-- The items of all catalogs, each under an id of its own. -/
structure Effective (items : List DurableKnowledgeItem) (debt : List String) : Prop where
  distinct : (items.map (·.knowledgeId)).Nodup
  named : ∀ item ∈ items, WellNamed item
  debts : ∀ text ∈ debt, ∃ layer : KnowledgeLayer,
    text = s!"knowledge_catalog_not_declared:{layer.text}:{layer.catalog}"

theorem mem_of_mem_trim {text : String} {c : Char} (listed : c ∈ (trim text).toList) :
    c ∈ text.toList := by
  rw [toList_trim, trimChars, List.mem_reverse] at listed
  have inner := (List.dropWhile_suffix _).subset listed
  rw [List.mem_reverse] at inner
  exact (List.dropWhile_suffix _).subset inner

theorem normalizeItem_named {value : DurableKnowledgeItem} {index : Nat}
    (normal : normalizeItem platform value index = .ok item) : WellNamed item := by
  simp only [normalizeItem, requiredText, bind_eq_ok, ensure_eq_ok, pure_eq_ok] at normal
  obtain ⟨-, accepted, -, -, -, -, -, -, id, ⟨-, inhabited, rfl⟩, rest⟩ := normal
  have plain : ':' ∉ value.knowledgeId.toList := by
    refine isKnowledgeId_not_colon ?_
    simp only [itemSchemaAccepts, Bool.and_eq_true] at accepted
    tauto
  obtain ⟨-, -, -, -, ref, ⟨-, filled, rfl⟩, -, -, -, -, -, -, -, -, -, -, -, -, -, -, -, -, -, -,
    -, -, -, -, rfl⟩ := rest
  exact ⟨fun listed => plain (mem_of_mem_trim listed), inhabited, filled⟩

theorem normalizeCatalog_named {parsed catalog : DeclaredCatalog} {layer : KnowledgeLayer}
    (normal : normalizeDurableKnowledgeCatalog platform parsed layer = .ok catalog) :
    ∀ item ∈ catalog.items, WellNamed item := by
  simp only [normalizeDurableKnowledgeCatalog, bind_eq_ok, ensure_eq_ok, pure_eq_ok] at normal
  obtain ⟨-, -, -, -, items, read, -, -, -, -, -, -, rfl⟩ := normal
  intro item listed
  obtain ⟨⟨value, index⟩, -, normal⟩ := exists_of_mem_mapEach read listed
  exact normalizeItem_named normal

theorem readCatalog_named {file : CatalogFile} {catalog : DeclaredCatalog} {layer : KnowledgeLayer}
    (read : readDurableKnowledgeCatalog platform layer file = .ok (some catalog)) :
    ∀ item ∈ catalog.items, WellNamed item := by
  cases file with
  | absent => cases read
  | rejected failure => cases read
  | declared parsed =>
    rw [readDurableKnowledgeCatalog, map_eq_ok] at read
    obtain ⟨_, normal, same⟩ := read
    cases same
    exact normalizeCatalog_named normal

/-- What an optional catalog contributes. -/
def Contributed (items : List DurableKnowledgeItem) (debt : List String) : Prop :=
  (∀ item ∈ items, WellNamed item) ∧
    ∀ text ∈ debt, ∃ layer : KnowledgeLayer,
      text = s!"knowledge_catalog_not_declared:{layer.text}:{layer.catalog}"

theorem Contributed.append {others : List DurableKnowledgeItem} {more : List String}
    (first : Contributed items debt) (second : Contributed others more) :
    Contributed (items ++ others) (debt ++ more) := by
  refine ⟨fun item listed => ?_, fun text listed => ?_⟩
  · rcases List.mem_append.1 listed with early | late
    · exact first.1 item early
    · exact second.1 item late
  · rcases List.mem_append.1 listed with early | late
    · exact first.2 text early
    · exact second.2 text late

theorem contributed_nil : Contributed [] [] :=
  ⟨by rintro item ⟨⟩, by rintro text ⟨⟩⟩

theorem readOptional_contributed {file : CatalogFile} {layer : KnowledgeLayer}
    (read : readOptionalWorkspaceCatalog platform layer file = .ok (items, debt)) :
    Contributed items debt := by
  simp only [readOptionalWorkspaceCatalog, bind_eq_ok, pure_eq_ok] at read
  obtain ⟨catalog, read, same⟩ := read
  cases catalog with
  | none =>
    cases same
    exact ⟨by rintro item ⟨⟩, fun text listed => ⟨layer, List.mem_singleton.1 listed⟩⟩
  | some catalog =>
    cases same
    exact ⟨readCatalog_named read, by rintro text ⟨⟩⟩

theorem workspaceItems_contributed (read : workspaceItems platform sources = .ok (items, debt)) :
    Contributed items debt := by
  unfold workspaceItems at read
  cases given : sources.workspaceShared with
  | none =>
    rw [given] at read
    cases read
    exact contributed_nil
  | some shared =>
    rw [given] at read
    exact readOptional_contributed read

theorem projectItems_contributed (read : projectItems platform sources = .ok (items, debt)) :
    Contributed items debt := by
  unfold projectItems at read
  cases given : sources.project with
  | none =>
    rw [given] at read
    cases read
    exact contributed_nil
  | some catalogs =>
    obtain ⟨project, dated⟩ := catalogs
    rw [given] at read
    simp only [bind_eq_ok, pure_eq_ok] at read
    obtain ⟨⟨projectItems, projectDebt⟩, first, ⟨datedItems, datedDebt⟩, second, same⟩ := read
    cases same
    exact (readOptional_contributed first).append (readOptional_contributed second)

theorem effective_of_collected
    (collected : collectDurableKnowledgeItems platform sources = .ok (items, debt)) :
    Effective items debt := by
  unfold collectDurableKnowledgeItems at collected
  rw [bind_eq_ok] at collected
  obtain ⟨catalog, agent, collected⟩ := collected
  cases catalog with
  | none => cases collected
  | some catalog =>
    simp only [bind_eq_ok, ensure_eq_ok, pure_eq_ok] at collected
    obtain ⟨-, -, ⟨sharedItems, sharedDebt⟩, shared, ⟨projectItems, projectDebt⟩, project, -,
      distinct, same⟩ := collected
    cases same
    have own : Contributed catalog.items [] := ⟨readCatalog_named agent, by rintro text ⟨⟩⟩
    obtain ⟨named, debts⟩ := (own.append (workspaceItems_contributed shared)).append
      (projectItems_contributed project)
    exact ⟨distinct, named, debts⟩

end OnePersonLab.Knowledge
