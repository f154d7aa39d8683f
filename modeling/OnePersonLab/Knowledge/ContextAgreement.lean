import OnePersonLab.Knowledge.Context

/-!
# Binding and validation agree

A bound context is validated unchanged exactly when the domain and the stage are named and no
selected body starts with a byte order mark, which the decoder drops. Contexts that are
validated with the same digests have the same bytes.
-/

namespace OnePersonLab.Knowledge

open Contract Lib Lib.JsonText

variable {platform : KnowledgePlatform} {input : RecallInput} {files reread : KnowledgeFiles}
  {sources : KnowledgeSources} {items : List DurableKnowledgeItem} {debt : List String}
  {receipt : RecallReceipt} {item : DurableKnowledgeItem} {context : KnowledgeContext}
  {value : JsonValue} {domainId stageId : String}

/-! ## Receipts -/

theorem unitsOf_ne_nil {text : String} : unitsOf text ≠ [] ↔ text ≠ "" :=
  not_congr (unitsOf_injective.eq_iff' rfl)

theorem resolveBody_digest {sha256 : String}
    (resolved : resolveDurableKnowledgeBody platform files item = .ok sha256) :
    isSha256Digest sha256 = true := by
  simp only [resolveDurableKnowledgeBody, bind_eq_ok, ensure_eq_ok, pure_eq_ok] at resolved
  obtain ⟨-, -, bytes, -, -, -, -, -, rfl⟩ := resolved
  exact (platform.canonicalSha256 bytes).property

/-- What a turn selects. -/
structure EntryOf (item : DurableKnowledgeItem) (entry : SelectedKnowledge) : Prop where
  id : entry.knowledgeId = item.knowledgeId
  ref : entry.bodyRef = item.bodyRef
  digest : isSha256Digest entry.sha256 = true
  reason : entry.selectionReason ≠ ""

theorem active_for_ne_empty (domainId stageId : String) :
    s!"active_for:{domainId}/{stageId}" ≠ "" := by
  intro empty
  have texts := congrArg String.length empty
  simp [toString] at texts

theorem recallItem_entry {selected : List SelectedKnowledge} {named : List String}
    (turn : recallItem platform input files items item = .ok (selected, named)) :
    selected = [] ∨ ∃ entry, selected = [entry] ∧ EntryOf item entry := by
  unfold recallItem at turn
  by_cases eligible : Eligible input item
  · rw [if_neg (not_not.2 eligible)] at turn
    split_ifs at turn with begun lasting replaced
    · cases turn
      exact .inl rfl
    · cases turn
      exact .inl rfl
    · cases turn
      exact .inl rfl
    · rw [bind_eq_ok] at turn
      obtain ⟨sha256, resolved, turn⟩ := turn
      cases turn
      exact .inr ⟨_, rfl, rfl, rfl, resolveBody_digest resolved, active_for_ne_empty _ _⟩
  · rw [if_pos eligible] at turn
    cases turn
    exact .inl rfl

/-- The ids of the selected items are in the order of the items. -/
theorem selectedIds_sublist {turns : List (List SelectedKnowledge × List String)}
    {others : List DurableKnowledgeItem}
    (each : mapEach (recallItem platform input files items) others = .ok turns) :
    ((turns.flatMap (·.1)).map (·.knowledgeId)).Sublist (others.map (·.knowledgeId)) := by
  induction others generalizing turns with
  | nil =>
    cases each
    exact List.Sublist.refl _
  | cons first rest ih =>
    simp only [mapEach, bind_eq_ok, pure_eq_ok] at each
    obtain ⟨⟨selected, named⟩, turn, turns, each, rfl⟩ := each
    rw [List.flatMap_cons, List.map_append, List.map_cons]
    rcases recallItem_entry turn with rfl | ⟨entry, rfl, from_⟩
    · exact (ih each).cons _
    · rw [List.map_singleton, List.singleton_append, from_.id]
      exact (ih each).cons_cons _

/-- What a validator can rely on in a receipt. -/
structure SoundReceipt (input : RecallInput) (receipt : RecallReceipt) : Prop where
  domain : receipt.domainId = input.domainId
  stage : receipt.stageId = input.stageId
  distinct : (receipt.selected.map (·.knowledgeId)).Nodup
  ids : ∀ entry ∈ receipt.selected, entry.knowledgeId ≠ ""
  refs : ∀ entry ∈ receipt.selected, entry.bodyRef ≠ ""
  digests : ∀ entry ∈ receipt.selected, isSha256Digest entry.sha256 = true
  reasons : ∀ entry ∈ receipt.selected, entry.selectionReason ≠ ""
  debts : ∀ text ∈ receipt.qualityDebt, text ≠ ""

theorem reviewDebt_ne_empty (kind date : String) (item : DurableKnowledgeItem) :
    reviewDebt kind item date ≠ "" := by
  intro empty
  have texts := congrArg String.toList empty
  rw [reviewDebt_toList] at texts
  simp at texts

theorem catalogDebt_ne_empty (layer : KnowledgeLayer) :
    s!"knowledge_catalog_not_declared:{layer.text}:{layer.catalog}" ≠ "" := by
  intro empty
  have texts := congrArg String.length empty
  simp [toString] at texts

theorem soundReceipt (returned : recallDurableKnowledge platform input files sources = .ok receipt) :
    SoundReceipt input receipt := by
  simp only [recallDurableKnowledge, bind_eq_ok, pure_eq_ok] at returned
  obtain ⟨⟨items, debt⟩, collected, turns, each, rfl⟩ := returned
  have effective := effective_of_collected collected
  have entries : ∀ entry ∈ turns.flatMap (·.1), ∃ item ∈ items, EntryOf item entry := by
    intro entry listed
    obtain ⟨⟨selected, named⟩, turn, listed⟩ := List.mem_flatMap.1 listed
    obtain ⟨item, known, turned⟩ := exists_of_mem_mapEach each turn
    rcases recallItem_entry turned with rfl | ⟨only, rfl, from_⟩
    · cases listed
    · rw [List.mem_singleton] at listed
      exact ⟨item, known, by rwa [listed]⟩
  constructor
  · rfl
  · rfl
  · exact (selectedIds_sublist each).nodup effective.distinct
  · intro entry listed
    obtain ⟨item, known, from_⟩ := entries entry listed
    rw [from_.id]
    exact (effective.named item known).id
  · intro entry listed
    obtain ⟨item, known, from_⟩ := entries entry listed
    rw [from_.ref]
    exact (effective.named item known).ref
  · intro entry listed
    obtain ⟨item, known, from_⟩ := entries entry listed
    exact from_.digest
  · intro entry listed
    obtain ⟨item, known, from_⟩ := entries entry listed
    exact from_.reason
  · intro text listed
    rcases List.mem_append.1 listed with catalog | review
    · obtain ⟨layer, rfl⟩ := effective.debts text catalog
      exact catalogDebt_ne_empty layer
    · obtain ⟨⟨selected, named⟩, turn, listed⟩ := List.mem_flatMap.1 review
      obtain ⟨item, known, turned⟩ := exists_of_mem_mapEach each turn
      obtain ⟨-, rfl, -⟩ | ⟨-, -, -, texts⟩ := recallItem_cases turned
      · cases listed
      · obtain ⟨kind, -, date, rfl⟩ := texts text listed
        exact reviewDebt_ne_empty kind date item

/-! ## The schema -/

theorem accepts_layer (layer : KnowledgeLayer) :
    (Schema.oneOf ["agent_pack", "workspace_shared", "workspace_project", "dated_state"]).accepts
      (text layer.text) = true := by
  cases layer <;> simp [Schema.oneOf, Schema.accepts, text, KnowledgeLayer.text]

theorem accepts_digest {sha256 : String} (digest : isSha256Digest sha256 = true) :
    digestSchema.accepts (text sha256) = true := by
  simpa [digestSchema, Schema.accepts, text, scalarsOf_unitsOf] using digest

theorem accepts_text {value : String} (inhabited : value ≠ "") :
    Schema.nonEmpty.accepts (text value) = true :=
  (Schema.accepts_nonEmpty _).2 (unitsOf_ne_nil.2 inhabited)

theorem accepts_selected (sound : SoundReceipt input receipt) {entry : SelectedKnowledge}
    (listed : entry ∈ receipt.selected) :
    selectedSchema.accepts (record entry.fields) = true := by
  rw [selectedSchema, Schema.accepts_record]
  simp only [SelectedKnowledge.fields, List.forall_mem_cons, member?_record_cons,
    Schema.acceptsMember_cons, String.reduceEq, if_true, if_false, Option.isSome_some, true_and]
  refine ⟨List.forall_mem_nil _, accepts_text (sound.ids entry listed), accepts_layer _,
    accepts_text (sound.refs entry listed), accepts_digest (sound.digests entry listed),
    accepts_text (sound.reasons entry listed), List.forall_mem_nil _⟩

theorem accepts_boundary : boundarySchema.accepts boundaryValue = true := by
  rw [boundarySchema, boundaryValue, Schema.accepts_record]
  simp only [List.forall_mem_cons, member?_record_cons, Schema.acceptsMember_cons, String.reduceEq,
    if_true, if_false, Option.isSome_some, true_and, Schema.accepts, beq_self_eq_true]
  exact ⟨List.forall_mem_nil _, List.forall_mem_nil _⟩

theorem accepts_task (task : Option String) :
    (Schema.either (.string fun _ => true) .null).accepts
      (taskValue task) = true := by
  cases task with
  | none => rfl
  | some task => rfl

/-- The schema only asks for a domain and a stage. -/
theorem accepts_receipt (sound : SoundReceipt input receipt) :
    receiptSchema.accepts receipt.value = true ↔ input.domainId ≠ "" ∧ input.stageId ≠ "" := by
  have selected : (Schema.array selectedSchema).accepts
      (.array (receipt.selected.map fun entry => (record entry.fields : JsonValue))) = true := by
    refine (Schema.accepts_array _ _).2 fun value listed => ?_
    obtain ⟨entry, known, rfl⟩ := List.mem_map.1 listed
    exact accepts_selected sound known
  have debts : (Schema.array .nonEmpty).accepts (.array (receipt.qualityDebt.map text)) = true := by
    refine (Schema.accepts_array _ _).2 fun value listed => ?_
    obtain ⟨debt, known, rfl⟩ := List.mem_map.1 listed
    exact accepts_text (sound.debts debt known)
  have named : ∀ value, Schema.nonEmpty.accepts (text value) = true ↔ value ≠ "" := fun value =>
    (Schema.accepts_nonEmpty _).trans unitsOf_ne_nil
  have literal : ∀ value, (Schema.const value).accepts (text value) = true := fun value =>
    (Schema.accepts_const _ _).2 rfl
  rw [receiptSchema, RecallReceipt.value, Schema.accepts_record]
  simp only [List.forall_mem_cons, member?_record_cons, Schema.acceptsMember_cons, String.reduceEq,
    if_true, if_false, Option.isSome_some, true_and, literal, accepts_task, selected, debts,
    accepts_boundary, named, sound.domain, sound.stage]
  constructor
  · rintro ⟨-, domain, stage, -⟩
    exact ⟨domain, stage⟩
  · rintro ⟨domain, stage⟩
    exact ⟨List.forall_mem_nil _, domain, stage, List.forall_mem_nil _⟩

/-! ## Validation of a value -/

/-- What a validated value has to be. -/
structure Validated (platform : KnowledgePlatform) (value : JsonValue) (domainId stageId : String)
    (bodies : List JsonValue) (receipt : JsonValue) (selected : List JsonValue) : Prop where
  hasBodies : memberItems? value "bodies" = some bodies
  hasReceipt : value.member? "receipt" = some receipt
  schema : receiptSchema.accepts receipt = true
  hasSelected : (memberItems? receipt "selected").getD [] = selected
  domain : memberText? receipt "domain_id" = some (unitsOf domainId)
  stage : memberText? receipt "stage_id" = some (unitsOf stageId)
  length : bodies.length = selected.length
  distinct : (selected.map (memberText? · "knowledge_id")).dedup.length = bodies.length
  matches_ : ∀ pair ∈ bodies.zip selected, bodyMatches platform pair.1 pair.2 = true
  total : totalSize bodies ≤ maxContextBytes

theorem validate_eq_ok {result : JsonValue} :
    validateDurableKnowledgeContext platform value domainId stageId = .ok result ↔
      result = value ∧ ∃ bodies receipt selected,
        Validated platform value domainId stageId bodies receipt selected := by
  unfold validateDurableKnowledgeContext
  cases bodies : memberItems? value "bodies" with
  | none =>
    refine iff_of_false (by rintro ⟨⟩) ?_
    rintro ⟨-, _, _, _, valid⟩
    rw [valid.hasBodies] at bodies
    cases bodies
  | some items =>
    cases receipt : value.member? "receipt" with
    | none =>
      refine iff_of_false (by rintro ⟨⟩) ?_
      rintro ⟨-, _, _, _, valid⟩
      rw [valid.hasReceipt] at receipt
      cases receipt
    | some given =>
      simp only [bind_eq_ok, ensure_eq_ok, pure_eq_ok]
      constructor
      · rintro ⟨-, schema, -, ⟨domain, stage, length⟩, -, distinct, -, matches_, -, total, rfl⟩
        exact ⟨rfl, items, given, _,
          ⟨bodies, receipt, schema, rfl, domain, stage, length, distinct, matches_, total⟩⟩
      · rintro ⟨rfl, _, _, _, valid⟩
        obtain rfl := Option.some.inj (bodies.symm.trans valid.hasBodies)
        obtain rfl := Option.some.inj (receipt.symm.trans valid.hasReceipt)
        obtain rfl := valid.hasSelected
        exact ⟨(), valid.schema, (), ⟨valid.domain, valid.stage, valid.length⟩, (), valid.distinct, (),
          valid.matches_, (), valid.total, rfl⟩

/-! ## Bound contexts -/

/-- The body of an entry, with the bytes it was read from. -/
structure BoundBody (platform : KnowledgePlatform) (reread : KnowledgeFiles)
    (entry : SelectedKnowledge) (body : KnowledgeBody) (bytes : Bytes) : Prop where
  read : reread.body entry.layer entry.bodyRef = .ok bytes
  selected : body.selected = entry
  digest : (platform.canonicalSha256 bytes).val = entry.sha256
  inhabited : bytes ≠ []
  small : bytes.length ≤ maxBodyBytes
  content : decodeUtf8 bytes = some body.content
  size : body.sizeBytes = bytes.length

theorem bindBody_eq_ok {entry : SelectedKnowledge} {body : KnowledgeBody}
    (bound : bindBody platform reread entry = .ok body) :
    ∃ bytes, BoundBody platform reread entry body bytes := by
  simp only [bindBody, bind_eq_ok, ensure_eq_ok] at bound
  obtain ⟨-, -, bytes, read, -, digest, -, ⟨inhabited, small⟩, bound⟩ := bound
  cases content : decodeUtf8 bytes with
  | none =>
    rw [content] at bound
    cases bound
  | some text =>
    rw [content] at bound
    cases bound
    exact ⟨bytes, read, rfl, digest, inhabited, small, content, rfl⟩

@[simp] theorem memberText?_record_cons (name key : String) (value : JsonValue)
    (fields : List (String × JsonValue)) :
    memberText? (record ((name, value) :: fields)) key =
      if name = key then value.text? else memberText? (record fields) key := by
  unfold memberText?
  rw [member?_record_cons]
  split
  · rfl
  · rfl

@[simp] theorem memberNumber?_record_cons (name key : String) (value : JsonValue)
    (fields : List (String × JsonValue)) :
    memberNumber? (record ((name, value) :: fields)) key =
      if name = key then value.number? else memberNumber? (record fields) key := by
  unfold memberNumber?
  rw [member?_record_cons]
  split
  · rfl
  · rfl

theorem contentBytes_value (body : KnowledgeBody) :
    contentBytes body.value = some (encodeUtf8 body.content) := by
  simp only [contentBytes, KnowledgeBody.value, SelectedKnowledge.fields, List.cons_append,
    List.nil_append, memberText?_record_cons, String.reduceEq, if_true, if_false]
  rfl

theorem size_value (body : KnowledgeBody) :
    memberNumber? body.value "size_bytes" = some (body.sizeBytes : ℚ) := by
  simp only [KnowledgeBody.value, SelectedKnowledge.fields, List.cons_append,
    List.nil_append, memberNumber?_record_cons, String.reduceEq, if_true, if_false]
  rfl

/-- A body repeats its entry, so that only its bytes matter. -/
theorem bodyMatches_value (body : KnowledgeBody) :
    bodyMatches platform body.value (record body.selected.fields) = true ↔
      (0 < body.sizeBytes ∧ body.sizeBytes ≤ maxBodyBytes) ∧
        (platform.canonicalSha256 (encodeUtf8 body.content)).val = body.selected.sha256 ∧
        (encodeUtf8 body.content).length = body.sizeBytes := by
  have digest : ∀ sha256 : String, some (unitsOf sha256) = (text body.selected.sha256).text? ↔
      sha256 = body.selected.sha256 := by
    intro sha256
    simp only [text, Tree.text?, Option.some.injEq, unitsOf_injective.eq_iff]
  unfold bodyMatches
  rw [contentBytes_value, size_value]
  simp only [KnowledgeBody.value, SelectedKnowledge.fields, List.cons_append, List.nil_append,
    memberText?_record_cons, String.reduceEq, if_true, if_false, Bool.and_eq_true,
    decide_eq_true_eq, and_true, digest, Nat.cast_le, Nat.cast_inj]
  simp [and_assoc]

theorem bodyMatches_iff {entry : SelectedKnowledge} {body : KnowledgeBody} {bytes : Bytes}
    (bound : BoundBody platform reread entry body bytes) :
    bodyMatches platform body.value (record entry.fields) = true ↔ ¬ byteOrderMark <+: bytes := by
  have encoded := encodeUtf8_decodeUtf8 bound.content
  rw [← bound.selected, bodyMatches_value, encoded, bound.size, bound.selected, length_dropMark]
  constructor
  · exact fun matching => matching.2.2
  · intro unmarked
    refine ⟨⟨List.length_pos_iff.2 bound.inhabited, bound.small⟩, ?_, unmarked⟩
    rw [dropMark, if_neg unmarked]
    exact bound.digest

/-- A bound context, with the bytes of its bodies. -/
structure Bound (platform : KnowledgePlatform) (input : RecallInput) (reread : KnowledgeFiles)
    (context : KnowledgeContext) : Prop where
  receipt : SoundReceipt input context.receipt
  bodies : List.Forall₂ (fun entry body => ∃ bytes, BoundBody platform reread entry body bytes)
    context.receipt.selected context.bodies
  total : (context.bodies.map (·.sizeBytes)).sum ≤ maxContextBytes

theorem bind_eq_ok_bound
    (bound : bindDurableKnowledgeContext platform input files reread sources = .ok context) :
    Bound platform input reread context := by
  simp only [bindDurableKnowledgeContext, bind_eq_ok, ensure_eq_ok, pure_eq_ok] at bound
  obtain ⟨receipt, returned, bodies, each, -, total, rfl⟩ := bound
  refine ⟨soundReceipt returned, ?_, total⟩
  exact (mapEach_eq_ok.1 each).imp fun _ _ => bindBody_eq_ok

/-- Nothing about the input or the files stands in the way of validation. -/
structure PlainContext (input : RecallInput) (reread : KnowledgeFiles) (receipt : RecallReceipt) :
    Prop where
  domain : input.domainId ≠ ""
  stage : input.stageId ≠ ""
  unmarked : ∀ entry ∈ receipt.selected, ∀ bytes,
    reread.body entry.layer entry.bodyRef = .ok bytes → ¬ byteOrderMark <+: bytes

theorem memberItems?_bodies (context : KnowledgeContext) :
    memberItems? context.value "bodies" = some (context.bodies.map (·.value)) := by
  simp only [memberItems?, KnowledgeContext.value, member?_record_cons, String.reduceEq, if_true,
    if_false]
  rfl

theorem memberItems?_selected (receipt : RecallReceipt) :
    (memberItems? receipt.value "selected").getD [] =
      receipt.selected.map fun entry => record entry.fields := by
  simp only [memberItems?, RecallReceipt.value, member?_record_cons, String.reduceEq, if_true,
    if_false]
  rfl

theorem totalSize_bodies (bodies : List KnowledgeBody) :
    totalSize (bodies.map (·.value)) = ((bodies.map (·.sizeBytes)).sum : ℕ) := by
  induction bodies with
  | nil => rfl
  | cons body rest ih =>
    unfold totalSize at ih ⊢
    rw [List.map_cons, List.map_cons, List.sum_cons, ih, List.map_cons, List.sum_cons, size_value]
    push_cast
    rfl

theorem matches_iff (bound : Bound platform input reread context) :
    (∀ pair ∈ (context.bodies.map (·.value)).zip
        (context.receipt.selected.map fun entry => (record entry.fields : JsonValue)),
      bodyMatches platform pair.1 pair.2 = true) ↔
      ∀ entry ∈ context.receipt.selected, ∀ bytes,
        reread.body entry.layer entry.bodyRef = .ok bytes → ¬ byteOrderMark <+: bytes := by
  obtain ⟨-, bodies, -⟩ := bound
  generalize context.receipt.selected = selected at bodies ⊢
  generalize context.bodies = items at bodies ⊢
  induction bodies with
  | nil =>
    refine iff_of_true ?_ ?_
    · rintro pair ⟨⟩
    · rintro entry ⟨⟩
  | cons first _ ih =>
    obtain ⟨bytes, first⟩ := first
    rw [List.map_cons, List.map_cons, List.zip_cons_cons, List.forall_mem_cons,
      List.forall_mem_cons, ih, bodyMatches_iff first]
    refine and_congr_left' ⟨fun unmarked other read => ?_, fun unmarked => ?_⟩
    · rw [first.read] at read
      cases read
      exact unmarked
    · exact unmarked bytes first.read

/-- A bound context is validated exactly when nothing stands in its way. -/
theorem validate_bound_iff (bound : Bound platform input reread context) :
    validateDurableKnowledgeContext platform context.value input.domainId input.stageId =
        .ok context.value ↔ PlainContext input reread context.receipt := by
  have receiptValue : context.value.member? "receipt" = some context.receipt.value := by
    simp only [KnowledgeContext.value, member?_record_cons, String.reduceEq, if_true]
  rw [validate_eq_ok]
  constructor
  · rintro ⟨-, bodies, receipt, selected, valid⟩
    obtain rfl := Option.some.inj (receiptValue.symm.trans valid.hasReceipt)
    obtain rfl := Option.some.inj ((memberItems?_bodies context).symm.trans valid.hasBodies)
    obtain rfl := (memberItems?_selected context.receipt).symm.trans valid.hasSelected
    obtain ⟨domain, stage⟩ := (accepts_receipt bound.receipt).1 valid.schema
    exact ⟨domain, stage, (matches_iff bound).1 valid.matches_⟩
  · rintro ⟨domain, stage, unmarked⟩
    refine ⟨rfl, _, _, _, memberItems?_bodies context, receiptValue,
      (accepts_receipt bound.receipt).2 ⟨domain, stage⟩, memberItems?_selected context.receipt,
      ?_, ?_, ?_, ?_, (matches_iff bound).2 unmarked, ?_⟩
    · rw [← bound.receipt.domain]
      simp only [RecallReceipt.value, memberText?_record_cons, String.reduceEq, if_true, if_false]
      rfl
    · rw [← bound.receipt.stage]
      simp only [RecallReceipt.value, memberText?_record_cons, String.reduceEq, if_true, if_false]
      rfl
    · rw [List.length_map, List.length_map, bound.bodies.length_eq]
    · have ids : (context.receipt.selected.map fun entry =>
          (record entry.fields : JsonValue)).map (memberText? · "knowledge_id") =
          (context.receipt.selected.map (·.knowledgeId)).map fun id => some (unitsOf id) := by
        rw [List.map_map, List.map_map]
        refine List.map_congr_left fun entry _ => ?_
        simp only [Function.comp_apply, SelectedKnowledge.fields, memberText?_record_cons, if_true]
        rfl
      have distinct : ((context.receipt.selected.map (·.knowledgeId)).map
          fun id => some (unitsOf id)).Nodup := by
        refine bound.receipt.distinct.map fun id other same => ?_
        exact unitsOf_injective (Option.some.inj same)
      rw [ids, distinct.dedup, List.length_map, List.length_map, List.length_map,
        bound.bodies.length_eq]
    · rw [totalSize_bodies]
      exact_mod_cast bound.total

/-! ## JSON texts -/

/-- `JSON.stringify` and `JSON.parse` on numbers: a natural number is read back. -/
structure JsonNumbers where
  format : NumberFormat ℚ
  natural : ∀ n : ℕ, n ≤ 2 ^ 53 → format.normal n = n

theorem normal_text (format : NumberFormat ℚ) (value : String) :
    (text value).normal format = text value := rfl

theorem normal_fields (format : NumberFormat ℚ) (entry : SelectedKnowledge) :
    ∀ field ∈ entry.fields, field.2.normal format = field.2 := by
  simp only [SelectedKnowledge.fields, List.forall_mem_cons, normal_text, true_and]
  exact List.forall_mem_nil _

theorem normal_body (numbers : JsonNumbers) {body : KnowledgeBody}
    (small : body.sizeBytes ≤ maxBodyBytes) :
    body.value.normal numbers.format = body.value := by
  refine normal_record fun field listed => ?_
  rcases List.mem_append.1 listed with entry | own
  · exact normal_fields _ _ field entry
  · simp only [List.mem_cons, List.not_mem_nil, or_false] at own
    rcases own with rfl | rfl
    · rfl
    · have natural : numbers.format.normal (body.sizeBytes : ℚ) = body.sizeBytes :=
        numbers.natural _ (small.trans (by decide))
      rw [Tree.normal, natural]

theorem normal_receipt (format : NumberFormat ℚ) (receipt : RecallReceipt) :
    receipt.value.normal format = receipt.value := by
  have task : (taskValue receipt.taskIntent).normal format = taskValue receipt.taskIntent := by
    cases receipt.taskIntent with
    | none => rfl
    | some task => rfl
  have selected : (Tree.array (receipt.selected.map fun entry =>
      (record entry.fields : JsonValue))).normal format =
        .array (receipt.selected.map fun entry => record entry.fields) := by
    refine normal_array fun value listed => ?_
    obtain ⟨entry, -, rfl⟩ := List.mem_map.1 listed
    exact normal_record (normal_fields format entry)
  have debts : (Tree.array (receipt.qualityDebt.map text)).normal format =
      .array (receipt.qualityDebt.map text) := by
    refine normal_array fun value listed => ?_
    obtain ⟨debt, -, rfl⟩ := List.mem_map.1 listed
    rfl
  refine normal_record ?_
  simp only [List.forall_mem_cons, normal_text, task, selected, debts, true_and]
  exact ⟨rfl, List.forall_mem_nil _⟩

theorem Bound.small (bound : Bound platform input reread context) :
    ∀ body ∈ context.bodies, body.sizeBytes ≤ maxBodyBytes := by
  obtain ⟨-, bodies, -⟩ := bound
  generalize context.receipt.selected = selected at bodies
  generalize context.bodies = items at bodies ⊢
  induction bodies with
  | nil => rintro body ⟨⟩
  | cons first _ ih =>
    obtain ⟨bytes, first⟩ := first
    rw [List.forall_mem_cons]
    refine ⟨?_, ih⟩
    rw [first.size]
    exact first.small

/-- The value of a bound context is read back from its text. -/
theorem normal_context (numbers : JsonNumbers) (bound : Bound platform input reread context) :
    context.value.normal numbers.format = context.value := by
  have bodies : (Tree.array (context.bodies.map (·.value))).normal numbers.format =
      .array (context.bodies.map (·.value)) := by
    refine normal_array fun value listed => ?_
    obtain ⟨body, known, rfl⟩ := List.mem_map.1 listed
    exact normal_body numbers (bound.small body known)
  refine normal_record ?_
  simp only [List.forall_mem_cons, normal_receipt, bodies, true_and]
  exact List.forall_mem_nil _

/-! ## The law -/

/-- The value is accepted as it is, also after it has been written and read. -/
def ValidatesUnchanged (platform : KnowledgePlatform) (value : JsonValue)
    (domainId stageId : String) : Prop :=
  validateDurableKnowledgeContext platform value domainId stageId = .ok value ∧
    ∀ (numbers : JsonNumbers) (again : JsonValue),
      read numbers.format (write numbers.format value) = some again →
        validateDurableKnowledgeContext platform again domainId stageId = .ok value

/-- Whatever is bound is validated. -/
def BindsAlike (platform : KnowledgePlatform) (input : RecallInput) (files reread : KnowledgeFiles)
    (sources : KnowledgeSources) : Prop :=
  ∀ context, bindDurableKnowledgeContext platform input files reread sources = .ok context →
    ValidatesUnchanged platform context.value input.domainId input.stageId

def bodyValues (value : JsonValue) : List JsonValue := (memberItems? value "bodies").getD []

/-- The digests of the selected items in the receipt. -/
def receiptDigests (value : JsonValue) : List (Option Utf16) :=
  (((value.member? "receipt").bind (memberItems? · "selected")).getD []).map (memberText? · "sha256")

/-- The digest tells the contents of two bodies apart. -/
def TellsApart (platform : KnowledgePlatform) (body other : JsonValue) : Prop :=
  ∀ bytes bytes', contentBytes body = some bytes → contentBytes other = some bytes' →
    platform.canonicalSha256 bytes = platform.canonicalSha256 bytes' → bytes = bytes'

/-- Validated contexts with the same digests have the same bytes, body by body. -/
def SwapSafe (platform : KnowledgePlatform) : Prop :=
  ∀ value other domainId stageId domainId' stageId' result result',
    validateDurableKnowledgeContext platform value domainId stageId = .ok result →
    validateDurableKnowledgeContext platform other domainId' stageId' = .ok result' →
    receiptDigests value = receiptDigests other →
    (bodyValues value).length = (bodyValues other).length ∧
      ∀ pair ∈ (bodyValues value).zip (bodyValues other), TellsApart platform pair.1 pair.2 →
        ∃ bytes, contentBytes pair.1 = some bytes ∧ contentBytes pair.2 = some bytes

theorem bodyMatches_digest {body selected : JsonValue}
    (matching : bodyMatches platform body selected = true) :
    ∃ bytes, contentBytes body = some bytes ∧
      memberText? selected "sha256" = some (unitsOf (platform.canonicalSha256 bytes).val) := by
  unfold bodyMatches at matching
  cases content : contentBytes body with
  | none => simp [content] at matching
  | some bytes =>
    cases size : memberNumber? body "size_bytes" with
    | none => simp [content, size] at matching
    | some given =>
      rw [content, size] at matching
      simp only [Bool.and_eq_true, decide_eq_true_eq] at matching
      exact ⟨bytes, rfl, matching.1.2.symm⟩

/-- The digests of the bodies of a validated context are those of its receipt. -/
theorem validated_digests {result : JsonValue}
    (accepted : validateDurableKnowledgeContext platform value domainId stageId = .ok result) :
    List.Forall₂ (fun body digest => ∃ bytes, contentBytes body = some bytes ∧
        digest = some (unitsOf (platform.canonicalSha256 bytes).val))
      (bodyValues value) (receiptDigests value) := by
  obtain ⟨-, bodies, receipt, selected, valid⟩ := validate_eq_ok.1 accepted
  rw [bodyValues, receiptDigests, valid.hasBodies, valid.hasReceipt, Option.bind_some,
    valid.hasSelected, Option.getD_some, List.forall₂_map_right_iff]
  refine List.forall₂_iff_zip.2 ⟨valid.length, fun listed => ?_⟩
  exact bodyMatches_digest (valid.matches_ _ listed)

theorem swapSafe (platform : KnowledgePlatform) : SwapSafe platform := by
  intro value other domainId stageId domainId' stageId' result result' accepted accepted' same
  have first := validated_digests accepted
  have second := validated_digests accepted'
  rw [← same] at second
  refine ⟨first.length_eq.trans second.length_eq.symm, ?_⟩
  generalize receiptDigests value = digests at first second
  generalize bodyValues value = bodies at first ⊢
  generalize bodyValues other = others at second ⊢
  induction first generalizing others with
  | nil => rintro pair ⟨⟩
  | cons body _ ih =>
    cases second with
    | cons body' rest' =>
      rw [List.zip_cons_cons, List.forall_mem_cons]
      refine ⟨fun apart => ?_, ih _ rest'⟩
      obtain ⟨bytes, content, digest⟩ := body
      obtain ⟨bytes', content', digest'⟩ := body'
      have equal := unitsOf_injective (Option.some.inj (digest.symm.trans digest'))
      rw [apart bytes bytes' content content' (Subtype.ext equal)] at content
      exact ⟨bytes', content, content'⟩

/-- Contexts are validated as they are bound exactly when nothing stands in their way, and no
bytes can be swapped. -/
theorem contexts_agree (platform : KnowledgePlatform) :
    (∀ input files reread sources, BindsAlike platform input files reread sources ↔
      ∀ context, bindDurableKnowledgeContext platform input files reread sources = .ok context →
        PlainContext input reread context.receipt) ∧ SwapSafe platform := by
  refine ⟨fun input files reread sources => forall₂_congr fun context given => ?_,
    swapSafe platform⟩
  have bound := bind_eq_ok_bound given
  rw [← validate_bound_iff bound]
  refine ⟨fun unchanged => unchanged.1, fun valid => ⟨valid, fun numbers again reread => ?_⟩⟩
  rw [read_write, normal_context numbers bound, Option.some.injEq] at reread
  rwa [← reread]

/-! ## A byte order mark -/

/-- The body of the policy starts with a byte order mark. -/
def markedFiles : KnowledgeFiles where
  root _ := true
  body _ _ := .ok (byteOrderMark ++ [0x61])
  source _ _ := .ok []

def policyEntry : SelectedKnowledge where
  knowledgeId := "policy"
  layer := .agentPack
  bodyRef := "agent/knowledge/policy.md"
  sha256 := "sha256:0000000000000000000000000000000000000000000000000000000000000000"
  selectionReason := "active_for:domain/review"

theorem marked_bound : bindDurableKnowledgeContext examplePlatform policyInput markedFiles markedFiles
    (policySources none) =
      .ok ⟨policyReceipt [policyEntry], [⟨policyEntry, unitsOf "a", 4⟩]⟩ := by
  have recalled : recallDurableKnowledge examplePlatform policyInput markedFiles
      (policySources none) = .ok (policyReceipt [policyEntry]) := by
    decide +kernel
  have body : bindBody examplePlatform markedFiles policyEntry =
      .ok ⟨policyEntry, unitsOf "a", 4⟩ := by
    have decoded : decodeUtf8 (byteOrderMark ++ [0x61]) = some (unitsOf "a") := by
      decide +kernel
    refine bind_eq_ok.2 ⟨(), rfl, bind_eq_ok.2 ⟨byteOrderMark ++ [0x61], rfl,
      bind_eq_ok.2 ⟨(), ensure_true rfl _, bind_eq_ok.2 ⟨(), ensure_true (by decide) _, ?_⟩⟩⟩⟩
    rw [decoded]
    rfl
  refine bind_eq_ok.2 ⟨_, recalled, bind_eq_ok.2 ⟨_, mapEach_eq_ok.2 (.cons body .nil),
    bind_eq_ok.2 ⟨(), ensure_true (by decide) _, rfl⟩⟩⟩

/-- A context that was bound is refused. -/
theorem marked_refused : ¬ ∀ (platform : KnowledgePlatform) (input : RecallInput)
    (files reread : KnowledgeFiles) (sources : KnowledgeSources),
    BindsAlike platform input files reread sources := by
  intro alike
  have unchanged := alike examplePlatform policyInput markedFiles markedFiles (policySources none) _
    marked_bound
  have plain := (validate_bound_iff (bind_eq_ok_bound marked_bound)).1 unchanged.1
  exact plain.unmarked policyEntry (List.mem_singleton_self _) _ rfl (List.prefix_append _ _)

end OnePersonLab.Knowledge
