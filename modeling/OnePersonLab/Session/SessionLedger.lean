import Mathlib.Data.Set.Function
import OnePersonLab.Lib.Reducer
import OnePersonLab.Session.ActivityObservation

/-!
# The ledger of execution sessions

A validator decides on the binding that is read back, the upsert has a guard of its own and
rewrites some columns only, and the event table has its own keys. They agree because every
row is the image of a binding that reads back as it was, and because each applied
observation follows the one before it.
-/

namespace OnePersonLab.Session

open Contract Lib
open Evolution (isSafeInteger maxSafeInteger)

variable {platform : SessionPlatform}

/-! ## Fields that read back as they are -/

structure IsNormalText (text : String) : Prop where
  trimmed : trim text = text
  inhabited : text ≠ ""
  short : (unitsOf text).length ≤ 2048
  printable : text.toList.any isControl = false

section

variable {value : Option Json} {text : String}

theorem normal_of_requiredString {field : String} (read : requiredString value field = .ok text) :
    IsNormalText text := by
  unfold requiredString at read
  split at read
  · simp only [ok_of_bind, reject_eq_ok, ok_of_pure, not_or, Bool.not_eq_true, not_lt] at read
    obtain ⟨-, inhabited, -, ⟨short, printable⟩, rfl⟩ := read
    exact ⟨trim_trim _, inhabited, short, printable⟩
  · cases read

theorem requiredString_of_normal (normal : IsNormalText text) (field : String) :
    requiredString (some (.string text)) field = .ok text := by
  have fits : ¬ (2048 < (unitsOf text).length ∨ text.toList.any isControl = true) := by
    rw [normal.printable]
    exact not_or.2 ⟨not_lt.2 normal.short, Bool.false_ne_true⟩
  simp only [requiredString, normal.trimmed]
  rw [reject_false normal.inhabited, reject_false fits]
  rfl

theorem normal_of_optionalString {read : Option String} (found : optionalString value = .ok read) :
    ∀ text ∈ read, IsNormalText text := by
  unfold optionalString at found
  split at found
  · cases found
    simp
  · cases found
    simp
  · cases required : requiredString value "optional_identity_field" with
    | error failure =>
      rw [required] at found
      cases found
    | ok text =>
      rw [required] at found
      cases found
      intro other here
      cases here
      exact normal_of_requiredString required

theorem optionalString_of_normal {text : Option String}
    (normal : ∀ value ∈ text, IsNormalText value) :
    optionalString (text.map .string) = .ok text := by
  cases text with
  | none => rfl
  | some value =>
    simp only [Option.map_some, optionalString, requiredString_of_normal (normal value rfl)]
    rfl

theorem coordination_of_activityKind {kind : ActivityKind} (read : activityKind value = .ok kind) :
    kind = .coordination := by
  unfold activityKind at read
  split at read
  · cases read
    rfl
  · cases read
    rfl
  · cases read
    rfl
  · cases read
    rfl
  · cases read

theorem activityState_text (state : ActivityState) :
    activityState (some (.string state.text)) = .ok state := by
  cases state <;> rfl

theorem normal_of_normalizedIdentity {payload : IdentityPayload} {identity : SessionIdentity}
    (read : normalizedIdentity payload = .ok identity) (field : IdentityField) :
    IsNormalText (identity.get field) := by
  simp only [normalizedIdentity, ok_of_bind, ok_of_pure] at read
  obtain ⟨_, agent, _, project, _, projectScope, _, item, _, itemScope, _, workspace, _,
    generation, rfl⟩ := read
  cases field with
  | agentId => exact normal_of_requiredString agent
  | projectId => exact normal_of_requiredString project
  | projectScopeId => exact normal_of_requiredString projectScope
  | workItemId => exact normal_of_requiredString item
  | workItemScopeId => exact normal_of_requiredString itemScope
  | workspaceBindingId => exact normal_of_requiredString workspace
  | observedGeneration => exact normal_of_requiredString generation

theorem isTrimmed_of_mem_hex (hex : text.toList.all isLowerHex = true) {c : Char}
    (listed : c ∈ text.toList) : isTrimmed c = false :=
  isTrimmed_of_isLowerHex (List.all_eq_true.1 hex c listed)

theorem isControl_of_isLowerHex {c : Char} (hex : isLowerHex c = true) : isControl c = false := by
  simp only [isLowerHex, Bool.or_eq_true, Bool.and_eq_true, decide_eq_true_eq, Char.le_def,
    UInt32.le_iff_toNat_le] at hex
  simp only [isControl, Bool.or_eq_false_iff, decide_eq_false_iff_not, beq_eq_false_iff_ne]
  have value : c.toNat = c.val.toNat := rfl
  have zero : '0'.val.toNat = 48 := rfl
  have nine : '9'.val.toNat = 57 := rfl
  have a : 'a'.val.toNat = 97 := rfl
  have f : 'f'.val.toNat = 102 := rfl
  omega

theorem length_unitsOfChar_le (c : Char) : (unitsOfChar c).length ≤ 2 := by
  unfold unitsOfChar
  split
  · simp
  · simp

theorem length_unitsOf_le (text : String) : (unitsOf text).length ≤ 2 * text.toList.length := by
  unfold unitsOf
  induction text.toList with
  | nil => simp
  | cons c rest ih =>
    have := length_unitsOfChar_le c
    simp only [List.flatMap_cons, List.length_append, List.length_cons]
    omega

theorem length_bindingId (platform : SessionPlatform) (ref : String) :
    (bindingId platform ref).toList.length = 98 := by
  unfold bindingId
  rw [String.toList_append, List.length_append, (platform.hex ref).1]
  rfl

theorem printable_bindingId (platform : SessionPlatform) (ref : String) :
    (bindingId platform ref).toList.any isControl = false := by
  unfold bindingId
  rw [String.toList_append, List.any_append, Bool.or_eq_false_iff]
  refine ⟨by decide, List.any_eq_false.2 fun c listed => ?_⟩
  rw [isControl_of_isLowerHex (List.all_eq_true.1 (platform.hex ref).2 c listed)]
  exact Bool.false_ne_true

theorem trim_bindingId (platform : SessionPlatform) (ref : String) :
    trim (bindingId platform ref) = bindingId platform ref := by
  obtain ⟨length, hex⟩ := platform.hex ref
  have filled : platform.sha256 ref ≠ "" := by
    intro empty
    rw [empty] at length
    cases length
  have trimmed : trim (platform.sha256 ref) = platform.sha256 ref := by
    apply String.toList_injective
    rw [toList_trim]
    apply trimChars_of_bounds
    · intro c found
      exact isTrimmed_of_mem_hex hex (List.mem_of_mem_head? found)
    · intro c found
      exact isTrimmed_of_mem_hex hex (List.mem_of_getLast? found)
  have opens : "opl://work-item-execution-session/".toList =
      'o' :: "pl://work-item-execution-session/".toList := by decide
  exact trim_append opens (by decide) trimmed filled

/-- The id of a binding is a text that reads back as it is. -/
theorem normal_bindingId (platform : SessionPlatform) (ref : String) :
    IsNormalText (bindingId platform ref) where
  trimmed := trim_bindingId platform ref
  inhabited := by
    intro empty
    have length := length_bindingId platform ref
    rw [empty] at length
    cases length
  short := by
    have bound := length_unitsOf_le (bindingId platform ref)
    rw [length_bindingId] at bound
    exact bound.trans (by decide)
  printable := printable_bindingId platform ref

end

/-! ## Bindings that read back as they are -/

/-- What every binding that a call asks for looks like. -/
structure NormalBinding (platform : SessionPlatform) (binding : SessionBinding) : Prop where
  bindingId : binding.bindingId = Session.bindingId platform binding.executionSessionRef
  sessionRef : IsNormalText binding.executionSessionRef
  identity : ∀ field, IsNormalText (binding.identity.get field)
  kind : binding.activityKind = .coordination
  sourceRef : ∀ text ∈ binding.sourceRef, IsNormalText text
  ttl : binding.ttlMs = activeSessionTtlMs
  expires : binding.expiresAt =
    if binding.activityState.terminal then binding.observedAt
    else binding.observedAt + activeSessionTtlMs
  sequence : binding.sequence ≤ maxSafeInteger

theorem sequence_le_of_sequenceOf {value : Option Json} {sequence : Nat}
    (read : sequenceOf value = some sequence) : sequence ≤ maxSafeInteger := by
  unfold sequenceOf at read
  split at read
  · split at read
    case isTrue safe =>
      cases read
      simp only [isSafeInteger, Bool.and_eq_true, decide_eq_true_eq] at safe
      have := safe.1.2
      omega
    case isFalse => cases read
  · cases read

theorem toISOString_eq_ok {ms time : Int} (written : toISOString ms = .ok time) : time = ms := by
  simp only [toISOString, ok_of_bind, reject_eq_ok, ok_of_pure] at written
  obtain ⟨_, -, rfl⟩ := written
  rfl

theorem admittedSequence_eq_ok {value : Option Json} {sequence : Nat}
    (admitted : admittedSequence value = .ok sequence) : sequenceOf value = some sequence := by
  unfold admittedSequence at admitted
  split at admitted
  · rename_i found
    cases admitted
    exact found
  · cases admitted

/-- What a call that passes its own checks takes from its input. -/
structure Asks (platform : SessionPlatform) (input : ObserveInput) (binding : SessionBinding) :
    Prop where
  sessionRef : requiredString input.executionSessionRef "execution_session_ref" =
    .ok binding.executionSessionRef
  sequence : sequenceOf input.sequence = some binding.sequence
  normal : NormalBinding platform binding

section

variable {binding : SessionBinding}

theorem asks_of_nextBinding {call : ObserveCall} (next : nextBinding platform call = .ok binding) :
    Asks platform call.input binding := by
  simp only [nextBinding, ok_of_bind, ok_of_pure, reject_eq_ok] at next
  obtain ⟨identity, identified, state, -, kind, kinds, -, -, ref, referenced, -, -, observedAt, -,
    observedMs, -, sequence, sequenced, expiresAt, expires, -, -, recordedAt, -, written,
    observed, sourceRef, sourced, rfl⟩ := next
  obtain rfl := toISOString_eq_ok observed
  obtain rfl := toISOString_eq_ok expires
  have numbered := admittedSequence_eq_ok sequenced
  exact
    { sessionRef := referenced
      sequence := numbered
      normal :=
        { bindingId := rfl
          sessionRef := normal_of_requiredString referenced
          identity := normal_of_normalizedIdentity identified
          kind := coordination_of_activityKind kinds
          sourceRef := normal_of_optionalString sourced
          ttl := rfl
          expires := rfl
          sequence := sequence_le_of_sequenceOf numbered } }

theorem normalizedIdentity_identityPayload
    (normal : ∀ field, IsNormalText (binding.identity.get field)) :
    normalizedIdentity (bindingRow binding).identityPayload = .ok binding.identity := by
  have agent := requiredString_of_normal (normal .agentId) "agent_id"
  have project := requiredString_of_normal (normal .projectId) "project_id"
  have projectScope := requiredString_of_normal (normal .projectScopeId) "project_scope_id"
  have item := requiredString_of_normal (normal .workItemId) "work_item_id"
  have itemScope := requiredString_of_normal (normal .workItemScopeId) "work_item_scope_id"
  have workspace := requiredString_of_normal (normal .workspaceBindingId) "workspace_binding_id"
  have generation := requiredString_of_normal (normal .observedGeneration) "observed_generation"
  simp only [SessionIdentity.get] at agent project projectScope item itemScope workspace generation
  simp only [normalizedIdentity, BindingRow.identityPayload, bindingRow, ok_of_bind, ok_of_pure]
  exact ⟨_, agent, _, project, _, projectScope, _, item, _, itemScope, _, workspace, _,
    generation, rfl⟩

theorem regular_bindingRow (normal : NormalBinding platform binding) :
    (bindingRow binding).irregular binding.activityState = false := by
  have ttl := normal.ttl
  have expires := normal.expires
  have sequence := normal.sequence
  simp only [BindingRow.irregular, bindingRow, ttl, expires, activeSessionMaxTtlMs,
    activeSessionTtlMs]
  cases terminal : binding.activityState.terminal with
  | false =>
    have lasts : binding.observedAt + 300000 - binding.observedAt = 300000 := by omega
    simp [sequence, lasts]
  | true => simp [sequence]

/-- A row is read back as the binding that it was written from. -/
theorem normalizeBindingRow_bindingRow (normal : NormalBinding platform binding) :
    normalizeBindingRow (bindingRow binding) = some binding := by
  have identity := normalizedIdentity_identityPayload normal.identity
  have kind : activityKind (some (.string (bindingRow binding).activityKind.text)) =
      .ok binding.activityKind := by
    simp only [bindingRow, normal.kind]
    rfl
  have id : requiredString (some (.string (bindingRow binding).bindingId)) "binding_id" =
      .ok binding.bindingId := by
    refine requiredString_of_normal ?_ _
    simp only [bindingRow, normal.bindingId]
    exact normal_bindingId platform _
  have ref : requiredString (some (.string (bindingRow binding).executionSessionRef))
      "execution_session_ref" = .ok binding.executionSessionRef :=
    requiredString_of_normal normal.sessionRef _
  have source : optionalString ((bindingRow binding).sourceRef.map .string) =
      .ok binding.sourceRef := optionalString_of_normal normal.sourceRef
  have read : readRow (bindingRow binding) = .ok (some binding) := by
    unfold readRow
    rw [ok_of_bind]
    refine ⟨_, identity, ?_⟩
    rw [ok_of_bind]
    refine ⟨_, kind, ?_⟩
    rw [ok_of_bind]
    refine ⟨_, activityState_text binding.activityState, ?_⟩
    rw [if_neg (by rw [regular_bindingRow normal]; exact Bool.false_ne_true), ok_of_bind]
    refine ⟨_, id, ?_⟩
    rw [ok_of_bind]
    refine ⟨_, ref, ?_⟩
    rw [ok_of_bind]
    exact ⟨_, source, rfl⟩
  rw [normalizeBindingRow, read]

end

/-! ## What the binding before allows -/

/-- One applied observation of a session after another. -/
structure Follows (previous next : SessionBinding) : Prop where
  sequence : previous.sequence < next.sequence
  observedAt : previous.observedAt ≤ next.observedAt
  identity : ∀ field, field ≠ .observedGeneration ∨ next.activityState.terminal = false →
    previous.identity.get field = next.identity.get field
  unclosed : previous.activityState.terminal = false

theorem Follows.trans {first second third : SessionBinding} (early : Follows first second)
    (late : Follows second third) : Follows first third where
  sequence := early.sequence.trans late.sequence
  observedAt := early.observedAt.trans late.observedAt
  identity := by
    intro field kept
    exact (early.identity field (.inr late.unclosed)).trans (late.identity field kept)
  unclosed := early.unclosed

theorem mem_identityFields (field : IdentityField) : field ∈ identityFields := by
  cases field <;> decide

theorem blockingMismatches_eq_nil {closes : Bool} {expected actual : SessionIdentity} :
    blockingMismatches closes expected actual = [] ↔
      ∀ field, field ≠ .observedGeneration ∨ closes = false →
        expected.get field = actual.get field := by
  cases closes with
  | false =>
    simp only [blockingMismatches, identityMismatches, Bool.false_eq_true, if_false,
      List.filter_eq_nil_iff, decide_eq_true_eq, not_not, or_true, forall_const]
    exact ⟨fun same field => same field (mem_identityFields field), fun same field _ => same field⟩
  | true =>
    simp only [blockingMismatches, identityMismatches, if_true, List.filter_eq_nil_iff,
      List.mem_filter, decide_eq_true_eq, not_not, Bool.true_eq_false, or_false]
    constructor
    · intro same field kept
      by_contra differs
      exact kept (same field ⟨mem_identityFields field, differs⟩)
    · rintro same field ⟨-, differs⟩
      by_contra kept
      exact differs (same field kept)

theorem follows_of_validatePrevious {previous next : SessionBinding}
    (admitted : validatePrevious next (some previous) = .ok none) : Follows previous next := by
  simp only [validatePrevious, ok_of_bind, reject_eq_ok, not_or, not_not, not_lt] at admitted
  obtain ⟨-, ⟨identity, -⟩, -, ⟨sequence, observedAt⟩, admitted⟩ := admitted
  split at admitted
  · simp only [ok_of_bind, ok_of_pure, reduceCtorEq, and_false, exists_false] at admitted
  · rename_i later
    simp only [ok_of_bind, reject_eq_ok, Bool.not_eq_true] at admitted
    obtain ⟨-, unclosed, -⟩ := admitted
    exact
      { sequence := lt_of_le_of_ne sequence (Ne.symm later)
        observedAt := observedAt
        identity := blockingMismatches_eq_nil.1 identity
        unclosed := unclosed }

theorem validatePrevious_eq_some {next : SessionBinding} {previous : Option SessionBinding}
    {receipt : Receipt} (admitted : validatePrevious next previous = .ok (some receipt)) :
    ∃ earlier, previous = some earlier ∧ receipt = buildReceipt earlier .unchanged ∧
      comparable earlier = comparable next := by
  cases previous with
  | none =>
    simp only [validatePrevious, ok_of_bind, ok_of_pure, reduceCtorEq, and_false,
      exists_false] at admitted
  | some earlier =>
    simp only [validatePrevious, ok_of_bind] at admitted
    obtain ⟨-, -, -, -, admitted⟩ := admitted
    split at admitted
    · simp only [ok_of_bind, reject_eq_ok, not_not, ok_of_pure, Option.some.injEq] at admitted
      obtain ⟨-, same, rfl⟩ := admitted
      exact ⟨earlier, rfl, rfl, same⟩
    · simp only [ok_of_bind, ok_of_pure, reduceCtorEq, and_false, exists_false] at admitted

/-! ## The ledger and the observations that were applied -/

/-- The last applied observation of a session. -/
def latest (applied : List SessionBinding) (ref : String) : Option SessionBinding :=
  applied.reverse.find? (·.executionSessionRef = ref)

def eventRow (binding : SessionBinding) : EventRow := ⟨receiptRef binding, bindingRow binding⟩

def SameSessionFollows (earlier later : SessionBinding) : Prop :=
  earlier.executionSessionRef = later.executionSessionRef → Follows earlier later

/-- The two tables hold what was applied. -/
structure Holds (platform : SessionPlatform) (db : SessionLedger)
    (applied : List SessionBinding) : Prop where
  normal : ∀ binding ∈ applied, NormalBinding platform binding
  ordered : applied.Pairwise SameSessionFollows
  events : db.events = applied.map eventRow
  rows : ∀ ref, db.row ref = (latest applied ref).map bindingRow
  owned : ∀ row ∈ db.bindings, ∃ binding ∈ applied,
    row.executionSessionRef = binding.executionSessionRef ∧ row.bindingId = binding.bindingId

theorem holds_empty : Holds platform .empty [] where
  normal := by simp
  ordered := .nil
  events := rfl
  rows _ := rfl
  owned := by simp [SessionLedger.empty]

theorem latest_eq_some {applied : List SessionBinding} {ref : String} {binding : SessionBinding}
    (found : latest applied ref = some binding) :
    binding ∈ applied ∧ binding.executionSessionRef = ref :=
  ⟨List.mem_reverse.1 (List.mem_of_find?_eq_some found), by simpa using List.find?_some found⟩

theorem latest_concat (applied : List SessionBinding) (next : SessionBinding) (ref : String) :
    latest (applied ++ [next]) ref =
      if next.executionSessionRef = ref then some next else latest applied ref := by
  simp only [latest, List.reverse_append, List.reverse_singleton, List.singleton_append,
    List.find?_cons]
  split <;> simp_all

/-- Every other applied observation of a session comes before its last one. -/
theorem follows_latest {applied : List SessionBinding} {ref : String}
    {last binding : SessionBinding} (ordered : applied.Pairwise SameSessionFollows)
    (found : latest applied ref = some last) (listed : binding ∈ applied)
    (same : binding.executionSessionRef = ref) : binding = last ∨ Follows binding last := by
  obtain ⟨matching, later, earlier, split, others⟩ := List.find?_eq_some_iff_append.1 found
  have whole : applied = earlier.reverse ++ last :: later.reverse := by
    have := congrArg List.reverse split
    simpa using this
  rw [whole] at listed ordered
  rcases List.mem_append.1 listed with before | after
  · right
    refine (List.pairwise_append.1 ordered).2.2 binding before last (List.mem_cons_self ..) ?_
    rw [same]
    exact (of_decide_eq_true matching).symm
  · rcases List.mem_cons.1 after with rfl | after
    · exact .inl rfl
    · have other := others binding (List.mem_reverse.1 after)
      rw [same] at other
      simp at other

section Reading

variable {db : SessionLedger} {applied : List SessionBinding}

theorem Holds.readBinding (holds : Holds platform db applied) (ref : String) :
    Session.readBinding db ref = latest applied ref := by
  rw [Session.readBinding, holds.rows]
  cases found : latest applied ref with
  | none => rfl
  | some binding =>
    exact normalizeBindingRow_bindingRow (holds.normal binding (latest_eq_some found).1)

theorem Holds.readCoordinationBinding (holds : Holds platform db applied) (ref : String) :
    Session.readCoordinationBinding db ref = Session.readBinding db ref := by
  rw [Session.readCoordinationBinding, Session.readBinding, holds.rows]
  cases found : latest applied ref with
  | none => rfl
  | some binding =>
    have kind := (holds.normal binding (latest_eq_some found).1).kind
    have admitted : (some (bindingRow binding)).filter (·.activityKind = .coordination) =
        some (bindingRow binding) := by simp [Option.filter, bindingRow, kind]
    rw [Option.map_some, admitted]

end Reading

/-! ## An applied observation -/

theorem sha256_of_bindingId {first second : String}
    (same : bindingId platform first = bindingId platform second) :
    platform.sha256 first = platform.sha256 second := by
  unfold bindingId at same
  apply String.toList_injective
  have texts := congrArg String.toList same
  rw [String.toList_append, String.toList_append] at texts
  exact List.append_cancel_left texts

theorem hash_notMem_bindingId (platform : SessionPlatform) (ref : String) :
    '#' ∉ (bindingId platform ref).toList := by
  unfold bindingId
  rw [String.toList_append, List.mem_append, not_or]
  refine ⟨by decide, fun listed => ?_⟩
  exact absurd (List.all_eq_true.1 (platform.hex ref).2 _ listed) (by decide)

theorem receiptRef_inj {first second : SessionBinding} (normal : NormalBinding platform first)
    (normal' : NormalBinding platform second) (same : receiptRef first = receiptRef second) :
    first.bindingId = second.bindingId ∧ first.sequence = second.sequence := by
  have shape (binding : SessionBinding) : (receiptRef binding).toList =
      binding.bindingId.toList ++ '#' :: ("sequence=".toList ++ (toString binding.sequence).toList) := by
    unfold receiptRef
    rw [String.toList_append, String.toList_append, List.append_assoc]
    rfl
  have texts := congrArg String.toList same
  rw [shape, shape] at texts
  obtain ⟨ids, sequences⟩ := append_cons_inj_of_first
    (by rw [normal.bindingId]; exact hash_notMem_bindingId platform _)
    (by rw [normal'.bindingId]; exact hash_notMem_bindingId platform _) texts
  refine ⟨String.toList_injective ids, toString_inj (String.toList_injective ?_)⟩
  exact List.append_cancel_left sequences

/-- The upsert rewrites a row into that of the new binding. -/
theorem update_bindingRow {previous next : SessionBinding}
    (normal : NormalBinding platform previous) (asked : NormalBinding platform next)
    (same : previous.executionSessionRef = next.executionSessionRef)
    (follows : Follows previous next) :
    (bindingRow previous).update next = bindingRow next := by
  have id : previous.bindingId = next.bindingId := by
    rw [normal.bindingId, asked.bindingId, same]
  have kind : previous.activityKind = next.activityKind := normal.kind.trans asked.kind.symm
  have kept (field : IdentityField) (named : field ≠ .observedGeneration) :=
    follows.identity field (.inl named)
  have agent := kept .agentId (by decide)
  have project := kept .projectId (by decide)
  have projectScope := kept .projectScopeId (by decide)
  have item := kept .workItemId (by decide)
  have itemScope := kept .workItemScopeId (by decide)
  have workspace := kept .workspaceBindingId (by decide)
  have generation : (if next.activityState.terminal then next.identity.observedGeneration
      else previous.identity.observedGeneration) = next.identity.observedGeneration := by
    cases terminal : next.activityState.terminal with
    | true => rfl
    | false => exact follows.identity .observedGeneration (.inr terminal)
  simp only [SessionIdentity.get] at agent project projectScope item itemScope workspace
  simp only [BindingRow.update, bindingRow, same, id, kind, agent, project, projectScope, item,
    itemScope, workspace, generation]

section Applying

variable {db : SessionLedger} {applied : List SessionBinding} {next : SessionBinding}

/-- The table of bindings after an applied observation. -/
def bindingsAfter (db : SessionLedger) (next : SessionBinding) : List BindingRow :=
  match db.row next.executionSessionRef with
  | none => db.bindings ++ [bindingRow next]
  | some _ => db.bindings.map fun row =>
      if row.executionSessionRef = next.executionSessionRef then row.update next else row

def ledgerAfter (db : SessionLedger) (next : SessionBinding) : SessionLedger :=
  ⟨bindingsAfter db next, db.events ++ [eventRow next]⟩

theorem row_ledgerAfter_of_none (absent : db.row next.executionSessionRef = none) (ref : String) :
    (ledgerAfter db next).row ref = (db.row ref).or
      (if next.executionSessionRef = ref then some (bindingRow next) else none) := by
  have bindings : (ledgerAfter db next).bindings = db.bindings ++ [bindingRow next] := by
    rw [ledgerAfter, bindingsAfter, absent]
  have owner : (bindingRow next).executionSessionRef = next.executionSessionRef := rfl
  rw [SessionLedger.row, bindings, List.find?_append, List.find?_singleton, owner]
  simp only [decide_eq_true_eq]
  rfl

theorem row_ledgerAfter_of_some {stored : BindingRow}
    (present : db.row next.executionSessionRef = some stored) (ref : String) :
    (ledgerAfter db next).row ref = (db.row ref).map fun row =>
      if row.executionSessionRef = next.executionSessionRef then row.update next else row := by
  have bindings : (ledgerAfter db next).bindings = db.bindings.map fun row =>
      if row.executionSessionRef = next.executionSessionRef then row.update next else row := by
    rw [ledgerAfter, bindingsAfter, present]
  rw [SessionLedger.row, bindings, List.find?_map, SessionLedger.row]
  congr 2
  funext row
  simp only [Function.comp]
  split <;> rfl

theorem Holds.row_ledgerAfter (holds : Holds platform db applied)
    (asked : NormalBinding platform next)
    (follows : ∀ previous ∈ latest applied next.executionSessionRef, Follows previous next)
    (ref : String) : (ledgerAfter db next).row ref =
      (latest (applied ++ [next]) ref).map bindingRow := by
  have before := holds.rows
  rw [latest_concat]
  cases found : latest applied next.executionSessionRef with
  | none =>
    have absent : db.row next.executionSessionRef = none := by rw [before, found]; rfl
    rw [row_ledgerAfter_of_none absent]
    by_cases mine : next.executionSessionRef = ref
    · rw [if_pos mine, if_pos mine, ← mine, absent]
      rfl
    · rw [if_neg mine, if_neg mine, Option.or_none, before]
  | some previous =>
    obtain ⟨member, owner⟩ := latest_eq_some found
    have stored : db.row next.executionSessionRef = some (bindingRow previous) := by
      rw [before, found]
      rfl
    rw [row_ledgerAfter_of_some stored]
    by_cases mine : next.executionSessionRef = ref
    · have same : (bindingRow previous).executionSessionRef = next.executionSessionRef := owner
      rw [if_pos mine, ← mine, stored, Option.map_some, if_pos same, Option.map_some,
        update_bindingRow (holds.normal previous member) asked owner (follows previous found)]
    · rw [if_neg mine, before]
      cases other : latest applied ref with
      | none => rfl
      | some binding =>
        have theirs := (latest_eq_some other).2
        have apart : (bindingRow binding).executionSessionRef ≠ next.executionSessionRef :=
          fun same => mine (same.symm.trans theirs)
        rw [Option.map_some, Option.map_some, if_neg apart]

/-- Once the validator has admitted an observation, the tables take it. -/
theorem Holds.extend (holds : Holds platform db applied)
    (asked : NormalBinding platform next)
    (follows : ∀ previous ∈ latest applied next.executionSessionRef, Follows previous next) :
    Holds platform (Session.ledgerAfter db next) (applied ++ [next]) where
  normal := by
    intro binding listed
    rcases List.mem_append.1 listed with old | new
    · exact holds.normal binding old
    · rw [List.mem_singleton.1 new]
      exact asked
  ordered := by
    refine List.pairwise_append.2 ⟨holds.ordered, List.pairwise_singleton _ _, ?_⟩
    intro earlier old later new same
    rw [List.mem_singleton.1 new] at same ⊢
    cases found : latest applied next.executionSessionRef with
    | none =>
      have missing := List.find?_eq_none.1 found earlier (List.mem_reverse.2 old)
      exact absurd (decide_eq_true same) missing
    | some last =>
      have new := follows last found
      rcases follows_latest holds.ordered found old same with rfl | before
      · exact new
      · exact before.trans new
  events := by
    rw [List.map_append, ← holds.events]
    rfl
  rows := holds.row_ledgerAfter asked follows
  owned := by
    intro row listed
    have old (row : BindingRow) (here : row ∈ db.bindings) :
        ∃ binding ∈ applied ++ [next], row.executionSessionRef = binding.executionSessionRef ∧
          row.bindingId = binding.bindingId := by
      obtain ⟨binding, member, owner⟩ := holds.owned row here
      exact ⟨binding, List.mem_append_left _ member, owner⟩
    simp only [Session.ledgerAfter, bindingsAfter] at listed
    split at listed
    · rcases List.mem_append.1 listed with here | new
      · exact old row here
      · rw [List.mem_singleton.1 new]
        exact ⟨next, by simp, rfl, rfl⟩
    · obtain ⟨before, here, rfl⟩ := List.mem_map.1 listed
      split
      · exact old before here
      · exact old before here

theorem follows_of_admitted (admitted :
    validatePrevious next (latest applied next.executionSessionRef) = .ok none) :
    ∀ previous ∈ latest applied next.executionSessionRef, Follows previous next := by
  intro previous found
  rw [Option.mem_def.1 found] at admitted
  exact follows_of_validatePrevious admitted

/-- No other session's row has the id of the new binding. -/
theorem Holds.unclaimed (holds : Holds platform db applied) (asked : NormalBinding platform next)
    (distinct : ∀ binding ∈ applied,
      platform.sha256 binding.executionSessionRef = platform.sha256 next.executionSessionRef →
        binding.executionSessionRef = next.executionSessionRef)
    (absent : db.row next.executionSessionRef = none) :
    ¬ db.bindings.any (·.bindingId = next.bindingId) = true := by
  intro claimed
  obtain ⟨row, listed, same⟩ := List.any_eq_true.1 claimed
  obtain ⟨binding, member, owner, id⟩ := holds.owned row listed
  have ids : bindingId platform binding.executionSessionRef =
      bindingId platform next.executionSessionRef := by
    rw [← (holds.normal binding member).bindingId, ← asked.bindingId, ← id]
    exact of_decide_eq_true same
  have mine := owner.trans (distinct binding member (sha256_of_bindingId ids))
  exact List.find?_eq_none.1 absent row listed (decide_eq_true mine)

/-- No event has the key of an observation that the validator has admitted. -/
theorem Holds.unrecorded (holds : Holds platform db applied) (asked : NormalBinding platform next)
    (distinct : ∀ binding ∈ applied,
      platform.sha256 binding.executionSessionRef = platform.sha256 next.executionSessionRef →
        binding.executionSessionRef = next.executionSessionRef)
    (follows : ∀ previous ∈ latest applied next.executionSessionRef, Follows previous next) :
    ¬ db.events.any (fun event => event.receiptRef = receiptRef next ||
      (event.row.executionSessionRef = next.executionSessionRef &&
        event.row.sequence = next.sequence)) = true := by
  intro recorded
  rw [holds.events] at recorded
  obtain ⟨event, listed, same⟩ := List.any_eq_true.1 recorded
  obtain ⟨binding, member, rfl⟩ := List.mem_map.1 listed
  have normal := holds.normal binding member
  -- either key names the session and the sequence of the new observation
  obtain ⟨owner, sequence⟩ : binding.executionSessionRef = next.executionSessionRef ∧
      binding.sequence = next.sequence := by
    simp only [eventRow, bindingRow, Bool.or_eq_true, Bool.and_eq_true] at same
    rcases same with receipt | key
    · obtain ⟨id, sequence⟩ := receiptRef_inj normal asked (of_decide_eq_true receipt)
      rw [normal.bindingId, asked.bindingId] at id
      exact ⟨distinct binding member (sha256_of_bindingId id), sequence⟩
    · exact ⟨of_decide_eq_true key.1, of_decide_eq_true key.2⟩
  cases found : latest applied next.executionSessionRef with
  | none =>
    have missing := List.find?_eq_none.1 found binding (List.mem_reverse.2 member)
    exact missing (decide_eq_true owner)
  | some last =>
    have newer := (follows last found).sequence
    rcases follows_latest holds.ordered found member owner with rfl | before
    · omega
    · have := before.sequence
      omega

/-- What is written for an admitted observation, and that nothing else can be. -/
theorem Holds.persistBinding (holds : Holds platform db applied)
    (follows : ∀ previous ∈ latest applied next.executionSessionRef, Follows previous next)
    {events : List EventRow} {db' : SessionLedger}
    (written : Session.persistBinding { db with events } next = .ok db') :
    db' = ⟨bindingsAfter db next, events⟩ := by
  have same : SessionLedger.row { db with events } next.executionSessionRef =
      db.row next.executionSessionRef := rfl
  simp only [Session.persistBinding, ok_of_bind] at written
  obtain ⟨-, -, written⟩ := written
  rw [same] at written
  unfold bindingsAfter
  cases present : db.row next.executionSessionRef with
  | none =>
    rw [present] at written
    simp only [ok_of_bind, ok_of_pure] at written
    obtain ⟨-, -, rfl⟩ := written
    rfl
  | some stored =>
    rw [present] at written
    obtain ⟨previous, found, rfl⟩ := Option.map_eq_some_iff.1 ((holds.rows _).symm.trans present)
    have newer : (bindingRow previous).sequence < next.sequence := (follows previous found).sequence
    simp only [if_pos newer, ok_of_pure] at written
    exact written.symm

/-- A call either finds its observation in the ledger or has it written. -/
theorem Holds.applyObservation (holds : Holds platform db applied) {receipt : Receipt}
    {db' : SessionLedger} (done : Session.applyObservation db next = .ok (receipt, db')) :
    (∃ previous, latest applied next.executionSessionRef = some previous ∧
      comparable previous = comparable next ∧
      receipt = buildReceipt previous .unchanged ∧ db' = db) ∨
    ((∀ previous ∈ latest applied next.executionSessionRef, Follows previous next) ∧
      receipt = buildReceipt next .applied ∧ db' = ledgerAfter db next) := by
  simp only [Session.applyObservation, ok_of_bind, holds.readBinding] at done
  obtain ⟨answer, admitted, done⟩ := done
  cases answer with
  | some unchanged =>
    obtain ⟨previous, found, rfl, same⟩ := validatePrevious_eq_some admitted
    simp only [ok_of_pure, Prod.mk.injEq] at done
    exact .inl ⟨previous, found, same, done.1.symm, done.2.symm⟩
  | none =>
    have follows := follows_of_admitted admitted
    simp only [ok_of_bind, ok_of_pure, Prod.mk.injEq, persistBindingEvent] at done
    obtain ⟨_, ⟨-, -, -, -, rfl⟩, written, persisted, rfl, rfl⟩ := done
    obtain rfl := holds.persistBinding follows persisted
    exact .inr ⟨follows, rfl, rfl⟩

/-- An admitted observation is written, unless the id of its binding is another session's. -/
theorem Holds.applies (holds : Holds platform db applied) (asked : NormalBinding platform next)
    (distinct : ∀ binding ∈ applied,
      platform.sha256 binding.executionSessionRef = platform.sha256 next.executionSessionRef →
        binding.executionSessionRef = next.executionSessionRef)
    (admitted : validatePrevious next (latest applied next.executionSessionRef) = .ok none) :
    Session.applyObservation db next = .ok (buildReceipt next .applied, ledgerAfter db next) := by
  have follows := follows_of_admitted admitted
  have event : persistBindingEvent db next =
      .ok { db with events := db.events ++ [eventRow next] } := by
    unfold persistBindingEvent
    rw [reject_false (not_not.2 asked.kind),
      reject_false (holds.unrecorded asked distinct follows)]
    rfl
  have binding : Session.persistBinding { db with events := db.events ++ [eventRow next] } next =
      .ok (ledgerAfter db next) := by
    have same : SessionLedger.row { db with events := db.events ++ [eventRow next] }
        next.executionSessionRef = db.row next.executionSessionRef := rfl
    unfold Session.persistBinding ledgerAfter bindingsAfter
    rw [reject_false (not_not.2 asked.kind), same]
    cases present : db.row next.executionSessionRef with
    | none =>
      simp only [reject_false (holds.unclaimed asked distinct present)]
      rfl
    | some stored =>
      obtain ⟨previous, found, rfl⟩ :=
        Option.map_eq_some_iff.1 ((holds.rows _).symm.trans present)
      have newer : (bindingRow previous).sequence < next.sequence :=
        (follows previous found).sequence
      simp only [if_pos newer]
      rfl
  rw [Session.applyObservation, holds.readBinding, admitted, ok_of_bind]
  refine ⟨none, rfl, ?_⟩
  simp only [event, ok_of_bind, ok_of_pure]
  exact ⟨_, rfl, _, binding, rfl⟩

end Applying

/-! ## Runs -/

/-- What a call leaves of the ledger. -/
def observes (platform : SessionPlatform) :
    Reducer SessionLedger ObserveCall ObservationFailure :=
  fun db call => Prod.snd <$> observeWorkItemExecutionSessionBinding platform db call

def appliedBinding (platform : SessionPlatform) (accepted : SessionLedger × ObserveCall) :
    Option SessionBinding :=
  match observeWorkItemExecutionSessionBinding platform accepted.1 accepted.2 with
  | .ok (receipt, _) => if receipt.status = .applied then some receipt.binding else none
  | .error _ => none

/-- The bindings of the receipts with status `applied`, oldest first. -/
def appliedObservations (platform : SessionPlatform) (history : History SessionLedger ObserveCall) :
    List SessionBinding :=
  history.accepted.filterMap (appliedBinding platform)

/-- A step of a run: what a call applies is what it asks for. -/
theorem holds_of_observation {db db' : SessionLedger} {applied : List SessionBinding}
    {call : ObserveCall} {receipt : Receipt} (holds : Holds platform db applied)
    (done : observeWorkItemExecutionSessionBinding platform db call = .ok (receipt, db')) :
    Holds platform db' (applied ++ (appliedBinding platform (db, call)).toList) ∧
      ∀ binding ∈ appliedBinding platform (db, call), nextBinding platform call = .ok binding := by
  have took : appliedBinding platform (db, call) =
      if receipt.status = .applied then some receipt.binding else none := by
    rw [appliedBinding, done]
  rw [took]
  simp only [observeWorkItemExecutionSessionBinding, ok_of_bind] at done
  obtain ⟨next, asked, done⟩ := done
  split at done
  · -- a dry run leaves the ledger as it is, and its receipt is not one of `applied`
    simp only [ok_of_bind, ok_of_pure, Prod.mk.injEq, dryRunObservation] at done
    obtain ⟨answer, ⟨earlier, admitted, answered⟩, rfl, rfl⟩ := done
    have status : answer.status ≠ .applied := by
      cases earlier with
      | none =>
        simp only [ok_of_pure] at answered
        rw [← answered]
        exact nofun
      | some unchanged =>
        obtain ⟨_, -, rfl, -⟩ := validatePrevious_eq_some admitted
        simp only [ok_of_pure] at answered
        rw [← answered]
        exact nofun
    rw [if_neg status, Option.toList_none, List.append_nil]
    exact ⟨holds, fun _ listed => absurd listed (Option.not_mem_none _)⟩
  · rcases holds.applyObservation done with ⟨previous, -, -, rfl, rfl⟩ | ⟨follows, rfl, rfl⟩
    · rw [if_neg nofun, Option.toList_none, List.append_nil]
      exact ⟨holds, fun _ listed => absurd listed (Option.not_mem_none _)⟩
    · have status : (buildReceipt next .applied).status = .applied := rfl
      rw [if_pos status]
      refine ⟨holds.extend (asks_of_nextBinding asked).normal follows, ?_⟩
      intro binding same
      cases same
      exact asked

/-- A call names no session outside a set of session refs. -/
def NamesWithin (platform : SessionPlatform) (refs : Set String) (call : ObserveCall) : Prop :=
  ∀ binding, nextBinding platform call = .ok binding → binding.executionSessionRef ∈ refs

/-- The history of a run, whose calls name sessions of a set. -/
structure RunHolds (platform : SessionPlatform) (refs : Set String)
    (history : History SessionLedger ObserveCall) : Prop where
  holds : Holds platform history.state (appliedObservations platform history)
  within : ∀ binding ∈ appliedObservations platform history, binding.executionSessionRef ∈ refs

theorem runHolds_of_calls {refs : Set String} {calls : List ObserveCall}
    (named : ∀ call ∈ calls, NamesWithin platform refs call) :
    RunHolds platform refs ((observes platform).history .empty calls) := by
  have meets : (observes platform).Meets .empty (fun _ call => NamesWithin platform refs call)
      calls := by
    intro before call leads
    exact named call (leads.subset (by simp))
  refine (observes platform).history_induction .empty ⟨holds_empty, by simp [appliedObservations]⟩
    ?_ meets
  intro history call next mine reduced earlier
  cases done : observeWorkItemExecutionSessionBinding platform history.state call with
  | error failure =>
    rw [observes, done] at reduced
    cases reduced
  | ok result =>
    rw [observes, done] at reduced
    cases reduced
    have grown : appliedObservations platform
        ⟨result.2, history.accepted ++ [(history.state, call)]⟩ =
          appliedObservations platform history ++
            (appliedBinding platform (history.state, call)).toList := by
      simp only [appliedObservations, List.filterMap_append, List.filterMap_cons,
        List.filterMap_nil]
      congr 1
    obtain ⟨holds, asked⟩ := holds_of_observation earlier.holds done
    constructor
    · rw [grown]
      exact holds
    · rw [grown]
      intro binding listed
      rcases List.mem_append.1 listed with old | new
      · exact earlier.within binding old
      · exact mine binding (asked binding (Option.mem_toList.1 new))

/-! ## What a run guarantees -/

/-- The binding that a call is answered with. -/
def answeredBinding (platform : SessionPlatform) (db : SessionLedger) (call : ObserveCall) :
    Option SessionBinding :=
  match observeWorkItemExecutionSessionBinding platform db call with
  | .ok (receipt, _) => some receipt.binding
  | .error _ => none

/-- What is asked of a run of calls. The applied observations of a session follow each other,
the two tables hold them, sending the last one again adds no event, and a dry run is answered
as the call would be; the sessions whose refs are in `refs` are told apart by their digests. -/
structure SessionGuarantees (platform : SessionPlatform) (refs : Set String)
    (history : History SessionLedger ObserveCall) : Prop where
  ordered : (appliedObservations platform history).Pairwise SameSessionFollows
  recorded : history.state.events = (appliedObservations platform history).map eventRow
  current : ∀ ref, readBinding history.state ref = latest (appliedObservations platform history) ref
  currentRow : ∀ ref, history.state.row ref =
    (history.state.events.reverse.find? (·.row.executionSessionRef = ref)).map EventRow.row
  resent : ∀ sent again : ObserveCall, again.input = sent.input → ∀ binding,
    nextBinding platform sent = .ok binding →
    latest (appliedObservations platform history) binding.executionSessionRef = some binding →
    ∀ receipt db, observeWorkItemExecutionSessionBinding platform history.state again =
      .ok (receipt, db) → db = history.state
  dryRun : ∀ call : ObserveCall,
    (∀ binding, nextBinding platform call = .ok binding → binding.executionSessionRef ∈ refs) →
    answeredBinding platform history.state { call with dryRun := true } =
      answeredBinding platform history.state { call with dryRun := false }

section Guarantees

variable {db : SessionLedger} {applied : List SessionBinding}

theorem Holds.currentRow (holds : Holds platform db applied) (ref : String) :
    db.row ref = (db.events.reverse.find? (·.row.executionSessionRef = ref)).map EventRow.row := by
  have owner : (fun event : EventRow => decide (event.row.executionSessionRef = ref)) ∘ eventRow =
      fun binding => decide (binding.executionSessionRef = ref) := rfl
  rw [holds.rows, holds.events, ← List.map_reverse, List.find?_map, owner, Option.map_map]
  rfl

theorem Holds.resent (holds : Holds platform db applied) {sent again : ObserveCall}
    (input : again.input = sent.input) {binding : SessionBinding}
    (asked : nextBinding platform sent = .ok binding)
    (last : latest applied binding.executionSessionRef = some binding) {receipt : Receipt}
    {db' : SessionLedger}
    (done : observeWorkItemExecutionSessionBinding platform db again = .ok (receipt, db')) :
    db' = db := by
  simp only [observeWorkItemExecutionSessionBinding, ok_of_bind] at done
  obtain ⟨next, asked', done⟩ := done
  have asks := asks_of_nextBinding asked
  have asks' := asks_of_nextBinding asked'
  rw [input] at asks'
  have ref : next.executionSessionRef = binding.executionSessionRef :=
    Except.ok.inj (asks'.sessionRef.symm.trans asks.sessionRef)
  have sequence : next.sequence = binding.sequence :=
    Option.some.inj (asks'.sequence.symm.trans asks.sequence)
  split at done
  · simp only [ok_of_bind, ok_of_pure, Prod.mk.injEq] at done
    obtain ⟨_, -, -, rfl⟩ := done
    rfl
  · rcases holds.applyObservation done with ⟨_, -, -, -, same⟩ | ⟨follows, -, -⟩
    · exact same
    · have newer := (follows binding (by rw [ref]; exact last)).sequence
      omega

theorem Holds.dryRun_eq (holds : Holds platform db applied) {next : SessionBinding}
    (asked : NormalBinding platform next)
    (distinct : ∀ binding ∈ applied,
      platform.sha256 binding.executionSessionRef = platform.sha256 next.executionSessionRef →
        binding.executionSessionRef = next.executionSessionRef) :
    (dryRunObservation db next).map Receipt.binding =
      (Session.applyObservation db next).map fun done => done.1.binding := by
  rw [dryRunObservation, holds.readCoordinationBinding, holds.readBinding]
  cases admitted : validatePrevious next (latest applied next.executionSessionRef) with
  | error failure =>
    rw [Session.applyObservation, holds.readBinding, admitted]
    rfl
  | ok answer =>
    cases answer with
    | none =>
      rw [holds.applies asked distinct admitted]
      rfl
    | some unchanged =>
      rw [Session.applyObservation, holds.readBinding, admitted]
      rfl

variable {call : ObserveCall} {next : SessionBinding}

theorem answeredBinding_of_error {failure : ObservationFailure}
    (refused : nextBinding platform call = .error failure) (dryRun : Bool) :
    answeredBinding platform db { call with dryRun } = none := by
  have same : nextBinding platform { call with dryRun } = .error failure := refused
  rw [answeredBinding, observeWorkItemExecutionSessionBinding, same]
  rfl

theorem answeredBinding_dryRun (asked : nextBinding platform call = .ok next) :
    answeredBinding platform db { call with dryRun := true } =
      ((dryRunObservation db next).map Receipt.binding).toOption := by
  have same : nextBinding platform { call with dryRun := true } = .ok next := asked
  have steps : observeWorkItemExecutionSessionBinding platform db { call with dryRun := true } =
      dryRunObservation db next >>= fun receipt => pure (receipt, db) := by
    rw [observeWorkItemExecutionSessionBinding, same]
    rfl
  rw [answeredBinding, steps]
  cases dryRunObservation db next with
  | error failure => rfl
  | ok receipt => rfl

theorem answeredBinding_real (asked : nextBinding platform call = .ok next) :
    answeredBinding platform db { call with dryRun := false } =
      ((applyObservation db next).map fun done => done.1.binding).toOption := by
  have same : nextBinding platform { call with dryRun := false } = .ok next := asked
  have steps : observeWorkItemExecutionSessionBinding platform db { call with dryRun := false } =
      applyObservation db next := by
    rw [observeWorkItemExecutionSessionBinding, same]
    rfl
  rw [answeredBinding, steps]
  cases applyObservation db next with
  | error failure => rfl
  | ok done => rfl

end Guarantees

namespace Sample

def zeroDigests : SessionPlatform where
  sha256 _ := String.ofList (List.replicate 64 '0')
  hex _ := by
    rw [String.toList_ofList]
    decide
  dateParse
    | "2026-01-01T00:00:01Z" => some 1000
    | "2026-01-01T00:00:02Z" => some 2000
    | _ => none

def identity (generation : String) : IdentityPayload where
  agentId := some (.string "mas")
  projectId := some (.string "project")
  projectScopeId := some (.string "scope")
  workItemId := some (.string "study")
  workItemScopeId := some (.string "item")
  workspaceBindingId := some (.string "workspace")
  observedGeneration := some (.string generation)

def item : SessionIdentity := ⟨"mas", "project", "scope", "study", "item", "workspace", "g1"⟩

def input (generation state observedAt : String) (sequence : Nat) : ObserveInput where
  identity := identity generation
  executionSessionRef := some (.string "codex://threads/a")
  activityKind := none
  activityState := some (.string state)
  observedAt := some (.string observedAt)
  sequence := some (.number sequence)
  sourceRef := none

/-- A session that is opened, observed again, and closed in a later generation. -/
def calls : List ObserveCall :=
  [⟨input "g1" "running" "2026-01-01T00:00:01Z" 0, item, false, 1500⟩,
    ⟨input "g1" "running" "2026-01-01T00:00:01Z" 0, item, false, 1700⟩,
    ⟨input "g2" "completed" "2026-01-01T00:00:02Z" 1, item, false, 2500⟩]

theorem named : ∀ call ∈ calls, NamesWithin zeroDigests {"codex://threads/a"} call := by
  intro call listed binding asked
  have ref : call.input.executionSessionRef = some (.string "codex://threads/a") := by
    simp only [calls, List.mem_cons, List.not_mem_nil, or_false] at listed
    rcases listed with rfl | rfl | rfl
    · rfl
    · rfl
    · rfl
  have read := (asks_of_nextBinding asked).sessionRef
  rw [ref] at read
  have whole : requiredString (some (.string "codex://threads/a")) "execution_session_ref" =
      .ok "codex://threads/a" := by decide +kernel
  exact (Except.ok.inj (whole.symm.trans read)).symm

end Sample

end OnePersonLab.Session
