import OnePersonLab.Attempt.Reobservation

/-!
# Workflows that end without a completion

The framework answers such a workflow with a packet of its own, which passes the admission
of every other packet. When the packet is turned away, the row stays live.
-/

namespace OnePersonLab.Attempt

open Contract Lib Stage

/-! ## Fields that an edit of a record leaves -/

section

variable {record : JsonRecord} {key other : String}

theorem field?_overwritten (different : other ≠ key) (value : Json) :
    field? (record.map fun field => if field.1 = key then (key, value) else field) other =
      field? record other := by
  induction record with
  | nil => rfl
  | cons field record inductionHypothesis =>
    obtain ⟨name, current⟩ := field
    rw [List.map_cons, field?_cons]
    by_cases same : name = key
    · rw [if_pos same, field?_cons, if_neg different, if_neg (same ▸ different)]
      exact inductionHypothesis
    · rw [if_neg same, field?_cons, inductionHypothesis]

theorem field?_setField (different : other ≠ key) (value : Json) :
    field? (setField record key value) other = field? record other := by
  unfold setField
  by_cases present : hasOwn record key = true
  · rw [if_pos present]
    exact field?_overwritten different value
  · rw [if_neg present]
    simp [field?, List.lookup_append, List.lookup_cons, beq_eq_false_iff_ne.mpr different]

theorem field?_withoutFields {keys : List String} (kept : key ∉ keys) :
    field? (withoutFields record keys) key = field? record key := by
  induction record with
  | nil => rfl
  | cons field record inductionHypothesis =>
    obtain ⟨name, value⟩ := field
    by_cases removed : name ∈ keys
    · have different : key ≠ name := by
        rintro rfl
        exact kept removed
      rw [withoutFields, List.filter_cons_of_neg (by simpa using removed), field?_cons,
        if_neg different]
      exact inductionHypothesis
    · rw [withoutFields, List.filter_cons_of_pos (by simpa using removed), field?_cons, field?_cons]
      by_cases same : key = name
      · rw [if_pos same, if_pos same]
      · rw [if_neg same, if_neg same]
        exact inductionHypothesis

theorem field?_putField (different : other ≠ key) (value : Option Json) :
    field? (putField record key value) other = field? record other := by
  cases value with
  | none => exact field?_withoutFields (by simpa using different)
  | some value => exact field?_setField different value

theorem field?_spread {added : JsonRecord} (kept : ∀ field ∈ added, field.1 ≠ key) :
    field? (spread record added) key = field? record key := by
  unfold spread
  induction added generalizing record with
  | nil => rfl
  | cons field added inductionHypothesis =>
    rw [List.foldl_cons, inductionHypothesis fun later present =>
      kept later (List.mem_cons_of_mem _ present)]
    exact field?_setField (kept field List.mem_cons_self).symm field.2

end

/-- The edits of an ingest leave the envelope of the review cycle. -/
theorem field?_sanitized (attempt routeImpact : JsonRecord) :
    field? (sanitizeStageQualityAttemptRouteImpact attempt routeImpact) "stage_quality_cycle" =
      field? routeImpact "stage_quality_cycle" := by
  unfold sanitizeStageQualityAttemptRouteImpact
  have kept : field? (withoutFields routeImpact ["stage_route_contract"]) "stage_quality_cycle" =
      field? routeImpact "stage_quality_cycle" := field?_withoutFields (by decide)
  dsimp only
  by_cases plain : textField? attempt "attempt_role" = none ∧ hasRouteOutput routeImpact = false
  · rw [if_pos plain]
    exact kept
  · rw [if_neg plain]
    split
    · rw [field?_putField (by decide), field?_putField (by decide),
        field?_withoutFields (by decide), kept]
    · rw [field?_setField (by decide), field?_putField (by decide), field?_putField (by decide),
        field?_withoutFields (by decide), kept]

/-- The envelope of a route impact gives no verdict where the role may give none. -/
def SilentEnvelope (row : AttemptRow) (routeImpact : JsonRecord) : Prop :=
  row.attemptRole ≠ none →
    hasOwn (asRecord (field? routeImpact "stage_quality_cycle")) "outcome" = false ∧
      hasOwn (asRecord (field? routeImpact "stage_quality_cycle")) "verdict" = false

theorem normalizeRouteImpact_ok_iff {row : AttemptRow} {packet : CloseoutPacket}
    (produces : row.reviews = false) :
    (∃ normalized, normalizeRouteImpact packet row = .ok normalized) ↔
      SilentEnvelope row (packet.routeImpact.getD []) := by
  unfold normalizeRouteImpact SilentEnvelope
  dsimp only
  rw [field?_sanitized, field?_withoutFields (by decide)]
  generalize asRecord (field? (packet.routeImpact.getD []) "stage_quality_cycle") = envelope
  cases played : row.attemptRole with
  | none => exact iff_of_true ⟨_, rfl⟩ fun played => absurd rfl played
  | some role =>
    have notReview : role.reviews = false := by
      cases role <;> simp_all [AttemptRow.reviews, StageQualityAttemptRole.reviews]
    simp only [stageQualityAttemptOutcomeFromEnvelope, notReview, Bool.false_eq_true, if_false]
    simp [pure, Except.pure, bind_eq_ok]

/-! ## Packets of the framework are read -/

theorem mapM_checked {α β : Type} {read : α → Checked β} {value : α → β} {entries : List α}
    (reads : ∀ entry ∈ entries, read entry = .ok (value entry)) :
    entries.mapM read = .ok (entries.map value) := by
  induction entries with
  | nil => rfl
  | cons entry entries inductionHypothesis =>
    have rest := inductionHypothesis fun later present => reads later (List.mem_cons_of_mem _ present)
    rw [List.mapM_cons, reads entry List.mem_cons_self, rest]
    rfl

/-- A field that holds texts, none of them blank. -/
def HoldsTexts (value : Option Json) : Prop :=
  ∃ texts, value = some (Json.ofStrings texts) ∧ ∀ text ∈ texts, trim text ≠ ""

theorem text?_string {text : String} (filled : trim text ≠ "") :
    text? (some (.string text)) = some (trim text) := by
  simp [text?, Json.asString?, Option.filter, filled]

theorem readAgentRefList_texts {value : Option Json} (texts : HoldsTexts value) (field : String) :
    ∃ refs, readAgentRefList value field = .ok refs := by
  obtain ⟨texts, rfl, filled⟩ := texts
  have reads : (texts.map Json.string).mapM (readAgentRef field) =
      .ok ((texts.map Json.string).map fun entry => trim ((Json.asString? entry).getD "")) := by
    apply mapM_checked
    intro entry present
    obtain ⟨text, listed, rfl⟩ := List.mem_map.1 present
    simp [readAgentRef, text?_string (filled text listed), Json.asString?]
  exact ⟨_, by simp only [readAgentRefList, Json.ofStrings, present?, reads]; rfl⟩

theorem readCloseoutRefEntries_texts {texts : List String} (filled : ∀ text ∈ texts, trim text ≠ "") :
    readCloseoutRefEntries (some (Json.ofStrings texts)) =
      .ok (texts.map fun text => (trim text, none)) := by
  have reads : (texts.map Json.string).mapM readCloseoutRefEntry =
      .ok ((texts.map Json.string).map fun entry =>
        (trim ((Json.asString? entry).getD ""), none)) := by
    apply mapM_checked
    intro entry present
    obtain ⟨text, listed, rfl⟩ := List.mem_map.1 present
    simp [readCloseoutRefEntry, text?_string (filled text listed), Json.asString?]
  simp only [Json.ofStrings, readCloseoutRefEntries, reads, List.map_map]
  rfl

/-- What admission and the route authority read of a packet, by the fields sent. -/
structure ReadFrom (sent : SentPacket) (scope : Option ScopeSnapshot) (packet : CloseoutPacket) :
    Prop where
  stageAttemptId : packet.stageAttemptId = trimmedText sent.stageAttemptId
  stageRunId : packet.stageRunId = trimmedText sent.stageRunId
  idempotencyKey : packet.idempotencyKey = trimmedText sent.idempotencyKey
  executionScope : packet.executionScope = scope
  scopeDigest : packet.scopeDigest = scope.map ScopeSnapshot.scopeDigest
  domainOutput : packet.domainOutput = none
  logs : packet.userStageLog = sent.userStageLog ∧ packet.stageLogSummary = sent.stageLogSummary ∧
    packet.humanStageLog = sent.humanStageLog
  routeImpact : packet.routeImpact = sent.routeImpact

theorem ReadFrom.unlogged {sent : SentPacket} {scope : Option ScopeSnapshot}
    {packet : CloseoutPacket} (readFrom : ReadFrom sent scope packet)
    (logs : sent.userStageLog = none ∧ sent.stageLogSummary = none ∧ sent.humanStageLog = none) :
    packet.hasStageLog = false := by
  obtain ⟨user, summary, human⟩ := readFrom.logs
  rw [CloseoutPacket.hasStageLog, user, summary, human, logs.1, logs.2.1, logs.2.2]
  rfl

/-- A packet that the framework has built, with the scope that it names. -/
structure OwnPacket (sent : SentPacket) (scope : Option ScopeSnapshot) : Prop where
  surface : sent.surfaceKind = some "stage_attempt_closeout_packet"
  refs : HoldsTexts sent.closeoutRefs
  someRef : sent.closeoutRefs ≠ some (Json.ofStrings [])
  consumed : HoldsTexts sent.consumedRefs
  memory : HoldsTexts sent.consumedMemoryRefs
  receipts : HoldsTexts sent.writebackReceiptRefs
  plain : sent.closeoutRefMetadata = none ∧ sent.domainOutput = none ∧ sent.usageRefs = none
  named : sent.executionScope = scope.map .snapshot
  digest : sent.scopeDigest = scope.map ScopeSnapshot.scopeDigest
  trimmed : ∀ snapshot ∈ scope, trim snapshot.scopeDigest = snapshot.scopeDigest

theorem OwnPacket.read {sent : SentPacket} {scope : Option ScopeSnapshot}
    (own : OwnPacket sent scope) :
    ∃ packet, normalizeTypedStageCloseoutPacket sent = .ok packet ∧ ReadFrom sent scope packet := by
  obtain ⟨texts, refs, filled⟩ := own.refs
  obtain ⟨metadata, output, usage⟩ := own.plain
  obtain ⟨consumed, readConsumed⟩ := readAgentRefList_texts own.consumed "consumed_refs"
  obtain ⟨memory, readMemory⟩ := readAgentRefList_texts own.memory "consumed_memory_refs"
  obtain ⟨receipts, readReceipts⟩ := readAgentRefList_texts own.receipts "writeback_receipt_refs"
  have surface : (trimmedText sent.surfaceKind).bind CloseoutSurface.ofText? =
      some .stageAttempt := by
    rw [own.surface]
    decide
  have collected : collectedCloseoutRefs sent (texts.map fun text => (trim text, none)) [] ≠ [] := by
    cases texts with
    | nil => exact absurd refs own.someRef
    | cons text texts =>
      intro empty
      have present : trim text ∈ collectedCloseoutRefs sent
          ((text :: texts).map fun text => (trim text, none)) [] := by
        simp [collectedCloseoutRefs]
      rw [empty] at present
      exact absurd present nofun
  have carried : sentExecutionScope sent.executionScope = .ok scope := by
    rw [own.named]
    cases scope <;> rfl
  have digests : ∀ snapshot ∈ scope, ∀ digest ∈ trimmedText sent.scopeDigest,
      snapshot.scopeDigest = digest := by
    rintro snapshot rfl digest present
    simp only [own.digest, Option.map_some, trimmedText, own.trimmed snapshot rfl] at present
    exact Option.some.inj (Option.filter_eq_some_iff.1 present).1
  have entries : readCloseoutRefEntries sent.closeoutRefs =
      .ok (texts.map fun text => (trim text, none)) := by
    rw [refs]
    exact readCloseoutRefEntries_texts filled
  have explicit : readExplicitRefMetadata sent.closeoutRefMetadata = .ok [] := by
    rw [metadata]
    rfl
  have outputs : normalizeDomainOutput sent.domainOutput
      (collectedCloseoutRefs sent (texts.map fun text => (trim text, none)) []) = .ok none := by
    rw [output]
    rfl
  have usages : readAgentRefList sent.usageRefs "usage_refs" = .ok [] := by
    rw [usage]
    rfl
  unfold normalizeTypedStageCloseoutPacket
  simp only [surface, bind_eq_ok, ensure_eq_ok, pure_eq_ok]
  refine ⟨_, ⟨_, entries, _, explicit, (), collected, _, outputs, _, carried, (), digests, _,
    readConsumed, _, readMemory, _, readReceipts, _, usages, rfl⟩, ?_⟩
  refine ⟨rfl, rfl, rfl, rfl, ?_, rfl, ⟨rfl, rfl, rfl⟩, rfl⟩
  cases scope with
  | none => simp [own.digest, trimmedText]
  | some snapshot => rfl

/-! ## The diagnostics -/

theorem trim_ne_empty_of_stage_attempt {text rest : String}
    (joined : text = "opl://stage-attempts/" ++ rest) : trim text ≠ "" := by
  have opens : "opl://stage-attempts/".toList = 'o' :: "pl://stage-attempts/".toList := by
    decide +kernel
  refine trim_ne_empty_of_mem (c := 'o') ?_ (by decide)
  rw [joined, String.toList_append, opens]
  exact List.mem_append_left _ List.mem_cons_self

theorem qualityDebtDiagnosticRef_eq (stageAttemptId reason : String) :
    qualityDebtDiagnosticRef stageAttemptId reason = "opl://stage-attempts/" ++
      (stageAttemptId ++ ("/quality-debt-diagnostics/" ++ encodeURIComponent reason)) := by
  unfold qualityDebtDiagnosticRef
  rw [← String.append_assoc, ← String.append_assoc]
  rfl

theorem failureDiagnosticRef_eq (stageAttemptId : String) :
    failureDiagnosticRef stageAttemptId =
      "opl://stage-attempts/" ++ (stageAttemptId ++ "/failure-diagnostic") := by
  unfold failureDiagnosticRef
  rw [← String.append_assoc]
  rfl

theorem textList_filled {texts : List String} : ∀ text ∈ textList texts, trim text ≠ "" := by
  intro text present
  obtain ⟨value, -, found⟩ := List.mem_filterMap.1 present
  obtain ⟨same, filled⟩ := Option.filter_eq_some_iff.1 found
  obtain rfl := Option.some.inj same
  rw [trim_trim]
  simpa using filled

/-- The route impact that a query of a blocked workflow hands on. -/
def projectedRouteImpact (observation : TemporalObservation) : JsonRecord :=
  ((blockedCloseoutProjection observation).map TemporalQuery.routeImpact).getD []

def observedScope (observation : TemporalObservation) : Option ScopeSnapshot :=
  observation.query.bind TemporalQuery.executionScope

theorem progressDiagnosticPacket_own {observation : TemporalObservation} {row : AttemptRow}
    {blocker : String}
    (trimmed : ∀ snapshot ∈ observedScope observation,
      trim snapshot.scopeDigest = snapshot.scopeDigest) :
    OwnPacket (progressDiagnosticPacket observation row blocker) (observedScope observation) := by
  have projected (read : TemporalQuery → List String) : HoldsTexts (some (Json.ofStrings
      ((((blockedCloseoutProjection observation).map read).map textList).getD []))) := by
    refine ⟨_, rfl, ?_⟩
    cases (blockedCloseoutProjection observation).map read with
    | none => exact nofun
    | some texts => exact textList_filled
  refine ⟨rfl, ⟨_, rfl, ?_⟩, ?_, projected _, projected _, projected _, ⟨rfl, rfl, rfl⟩, rfl, rfl,
    trimmed⟩
  · intro text present
    rw [List.mem_eraseDups, List.mem_append] at present
    rcases present with own | diagnostic
    · cases blocked : blockedCloseoutProjection observation with
      | none => simp [blocked] at own
      | some query =>
        rw [blocked] at own
        exact textList_filled text own
    · obtain rfl := List.mem_singleton.1 diagnostic
      exact trim_ne_empty_of_stage_attempt (qualityDebtDiagnosticRef_eq _ blocker)
  · intro empty
    have present : qualityDebtDiagnosticRef observation.stageAttemptId blocker ∈
        (((blockedCloseoutProjection observation).map fun query =>
          textList query.closeoutRefs).getD [] ++
            [qualityDebtDiagnosticRef observation.stageAttemptId blocker]).eraseDups :=
      List.mem_eraseDups.2 (List.mem_append_right _ (List.mem_singleton_self _))
    have texts := List.map_eq_nil_iff.1 (Json.array.inj (Option.some.inj empty))
    rw [texts] at present
    exact absurd present nofun

theorem failureDiagnosticPacket_own (observation : TemporalObservation) (row : AttemptRow)
    (failureReason : String) :
    OwnPacket (failureDiagnosticPacket observation row failureReason) none := by
  have nothing : HoldsTexts (some (.array [])) := ⟨[], rfl, nofun⟩
  refine ⟨rfl, ⟨_, rfl, ?_⟩, ?_, nothing, nothing, nothing, ⟨rfl, rfl, rfl⟩, rfl, rfl, nofun⟩
  · intro text present
    obtain rfl := List.mem_singleton.1 present
    exact trim_ne_empty_of_stage_attempt (failureDiagnosticRef_eq _)
  · exact nofun

/-! ## Admission of a diagnostic -/

/-- What two snapshots of one execution scope share. -/
def ScopeSnapshot.identity (scope : ScopeSnapshot) : String × String :=
  (scope.scopeDigest, scope.binding)

def RowScope.snapshot? : RowScope → Option ScopeSnapshot
  | .workItem scope => some scope
  | .domain | .system | .unresolved => none

/-- A work item has the lineage that its packets have to carry. -/
def LineageComplete (row : AttemptRow) : Prop :=
  row.scope.snapshot? ≠ none →
    trimmedText (some row.stageAttemptId) ≠ none ∧ trimmedText row.stageRunId ≠ none

/-- A domain route has a log of its stage, in the row or in the route impact of a packet. -/
def StageLogged (row : AttemptRow) (routeImpact : JsonRecord) : Prop :=
  isDomainRouteAttempt row.workspaceLocator = true →
    routeImpactHasStageLog routeImpact = true ∨ routeImpactHasStageLog row.routeImpact = true

section

variable {row : AttemptRow} {packet : CloseoutPacket}

@[simp] theorem trimmedText_trimmedText (value : Option String) :
    trimmedText (trimmedText value) = trimmedText value := by
  cases value with
  | none => rfl
  | some text =>
    by_cases blank : trim text = ""
    · simp [trimmedText, Option.filter, blank]
    · simp [trimmedText, Option.filter, blank]

theorem not_both_iff {route : Bool} {packet row : Bool} :
    ¬(route = true ∧ (false || packet || row) = false) ↔
      (route = true → packet = true ∨ row = true) := by
  cases route <;> cases packet <;> cases row <;> decide

@[simp] theorem trimmedText_filter (value : Option String) :
    trimmedText (value.filter (· ≠ "")) = trimmedText value := by
  cases value with
  | none => rfl
  | some text =>
    by_cases empty : text = ""
    · subst empty
      decide
    · rw [Option.filter_some, if_pos (by simpa using empty)]

/-- Behind the identity, admission asks for the log of a domain route. -/
theorem validateCloseoutPacketForAttempt_iff
    (attempt : ∀ named ∈ packet.stageAttemptId, some named = trimmedText (some row.stageAttemptId))
    (key : packet.idempotencyKey = none) (logs : packet.hasStageLog = false) :
    validateCloseoutPacketForAttempt packet row.identity = .ok () ↔
      requireFamilyRuntimeIngressIdentity row.identity packet.ingress = .ok () ∧
        StageLogged row (packet.routeImpact.getD []) := by
  unfold validateCloseoutPacketForAttempt
  have sameAttempt : ¬(trimmedText (some row.identity.stageAttemptId) ≠ none ∧
      packet.stageAttemptId ≠ none ∧
      packet.stageAttemptId ≠ trimmedText (some row.identity.stageAttemptId)) := by
    rintro ⟨-, named, other⟩
    obtain ⟨attemptId, present⟩ := Option.ne_none_iff_exists'.1 named
    exact other (present.trans (attempt attemptId present))
  have sameKey : ¬(trimmedText (some row.identity.idempotencyKey) ≠ none ∧
      packet.idempotencyKey ≠ none ∧
      packet.idempotencyKey ≠ trimmedText (some row.identity.idempotencyKey)) := by
    rintro ⟨-, named, -⟩
    exact named key
  dsimp only
  rw [if_neg sameAttempt, if_neg sameKey]
  cases requireFamilyRuntimeIngressIdentity row.identity packet.ingress with
  | error failure => simp
  | ok passed =>
    have logged := @not_both_iff (isDomainRouteAttempt row.workspaceLocator)
      (routeImpactHasStageLog (packet.routeImpact.getD [])) (routeImpactHasStageLog row.routeImpact)
    dsimp only
    rw [StageLogged, ← logged, hasDomainProvidedStageLog, logs]
    split
    · exact ⟨nofun, fun both => absurd ‹_› both.2⟩
    · exact ⟨fun _ => ⟨rfl, ‹_›⟩, fun _ => rfl⟩

/-- A packet with the identity of the row passes where that identity is complete. -/
theorem requireIngress_own_iff (resolved : row.scope ≠ .unresolved)
    (attempt : packet.stageAttemptId = trimmedText (some row.stageAttemptId))
    (run : packet.stageRunId = trimmedText row.stageRunId)
    (scope : packet.executionScope.map ScopeSnapshot.identity =
      row.scope.snapshot?.map ScopeSnapshot.identity)
    (digest : packet.scopeDigest = packet.executionScope.map ScopeSnapshot.scopeDigest)
    (trimmed : ∀ snapshot ∈ row.scope.snapshot?,
      trim snapshot.scopeDigest = snapshot.scopeDigest) :
    requireFamilyRuntimeIngressIdentity row.identity packet.ingress = .ok () ↔
      LineageComplete row := by
  unfold requireFamilyRuntimeIngressIdentity LineageComplete
  simp only [CloseoutPacket.ingress, AttemptRow.identity, attempt, run, digest,
    trimmedText_trimmedText]
  cases kind : row.scope with
  | unresolved => exact absurd kind resolved
  | workItem snapshot =>
    simp only [kind, RowScope.snapshot?, Option.map_some, Option.map_eq_some_iff,
      ScopeSnapshot.identity, Prod.mk.injEq] at scope
    obtain ⟨carried, present, sameDigest, sameBinding⟩ := scope
    have trim_digest : trim snapshot.scopeDigest = snapshot.scopeDigest :=
      trimmed snapshot (by rw [kind]; rfl)
    dsimp only
    by_cases missing : trimmedText (some row.stageAttemptId) = none ∨
        trimmedText row.stageRunId = none
    · rw [if_pos missing]
      refine iff_of_false (by simp) ?_
      intro complete
      obtain ⟨attemptId, runId⟩ := complete (by simp [kind, RowScope.snapshot?])
      exact missing.elim attemptId runId
    · rw [if_neg missing]
      refine iff_of_true ?_ fun _ => not_or.1 missing
      have own : (trimmedText (some snapshot.scopeDigest)).getD snapshot.scopeDigest =
          snapshot.scopeDigest := by
        rw [trimmedText, Option.map_some, trim_digest]
        by_cases blank : snapshot.scopeDigest = ""
        · simp [Option.filter, blank]
        · simp [Option.filter, blank]
      have unnamed : trimmedText none = none := rfl
      simp [present, own, unnamed, ingressScope, requireWorkItemExecutionScopeSnapshot, sameDigest,
        sameBinding, bind, Except.bind]
  | domain | system =>
    have none_carried : packet.executionScope = none := by
      simpa [kind, RowScope.snapshot?] using scope
    simp [RowScope.snapshot?, none_carried, trimmedText, ingressScope, bind, Except.bind]

/-- A packet without identity passes where no work item asks for one. -/
theorem requireIngress_anonymous_iff (resolved : row.scope ≠ .unresolved)
    (attempt : packet.stageAttemptId = none) (run : packet.stageRunId = none)
    (scope : packet.executionScope = none) (digest : packet.scopeDigest = none) :
    requireFamilyRuntimeIngressIdentity row.identity packet.ingress = .ok () ↔
      row.scope.snapshot? = none := by
  unfold requireFamilyRuntimeIngressIdentity
  simp only [CloseoutPacket.ingress, AttemptRow.identity, attempt, run, scope, digest]
  cases kind : row.scope with
  | unresolved => exact absurd kind resolved
  | workItem snapshot => simp [RowScope.snapshot?, trimmedText]
  | domain | system =>
    simp [RowScope.snapshot?, trimmedText, ingressScope, bind, Except.bind]

end

/-! ## Storing a packet and a usage -/

/-- The closeout that a packet would be stored as. -/
def closeoutRowOf (texts : Texts) (row : AttemptRow) (packet : CloseoutPacket) : CloseoutRow where
  closeoutId := closeoutIdOf row.stageAttemptId packet
  stageAttemptId := row.stageAttemptId
  packetJson := texts.packetJson packet

/-- The packet is small enough, and no other closeout has its id. -/
structure Storable (texts : Texts) (ledger : Ledger) (packet : CloseoutPacket) : Prop where
  small : (bytes (texts.packetJson packet)).length ≤ maxStageAttemptPersistedJsonBytes
  free : CloseoutIdFree ledger.closeouts (closeoutRowOf texts ledger.row packet)

theorem ingest_ok_iff {texts : Texts} {ledger : Ledger} {sent : SentPacket}
    {packet : CloseoutPacket} {costSummary : Option CostSummary} {row : AttemptRow}
    (read : normalizeTypedStageCloseoutPacket sent = .ok packet)
    (output : packet.domainOutput = none)
    (persisted : persistIngestedUsage ledger.row costSummary = .ok row) :
    (∃ settled, ingestStageAttemptCloseout texts ledger sent costSummary = .ok settled) ↔
      validateCloseoutPacketForAttempt packet ledger.row.identity = .ok () ∧
      (∃ normalized, normalizeRouteImpact packet ledger.row = .ok normalized) ∧
      Storable texts ledger packet := by
  unfold ingestStageAttemptCloseout
  simp only [read, persisted, bind_eq_ok, ensure_eq_ok, pure_eq_ok, Except.ok.injEq]
  constructor
  · rintro ⟨settled, _, rfl, _, admitted, _, -, normalized, routed, _, small, _, free, -⟩
    exact ⟨admitted, ⟨normalized, routed⟩, small, free⟩
  · rintro ⟨admitted, ⟨normalized, routed⟩, small, free⟩
    exact ⟨_, packet, rfl, (), admitted, (), by simp [output], normalized, routed, (), small, (),
      free, row, rfl, rfl⟩

/-- The usage that an observation reports agrees with what the row knows: a session that is
trimmed, no other session, and no other usage of the same rank. -/
structure UsageFits (row : AttemptRow) (costSummary : Option CostSummary) : Prop where
  trimmed : ∀ session ∈ row.executionSessionRef, trim session ≠ "" → trim session = session
  session : ∀ own ∈ costSummary.bind (·.usage.executionSessionRef),
    ∀ session ∈ row.executionSessionRef, own = session
  rank : ∀ existing ∈ row.usageObservation,
    existing.priority = ((costSummary.map CostSummary.usage).getD
      (missingUsage row.stageAttemptId)).priority →
    existing.idempotencyKey = ((costSummary.map CostSummary.usage).getD
      (missingUsage row.stageAttemptId)).idempotencyKey

section

variable {recorded : Option String}

theorem selectAuthoritativeObservation_ok_iff {existing : Option UsageObservation}
    {incoming : UsageObservation} :
    (∃ selected, selectAuthoritativeObservation existing incoming = .ok selected) ↔
      ∀ known ∈ existing, known.priority = incoming.priority →
        known.idempotencyKey = incoming.idempotencyKey := by
  unfold selectAuthoritativeObservation
  cases existing with
  | none => simp
  | some known =>
    simp only [Option.mem_def, Option.some.injEq, forall_eq']
    by_cases higher : known.priority < incoming.priority
    · rw [if_pos higher]
      exact iff_of_true ⟨_, rfl⟩ fun same => absurd same higher.ne
    · rw [if_neg higher]
      by_cases key : known.idempotencyKey = incoming.idempotencyKey
      · rw [if_pos key]
        exact iff_of_true ⟨_, rfl⟩ fun _ => key
      · rw [if_neg key]
        by_cases lower : incoming.priority < known.priority
        · rw [if_pos lower]
          exact iff_of_true ⟨_, rfl⟩ fun same => absurd same lower.ne'
        · rw [if_neg lower]
          refine iff_of_false (by simp) ?_
          intro fits
          exact key (fits (le_antisymm (not_lt.1 lower) (not_lt.1 higher)))

theorem session_immutable_iff :
    (∀ existing ∈ recorded, (trimmedText recorded).or recorded = some existing) ↔
      ∀ session ∈ recorded, trim session ≠ "" → trim session = session := by
  cases recorded with
  | none => simp
  | some session =>
    by_cases blank : trim session = ""
    · simp [trimmedText, Option.filter, blank]
    · simp [trimmedText, Option.filter, blank]

theorem session_kept
    (immutable : ∀ existing ∈ recorded, (trimmedText recorded).or recorded = some existing) :
    (trimmedText recorded).or recorded = recorded := by
  cases recorded with
  | none => rfl
  | some session => exact immutable session rfl

theorem session_matched_iff {reported : Option String} :
    (∀ own ∈ reported.or recorded, ∀ expected ∈ recorded, own = expected) ↔
      ∀ own ∈ reported, ∀ session ∈ recorded, own = session := by
  cases reported with
  | some session => rfl
  | none => cases recorded <;> simp

theorem reportedSession_eq (row : AttemptRow) (costSummary : Option CostSummary) :
    ((costSummary.map CostSummary.usage).getD
      (missingUsage row.stageAttemptId)).executionSessionRef =
      costSummary.bind (·.usage.executionSessionRef) := by
  cases costSummary <;> rfl

theorem persistStageAttemptUsageObservation_ok_iff {row : AttemptRow}
    {costSummary : Option CostSummary} :
    (∃ written, persistStageAttemptUsageObservation row costSummary row.executionSessionRef =
      .ok written) ↔ UsageFits row costSummary := by
  unfold persistStageAttemptUsageObservation
  simp only [bind_eq_ok, ensure_eq_ok, pure_eq_ok, reportedSession_eq]
  constructor
  · rintro ⟨written, _, immutable, _, matched, selected, chosen, -⟩
    rw [session_kept immutable] at matched
    have rank := selectAuthoritativeObservation_ok_iff.1 ⟨selected, chosen⟩
    exact ⟨session_immutable_iff.1 immutable, session_matched_iff.1 matched, rank⟩
  · intro fits
    have immutable := session_immutable_iff.2 fits.trimmed
    rw [session_kept immutable]
    have matched := session_matched_iff.2 fits.session
    obtain ⟨selected, chosen⟩ := (@selectAuthoritativeObservation_ok_iff row.usageObservation
      { (costSummary.map CostSummary.usage).getD (missingUsage row.stageAttemptId) with
        executionSessionRef := (costSummary.bind (·.usage.executionSessionRef)).or
          row.executionSessionRef }).2 fits.rank
    exact ⟨_, (), by simp, (), matched, selected, chosen, rfl⟩

theorem persistIngestedUsage_ok_iff {row : AttemptRow} {costSummary : Option CostSummary} :
    (∃ written, persistIngestedUsage row costSummary = .ok written) ↔
      (row.codexCli = true → UsageFits row costSummary) := by
  unfold persistIngestedUsage
  by_cases codex : row.codexCli = true
  · rw [if_pos codex, persistStageAttemptUsageObservation_ok_iff]
    exact ⟨fun fits _ => fits, fun fits => fits codex⟩
  · rw [if_neg codex]
    exact iff_of_true ⟨_, rfl⟩ fun codexCli => absurd codexCli codex

end

/-! ## Terminal observations of a live attempt -/

/-- An observation that ends the workflow of a live attempt without completing it. The query
carries the identity of the row, and the session is the recorded one. -/
structure EndsWithoutCompletion (row : AttemptRow) (observation : TemporalObservation) : Prop where
  concerned : concerns row observation = true
  resolved : row.scope ≠ .unresolved
  digest : ∀ scope ∈ row.scope.snapshot?, trim scope.scopeDigest = scope.scopeDigest
  live : row.status ≠ .completed
  ended : observation.workflowStatus ∈ [some "FAILED", some "TIMED_OUT", some "CANCELED"] ∨
    observation.queryStatus ∈ [some .failed, some .blocked]
  run : ∀ query ∈ observation.query, query.stageRunId = row.stageRunId
  scope : ∀ query ∈ observation.query,
    query.executionScope.map ScopeSnapshot.identity = row.scope.snapshot?.map ScopeSnapshot.identity
  session : ∀ session ∈ observation.executionSessionRef, row.executionSessionRef = some session

def terminalStatuses : List AttemptStatus := [.completed, .blocked, .failed]

/-- The call does not throw and leaves the row in a terminal status. -/
def Absorbs (texts : Texts) (ledger : Ledger) (observation : TemporalObservation) : Prop :=
  (syncStageAttemptFromTemporalTerminalObservation texts ledger observation).thrown = none ∧
    (syncStageAttemptFromTemporalTerminalObservation texts ledger observation).ledger.row.status ∈
      terminalStatuses

/-- The diagnostic of a blocker passes admission and can be stored. -/
structure BlockerAdmitted (texts : Texts) (ledger : Ledger) (observation : TemporalObservation)
    (blocker : String) : Prop where
  lineage : LineageComplete ledger.row
  log : StageLogged ledger.row (projectedRouteImpact observation)
  envelope : SilentEnvelope ledger.row (projectedRouteImpact observation)
  stored : ∀ packet, normalizeTypedStageCloseoutPacket
    (progressDiagnosticPacket observation ledger.row blocker) = .ok packet →
      Storable texts ledger packet

/-- The diagnostic of a failure, which carries neither identity nor log, passes admission. -/
structure FailureAdmitted (texts : Texts) (ledger : Ledger) (observation : TemporalObservation)
    (failureReason : String) : Prop where
  scopeless : ledger.row.scope.snapshot? = none
  log : StageLogged ledger.row []
  stored : ∀ packet, normalizeTypedStageCloseoutPacket
    (failureDiagnosticPacket observation ledger.row failureReason) = .ok packet →
      Storable texts ledger packet

/-- The usage fits, and the diagnostic, where one is due, is admitted. -/
structure AbsorptionHolds (texts : Texts) (ledger : Ledger) (observation : TemporalObservation) :
    Prop where
  usage : ledger.row.codexCli = true → UsageFits ledger.row observation.costSummary
  blocker : ∀ blocker ∈ observation.blocker ledger.row, ledger.row.reviews = false →
    isRuntimeHardStopReason blocker = false → BlockerAdmitted texts ledger observation blocker
  failure : observation.blocker ledger.row = none → ∀ failureReason ∈ observation.failureReason,
    ledger.row.reviews = false → failureReason ≠ "temporal_workflow_canceled" →
      FailureAdmitted texts ledger observation failureReason

section

variable {texts : Texts} {ledger : Ledger} {observation : TemporalObservation}

variable {row written : AttemptRow} {blocker : String} {session : Option String}
  {usage : Option UsageObservation}

theorem EndsWithoutCompletion.read (ends : EndsWithoutCompletion row observation) :
    readCompletedPacket row observation = .ok none := by
  have unfinished : observation.completed = false := by
    unfold TemporalObservation.completed
    rcases ends.ended with workflow | query
    · simp only [List.mem_cons, List.not_mem_nil, or_false] at workflow
      rcases workflow with workflow | workflow | workflow <;> simp [workflow]
    · simp only [List.mem_cons, List.not_mem_nil, or_false] at query
      rcases query with query | query <;> simp [query]
  unfold readCompletedPacket
  split
  · rfl
  · have nothing : observation.completedPacket? = none := by
      simp [TemporalObservation.completedPacket?, unfinished]
    rw [nothing]

/-- Such an observation has a blocker or a failure. -/
theorem EndsWithoutCompletion.failed (ends : EndsWithoutCompletion row observation)
    (free : observation.blocker row = none) :
    ∃ failureReason, observation.failureReason = some failureReason := by
  unfold TemporalObservation.blocker at free
  have unblocked : observation.queryStatus ≠ some .blocked := by
    intro blocked
    simp only [TemporalObservation.nonCompletionBlocker, blocked, if_true] at free
    split at free <;> cases free
  unfold TemporalObservation.failureReason
  rcases ends.ended with workflow | query
  · simp only [List.mem_cons, List.not_mem_nil, or_false] at workflow
    rcases workflow with workflow | workflow | workflow <;> exact ⟨_, by simp [workflow]; rfl⟩
  · simp only [List.mem_cons, List.not_mem_nil, or_false] at query
    have failed := query.resolve_right unblocked
    split
    · exact ⟨_, rfl⟩
    · split
      · exact ⟨_, rfl⟩
      · split
        · exact ⟨_, rfl⟩
        · exact ⟨_, rfl⟩

/-- A blocker of a row that does not review comes from a query. -/
theorem query_of_blocker (produces : row.reviews = false)
    (blocked : observation.blocker row = some blocker) :
    ∃ query, observation.query = some query := by
  unfold TemporalObservation.blocker at blocked
  have heard : observation.missingReviewOutcome row = false := by
    simp [TemporalObservation.missingReviewOutcome, produces]
  rw [heard, if_neg Bool.false_ne_true, TemporalObservation.nonCompletionBlocker] at blocked
  cases present : observation.query with
  | some query => exact ⟨query, rfl⟩
  | none => simp [TemporalObservation.queryStatus, present] at blocked

theorem storable_noted (session : Option String) (usage : Option UsageObservation)
    (packet : CloseoutPacket) :
    Storable texts (ledger.noted session usage) packet ↔ Storable texts ledger packet :=
  ⟨fun stored => ⟨stored.small, stored.free⟩, fun stored => ⟨stored.small, stored.free⟩⟩

theorem stageLog_spread {record added : JsonRecord}
    (kept : ∀ field ∈ added,
      field.1 ∉ ["user_stage_log", "stage_log_summary", "human_stage_log"]) :
    routeImpactHasStageLog (spread record added) = routeImpactHasStageLog record := by
  unfold routeImpactHasStageLog
  simp only [List.mem_cons, List.not_mem_nil, or_false, not_or] at kept
  simp only [List.any_cons, List.any_nil]
  rw [field?_spread fun field present => (kept field present).1,
    field?_spread fun field present => (kept field present).2.1,
    field?_spread fun field present => (kept field present).2.2]

/-- The fields that a diagnostic adds to the route impact of a query. -/
theorem progressDiagnosticPacket_routeImpact (observation : TemporalObservation)
    (row : AttemptRow) (blocker : String) :
    let routeImpact :=
      (progressDiagnosticPacket observation row blocker).routeImpact.getD []
    routeImpactHasStageLog routeImpact = routeImpactHasStageLog (projectedRouteImpact observation) ∧
      field? routeImpact "stage_quality_cycle" =
        field? (projectedRouteImpact observation) "stage_quality_cycle" := by
  refine ⟨stageLog_spread ?_, field?_spread ?_⟩
  · simp
  · simp

theorem ingest_blocker_iff (ends : EndsWithoutCompletion ledger.row observation)
    (produces : ledger.row.reviews = false)
    (blocked : observation.blocker ledger.row = some blocker)
    (persisted : persistIngestedUsage (ledger.noted session usage).row observation.costSummary =
      .ok written) :
    (∃ settled, ingestStageAttemptCloseout texts (ledger.noted session usage)
      (progressDiagnosticPacket observation ledger.row blocker) observation.costSummary =
        .ok settled) ↔ BlockerAdmitted texts ledger observation blocker := by
  obtain ⟨query, present⟩ := query_of_blocker produces blocked
  have scope : observedScope observation = query.executionScope := by
    rw [observedScope, present, Option.bind_some]
  have ownScope := ends.scope query present
  rw [← scope] at ownScope
  have trimmed : ∀ snapshot ∈ observedScope observation,
      trim snapshot.scopeDigest = snapshot.scopeDigest := by
    intro snapshot carried
    rw [carried, Option.map_some] at ownScope
    obtain ⟨own, ofRow, same⟩ := Option.map_eq_some_iff.1 ownScope.symm
    have digest : own.scopeDigest = snapshot.scopeDigest := congrArg Prod.fst same
    rw [← digest]
    exact ends.digest own ofRow
  obtain ⟨packet, read, sent⟩ := (progressDiagnosticPacket_own trimmed).read
  obtain ⟨log, envelope⟩ := progressDiagnosticPacket_routeImpact observation ledger.row blocker
  have attempt : packet.stageAttemptId = trimmedText (some ledger.row.stageAttemptId) := by
    have concerned := ends.concerned
    simp only [concerns, Bool.and_eq_true, decide_eq_true_eq] at concerned
    rw [sent.stageAttemptId, concerned.1.1]
    rfl
  have run : packet.stageRunId = trimmedText ledger.row.stageRunId := by
    rw [sent.stageRunId]
    change trimmedText ((observation.query.bind TemporalQuery.stageRunId).filter (· ≠ "")) = _
    rw [present, Option.bind_some, ends.run query present, trimmedText_filter]
  have identity : requireFamilyRuntimeIngressIdentity ledger.row.identity packet.ingress = .ok () ↔
      LineageComplete ledger.row := by
    refine requireIngress_own_iff ends.resolved attempt run ?_ ?_ ends.digest
    · rw [sent.executionScope, ownScope]
    · rw [sent.executionScope, sent.scopeDigest]
  have admits : validateCloseoutPacketForAttempt packet ledger.row.identity = .ok () ↔ _ :=
    validateCloseoutPacketForAttempt_iff (fun named carried => by rw [← carried, attempt])
      sent.idempotencyKey (sent.unlogged ⟨rfl, rfl, rfl⟩)
  have routes : (∃ normalized, normalizeRouteImpact packet ledger.row = .ok normalized) ↔ _ :=
    normalizeRouteImpact_ok_iff produces
  rw [ingest_ok_iff read sent.domainOutput persisted, storable_noted]
  refine (and_congr admits (and_congr_left' routes)).trans ?_
  rw [identity, StageLogged, SilentEnvelope, sent.routeImpact, log, envelope]
  constructor
  · rintro ⟨⟨lineage, logged⟩, silent, stored⟩
    refine ⟨lineage, logged, silent, ?_⟩
    intro other readOther
    obtain rfl := Except.ok.inj (read.symm.trans readOther)
    exact stored
  · intro admitted
    exact ⟨⟨admitted.lineage, admitted.log⟩, admitted.envelope, admitted.stored packet read⟩

theorem ingest_failure_iff {session : Option String} {usage : Option UsageObservation}
    {failureReason : String} {written : AttemptRow}
    (ends : EndsWithoutCompletion ledger.row observation) (produces : ledger.row.reviews = false)
    (persisted : persistIngestedUsage (ledger.noted session usage).row observation.costSummary =
      .ok written) :
    (∃ settled, ingestStageAttemptCloseout texts (ledger.noted session usage)
      (failureDiagnosticPacket observation ledger.row failureReason) observation.costSummary =
        .ok settled) ↔ FailureAdmitted texts ledger observation failureReason := by
  obtain ⟨packet, read, sent⟩ :=
    (failureDiagnosticPacket_own observation ledger.row failureReason).read
  have identity : requireFamilyRuntimeIngressIdentity ledger.row.identity packet.ingress = .ok () ↔
      ledger.row.scope.snapshot? = none :=
    requireIngress_anonymous_iff ends.resolved sent.stageAttemptId sent.stageRunId
      sent.executionScope sent.scopeDigest
  have unnamed : packet.stageAttemptId = none := sent.stageAttemptId
  have admits : validateCloseoutPacketForAttempt packet ledger.row.identity = .ok () ↔ _ :=
    validateCloseoutPacketForAttempt_iff (by simp [unnamed]) sent.idempotencyKey
      (sent.unlogged ⟨rfl, rfl, rfl⟩)
  have routes : (∃ normalized, normalizeRouteImpact packet ledger.row = .ok normalized) ↔ _ :=
    normalizeRouteImpact_ok_iff produces
  -- The route impact of a failure has neither a log nor an envelope.
  have log : routeImpactHasStageLog (packet.routeImpact.getD []) = routeImpactHasStageLog [] := by
    rw [sent.routeImpact]
    rfl
  have silent : SilentEnvelope ledger.row (packet.routeImpact.getD []) := by
    rw [sent.routeImpact]
    exact fun _ => ⟨rfl, rfl⟩
  rw [ingest_ok_iff read sent.domainOutput persisted, storable_noted]
  refine (and_congr admits (and_congr_left' routes)).trans ?_
  rw [identity, StageLogged, log]
  constructor
  · rintro ⟨⟨scopeless, logged⟩, -, stored⟩
    refine ⟨scopeless, logged, ?_⟩
    intro other readOther
    obtain rfl := Except.ok.inj (read.symm.trans readOther)
    exact stored
  · intro admitted
    exact ⟨⟨admitted.scopeless, admitted.log⟩, silent, admitted.stored packet read⟩

/-! ## The exits of a live attempt -/

theorem settleObservation_iff {exit : TerminalExit}
    (chosen : terminalExit ledger.row observation = .ok exit) :
    ((settleObservation texts observation ledger).thrown = none ∧
      (settleObservation texts observation ledger).ledger.row.status ∈ terminalStatuses) ↔
      ∃ settled, applyExit texts ledger observation exit = .ok settled ∧
        settled.row.status ∈ terminalStatuses := by
  unfold settleObservation
  rw [chosen]
  simp only [bind, Except.bind]
  cases applied : applyExit texts ledger observation exit with
  | error failure => simp
  | ok settled => simp

theorem ingested_status {sent : SentPacket} {costSummary : Option CostSummary} {settled : Ledger}
    (ingested : ingestStageAttemptCloseout texts ledger sent costSummary = .ok settled) :
    settled.row.status ∈ terminalStatuses := by
  obtain ⟨packet, -, completed, -⟩ := (ingestStageAttemptCloseout_ok ingested).receipt
  rw [completed]
  exact List.mem_cons_self

/-- An ingest that ends a call succeeds exactly when the call absorbs the observation. -/
theorem ingest_absorbs_iff {sent : SentPacket} {costSummary : Option CostSummary} :
    (∃ settled, ingestStageAttemptCloseout texts ledger sent costSummary = .ok settled ∧
      settled.row.status ∈ terminalStatuses) ↔
      ∃ settled, ingestStageAttemptCloseout texts ledger sent costSummary = .ok settled := by
  constructor
  · rintro ⟨settled, ingested, -⟩
    exact ⟨settled, ingested⟩
  · rintro ⟨settled, ingested⟩
    exact ⟨settled, ingested, ingested_status ingested⟩

theorem EndsWithoutCompletion.exit (ends : EndsWithoutCompletion ledger.row observation)
    (session : Option String) (usage : Option UsageObservation) :
    terminalExit (ledger.noted session usage).row observation =
      .ok (openExit ledger.row observation none) := by
  have openRow : ledger.row.closedOut = false := by simp [AttemptRow.closedOut, ends.live]
  rw [terminalExit_noted, terminalExit_eq ends.read, openRow, if_neg Bool.false_ne_true]

theorem settle_blocker_iff (ends : EndsWithoutCompletion ledger.row observation)
    (blocked : observation.blocker ledger.row = some blocker)
    (persisted : persistIngestedUsage (ledger.noted session usage).row observation.costSummary =
      .ok written) :
    (∃ settled, applyExit texts (ledger.noted session usage) observation
      (openExit ledger.row observation none) = .ok settled ∧
        settled.row.status ∈ terminalStatuses) ↔
      (ledger.row.reviews = false → isRuntimeHardStopReason blocker = false →
        BlockerAdmitted texts ledger observation blocker) := by
  rw [openExit, blocked]
  dsimp only
  by_cases soft : ledger.row.reviews = false ∧ isRuntimeHardStopReason blocker = false
  · rw [if_pos soft]
    refine ingest_absorbs_iff.trans ((ingest_blocker_iff ends soft.1 blocked persisted).trans ?_)
    exact ⟨fun admitted _ _ => admitted, fun admitted => admitted soft.1 soft.2⟩
  · rw [if_neg soft, if_pos ends.live]
    refine iff_of_true ⟨_, rfl, by simp [blockedRow, terminalStatuses]⟩ ?_
    intro produces mild
    exact absurd ⟨produces, mild⟩ soft

theorem settle_failure_iff {failureReason : String}
    (ends : EndsWithoutCompletion ledger.row observation)
    (free : observation.blocker ledger.row = none)
    (failed : observation.failureReason = some failureReason)
    (persisted : persistIngestedUsage (ledger.noted session usage).row observation.costSummary =
      .ok written) :
    (∃ settled, applyExit texts (ledger.noted session usage) observation
      (openExit ledger.row observation none) = .ok settled ∧
        settled.row.status ∈ terminalStatuses) ↔
      (ledger.row.reviews = false → failureReason ≠ "temporal_workflow_canceled" →
        FailureAdmitted texts ledger observation failureReason) := by
  rw [openExit, free, failed]
  dsimp only
  by_cases soft : ledger.row.reviews = false ∧ failureReason ≠ "temporal_workflow_canceled"
  · rw [if_pos soft]
    have admitted := @ingest_failure_iff texts ledger observation session usage failureReason _
      ends soft.1 persisted
    constructor
    · rintro ⟨settled, applied, -⟩ - -
      simp only [applyExit, bind_eq_ok] at applied
      obtain ⟨ingested, accepted, -⟩ := applied
      exact admitted.1 ⟨ingested, accepted⟩
    · intro holds
      obtain ⟨ingested, accepted⟩ := admitted.2 (holds soft.1 soft.2)
      have status := ingested_status accepted
      refine ⟨{ ingested with row := { ingested.row with
        providerRun := failureProviderRun ledger.row.providerRun observation failureReason } },
        ?_, status⟩
      simp only [applyExit, bind_eq_ok, pure_eq_ok]
      exact ⟨ingested, accepted, rfl⟩
  · rw [if_neg soft]
    refine iff_of_true ⟨_, rfl, by simp [failedRow, terminalStatuses]⟩ ?_
    intro produces other
    exact absurd ⟨produces, other⟩ soft

theorem settle_absorbs_iff (ends : EndsWithoutCompletion ledger.row observation)
    (persisted : persistIngestedUsage (ledger.noted session usage).row observation.costSummary =
      .ok written)
    (fits : ledger.row.codexCli = true → UsageFits ledger.row observation.costSummary) :
    ((settleObservation texts observation (ledger.noted session usage)).thrown = none ∧
      (settleObservation texts observation (ledger.noted session usage)).ledger.row.status ∈
        terminalStatuses) ↔ AbsorptionHolds texts ledger observation := by
  rw [settleObservation_iff (ends.exit session usage)]
  cases blocked : observation.blocker ledger.row with
  | some blocker =>
    rw [settle_blocker_iff ends blocked persisted]
    constructor
    · intro admitted
      refine ⟨fits, ?_, ?_⟩
      · intro other present
        rw [blocked] at present
        obtain rfl := Option.some.inj present
        exact admitted
      · intro free
        rw [blocked] at free
        exact absurd free nofun
    · intro holds
      exact holds.blocker blocker blocked
  | none =>
    obtain ⟨failureReason, failed⟩ := ends.failed blocked
    rw [settle_failure_iff ends blocked failed persisted]
    constructor
    · intro admitted
      refine ⟨fits, ?_, ?_⟩
      · intro other present
        rw [blocked] at present
        exact absurd present nofun
      · intro _ other present
        rw [failed] at present
        obtain rfl := Option.some.inj present
        exact admitted
    · intro holds
      exact holds.failure blocked failureReason failed

/-- On the recorded session, a call first persists the usage and then settles. -/
theorem EndsWithoutCompletion.sync (ends : EndsWithoutCompletion ledger.row observation) :
    syncStageAttemptFromTemporalTerminalObservation texts ledger observation =
      .continue ledger (persistIngestedUsage ledger.row observation.costSummary)
        (settleObservation texts observation) := by
  have attached : persistExecutionSessionRef ledger.row observation = .ok ledger.row := by
    unfold persistExecutionSessionRef
    cases named : observation.executionSessionRef with
    | none => rfl
    | some session =>
      have recorded := ends.session session named
      dsimp only
      rw [if_neg (by simp [recorded]), ← recorded]
  obtain ⟨noted, -⟩ := persistExecutionSessionRef_again attached
  unfold syncStageAttemptFromTemporalTerminalObservation
  rw [if_neg (by simp [ends.concerned]), if_neg ends.resolved, attached]
  simp only [Synced.continue]
  rw [persistObservedUsage_eq noted]

end

/-- A workflow that ends without a completion is absorbed exactly when the usage fits and
the diagnostic, where one is due, is admitted. -/
theorem absorbs_iff (texts : Texts) (ledger : Ledger) (observation : TemporalObservation)
    (ends : EndsWithoutCompletion ledger.row observation) :
    Absorbs texts ledger observation ↔ AbsorptionHolds texts ledger observation := by
  unfold Absorbs
  rw [ends.sync]
  cases measured : persistIngestedUsage ledger.row observation.costSummary with
  | error failure =>
    refine iff_of_false (by simp [Synced.continue]) ?_
    intro holds
    obtain ⟨written, persisted⟩ := persistIngestedUsage_ok_iff.2 holds.usage
    rw [measured] at persisted
    cases persisted
  | ok row =>
    have fits := persistIngestedUsage_ok_iff.1 ⟨row, measured⟩
    obtain ⟨-, again⟩ := persistIngestedUsage_again measured
    obtain ⟨session, usage, rfl⟩ := persistIngestedUsage_ok measured
    exact settle_absorbs_iff ends again fits

/-! ## A failed work item -/

theorem absorbs_canceledWorkflow :
    EndsWithoutCompletion runningLedger.row canceledWorkflow ∧
    (Absorbs shortTexts runningLedger canceledWorkflow ↔
      AbsorptionHolds shortTexts runningLedger canceledWorkflow) := by
  have ends : EndsWithoutCompletion runningLedger.row canceledWorkflow :=
    ⟨by decide, by decide, by decide, by decide, by decide, by decide, by decide, by decide⟩
  exact ⟨ends, absorbs_iff shortTexts runningLedger canceledWorkflow ends⟩

def workItemScope : ScopeSnapshot where
  scopeDigest := "sha256:9f2b61c0d4e87a35b1f04c6d8e92a7503bc1d5e6f708192a3b4c5d6e7f801923"
  binding := "redcube/artifact-7"
  location := "/tmp/redcube-runtime"

def workItemLedger : Ledger :=
  ⟨{ executorRow .running [] none with
      stageRunId := some "run_1", scope := .workItem workItemScope }, []⟩

/-- A failed workflow of a work item, whose query can no longer be read. -/
def failedWithoutQuery : TemporalObservation :=
  { failedWorkflow with query := none }

/-- The diagnostic of a failure names no lineage, and so a work item turns it away. -/
theorem failed_work_item_not_absorbed :
    EndsWithoutCompletion workItemLedger.row failedWithoutQuery ∧
    ¬Absorbs shortTexts workItemLedger failedWithoutQuery := by
  have ends : EndsWithoutCompletion workItemLedger.row failedWithoutQuery :=
    ⟨by decide, by decide, by decide +kernel, by decide, by decide, by decide, by decide, by decide⟩
  refine ⟨ends, ?_⟩
  rintro ⟨thrown, -⟩
  have throws : (syncStageAttemptFromTemporalTerminalObservation shortTexts workItemLedger
      failedWithoutQuery).thrown ≠ none := by decide +kernel
  exact throws thrown

end OnePersonLab.Attempt
