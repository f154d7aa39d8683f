import OnePersonLab.Evolution.ActivationSafety
import OnePersonLab.Evolution.OwnerEvents
import OnePersonLab.Evolution.SnapshotBindings

/-!
# Inspections do not fail

An inspection replays the log of a run and reads back what the run came to: its
version, the decisions of its owners and its activation. On a log that the
kernel wrote every check of the readback passes, also while other operations
move the stores on. Two versions of one target whose digests collide would
confuse the registry, so the stores are assumed to hold none.
-/

namespace OnePersonLab.Evolution.Kernel

open Contract Lib

variable {kernel : FoundryKernel} {world after : World} {request : DesignRequest} {α β : Type}
  {events : List FoundryRunEvent} {run : FoundryRunSnapshot} {inspection : FoundryRunInspection}
  {transition : TransitionInput} {occurredAt : String}

/-! ## Versions are their digests -/

/-- The digest does not collide on the registered versions of a target. -/
def VersionsDistinct (platform : Platform) (world : World) : Prop :=
  ∀ targetAgentId targetDomainId,
    ∀ version ∈ (world.registry.state targetAgentId targetDomainId).versions,
    ∀ other ∈ (world.registry.state targetAgentId targetDomainId).versions,
      platform.digest (.object version.base) = platform.digest (.object other.base) →
        version.base = other.base

theorem AgentVersion.ext_base {version other : AgentVersion} (base : version.base = other.base)
    (digest : version.versionDigest = other.versionDigest) : version = other := by
  cases version
  cases other
  simp_all [AgentVersion.base]

theorem TargetVersion.resolves {version : AgentVersion} (ofTarget : TargetVersion world request version)
    (invariant : KernelInvariant kernel world) (distinct : VersionsDistinct kernel.platform world) :
    world.versionOf request.targetAgentId request.targetDomainId version.versionDigest =
      some version := by
  have found : (world.versionOf request.targetAgentId request.targetDomainId
      version.versionDigest).isSome = true :=
    List.find?_isSome.2 ⟨version, ofTarget.listed, by simp⟩
  obtain ⟨other, found⟩ := Option.isSome_iff_exists.1 found
  have listed := List.mem_of_find?_eq_some found
  have same : other.versionDigest = version.versionDigest := RegistryState.versionOf_digest found
  have sealed := (invariant.registries request.targetAgentId request.targetDomainId).sealed
  have base := distinct _ _ other listed version ofTarget.listed
    (by rw [← sealed other listed, ← sealed version ofTarget.listed, same])
  rw [found, AgentVersion.ext_base base same]

theorem TargetVersion.extend {version : AgentVersion} (ofTarget : TargetVersion world request version)
    (grown : world.Extends after) : TargetVersion after request version :=
  { ofTarget with listed := (grown.versions _ _).subset ofTarget.listed }

/-! ## Programs that only read -/

/-- The stores grow as the kernel lets them, and no digests of versions collide. -/
def collisionFree (kernel : FoundryKernel) : Discipline World where
  extends_ := World.Extends
  invariant world := KernelInvariant kernel world ∧ VersionsDistinct kernel.platform world
  refl := World.Extends.refl
  trans := World.Extends.trans

/-- The program returns what satisfies `facts` where every call is answered. -/
abbrev Succeeds (kernel : FoundryKernel) (facts : α → World → Prop) (program : KernelProgram α)
    (world : World) : Prop :=
  Returns (servingMachine kernel.platform) (collisionFree kernel) facts program world

section Rules

variable {facts : α → World → Prop}

theorem succeeds_check_bind {checked : Checked β} {value : β} {f : β → KernelProgram α}
    (passes : checked = .ok value) (next : Succeeds kernel facts (f value) world) :
    Succeeds kernel facts (check checked >>= f) world := by
  subst passes
  exact next

theorem succeeds_ensure_bind {condition : Prop} [Decidable condition] {message : String}
    {f : Unit → KernelProgram α} (holds : condition) (next : Succeeds kernel facts (f ()) world) :
    Succeeds kernel facts (check (ensure condition message) >>= f) world :=
  succeeds_check_bind (ensure_eq_ok.2 holds) next

/-- A call that reads: every later world answers it and stays as it is. -/
theorem succeeds_ask_bind {request : KernelRequest} {f : KernelResponse request → KernelProgram α}
    (next : ∀ current, (collisionFree kernel).Later world current → ∃ response,
      current.serve kernel.platform request = some (current, .ok response) ∧
        Succeeds kernel facts (f response) current) :
    Succeeds kernel facts (ask request >>= f) world := by
  refine ⟨fun _ current later after answer performed => ?_⟩
  obtain ⟨response, served, rest⟩ := next current later
  have answered : after = current ∧ answer = .ok response := by
    cases performed with
    | served done =>
      obtain ⟨rfl, rfl⟩ := Prod.mk.inj (Option.some.inj (served.symm.trans done))
      exact ⟨rfl, rfl⟩
    | answered unserved => exact absurd (served.symm.trans unserved) nofun
  obtain ⟨rfl, rfl⟩ := answered
  exact ⟨⟨(collisionFree kernel).refl _, later.invariant⟩, rest.safe later.invariant⟩

theorem succeeds_object {kind : FoundryObject → Option β} {digest label : String}
    {stored : FoundryObject} {value : β} (found : world.objects digest = some stored)
    (read : kind stored = some value) :
    Succeeds kernel (fun returned _ => returned = value) (object kind digest label) world := by
  refine succeeds_ask_bind fun current later =>
    ⟨some stored, congrArg (fun found => some (current, Except.ok found))
      (later.extends_.objects found), ?_⟩
  simp only [read]
  exact Returns.pure fun _ => rfl

end Rules

/-! ## The completion of an activation -/

theorem Justified.completion_cases (justified : Justified kernel world inspection transition) :
    (∃ result authority, inspection.run.state = .activating ∧
        Completes world inspection result authority ∧
        transition = Kernel.activationCompleted inspection.run result authority) ∨
      transition.eventType ≠ "activation_completed" ∧ transition.toState ≠ .completedActive := by
  cases justified with
  | activationCompleted result authority state completes =>
    exact .inl ⟨result, authority, state, completes, rfl⟩
  | blueprintAdmitted _ _ _ _ _ admitted =>
    obtain ⟨eventType, toState, -⟩ := blueprintAdmitted_eq_ok admitted
    simp [eventType, toState]
  | canaryPassed =>
    unfold Kernel.canaryPassed
    refine .inr ⟨by simp, ?_⟩
    dsimp only
    split <;> simp
  | evaluationRejected =>
    unfold Kernel.evaluationRejected
    refine .inr ⟨?_, ?_⟩ <;> dsimp only <;> split
    · simp
    · split <;> simp
    · simp
    · simp
  | qualificationRouted =>
    unfold Kernel.qualificationRouted
    split
    · simp
    · split <;> simp
  | @ownerDecided canary decision =>
    cases canary <;> cases decision <;> simp [Kernel.ownerDecided, OwnerVerdict.eventType]
  | _ => exact .inr ⟨by simp [Kernel.candidateMaterialized, Kernel.candidateQualified,
      Kernel.evolutionNoChange, Kernel.proposalAdmitted, Kernel.runCancelled, quarantinedTransition,
      failedTransition], by rintro ⟨⟩⟩

/-- The events that complete an activation, as the readback looks for them. -/
def completions (events : List FoundryRunEvent) : List FoundryRunEvent :=
  events.filter fun event => event.eventType = "activation_completed"

/-- How a log completed its activation: with its last event. -/
structure Completed (kernel : FoundryKernel) (world : World) (request : DesignRequest)
    (events : List FoundryRunEvent) (event : FoundryRunEvent) : Prop where
  made : ∃ earlier inspection result authority occurredAt,
    events = earlier ++ [event] ∧ KernelLog kernel world request earlier ∧
      IsSnapshot earlier inspection.run ∧ inspection.run.state = .activating ∧
      inspection.request = request ∧ Completes world inspection result authority ∧
      event = transitionEvent kernel inspection
        (activationCompleted inspection.run result authority) occurredAt

theorem KernelLog.completions_cases (log : KernelLog kernel world request events)
    (snapshot : IsSnapshot events run) :
    run.state ≠ .completedActive ∧ completions events = [] ∨
      run.state = .completedActive ∧
        ∃ event, completions events = [event] ∧ Completed kernel world request events event := by
  refine log.snapshot_induction (motive := fun events run => run.state ≠ .completedActive ∧
    completions events = [] ∨ run.state = .completedActive ∧
      ∃ event, completions events = [event] ∧ Completed kernel world request events event)
    ?_ ?_ snapshot
  · intro runId requestDigest activation occurredAt run opening
    obtain ⟨last, ends, -, state, -⟩ := opening.last
    obtain rfl := Option.some.inj ends
    exact .inl ⟨by rw [state]; exact nofun, rfl⟩
  · intro earlier inspection transition occurredAt written before same justified follows ih
    -- nothing follows a completed activation
    have running : inspection.run.state ≠ .completedActive ∧ completions earlier = [] := by
      refine ih.resolve_right fun ⟨ended, _⟩ => ?_
      obtain ⟨last, ends, -, state, -⟩ := before.last
      have allowed := (follows.allowed ends).1
      rw [← state, ended] at allowed
      simp [FoundryRunState.allowedTransitions] at allowed
    rw [completions, List.filter_append, ← completions, running.2, List.nil_append]
    rcases justified.completion_cases with ⟨result, authority, state, completes, rfl⟩ |
      ⟨eventType, toState⟩
    · exact .inr ⟨rfl, _, by simp [Kernel.activationCompleted], ⟨earlier, inspection, result,
        authority, occurredAt, rfl, written, before, state, same, completes, rfl⟩⟩
    · exact .inl ⟨toState, by simp [eventType]⟩

/-- A run under activation was approved by its last event, unless its risk asks
for no approval. -/
theorem KernelLog.activation_cases (log : KernelLog kernel world request events)
    (snapshot : IsSnapshot events run) (state : run.state = .activating) :
    (ownerGatePolicyOf run.riskTier).activeOwnerRequired = false ∨
      ∃ earlier inspection verification occurredAt,
        OwnerTransition kernel world inspection verification
          (ownerDecided false .approve verification) ∧
        verification.receipt.action = .approveActive ∧
        events = earlier ++ [transitionEvent kernel inspection
          (ownerDecided false .approve verification) occurredAt] := by
  revert state
  refine log.snapshot_induction (motive := fun events run => run.state = .activating →
    (ownerGatePolicyOf run.riskTier).activeOwnerRequired = false ∨
      ∃ earlier inspection verification occurredAt,
        OwnerTransition kernel world inspection verification
          (ownerDecided false .approve verification) ∧
        verification.receipt.action = .approveActive ∧
        events = earlier ++ [transitionEvent kernel inspection
          (ownerDecided false .approve verification) occurredAt]) ?_ ?_ snapshot
  · intro runId requestDigest activation occurredAt run opening state
    obtain ⟨last, ends, -, accepted, -⟩ := opening.last
    obtain rfl := Option.some.inj ends
    rw [accepted] at state
    cases state
  · intro earlier inspection transition occurredAt _ _ _ justified _ _ state
    rw [after_state] at state
    cases justified with
    | @canaryPassed _ journaled =>
      left
      simpa [Kernel.canaryPassed, evidencePayload, overlayRiskTier, field?_cons] using state
    | @ownerDecided canary decision _ _ verification current named verifies =>
      right
      obtain ⟨rfl, rfl⟩ : canary = false ∧ decision = .approve := by
        cases canary <;> cases decision <;> first | exact ⟨rfl, rfl⟩ | cases state
      exact ⟨earlier, inspection, verification, occurredAt, .decided current named verifies,
        verifies.receipt.2.1, rfl⟩
    | blueprintAdmitted _ _ _ _ _ admitted =>
      rw [(blueprintAdmitted_eq_ok admitted).2.1] at state
      cases state
    | evaluationRejected =>
      unfold Kernel.evaluationRejected at state
      dsimp only at state
      split at state <;> cases state
    | qualificationRouted =>
      unfold Kernel.qualificationRouted at state
      split at state
      · cases state
      · split at state <;> cases state
    | _ => cases state

theorem OwnerTransition.authority {verification : OwnerGateVerification}
    (given : OwnerTransition kernel world inspection verification transition) :
    ownerAuthorityOf (transitionEvent kernel inspection transition occurredAt) =
      .ok ⟨verification.receipt.receiptRef, verification.receipt.receiptDigest⟩ := by
  obtain ⟨value, verifies, payload, -⟩ := given.receipt
  obtain ⟨canonical, -⟩ := verifies.receipt
  obtain ⟨trimmed, solid⟩ := canonical.trim_ref
  have expected : ownerAuthorityReceiptRef verification.receipt.receiptDigest =
      .ok verification.receipt.receiptRef :=
    ownerAuthorityReceiptRef_eq_ok.2 ⟨canonical.wellFormed, canonical.ref.symm⟩
  simp [ownerAuthorityOf, payload, ownerVerificationPayload, field?_cons,
    requiredDigest_of_wellFormed canonical.wellFormed, requiredRef_of_trim trimmed solid, expected]

/-! ## The readback -/

theorem KernelLog.ownerDecisionReadbacks (log : KernelLog kernel world request events) :
    ∃ decisions, ownerDecisionReadbacks events = .ok decisions := by
  refine exists_mapEach_eq_ok fun event listed => ?_
  obtain ⟨listed, owner⟩ := List.mem_filter.1 listed
  obtain ⟨_, _, _, _, _, _, _, _, _, given, rfl⟩ := log.owner_event listed owner
  obtain ⟨readback, read, -⟩ := given.readback _
  exact ⟨readback, read⟩

/-- The last owner event, read back, is the active approval if it approves the activation. -/
theorem activeApproval_of_last {earlier rest : List FoundryRunEvent} {event : FoundryRunEvent}
    {decisions : List FoundryOwnerDecisionReadback} {readback : FoundryOwnerDecisionReadback}
    (read : ownerDecisionReadbacks (earlier ++ event :: rest) = .ok decisions)
    (owner : ownerDecisionEvent event = true)
    (others : ∀ other ∈ rest, ownerDecisionEvent other = false)
    (here : ownerDecisionReadback event = .ok readback) (approves : readback.action = "approve_active") :
    activeApproval decisions = some readback := by
  have silent : rest.filter ownerDecisionEvent = [] :=
    List.filter_eq_nil_iff.2 fun other listed => by simp [others other listed]
  rw [Kernel.ownerDecisionReadbacks, List.filter_append, List.filter_cons, owner, if_pos rfl,
    silent, mapEach_eq_ok, ← List.forall₂_reverse_iff, List.reverse_append] at read
  rw [activeApproval]
  generalize decisions.reverse = reversed at read
  obtain ⟨rfl⟩ := reversed
  · cases read
  · rename_i found _
    cases read with
    | cons first _ =>
      obtain rfl : readback = found := Except.ok.inj (here.symm.trans first)
      simp [approves]

/-- The active approval that was read back is the authority of the activation,
where the risk of the run asks for one. -/
theorem Completes.approved {result : ActivationResult} {authority : Option OwnerAuthority}
    {log : List FoundryRunEvent} (completes : Completes world inspection result authority)
    (written : KernelLog kernel world request events) (snapshot : IsSnapshot events inspection.run)
    (state : inspection.run.state = .activating)
    (recorded : world.events.runs inspection.run.runId = some log)
    (verified : Verified kernel.platform log)
    (within : events ++ [transitionEvent kernel inspection
      (activationCompleted inspection.run result authority) occurredAt] <+: log)
    {decisions : List FoundryOwnerDecisionReadback}
    (read : ownerDecisionReadbacks (events ++ [transitionEvent kernel inspection
      (activationCompleted inspection.run result authority) occurredAt]) = .ok decisions)
    (owned : (ownerGatePolicyOf inspection.run.riskTier).activeOwnerRequired = true) :
    ∃ approval ∈ activeApproval decisions,
      result.transaction.authorityReceiptRef = some approval.receiptRef := by
  obtain ⟨earlier, inspection', verification, occurredAt', given, action, rfl⟩ :=
    (written.activation_cases snapshot state).resolve_left (by simp [owned])
  obtain ⟨readback, here, receiptRef, approves⟩ := given.readback occurredAt'
  refine ⟨readback, ?_, ?_⟩
  · rw [List.append_assoc] at read
    refine activeApproval_of_last read rfl (by simp [ownerDecisionEvent, activationCompleted]) here ?_
    rw [approves, action]
    rfl
  · -- the authority was read from a log between this one and the recorded one
    obtain ⟨log', later, recorded', shorter, enough, authorized⟩ := completes.authority
    obtain rfl : log = log' := Option.some.inj (recorded.symm.trans recorded')
    rw [snapshot.revision_eq written.verified] at enough
    have behind : earlier ++ [transitionEvent kernel inspection' (ownerDecided false .approve
        verification) occurredAt'] <+: later :=
      List.prefix_of_prefix_length_le ((List.prefix_append _ _).trans within) shorter enough
    have laterVerified : Verified kernel.platform later :=
      verified.of_prefix shorter fun empty => by simp [empty] at enough
    rw [latestOwnerAuthority_eq, lastApproval_settled laterVerified behind snapshot state,
      lastApproval_append, if_pos (by simp [approvalEvent, ownerDecided, OwnerVerdict.eventType,
        textField?, ownerVerificationPayload, field?_cons, Json.asString?])] at authorized
    simp only [given.authority, map_eq_ok] at authorized
    obtain ⟨_, granted, rfl⟩ := authorized
    obtain rfl := Except.ok.inj granted
    rw [completes.receipt, receiptRef]
    rfl

/-- What the readback finds of an activation that completed. -/
structure Receipted (world : World) (events : List FoundryRunEvent) (run : FoundryRunSnapshot)
    (event : FoundryRunEvent) (entry : CommittedTransaction) : Prop where
  listed : entry ∈ (world.registry.state run.targetAgentId run.targetDomainId).transactions
  transactionId : field? event.payload "activation_transaction_id" =
    some (.string entry.transactionId)
  version : some entry.toVersionDigest = run.versionDigest
  targetAgentId : entry.targetAgentId = run.targetAgentId
  targetDomainId : entry.targetDomainId = run.targetDomainId
  verification : field? event.payload "activation_runtime_binding_verification" =
    some entry.runtimeBindingVerification.toJson
  pure : scanForbidden entry.runtimeBindingVerification.toJson [] = []
  preflightRef : textField? event.payload "activation_runtime_preflight_ref" =
    some entry.runtimeBindingVerification.preflightRef
  runtimeBindingRef : textField? event.payload "activation_runtime_binding_ref" =
    some entry.runtimeBindingVerification.runtimeBindingRef
  approved : ∀ decisions, ownerDecisionReadbacks events = .ok decisions →
    (ownerGatePolicyOf run.riskTier).activeOwnerRequired = true →
    ∃ approval ∈ activeApproval decisions, entry.authorityReceiptRef = some approval.receiptRef

section

variable {event : FoundryRunEvent} {entry : CommittedTransaction} {log : List FoundryRunEvent}

theorem Receipted.extend (receipted : Receipted world events run event entry)
    (grown : world.Extends after) : Receipted after events run event entry :=
  { receipted with listed := (grown.transactions _ _).subset receipted.listed }

theorem Completed.receipted (completed : Completed kernel world request events event)
    (snapshot : IsSnapshot events run) (recorded : world.events.runs run.runId = some log)
    (verified : Verified kernel.platform log) (within : events <+: log) :
    ∃ entry, Receipted world events run event entry := by
  obtain ⟨earlier, inspection, result, authority, occurredAt, rfl, written, before, state, rfl,
    completes, rfl⟩ := completed.made
  obtain rfl := snapshot.unique (before.append _)
  obtain ⟨entry, listed, same⟩ := completes.recorded
  have identity := written.identity before
  have unrelated := unrelated_activationCompleted inspection.run result authority
  obtain ⟨-, -, version, risk⟩ := unrelated
  have payload : ∀ key, field? (transitionEvent kernel inspection
      (activationCompleted inspection.run result authority) occurredAt).payload key =
      field? (activationCompleted inspection.run result authority).payload key := fun _ => rfl
  refine ⟨entry, ⟨?_, ?_, ?_, ?_, ?_, ?_, ?_, ?_, ?_, fun decisions read owned => ?_⟩⟩
  · change entry ∈ (world.registry.state inspection.run.targetAgentId
      inspection.run.targetDomainId).transactions
    rw [identity.targetAgentId, identity.targetDomainId]
    exact listed
  · rw [payload, congrArg ActivationTransaction.transactionId same]
    simp [activationCompleted]
  · rw [after_versionDigest, overlayText, version, completes.version,
      congrArg ActivationTransaction.toVersionDigest same]
  · exact (congrArg ActivationTransaction.targetAgentId same).trans completes.targetAgentId
  · exact (congrArg ActivationTransaction.targetDomainId same).trans completes.targetDomainId
  · rw [payload, congrArg ActivationTransaction.runtimeBindingVerification same]
    simp [activationCompleted, field?_cons]
  · rw [congrArg ActivationTransaction.runtimeBindingVerification same]
    exact completes.pure
  · rw [congrArg ActivationTransaction.runtimeBindingVerification same, completes.verification]
    simp [textField?, activationCompleted, field?_cons, Json.asString?,
      buildRuntimeBindingVerification]
  · rw [congrArg ActivationTransaction.runtimeBindingVerification same]
    simp [textField?, activationCompleted, field?_cons, Json.asString?]
  · rw [congrArg ActivationTransaction.authorityReceiptRef same]
    rw [after_riskTier, overlayRiskTier, risk] at owned
    exact completes.approved written before state recorded verified within read owned

theorem Receipted.assertActivationReceipt (receipted : Receipted world events run event entry)
    {decisions : List FoundryOwnerDecisionReadback}
    (read : ownerDecisionReadbacks events = .ok decisions) :
    assertActivationReceipt kernel run decisions event entry.toActivationTransaction = .ok () := by
  obtain ⟨recorded, shape⟩ : ∃ recorded,
      entry.runtimeBindingVerification.toJson = .object recorded := ⟨_, rfl⟩
  have field := receipted.verification
  have clean := receipted.pure
  rw [shape] at field clean
  have digest : foundryContentDigest kernel.platform (.object recorded) =
      .ok (kernel.platform.digest (.object recorded)) := foundryContentDigest_eq_ok.2 ⟨clean, rfl⟩
  have approved : (ownerGatePolicyOf run.riskTier).activeOwnerRequired = true →
      ∃ approval ∈ activeApproval decisions,
        entry.toActivationTransaction.authorityReceiptRef = some approval.receiptRef :=
    receipted.approved decisions read
  simp only [Kernel.assertActivationReceipt, field, shape, digest, receipted.preflightRef,
    receipted.runtimeBindingRef, bind_eq_ok, ensure_eq_ok]
  exact ⟨_, rfl, _, rfl, (), ⟨rfl, trivial, trivial⟩, approved⟩

theorem succeeds_activationTransaction (receipted : Receipted world events run event entry)
    {decisions : List FoundryOwnerDecisionReadback}
    (read : ownerDecisionReadbacks events = .ok decisions) :
    Succeeds kernel (fun found _ => found = some entry.toActivationTransaction)
      (activationTransaction kernel run decisions (some event)) world := by
  have coherent := fun {current} (later : (collisionFree kernel).Later world current) =>
    (later.invariant.1.registries run.targetAgentId run.targetDomainId).toCoherent
  refine Returns.of_invariant fun initial => ?_
  have start : (collisionFree kernel).Later world world := ⟨World.Extends.refl world, initial⟩
  obtain ⟨trimmed, solid⟩ := (coherent start).trim_transactionId receipted.listed
  refine succeeds_check_bind (by rw [receipted.transactionId]; exact requiredRef_of_trim trimmed solid)
    (succeeds_ask_bind fun current later => ⟨_, rfl, ?_⟩)
  have receipted := receipted.extend later.extends_
  simp only [(coherent later).find_history receipted.listed]
  refine succeeds_ensure_bind ⟨receipted.version, receipted.targetAgentId,
    receipted.targetDomainId⟩ ?_
  exact succeeds_check_bind (receipted.assertActivationReceipt read) (Returns.pure fun _ => rfl)

theorem succeeds_qualifiedAgentVersion (bindings : Bindings kernel world request run)
    (identity : RunIdentity world request run) :
    Succeeds kernel (fun _ _ => True) (qualifiedAgentVersion run) world := by
  unfold qualifiedAgentVersion
  split
  · exact Returns.pure fun _ => trivial
  · rename_i versionDigest named
    obtain ⟨bound, solid⟩ := mem_present.1 named
    obtain ⟨version, rfl, ofTarget⟩ := bindings.earlierVersion versionDigest bound
    refine succeeds_ask_bind fun current later => ⟨some version, ?_, ?_⟩
    · have resolved := (ofTarget.extend later.extends_).resolves later.invariant.1 later.invariant.2
      rw [← identity.targetAgentId, ← identity.targetDomainId] at resolved
      have answer : (current.registry.state run.targetAgentId run.targetDomainId).resolveVersion
          (some version.versionDigest) = some version := by
        simpa [RegistryState.resolveVersion, World.versionOf, solid] using resolved
      exact congrArg (fun found => some (current, Except.ok found)) answer
    · refine succeeds_ensure_bind ⟨version, rfl, rfl, ?_, ?_⟩ (Returns.pure fun _ => trivial)
      · rw [identity.targetAgentId, ofTarget.targetAgentId]
      · rw [identity.targetDomainId, ofTarget.targetDomainId]

/-- The readback of a log that the kernel wrote does not fail. -/
theorem succeeds_buildFoundryRunTerminalReadback (written : KernelLog kernel world request events)
    (snapshot : IsSnapshot events run) (recorded : world.events.runs run.runId = some log)
    (within : events <+: log) {activation : ActivationPointer} :
    Succeeds kernel (fun _ _ => True)
      (buildFoundryRunTerminalReadback kernel run events activation) world := by
  refine (succeeds_qualifiedAgentVersion (written.bindings snapshot)
    (written.identity snapshot)).bind fun version current later _ => ?_
  obtain ⟨longer, recorded, longerThan⟩ := later.extends_.runs recorded
  have written := written.extend later.extends_
  have within := within.trans longerThan
  have verified : Verified kernel.platform longer :=
    (later.invariant.1.logs _ _ recorded).2.choose_spec.verified
  obtain ⟨decisions, read⟩ := written.ownerDecisionReadbacks
  refine succeeds_check_bind read ?_
  rcases written.completions_cases snapshot with ⟨running, none⟩ | ⟨ended, event, only, completed⟩
  · refine succeeds_ensure_bind (by rw [← completions, none]; simp) ?_
    refine succeeds_ensure_bind (by rw [← completions, none]; simp [running]) ?_
    rw [← completions, none]
    exact Returns.pure fun _ => trivial
  · obtain ⟨entry, receipted⟩ := completed.receipted snapshot recorded verified within
    refine succeeds_ensure_bind (by rw [← completions, only]; simp) ?_
    refine succeeds_ensure_bind (by rw [← completions, only]; simp [ended]) ?_
    rw [← completions, only]
    exact (succeeds_activationTransaction receipted read).bind fun _ _ _ _ =>
      Returns.pure fun _ => trivial

/-- A run on record can be inspected, whatever else happens in between. -/
theorem succeeds_inspectRun {runId : String} (recorded : world.events.runs runId = some log) :
    Succeeds kernel (fun _ _ => True) (inspectRun kernel runId) world := by
  refine succeeds_ask_bind fun first one => ⟨_, rfl, ?_⟩
  obtain ⟨events, recorded, -⟩ := one.extends_.runs recorded
  have read : first.events.read runId = events := by simp [EventStore.read, recorded]
  obtain ⟨named, request, written⟩ := one.invariant.1.logs runId events recorded
  have verified := written.verified
  obtain ⟨run, snapshot⟩ := exists_isSnapshot verified.ne_nil
  have sameRun : run.runId = runId := by
    obtain ⟨last, ends, same, -⟩ := snapshot.last
    exact same.trans (named last (List.mem_of_getLast? ends))
  rw [read]
  refine succeeds_ensure_bind verified.ne_nil ?_
  refine succeeds_check_bind (snapshotFromEvents_eq_ok.2 ⟨verified, snapshot⟩) ?_
  have identity := written.identity snapshot
  refine (succeeds_object identity.stored (asRequest_eq_some.2 rfl)).bind fun _ second two same => ?_
  subst same
  refine succeeds_ask_bind fun third three => ⟨_, rfl, ?_⟩
  have grown := two.extends_.trans three.extends_
  obtain ⟨longer, recorded, within⟩ := grown.runs recorded
  refine (succeeds_buildFoundryRunTerminalReadback (written.extend grown) snapshot
    (sameRun ▸ recorded) within).bind fun _ _ _ _ => Returns.pure fun _ => trivial

end

/-! ## Bindings are found -/

/-- What the stages of a run read of its bindings is found, in the states that
ask for it. -/
structure BindingsReadable (kernel : FoundryKernel) (world : World)
    (inspection : FoundryRunInspection) : Prop where
  blueprint : FoundryRunState.hasBlueprint inspection.run.state = true →
    Succeeds kernel (fun _ _ => True) (currentBlueprint inspection) world
  candidate : FoundryRunState.hasCandidate inspection.run.state = true →
    Succeeds kernel (fun _ _ => True) (currentCandidate kernel inspection) world
  evidence : FoundryRunState.hasEvidence inspection.run.state = true →
    Succeeds kernel (fun _ _ => True)
      (object asEvidence (inspection.run.evidenceDigest.getD "") "EvidenceBundle") world
  version : FoundryRunState.hasVersion inspection.run.state = true →
    Succeeds kernel (fun _ _ => True) (currentVersion inspection) world

theorem ne_empty_of_isSha256Digest {text : String} (wellFormed : isSha256Digest text = true) :
    text ≠ "" := by
  rintro rfl
  revert wellFormed
  decide

theorem present_of_isSha256Digest {text : String} (wellFormed : isSha256Digest text = true) :
    present (some text) = some text :=
  mem_present.2 ⟨rfl, ne_empty_of_isSha256Digest wellFormed⟩

theorem Bindings.readable (bindings : Bindings kernel world inspection.request inspection.run) :
    BindingsReadable kernel world inspection where
  blueprint reached := by
    obtain ⟨digest, blueprint, bound, wellFormed, stored⟩ := bindings.blueprint reached
    rw [currentBlueprint, bound, present_of_isSha256Digest wellFormed]
    exact (succeeds_object stored (asBlueprint_eq_some.2 rfl)).weaken fun _ _ _ _ => trivial
  candidate reached := by
    obtain ⟨candidate, recordDigest, bound, recorded, stored, digest, asserted⟩ :=
      bindings.candidate reached
    have recordWellFormed : isSha256Digest recordDigest = true :=
      (foundryContentDigest_eq_ok.1 digest).2 ▸ kernel.platform.digest_wellFormed _
    obtain ⟨-, -, -, -, wellFormed, -⟩ := ensure_eq_ok.1 asserted
    rw [currentCandidate, bound, recorded, present_of_isSha256Digest wellFormed,
      present_of_isSha256Digest recordWellFormed]
    have read : asCandidate (.candidate candidate) = some candidate := rfl
    refine (succeeds_object stored read).bind fun _ after _ same => ?_
    subst same
    exact succeeds_check_bind digest (succeeds_ensure_bind rfl (Returns.pure fun _ => trivial))
  evidence reached := by
    obtain ⟨digest, evidence, bound, stored, -⟩ := bindings.evidence reached
    rw [bound]
    exact (succeeds_object stored (asEvidence_eq_some.2 rfl)).weaken fun _ _ _ _ => trivial
  version reached := by
    obtain ⟨version, bound, ofTarget, -⟩ := bindings.version reached
    rw [currentVersion, bound, present_of_isSha256Digest ofTarget.wellFormed]
    refine succeeds_ask_bind fun current later => ⟨some version, ?_, Returns.pure fun _ => trivial⟩
    have resolved := (ofTarget.extend later.extends_).resolves later.invariant.1 later.invariant.2
    have answer : (current.registry.state inspection.request.targetAgentId
        inspection.request.targetDomainId).resolveVersion (some version.versionDigest) =
        some version := by
      simpa [RegistryState.resolveVersion, World.versionOf,
        ne_empty_of_isSha256Digest ofTarget.wellFormed] using resolved
    exact congrArg (fun found => some (current, Except.ok found)) answer

/-! ## Every run -/

/-- A snapshot that has what its state asks for. -/
structure WellFormedSnapshot (world : World) (run : FoundryRunSnapshot) : Prop where
  blueprint : FoundryRunState.hasBlueprint run.state = true →
    run.riskTier.isSome = true ∧ ∃ digest blueprint, run.blueprintDigest = some digest ∧
      world.objects digest = some (.blueprint blueprint)
  candidate : FoundryRunState.hasCandidate run.state = true → ∃ recordDigest candidate,
    run.candidateDigest = some candidate.candidateDigest ∧
      run.candidateRecordDigest = some recordDigest ∧
      world.objects recordDigest = some (.candidate candidate)
  evidence : FoundryRunState.hasEvidence run.state = true → ∃ digest evidence,
    run.evidenceDigest = some digest ∧ world.objects digest = some (.evidence evidence)
  version : FoundryRunState.hasVersion run.state = true → ∃ version,
    run.versionDigest = some version.versionDigest ∧
      world.versionOf run.targetAgentId run.targetDomainId version.versionDigest = some version ∧
      run.blueprintDigest = some version.blueprintDigest ∧
      run.candidateDigest = some version.candidateDigest

theorem Bindings.wellFormed (bindings : Bindings kernel world request run)
    (identity : RunIdentity world request run) (invariant : KernelInvariant kernel world)
    (distinct : VersionsDistinct kernel.platform world) : WellFormedSnapshot world run where
  blueprint reached := by
    obtain ⟨digest, blueprint, bound, -, stored⟩ := bindings.blueprint reached
    exact ⟨bindings.graded reached, digest, blueprint, bound, stored⟩
  candidate reached := by
    obtain ⟨candidate, recordDigest, bound, recorded, stored, -⟩ := bindings.candidate reached
    exact ⟨recordDigest, candidate, bound, recorded, stored⟩
  evidence reached := by
    obtain ⟨digest, evidence, bound, stored, -⟩ := bindings.evidence reached
    exact ⟨digest, evidence, bound, stored⟩
  version reached := by
    obtain ⟨version, bound, ofTarget, same⟩ := bindings.version reached
    refine ⟨version, bound, ?_, same⟩
    rw [identity.targetAgentId, identity.targetDomainId]
    exact ofTarget.resolves invariant distinct

/-- The log of a run is verified, its snapshot is well formed, every binding that
its state asks for is found, and an inspection of it does not fail. -/
structure RunWellFormed (kernel : FoundryKernel) (world : World) (runId : String)
    (log : List FoundryRunEvent) : Prop where
  verified : verifyFoundryEventChain kernel.platform log = .ok ()
  snapshot : ∃ run, snapshotFromEvents kernel.platform log = .ok run ∧ WellFormedSnapshot world run
  bindings : ∀ inspection : FoundryRunInspection,
    snapshotFromEvents kernel.platform log = .ok inspection.run →
    world.objects inspection.run.requestDigest = some (.request inspection.request) →
    BindingsReadable kernel world inspection
  inspected : Succeeds kernel (fun _ _ => True) (inspectRun kernel runId) world

def RunsWellFormed (kernel : FoundryKernel) (world : World) : Prop :=
  ∀ runId log, world.events.runs runId = some log → RunWellFormed kernel world runId log

end OnePersonLab.Evolution.Kernel
