import OnePersonLab.Evolution.KernelLog

/-!
# What each port call does to the invariant

`Allowed` is what the kernel must know to make a call, and `Answered` is what
it then knows of the answer. Most calls need nothing; an append needs a
justified event, the creation of a run an admitted request and the swap of the
activation pointer a run under activation.
-/

namespace OnePersonLab.Evolution.Kernel

open Contract Lib

variable {kernel : FoundryKernel} {world after : World}

abbrev Later (kernel : FoundryKernel) (world after : World) : Prop :=
  (kernelDiscipline kernel).Later world after

/-- What must be known before a call. -/
def Allowed (kernel : FoundryKernel) (world : World) : KernelRequest → Prop
  | .createEvents input => ∃ runId request requestDigest activation occurredAt,
    Admitted world runId request requestDigest ∧
      input.targetKey = targetKey request.targetAgentId request.targetDomainId ∧
      input.event = acceptanceEvent kernel runId request requestDigest activation occurredAt
  | .appendEvent input => ∃ events inspection transition occurredAt,
    Inspected world events inspection ∧ Justified kernel world inspection transition ∧
      input.targetKey =
        targetKey inspection.request.targetAgentId inspection.request.targetDomainId ∧
      input.expectedRevision = inspection.run.revision ∧
      input.event = transitionEvent kernel inspection transition occurredAt
  | .swapActivation input madeBy => MaySwap kernel world input madeBy
  | _ => True

variable {request : KernelRequest} {platform : Platform} {state : RegistryState}
  {madeBy : Option String} {store changed events : EventStore} {event : FoundryRunEvent}

theorem Allowed.extend (allowed : Allowed kernel world request) (grown : world.Extends after) :
    Allowed kernel after request := by
  cases request with
  | createEvents input =>
    obtain ⟨runId, request, requestDigest, activation, occurredAt, admitted, same⟩ := allowed
    exact ⟨runId, request, requestDigest, activation, occurredAt, admitted.extend grown, same⟩
  | appendEvent input =>
    obtain ⟨events, inspection, transition, occurredAt, inspected, justified, same⟩ := allowed
    exact ⟨events, inspection, transition, occurredAt, inspected.extend grown,
      justified.extend grown, same⟩
  | swapActivation input madeBy => exact MaySwap.extend allowed grown
  | _ => trivial

/-- A transaction on record that carries out an input, now or before. -/
structure Committed (world : World) (input : ActivationInput)
    (transaction : ActivationTransaction) : Prop where
  recorded : ∃ entry ∈ (world.registry.state input.targetAgentId
    input.targetDomainId).transactions, entry.toActivationTransaction = transaction
  version : transaction.toVersionDigest = input.versionDigest
  receipt : transaction.authorityReceiptRef = input.authorityReceiptRef
  verification : transaction.runtimeBindingVerification = input.runtimeBindingVerification

/-- What is known after a call that was answered. -/
def Answered (platform : Platform) (world : World) :
    (request : KernelRequest) → KernelResponse request → Prop
  | .putObject value, stored =>
    stored.digest = platform.digest value.toJson ∧ world.objects stored.digest = some value
  | .getObject digest, found => ∀ value ∈ found, world.objects digest = some value
  | .appendEvent input, _ => ∃ log, world.events.runs input.event.runId = some log ∧
      input.expectedRevision < log.length
  | .readEvents runId, log => world.events.read runId = log
  | .commitResult input, result => result.evidenceDigest = input.evidenceDigest
  | .registerVersion input, registered =>
    registered.version ∈
      (world.registry.state input.targetAgentId input.targetDomainId).versions
  | .swapActivation input _, transaction => Committed world input transaction
  | .resolveVersion ref targetAgentId targetDomainId, found =>
    ∀ versionDigest ∈ present ref,
      world.versionOf targetAgentId targetDomainId versionDigest = found
  | .verifyOwner _, verification => verification ∈ world.verifications
  | .createRunId, runId => trim runId = runId
  | _, _ => True

/-! ## Single stores -/

theorem putObject_eq_ok {objects changed : StringMap FoundryObject} {value : FoundryObject}
    {stored : StoredObject} (put : putObject platform objects value = .ok (changed, stored)) :
    stored.digest = platform.digest value.toJson ∧ changed stored.digest = some value ∧
      ∀ {digest known}, objects digest = some known → changed digest = some known := by
  simp only [putObject, bind_eq_ok, foundryContentDigest_eq_ok] at put
  obtain ⟨digest, ⟨-, hashed⟩, put⟩ := put
  cases found : objects digest with
  | none =>
    simp only [found, pure_eq_ok, Prod.mk.injEq] at put
    obtain ⟨rfl, rfl⟩ := put
    refine ⟨hashed.symm, by simp, fun {other known} recorded => ?_⟩
    have different : other ≠ digest := by
      rintro rfl
      rw [found] at recorded
      cases recorded
    simpa [Function.update_of_ne different] using recorded
  | some existing =>
    simp only [found, bind_eq_ok, ensure_eq_ok, pure_eq_ok, Prod.mk.injEq] at put
    obtain ⟨_, rfl, rfl, rfl⟩ := put
    exact ⟨hashed.symm, found, id⟩

theorem materializeFoundryOperationResult_evidenceDigest
    {identity : FoundryEvaluationOperationIdentity}
    {evidenceDigest evidenceRef completedAt : String} {result : FoundryOperationResult}
    (made : materializeFoundryOperationResult platform identity evidenceDigest evidenceRef
      completedAt = .ok result) : result.evidenceDigest = evidenceDigest := by
  simp only [materializeFoundryOperationResult, operationDigest, nonEmptyString, bind_eq_ok,
    ensure_eq_ok, pure_eq_ok] at made
  obtain ⟨_, -, _, ⟨_, ⟨_, -, rfl⟩, _, -, rfl⟩, _, -, _, -, _, -, rfl⟩ := made
  rfl

theorem commitResult_evidenceDigest {journal changed : Journal} {input : OperationCommit}
    {result : FoundryOperationResult}
    (committed : commitResult platform journal input = .ok (changed, result)) :
    result.evidenceDigest = input.evidenceDigest := by
  simp only [commitResult, bind_eq_ok] at committed
  obtain ⟨made, materialized, committed⟩ := committed
  rw [← materializeFoundryOperationResult_evidenceDigest materialized]
  cases found : journal made.operationKey with
  | none =>
    simp only [found, pure_eq_ok, Prod.mk.injEq] at committed
    rw [committed.2]
  | some existing =>
    simp only [found, bind_eq_ok, ensure_eq_ok, pure_eq_ok, Prod.mk.injEq] at committed
    obtain ⟨_, rfl, -, rfl⟩ := committed
    rfl

theorem RegistryState.register_eq_ok {changed : RegistryState} {input : RegisterInput}
    {registered : RegisteredVersion}
    (done : state.register platform input = .ok (changed, registered)) :
    state.versions <+: changed.versions ∧ changed.transactions = state.transactions ∧
      registered.version ∈ changed.versions := by
  unfold RegistryState.register at done
  split at done
  · rename_i existing found
    split at done
    · cases done
    · simp only [bind_eq_ok, ensure_eq_ok, pure_eq_ok, Prod.mk.injEq] at done
      obtain ⟨_, -, rfl, rfl⟩ := done
      exact ⟨List.prefix_refl _, rfl, List.mem_of_find?_eq_some found⟩
  · simp only [pure_eq_ok, Prod.mk.injEq] at done
    obtain ⟨rfl, rfl⟩ := done
    exact ⟨List.prefix_append _ _, rfl, by simp⟩

/-- What a swap does: report the recorded transaction, or record a new one. -/
theorem RegistryState.activate_eq_ok {changed : RegistryState} {input : ActivationInput}
    {transaction : ActivationTransaction}
    (done : state.activate input madeBy = .ok (changed, transaction)) :
    ((changed = state ∧ ∃ entry ∈ state.transactions,
        entry.toActivationTransaction = transaction) ∨
      changed.versions = state.versions ∧ transaction = state.transaction input ∧
        changed.transactions = state.transactions ++ [{ transaction with madeBy }] ∧
        state.activation.revision = input.expectedRevision) ∧
      transaction.toVersionDigest = input.versionDigest ∧
      transaction.authorityReceiptRef = input.authorityReceiptRef ∧
      transaction.runtimeBindingVerification = input.runtimeBindingVerification := by
  unfold RegistryState.activate at done
  split at done
  · cases done
  · simp only [bind_eq_ok] at done
    obtain ⟨_, -, done⟩ := done
    split at done
    · rename_i replay found
      simp only [bind_eq_ok, ensure_eq_ok, pure_eq_ok, Prod.mk.injEq] at done
      obtain ⟨_, ⟨-, version, receipt, verification⟩, rfl, rfl⟩ := done
      exact ⟨.inl ⟨rfl, replay, List.mem_of_find?_eq_some found, rfl⟩, version, receipt,
        verification⟩
    · simp only [bind_eq_ok, ensure_eq_ok, pure_eq_ok, Prod.mk.injEq] at done
      obtain ⟨_, current, _, -, rfl, rfl⟩ := done
      exact ⟨.inr ⟨rfl, rfl, rfl, current⟩, rfl, rfl, rfl⟩

/-- What an append does: nothing but report the recorded event, or extend the log. -/
theorem EventStore.append_eq_ok {input : AppendInput}
    (done : store.append platform input = .ok (changed, event)) :
    ∃ events, store.runs input.event.runId = some events ∧
      (changed = store ∧ (∃ entry ∈ events, entry.revision = input.expectedRevision + 1) ∨
        events.getLast?.map FoundryRunEvent.revision = some input.expectedRevision ∧
        Verified platform (events ++ [input.event]) ∧
        changed.runs = store.runs.set input.event.runId (events ++ [input.event]) ∧
        changed.targetLocks = if input.event.toState.terminal
          then store.targetLocks.delete input.targetKey else store.targetLocks) := by
  unfold EventStore.append at done
  split at done
  · cases done
  · rename_i events recorded
    refine ⟨events, recorded, ?_⟩
    split at done
    · rename_i replay found
      simp only [assertFoundryEventReplay, map_eq_ok, bind_eq_ok, ensure_eq_ok,
        Prod.mk.injEq] at done
      obtain ⟨_, ⟨_, ⟨revision, -⟩, -⟩, rfl, -⟩ := done
      exact .inl ⟨rfl, replay, List.mem_of_find?_eq_some found, revision⟩
    · simp only [bind_eq_ok, ensure_eq_ok, pure_eq_ok, Prod.mk.injEq] at done
      obtain ⟨_, current, _, verified, rfl, -⟩ := done
      exact .inr ⟨current, verified, rfl, rfl⟩

/-- A new run takes a lock that no unfinished run holds. -/
theorem TargetsLocked.create {input : CreateInput} (locked : TargetsLocked store)
    (named : ∀ runId log, store.runs runId = some log → runId ≠ "")
    (keyed : ∀ run, IsSnapshot [input.event] run →
      input.targetKey = targetKey run.targetAgentId run.targetDomainId)
    (created : store.create platform input = .ok changed) : TargetsLocked changed := by
  simp only [EventStore.create, bind_eq_ok, ensure_eq_ok, pure_eq_ok] at created
  obtain ⟨_, -, _, free, _, -, rfl⟩ := created
  intro runId log run recorded snapshot unfinished
  by_cases same : runId = input.event.runId
  · subst same
    obtain rfl : [input.event] = log := by simpa using recorded
    simp [keyed run snapshot]
  · have before : store.runs runId = some log := by
      simpa [Function.update_of_ne same] using recorded
    have held := locked runId log run before snapshot unfinished
    have apart : targetKey run.targetAgentId run.targetDomainId ≠ input.targetKey := by
      intro taken
      rw [← taken, held] at free
      exact named runId log before free
    simpa [Function.update_of_ne apart] using held

/-- Only the run that holds a lock gives it up, with its last event. -/
theorem TargetsLocked.append {input : AppendInput} {log : List FoundryRunEvent}
    {run : FoundryRunSnapshot} (locked : TargetsLocked store)
    (recorded : store.runs input.event.runId = some log) (snapshot : IsSnapshot log run)
    (unfinished : run.state.terminal = false)
    (keyed : input.targetKey = targetKey run.targetAgentId run.targetDomainId)
    (runs : changed.runs = store.runs.set input.event.runId (log ++ [input.event]))
    (locks : changed.targetLocks = if input.event.toState.terminal
      then store.targetLocks.delete input.targetKey else store.targetLocks) :
    TargetsLocked changed := by
  have held := locked _ log run recorded snapshot unfinished
  intro runId longer other recorded' snapshot' unfinished'
  rw [runs] at recorded'
  by_cases same : runId = input.event.runId
  · subst same
    obtain rfl : log ++ [input.event] = longer := by simpa using recorded'
    obtain rfl := snapshot'.unique (snapshot.append _)
    have goesOn : ¬ input.event.toState.terminal = true := by
      rw [Bool.not_eq_true]
      exact unfinished'
    rw [locks, if_neg goesOn]
    exact held
  · have before : store.runs runId = some longer := by
      simpa [Function.update_of_ne same] using recorded'
    have heldToo := locked runId longer other before snapshot' unfinished'
    have apart : targetKey other.targetAgentId other.targetDomainId ≠ input.targetKey := by
      intro shared
      rw [shared, keyed, held] at heldToo
      exact same (Option.some.inj heldToo).symm
    rw [locks]
    split
    · simpa [Function.update_of_ne apart] using heldToo
    · exact heldToo

theorem EventStore.runs_of_read {runId : String} {log : List FoundryRunEvent}
    (read : store.read runId = log) (inhabited : log ≠ []) : store.runs runId = some log := by
  cases found : store.runs runId with
  | none => exact absurd (by simpa [EventStore.read, found] using read.symm) inhabited
  | some known => simpa [EventStore.read, found] using read

/-! ## The world -/

theorem World.attempt_cases {σ α : Type} {operation : Checked (σ × α)} {store : σ → World}
    {answer : Except Failure α} (attempted : world.attempt operation store = (after, answer)) :
    (∃ changed response, operation = .ok (changed, response) ∧ after = store changed ∧
      answer = .ok response) ∨ after = world ∧ ∃ failure, answer = .error failure := by
  cases operation with
  | ok result =>
    obtain ⟨rfl, rfl⟩ := Prod.mk.inj attempted
    exact .inl ⟨result.1, result.2, rfl, rfl, rfl⟩
  | error failure =>
    obtain ⟨rfl, rfl⟩ := Prod.mk.inj attempted
    exact .inr ⟨rfl, failure, rfl⟩

theorem Registry.state_set_self (registry : Registry) (targetAgentId targetDomainId : String)
    (state : RegistryState) :
    Registry.state (registry.set (targetKey targetAgentId targetDomainId) state) targetAgentId
      targetDomainId = state := by
  simp [Registry.state]

theorem Registry.state_set {registry : Registry} {key targetAgentId targetDomainId : String} :
    Registry.state (registry.set key state) targetAgentId targetDomainId =
      if targetKey targetAgentId targetDomainId = key then state
      else registry.state targetAgentId targetDomainId := by
  by_cases same : targetKey targetAgentId targetDomainId = key <;>
    simp [Registry.state, same]

theorem KernelInvariant.later (invariant : KernelInvariant kernel world) :
    Later kernel world world := ⟨World.Extends.refl world, invariant⟩

/-- Growing stores that keep the events keep the invariant if the new transactions
are accounted for. -/
theorem KernelInvariant.later_of_events (invariant : KernelInvariant kernel world)
    (grown : world.Extends after) (events : after.events = world.events)
    (transactions : ∀ targetAgentId targetDomainId,
      ∀ entry ∈ (after.registry.state targetAgentId targetDomainId).transactions,
        MaySwap kernel after entry.input entry.madeBy)
    (registries : ∀ targetAgentId targetDomainId,
      (after.registry.state targetAgentId targetDomainId).Sound kernel.platform
        (targetKey targetAgentId targetDomainId)) : Later kernel world after where
  extends_ := grown
  invariant := {
    logs := by
      intro runId log recorded
      rw [events] at recorded
      obtain ⟨named, request, written⟩ := invariant.logs runId log recorded
      exact ⟨named, request, written.extend grown⟩
    transactions
    registries
    locked := by
      rw [events]
      exact invariant.locked }

/-- Stores that grow beside the events and the registry. -/
theorem KernelInvariant.later_of_registry_eq (invariant : KernelInvariant kernel world)
    (grown : world.Extends after) (events : after.events = world.events)
    (registry : after.registry = world.registry) : Later kernel world after := by
  refine invariant.later_of_events grown events ?_ ?_ <;> rw [registry]
  · exact fun targetAgentId targetDomainId entry listed =>
      (invariant.transactions targetAgentId targetDomainId entry listed).extend grown
  · exact invariant.registries

/-- An answer from outside leaves the stores alone. -/
theorem KernelInvariant.later_of_heard (invariant : KernelInvariant kernel world)
    (request : KernelRequest) (answer : Except Failure (KernelResponse request)) :
    Later kernel world (world.heard request answer) := by
  cases request with
  | verifyOwner context =>
    cases answer with
    | error failure => exact invariant.later
    | ok verification =>
      have grown : world.Extends (world.heard (.verifyOwner context) (.ok verification)) :=
        ⟨id, fun recorded => ⟨_, recorded, List.prefix_refl _⟩, fun _ _ => List.prefix_refl _,
          fun _ _ => List.prefix_refl _, List.prefix_append _ _⟩
      exact invariant.later_of_registry_eq grown rfl rfl
  | _ => exact invariant.later

/-- A run whose log becomes longer by a written log. -/
theorem KernelInvariant.later_of_log (invariant : KernelInvariant kernel world) {runId : String}
    {log longer : List FoundryRunEvent} {request : DesignRequest}
    (before : (world.events.runs runId).getD [] = log) (grows : log <+: longer)
    (named : ∀ event ∈ longer, event.runId = runId)
    (written : KernelLog kernel world request longer)
    (runs : events.runs = world.events.runs.set runId longer) (locked : TargetsLocked events) :
    Later kernel world { world with events } := by
  have grown : world.Extends { world with events } := by
    refine ⟨id, fun {other known} recorded => ?_, fun _ _ => List.prefix_refl _,
      fun _ _ => List.prefix_refl _, List.prefix_refl _⟩
    by_cases same : other = runId
    · subst same
      rw [recorded, Option.getD_some] at before
      subst before
      exact ⟨longer, by simp [runs], grows⟩
    · exact ⟨known, by simpa [runs, Function.update_of_ne same] using recorded,
        List.prefix_refl _⟩
  refine ⟨grown, ⟨fun other known recorded => ?_, fun targetAgentId targetDomainId entry listed =>
    (invariant.transactions targetAgentId targetDomainId entry listed).extend grown,
    invariant.registries, locked⟩⟩
  by_cases same : other = runId
  · subst same
    obtain rfl : longer = known := by simpa [runs] using recorded
    exact ⟨named, request, written.extend grown⟩
  · obtain ⟨named', request', written'⟩ := invariant.logs other known
      (by simpa [runs, Function.update_of_ne same] using recorded)
    exact ⟨named', request', written'.extend grown⟩

/-- Writing a target's state that grew keeps the invariant if its transactions
are accounted for. -/
theorem KernelInvariant.later_of_registry (invariant : KernelInvariant kernel world)
    {targetAgentId targetDomainId : String}
    (versions : (world.registry.state targetAgentId targetDomainId).versions <+: state.versions)
    (kept : (world.registry.state targetAgentId targetDomainId).transactions <+:
      state.transactions)
    (transactions : ∀ entry ∈ state.transactions,
      entry ∈ (world.registry.state targetAgentId targetDomainId).transactions ∨
        MaySwap kernel world entry.input entry.madeBy)
    (sound : state.Sound kernel.platform (targetKey targetAgentId targetDomainId)) :
    Later kernel world { world with
      registry := world.registry.set (targetKey targetAgentId targetDomainId) state } := by
  have state_of_key : ∀ agent domain, targetKey agent domain = targetKey targetAgentId targetDomainId →
      (world.registry.state agent domain).versions =
          (world.registry.state targetAgentId targetDomainId).versions ∧
        (world.registry.state agent domain).transactions =
          (world.registry.state targetAgentId targetDomainId).transactions := by
    intro agent domain same
    simp only [Registry.state, same]
    cases world.registry (targetKey targetAgentId targetDomainId) <;> exact ⟨rfl, rfl⟩
  have grown : world.Extends { world with
      registry := world.registry.set (targetKey targetAgentId targetDomainId) state } := by
    refine ⟨id, fun recorded => ⟨_, recorded, List.prefix_refl _⟩, fun agent domain => ?_,
      fun agent domain => ?_, List.prefix_refl _⟩ <;> rw [Registry.state_set] <;> split
    · rename_i same
      rw [(state_of_key agent domain same).1]
      exact versions
    · exact List.prefix_refl _
    · rename_i same
      rw [(state_of_key agent domain same).2]
      exact kept
    · exact List.prefix_refl _
  refine invariant.later_of_events grown rfl (fun agent domain entry listed => ?_)
    fun agent domain => ?_
  · rw [Registry.state_set] at listed
    split at listed
    · rcases transactions entry listed with known | accounted
      · exact (invariant.transactions targetAgentId targetDomainId entry known).extend grown
      · exact accounted.extend grown
    · exact (invariant.transactions agent domain entry listed).extend grown
  · rw [Registry.state_set]
    split
    · rename_i same
      exact same ▸ sound
    · exact invariant.registries agent domain

/-- The events of one log carry one run id. -/
theorem KernelLog.named {request : DesignRequest} {events : List FoundryRunEvent}
    (log : KernelLog kernel world request events) {runId : String}
    (ends : events.getLast? = some event) (same : event.runId = runId) :
    ∀ event ∈ events, event.runId = runId := fun _ listed =>
  (log.verified.runId_eq listed ends).trans same

theorem createEvents_later (invariant : KernelInvariant kernel world) {input : CreateInput}
    (allowed : Allowed kernel world (.createEvents input))
    (created : world.events.create kernel.platform input = .ok events) :
    Later kernel world { world with events } := by
  obtain ⟨runId, request, requestDigest, activation, occurredAt, admitted, keyed, same⟩ := allowed
  have locked : TargetsLocked events := by
    refine invariant.locked.create (fun known log recorded => ?_) (fun run snapshot => ?_) created
    · obtain ⟨named, _, written⟩ := invariant.logs known log recorded
      exact written.verified.named named
    · obtain ⟨first, last, starts, ends, rfl⟩ := snapshot
      simp only [same, List.head?_cons, Option.some.injEq, List.getLast?_singleton] at starts ends
      subst starts ends
      exact keyed
  simp only [EventStore.create, bind_eq_ok, ensure_eq_ok, pure_eq_ok] at created
  obtain ⟨_, absent, _, -, _, verified, rfl⟩ := created
  rw [same] at absent verified locked ⊢
  have written : KernelLog kernel world request
      [acceptanceEvent kernel runId request requestDigest activation occurredAt] :=
    .accepted admitted (verified_singleton.1 verified)
  exact invariant.later_of_log (by simp [absent]) List.nil_prefix
    (written.named (by simp) rfl) written rfl locked

theorem appendEvent_later (invariant : KernelInvariant kernel world) {input : AppendInput}
    (allowed : Allowed kernel world (.appendEvent input))
    (appended : world.events.append kernel.platform input = .ok (events, event)) :
    Later kernel world { world with events } := by
  obtain ⟨inspectedEvents, inspection, transition, occurredAt, inspected, justified, keyed,
    expected, same⟩ := allowed
  obtain ⟨log, recorded, ⟨rfl, -⟩ | ⟨current, verified, runs, locks⟩⟩ :=
    EventStore.append_eq_ok appended
  · exact invariant.later
  have sameRun : input.event.runId = inspection.run.runId := by rw [same]; rfl
  have held := recorded
  have stored := runs
  rw [sameRun] at recorded runs
  obtain ⟨log', recorded', within⟩ := inspected.recorded
  obtain rfl : log = log' := by simpa [recorded] using recorded'
  obtain ⟨named, request, written⟩ := invariant.logs _ log recorded
  -- the log has not moved since it was inspected: its revision is the expected one
  obtain ⟨last, ends, -, -, revision, -⟩ := inspected.snapshot.last
  obtain ⟨lastOfLog, endsLog⟩ := Option.isSome_iff_exists.1
    (List.getLast?_isSome.2 written.verified.ne_nil)
  have unmoved : log = inspectedEvents :=
    eq_of_prefix_of_revision written.verified within inspected.snapshot.ne_nil ends endsLog (by
      rw [endsLog, Option.map_some, Option.some.injEq] at current
      rw [current, expected, revision])
  subst unmoved
  have sameRequest : inspection.request = request := by
    have stored := (written.identity inspected.snapshot).stored
    rw [inspected.request, Option.some.injEq, FoundryObject.request.injEq] at stored
    exact stored
  have unfinished : inspection.run.state.terminal = false := by
    obtain ⟨last, ends, -, state, -⟩ := inspected.snapshot.last
    rw [state, ← Bool.not_eq_true]
    intro terminal
    have ended := verified.ended (List.prefix_append _ _) ends terminal
    simp at ended
  have identity := written.identity inspected.snapshot
  have locked : TargetsLocked events := by
    refine invariant.locked.append held inspected.snapshot unfinished ?_ stored locks
    rw [keyed, sameRequest, identity.targetAgentId, identity.targetDomainId]
  rw [same] at verified runs
  have longer : KernelLog kernel world request
      (log ++ [transitionEvent kernel inspection transition occurredAt]) :=
    .appended written inspected.snapshot sameRequest justified (verified_append.1 verified).2
  have before : (world.events.runs inspection.run.runId).getD [] = log := by simp [recorded]
  exact invariant.later_of_log before (List.prefix_append _ _)
    (longer.named List.getLast?_concat rfl) longer runs locked

/-- After an append the log is longer than it was expected to be. -/
theorem appendEvent_moved (invariant : KernelInvariant kernel world) {input : AppendInput}
    (appended : world.events.append kernel.platform input = .ok (events, event)) :
    ∃ log, events.runs input.event.runId = some log ∧ input.expectedRevision < log.length := by
  obtain ⟨log, recorded, ⟨rfl, entry, listed, revision⟩ | ⟨current, -, runs, -⟩⟩ :=
    EventStore.append_eq_ok appended <;>
    obtain ⟨-, request, written⟩ := invariant.logs _ log recorded
  · refine ⟨log, recorded, ?_⟩
    have within := written.verified.revision_le listed
    omega
  · obtain ⟨last, ends, current⟩ := Option.map_eq_some_iff.1 current
    have length := written.verified.revision_getLast ends
    refine ⟨_, by rw [runs, StringMap.set, Function.update_self], ?_⟩
    rw [List.length_append, List.length_singleton]
    omega

theorem swapActivation_later (invariant : KernelInvariant kernel world) {input : ActivationInput}
    (allowed : MaySwap kernel world input madeBy) {transaction : ActivationTransaction}
    (swapped : (world.registry.state input.targetAgentId input.targetDomainId).activate input
      madeBy = .ok (state, transaction)) :
    Later kernel world { world with
      registry := world.registry.set (targetKey input.targetAgentId input.targetDomainId) state } := by
  have sound := (invariant.registries _ _).activate rfl swapped
  obtain ⟨⟨rfl, -⟩ | ⟨versions, rfl, transactions, current⟩, -⟩ :=
    RegistryState.activate_eq_ok swapped
  · exact invariant.later_of_registry (List.prefix_refl _) (List.prefix_refl _)
      (fun entry listed => .inl listed) sound
  · refine invariant.later_of_registry (by simp only [versions, List.prefix_refl])
      (by simp only [transactions, List.prefix_append]) (fun entry listed => ?_) sound
    rw [transactions, List.mem_append, List.mem_singleton] at listed
    rcases listed with known | rfl
    · exact .inl known
    · -- the committed entry records the input at the current revision
      have same : CommittedTransaction.input
          { (world.registry.state input.targetAgentId input.targetDomainId).transaction input with
            madeBy } = input := by
        simp [CommittedTransaction.input, RegistryState.transaction, current]
      exact .inr (by rw [same]; exact allowed)

theorem committed_of_swap {input : ActivationInput} {transaction : ActivationTransaction}
    (swapped : (world.registry.state input.targetAgentId input.targetDomainId).activate input
      madeBy = .ok (state, transaction)) :
    Committed { world with
      registry := world.registry.set (targetKey input.targetAgentId input.targetDomainId) state }
      input transaction := by
  obtain ⟨done, version, receipt, verification⟩ := RegistryState.activate_eq_ok swapped
  refine ⟨?_, version, receipt, verification⟩
  rw [Registry.state_set_self]
  rcases done with ⟨rfl, recorded⟩ | ⟨-, -, transactions, -⟩
  · exact recorded
  · exact ⟨{ transaction with madeBy }, by simp [transactions], rfl⟩

/-- A store call that is allowed moves the world on and is answered. -/
theorem serve_later (invariant : KernelInvariant kernel world)
    (allowed : Allowed kernel world request) {answer : Except Failure (KernelResponse request)}
    (served : world.serve kernel.platform request = some (after, answer)) :
    Later kernel world after ∧
      ∀ response, answer = .ok response → Answered kernel.platform after request response := by
  cases request with
  | putObject value =>
    rcases World.attempt_cases (Option.some.inj served) with
      ⟨objects, stored, put, rfl, rfl⟩ | ⟨rfl, failure, rfl⟩
    · obtain ⟨hashed, here, kept⟩ := putObject_eq_ok put
      have grown : world.Extends { world with objects } :=
        ⟨kept, fun recorded => ⟨_, recorded, List.prefix_refl _⟩, fun _ _ => List.prefix_refl _,
          fun _ _ => List.prefix_refl _, List.prefix_refl _⟩
      refine ⟨invariant.later_of_registry_eq grown rfl rfl, ?_⟩
      rintro _ ⟨⟩
      exact ⟨hashed, here⟩
    · exact ⟨invariant.later, by simp⟩
  | getObject digest =>
    obtain ⟨rfl, rfl⟩ := Prod.mk.inj (Option.some.inj served)
    refine ⟨invariant.later, ?_⟩
    rintro _ ⟨⟩ value found
    exact found
  | createEvents input =>
    rcases World.attempt_cases (Option.some.inj served) with
      ⟨events, _, created, rfl, rfl⟩ | ⟨rfl, failure, rfl⟩
    · simp only [map_eq_ok, Prod.mk.injEq] at created
      obtain ⟨_, created, rfl, -⟩ := created
      exact ⟨createEvents_later invariant allowed created, fun _ _ => trivial⟩
    · exact ⟨invariant.later, by simp⟩
  | appendEvent input =>
    rcases World.attempt_cases (Option.some.inj served) with
      ⟨events, _, appended, rfl, rfl⟩ | ⟨rfl, failure, rfl⟩
    · exact ⟨appendEvent_later invariant allowed appended,
        fun _ _ => appendEvent_moved invariant appended⟩
    · exact ⟨invariant.later, by simp⟩
  | readEvents runId =>
    obtain ⟨rfl, rfl⟩ := Prod.mk.inj (Option.some.inj served)
    refine ⟨invariant.later, ?_⟩
    rintro _ ⟨⟩
    rfl
  | readResult identity =>
    obtain ⟨rfl, rfl⟩ := Prod.mk.inj (Option.some.inj served)
    exact ⟨invariant.later, fun _ _ => trivial⟩
  | commitResult input =>
    rcases World.attempt_cases (Option.some.inj served) with
      ⟨journal, _, committed, rfl, rfl⟩ | ⟨rfl, failure, rfl⟩
    · have grown : world.Extends { world with journal } :=
        ⟨id, fun recorded => ⟨_, recorded, List.prefix_refl _⟩, fun _ _ => List.prefix_refl _,
          fun _ _ => List.prefix_refl _, List.prefix_refl _⟩
      refine ⟨invariant.later_of_registry_eq grown rfl rfl, ?_⟩
      rintro _ ⟨⟩
      exact commitResult_evidenceDigest committed
    · exact ⟨invariant.later, by simp⟩
  | registerVersion input =>
    rcases World.attempt_cases (Option.some.inj served) with
      ⟨state, _, registered, rfl, rfl⟩ | ⟨rfl, failure, rfl⟩
    · obtain ⟨versions, transactions, listed⟩ := RegistryState.register_eq_ok registered
      refine ⟨invariant.later_of_registry versions (transactions ▸ List.prefix_refl _)
        (fun entry listed => .inl (transactions ▸ listed))
        ((invariant.registries _ _).register registered), ?_⟩
      rintro _ ⟨⟩
      simpa only [Answered, Registry.state_set_self] using listed
    · exact ⟨invariant.later, by simp⟩
  | resolveVersion ref targetAgentId targetDomainId =>
    obtain ⟨rfl, rfl⟩ := Prod.mk.inj (Option.some.inj served)
    refine ⟨invariant.later, ?_⟩
    rintro _ ⟨⟩ versionDigest named
    obtain ⟨rfl, solid⟩ : ref = some versionDigest ∧ versionDigest ≠ "" := by
      simpa [present, Option.filter_eq_some_iff] using named
    simp [RegistryState.resolveVersion, World.versionOf, solid]
  | readActivation targetAgentId targetDomainId =>
    obtain ⟨rfl, rfl⟩ := Prod.mk.inj (Option.some.inj served)
    exact ⟨invariant.later, fun _ _ => trivial⟩
  | activationHistory targetAgentId targetDomainId =>
    obtain ⟨rfl, rfl⟩ := Prod.mk.inj (Option.some.inj served)
    exact ⟨invariant.later, fun _ _ => trivial⟩
  | swapActivation input madeBy =>
    rcases World.attempt_cases (Option.some.inj served) with
      ⟨state, _, swapped, rfl, rfl⟩ | ⟨rfl, failure, rfl⟩
    · refine ⟨swapActivation_later invariant allowed swapped, ?_⟩
      rintro _ ⟨⟩
      exact committed_of_swap swapped
    · exact ⟨invariant.later, by simp⟩
  | _ => cases served

theorem performs_later (invariant : KernelInvariant kernel world)
    (allowed : Allowed kernel world request) {answer : Except Failure (KernelResponse request)}
    (performed : Performs kernel.platform world request after answer) :
    Later kernel world after ∧
      ∀ response, answer = .ok response → Answered kernel.platform after request response := by
  cases performed with
  | served served => exact serve_later invariant allowed served
  | answered unserved fits =>
    refine ⟨invariant.later_of_heard request answer, fun response same => ?_⟩
    subst same
    cases request with
    | createRunId => exact fits
    | verifyOwner context => simp [Answered, World.heard]
    | design | diagnose | materialize | evaluate | preflightActivation
    | preflightBaselineAdoption | now => trivial
    | _ => cases unserved
  | lost failure => exact ⟨invariant.later, by simp⟩
  | unacknowledged failure served => exact ⟨(serve_later invariant allowed served).1, by simp⟩

/-- The rule for a call. -/
theorem ensures_ask (allowed : Allowed kernel world request) :
    Ensures (kernelMachine kernel.platform) (kernelDiscipline kernel)
      (fun response after => Answered kernel.platform after request response) (ask request)
      world :=
  Ensures.call fun _ later _ _ performed =>
    performs_later later.invariant (allowed.extend later.extends_) performed

end OnePersonLab.Evolution.Kernel
