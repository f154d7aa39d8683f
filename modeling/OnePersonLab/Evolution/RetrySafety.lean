import OnePersonLab.Evolution.KernelPorts
import OnePersonLab.Evolution.TamperEvidence
import OnePersonLab.Lib.Outcome

/-!
# Calls that may be repeated

A caller that lost the answer of the event store or of the registry may repeat
its call at any later time: it gets the answer that it missed, and the store
stays as it is. For an event the time of the second attempt does not matter.
-/

namespace OnePersonLab.Evolution

open Contract Relation

/-! ## The event store -/

/-- A call of the event store that is accepted. -/
inductive EventStore.Accepts (platform : Platform) : EventStore → EventStore → Prop where
  | created {store changed : EventStore} {input : CreateInput} :
      store.create platform input = .ok changed → Accepts platform store changed
  | appended {store changed : EventStore} {input : AppendInput} {event : FoundryRunEvent} :
      store.append platform input = .ok (changed, event) → Accepts platform store changed

section Events

variable {platform : Platform} {store changed later : EventStore} {runId : String}
  {log : List FoundryRunEvent} {input : AppendInput} {event : FoundryRunEvent}

theorem EventStore.Accepts.grows (accepts : EventStore.Accepts platform store changed)
    (recorded : store.runs runId = some log) :
    ∃ more, changed.runs runId = some (log ++ more) := by
  cases accepts with
  | created created =>
    rename_i input
    simp only [EventStore.create, bind_eq_ok, ensure_eq_ok, pure_eq_ok] at created
    obtain ⟨_, absent, _, -, _, -, rfl⟩ := created
    have other : runId ≠ input.event.runId := by
      rintro rfl
      rw [absent] at recorded
      cases recorded
    exact ⟨[], by simpa [Function.update_of_ne other] using recorded⟩
  | appended appended =>
    rename_i input event
    obtain ⟨events, found, ⟨rfl, -⟩ | ⟨-, -, runs, -⟩⟩ := Kernel.EventStore.append_eq_ok appended
    · exact ⟨[], by simpa using recorded⟩
    · by_cases same : runId = input.event.runId
      · subst same
        obtain rfl : events = log := Option.some.inj (found.symm.trans recorded)
        exact ⟨[input.event], by simp [runs]⟩
      · exact ⟨[], by simpa [runs, Function.update_of_ne same] using recorded⟩

theorem EventStore.grows_of_calls
    (calls : ReflTransGen (EventStore.Accepts platform) store later)
    (recorded : store.runs runId = some log) : ∃ more, later.runs runId = some (log ++ more) := by
  induction calls with
  | refl => exact ⟨[], by simpa using recorded⟩
  | tail _ accepts ih =>
    obtain ⟨more, known⟩ := ih
    obtain ⟨most, grown⟩ := accepts.grows known
    exact ⟨more ++ most, by simpa using grown⟩

/-- The event is the first of the log with the key, and what a repetition must agree with. -/
structure Replays (log : List FoundryRunEvent) (input : AppendInput) (event : FoundryRunEvent) :
    Prop where
  first : replayOf log input.event.idempotencyKey = some event
  expected : event.revision = input.expectedRevision + 1
  candidate : input.event.revision = input.expectedRevision + 1
  same : event.sameLogicalEvent input.event = true

theorem replays_of_append (appended : store.append platform input = .ok (changed, event)) :
    ∃ log, changed.runs input.event.runId = some log ∧ Replays log input event := by
  unfold EventStore.append at appended
  split at appended
  · cases appended
  · rename_i events recorded
    split at appended
    · rename_i replay found
      simp only [assertFoundryEventReplay, map_eq_ok, bind_eq_ok, ensure_eq_ok, pure_eq_ok,
        Prod.mk.injEq] at appended
      obtain ⟨_, ⟨_, ⟨expected, candidate⟩, _, same, rfl⟩, rfl, rfl⟩ := appended
      exact ⟨events, recorded, found, expected, candidate, same⟩
    · rename_i absent
      simp only [bind_eq_ok, ensure_eq_ok, pure_eq_ok, Prod.mk.injEq] at appended
      obtain ⟨_, current, _, verified, rfl, rfl⟩ := appended
      have contiguous := (verified_append.1 verified).2.contiguous
      rw [current, Option.getD_some] at contiguous
      refine ⟨events ++ [input.event], by simp, ?_, contiguous, contiguous, ?_⟩
      · rw [replayOf] at absent ⊢
        rw [List.find?_append, absent]
        simp
      · simp [FoundryRunEvent.sameLogicalEvent]

/-- An append that was accepted returns the recorded event again, at any later time and
whatever the clock says then. -/
theorem append_repeatable (appended : store.append platform input = .ok (changed, event))
    (calls : ReflTransGen (EventStore.Accepts platform) changed later)
    (occurredAt eventHash : String) :
    later.append platform { input with event := { input.event with occurredAt, eventHash } } =
      .ok (later, event) := by
  obtain ⟨log, recorded, replays⟩ := replays_of_append appended
  obtain ⟨more, grown⟩ := EventStore.grows_of_calls calls recorded
  have found : replayOf (log ++ more) input.event.idempotencyKey = some event := by
    have first := replays.first
    rw [replayOf] at first ⊢
    rw [List.find?_append, first, Option.some_or]
  have same := of_decide_eq_true replays.same
  have logical : event.sameLogicalEvent { input.event with occurredAt, eventHash } = true := by
    apply decide_eq_true
    rw [← same]
  have replay : assertFoundryEventReplay event { input.event with occurredAt, eventHash }
      input.expectedRevision = .ok event := by
    simp only [assertFoundryEventReplay, bind_eq_ok, ensure_eq_ok, pure_eq_ok]
    exact ⟨(), ⟨replays.expected, replays.candidate⟩, (), logical, trivial⟩
  simp only [EventStore.append, grown, found, replay, map_eq_ok]
  exact ⟨event, rfl, rfl⟩

end Events

/-- The end of a run that was accepted, at the hash that the platform gives everything. -/
def failureInput : AppendInput where
  targetKey := targetKey "agent" "domain"
  expectedRevision := 1
  event := { acceptanceEvent [] with
    eventId := "run:2"
    revision := 2
    eventType := "foundry_run_failed"
    fromState := some .accepted
    toState := .failed
    idempotencyKey := "run/0/failed"
    previousEventHash := some (acceptanceEvent []).eventHash }

def acceptedStore : EventStore where
  runs _ := some [acceptanceEvent acceptanceEntries]
  targetLocks _ := some "run"

theorem failure_appended :
    (acceptedStore.append acceptancePlatform failureInput).toOption.isSome = true := by
  decide +kernel

theorem append_repeatable_failure : ∃ changed event,
    acceptedStore.append acceptancePlatform failureInput = .ok (changed, event) ∧
      changed.append acceptancePlatform { failureInput with
        event := { failureInput.event with
          occurredAt := "1970-01-01T00:00:01.000Z", eventHash := zeroDigest } } =
        .ok (changed, event) := by
  obtain ⟨⟨changed, event⟩, appended⟩ := Option.isSome_iff_exists.1 failure_appended
  have appended := Lib.mem_toOption.1 appended
  exact ⟨changed, event, appended, append_repeatable appended .refl _ _⟩

/-! ## The registry -/

/-- A call of the registry of a target that is accepted. -/
inductive RegistryState.Accepts (platform : Platform) : RegistryState → RegistryState → Prop where
  | registered {state changed : RegistryState} {input : RegisterInput}
      {version : RegisteredVersion} :
      state.register platform input = .ok (changed, version) → Accepts platform state changed
  | activated {state changed : RegistryState} {input : ActivationInput} {madeBy : Option String}
      {transaction : ActivationTransaction} :
      state.activate input madeBy = .ok (changed, transaction) → Accepts platform state changed

section Activations

variable {platform : Platform} {state changed later : RegistryState} {input : ActivationInput}
  {madeBy again : Option String} {transaction : ActivationTransaction}

theorem RegistryState.Accepts.grows (accepts : RegistryState.Accepts platform state changed) :
    state.versions <+: changed.versions ∧ state.transactions <+: changed.transactions := by
  cases accepts with
  | registered registered =>
    obtain ⟨versions, transactions, -⟩ := Kernel.RegistryState.register_eq_ok registered
    exact ⟨versions, transactions ▸ List.prefix_refl _⟩
  | activated activated =>
    obtain ⟨⟨rfl, -⟩ | ⟨versions, -, transactions, -⟩, -⟩ :=
      Kernel.RegistryState.activate_eq_ok activated
    · exact ⟨List.prefix_refl _, List.prefix_refl _⟩
    · exact ⟨versions ▸ List.prefix_refl _, transactions ▸ List.prefix_append _ _⟩

theorem RegistryState.grows_of_calls
    (calls : ReflTransGen (RegistryState.Accepts platform) state later) :
    state.versions <+: later.versions ∧ state.transactions <+: later.transactions := by
  induction calls with
  | refl => exact ⟨List.prefix_refl _, List.prefix_refl _⟩
  | tail _ accepts ih =>
    exact ⟨ih.1.trans accepts.grows.1, ih.2.trans accepts.grows.2⟩

/-- The transaction that carries out the input, and the version that the input is for. -/
structure CarriesOut (state : RegistryState) (input : ActivationInput)
    (transaction : ActivationTransaction) : Prop where
  version : ∃ version, state.versionOf input.versionDigest = some version ∧
    assertActivationRuntimeBindingVerification input.runtimeBindingVerification
      input.transactionKind input.expectedRevision version = .ok ()
  recorded : ∃ entry, state.transactions.find? (fun entry =>
      entry.previousRevision = input.expectedRevision) = some entry ∧
    entry.toActivationTransaction = transaction
  kind : transaction.transactionKind = input.transactionKind
  toVersion : transaction.toVersionDigest = input.versionDigest
  receipt : transaction.authorityReceiptRef = input.authorityReceiptRef
  verification : transaction.runtimeBindingVerification = input.runtimeBindingVerification

theorem carriesOut_of_activate (activated : state.activate input madeBy = .ok (changed, transaction)) :
    CarriesOut changed input transaction := by
  unfold RegistryState.activate at activated
  split at activated
  · cases activated
  · rename_i version found
    simp only [bind_eq_ok] at activated
    obtain ⟨_, asserted, activated⟩ := activated
    split at activated
    · rename_i replay recorded
      simp only [bind_eq_ok, ensure_eq_ok, pure_eq_ok, Prod.mk.injEq] at activated
      obtain ⟨_, ⟨kind, toVersion, receipt, verification⟩, rfl, rfl⟩ := activated
      exact ⟨⟨version, found, asserted⟩, ⟨replay, recorded, rfl⟩, kind, toVersion, receipt,
        verification⟩
    · rename_i absent
      simp only [bind_eq_ok, ensure_eq_ok, pure_eq_ok, Prod.mk.injEq] at activated
      obtain ⟨_, current, _, -, rfl, rfl⟩ := activated
      refine ⟨⟨version, found, asserted⟩, ⟨{ state.transaction input with madeBy }, ?_, rfl⟩, rfl,
        rfl, rfl, rfl⟩
      rw [List.find?_append, absent]
      simp [RegistryState.transaction, current]

/-- A swap of the activation pointer that was accepted returns its transaction again at any
later time, and does not move the pointer. -/
theorem activate_repeatable
    (activated : state.activate input madeBy = .ok (changed, transaction))
    (calls : ReflTransGen (RegistryState.Accepts platform) changed later) :
    later.activate input again = .ok (later, transaction) := by
  obtain ⟨⟨version, found, asserted⟩, ⟨entry, recorded, rfl⟩, kind, toVersion, receipt,
    verification⟩ := carriesOut_of_activate activated
  obtain ⟨versions, transactions⟩ := RegistryState.grows_of_calls calls
  have known : later.versionOf input.versionDigest = some version :=
    versions.find?_eq_some found
  have replay : later.transactions.find? (fun entry =>
      entry.previousRevision = input.expectedRevision) = some entry :=
    transactions.find?_eq_some recorded
  simp only [RegistryState.activate, known, asserted, replay, bind_eq_ok, ensure_eq_ok, pure_eq_ok]
  exact ⟨(), trivial, (), ⟨kind, toVersion, receipt, verification⟩, trivial⟩

end Activations

def firstVersion : AgentVersion where
  versionId := "version:agent:candidate"
  versionDigest := zeroDigest
  targetAgentId := "agent"
  targetDomainId := "domain"
  blueprintDigest := zeroDigest
  candidateDigest := zeroDigest
  candidateRef := "candidate"
  qualificationDigest := zeroDigest
  createdAt := "1970-01-01T00:00:00.000Z"

def firstActivation : ActivationInput where
  transactionKind := .activate
  targetAgentId := "agent"
  targetDomainId := "domain"
  expectedRevision := 0
  versionDigest := zeroDigest
  occurredAt := "1970-01-01T00:00:00.000Z"
  authorityReceiptRef := none
  runtimeBindingVerification := { firstVersion with
    transactionKind := .activate
    expectedActivationRevision := 0
    preflightRef := "preflight"
    runtimeBindingRef := "binding" }

def registeredState : RegistryState :=
  { RegistryState.initial "agent" "domain" with versions := [firstVersion] }

theorem first_activated :
    (registeredState.activate firstActivation (some "run")).toOption.isSome = true := by
  decide +kernel

theorem activate_repeatable_first : ∃ changed transaction,
    registeredState.activate firstActivation (some "run") = .ok (changed, transaction) ∧
      changed.activate firstActivation (some "run") = .ok (changed, transaction) := by
  obtain ⟨⟨changed, transaction⟩, activated⟩ := Option.isSome_iff_exists.1 first_activated
  have activated := Lib.mem_toOption.1 activated
  have calls : ReflTransGen (RegistryState.Accepts acceptancePlatform) changed changed := .refl
  exact ⟨changed, transaction, activated, activate_repeatable activated calls⟩

end OnePersonLab.Evolution
