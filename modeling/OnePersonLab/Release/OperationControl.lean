import OnePersonLab.Release.Store

/-!
# Operation control

An operation is admitted once, under a control that fixes its identity and its
window. Every later command of the operation has to name exactly that control.
-/

namespace OnePersonLab.Release

open Contract Lib

def canonicalReleaseBundleOperation : StableOperation → CanonicalOperation
  | .appendFull => .appendFull
  | _ => .standard

def releaseBundleOperationTrack : StableOperation → Track
  | .appendFull => .full
  | _ => .standard

def releaseBundleOperationTracks : StableOperation → List Track
  | .appendFull => [.full]
  | _ => [.standard, .webui]

def releaseBundleOperationDeadlineElapsed (control : OperationControl) (now : Int) : Bool :=
  control.operationDeadlineAt ≤ now

def candidateControl (bundle : ReleaseBundle) (invocation : OperationInvocation) :
    Checked OperationControl := do
  let control : OperationControl :=
    { bundleDigest := bundle.bundleDigest
      operationId := invocation.operationId
      operationKind := canonicalReleaseBundleOperation invocation.releaseOperation
      track := releaseBundleOperationTrack invocation.releaseOperation
      operationStartedAt := invocation.operationStartedAt
      operationDeadlineAt := invocation.operationDeadlineAt }
  assertOperationControl control
  return control

def assertExactControl (current expected : OperationControl) : Checked Unit :=
  ensure (current = expected)
    "Release Bundle operation control is immutable and does not match this invocation."

def assertResumeWindowRotation (current replacement : OperationControl) (now : Int) :
    Checked Unit := do
  ensure (releaseBundleOperationDeadlineElapsed current now = true)
    "resume_standard cannot rotate an active Standard operation window."
  ensure (current.bundleDigest = replacement.bundleDigest ∧
      current.operationId = replacement.operationId ∧
      current.operationKind = .standard ∧ replacement.operationKind = .standard ∧
      current.track = .standard ∧ replacement.track = .standard)
    "resume_standard window rotation must preserve the exact Standard identity."
  ensure (current.operationDeadlineAt ≤ replacement.operationStartedAt ∧
      replacement.operationStartedAt ≤ now)
    "resume_standard window rotation must start after the expired window and no later than the current clock."
  ensure (now < replacement.operationDeadlineAt)
    "resume_standard replacement window must still be active."

def assertNoActiveUnknownOutcome (store : ReleaseStore) : Checked Unit :=
  ensure (listReleaseBundleUnknownOutcomes store = [])
    "An active Release Bundle unknown outcome blocks every ordinary mutation."

def assertAppendFullAdmission (store : ReleaseStore) (bundle : ReleaseBundle)
    (control : OperationControl) : Checked Unit :=
  match store.control .standard with
  | none => fail "append_full requires the immutable Standard operation control."
  | some standardControl => do
    ensure (standardControl.operationId ≠ control.operationId)
      "append_full requires an independent operation identity."
    ensure (∀ track ∈ stableRequiredTrackNames bundle, (store.staged track).isSome = true)
      "append_full requires a built Standard checkpoint and every Stable carrier track before admission."

def assertExpiredFullReplacement (store : ReleaseStore) (bundle : ReleaseBundle)
    (current replacement : OperationControl) (now : Int) : Checked Unit := do
  ensure (releaseBundleOperationDeadlineElapsed current now = true)
    "append_full cannot replace an active operation window."
  ensure (current.bundleDigest = replacement.bundleDigest ∧
      current.operationId ≠ replacement.operationId ∧
      current.operationKind = .appendFull ∧ replacement.operationKind = .appendFull ∧
      current.track = .full ∧ replacement.track = .full)
    "Expired Full recovery requires a new operation identity for the exact bundle and Full track."
  ensure (current.operationDeadlineAt ≤ replacement.operationStartedAt ∧
      replacement.operationStartedAt ≤ now ∧ now < replacement.operationDeadlineAt)
    "Expired Full recovery must start after the prior window and remain active at admission."
  assertAppendFullAdmission store bundle replacement
  ensure ((store.staged .full).isSome = true)
    "Expired Full recovery requires an existing built Full checkpoint."

def assertLiveCompatible (store : ReleaseStore) : Checked Unit :=
  ensure (store.legacy = none)
    "A legacy checkpoint without operation control is read-only and cannot drive live mutation."

def assertDeadlineActive (control : OperationControl) (now : Int) : Checked Unit :=
  ensure (releaseBundleOperationDeadlineElapsed control now = false)
    "Release Bundle absolute operation deadline has elapsed."

/-- The receipt of an admission. -/
def admissionReceipt (invocation : OperationInvocation) (control : OperationControl)
    (status : ReceiptStatus) : OperationReceipt where
  operation := .operationAdmit
  status := status
  track := some control.track
  releaseOperation := some invocation.releaseOperation
  operationControl := some control

def admitReleaseBundleOperation (bundle : ReleaseBundle) (invocation : OperationInvocation) :
    StoreProgram OperationReceipt := do
  let store ← Writes.read
  let _ ← readStoredReleaseBundle store
  assertLiveCompatible store
  assertNoActiveUnknownOutcome store
  let candidate ← candidateControl bundle invocation
  match store.control (canonicalReleaseBundleOperation invocation.releaseOperation) with
  | none =>
    ensure (invocation.releaseOperation ≠ .resumeStandard)
      "resume_standard requires an existing Standard operation control from the checkpoint."
    (if canonicalReleaseBundleOperation invocation.releaseOperation = .appendFull then
      assertAppendFullAdmission store bundle candidate
    else .ok () : Checked Unit)
    assertDeadlineActive candidate invocation.now
    let installed ← installReleaseBundleOperationControl candidate
    let receipt := admissionReceipt invocation candidate
      (if installed = .idempotent then .idempotent else .complete)
    recordReleaseBundleOperation receipt
    return receipt
  | some current =>
    if invocation.releaseOperation = .resumeStandard ∧ current ≠ candidate then
      assertResumeWindowRotation current candidate invocation.now
      replaceReleaseBundleOperationControl current candidate
      let receipt := admissionReceipt invocation candidate .complete
      recordReleaseBundleOperation receipt
      return receipt
    else if invocation.releaseOperation = .appendFull ∧ current ≠ candidate then
      assertExpiredFullReplacement store bundle current candidate invocation.now
      replaceReleaseBundleOperationControl current candidate
      let receipt := admissionReceipt invocation candidate .complete
      recordReleaseBundleOperation receipt
      return receipt
    else
      assertExactControl current candidate
      assertDeadlineActive current invocation.now
      let receipt := admissionReceipt invocation current .idempotent
      recordReleaseBundleOperation receipt
      return receipt

/-- The control of an admitted operation, and whether its window is over. -/
structure RequiredOperation where
  control : OperationControl
  deadlineElapsed : Bool

/-- `requireReleaseBundleOperation`; a reconcile allows an expired window and an active marker. -/
def requireReleaseBundleOperation (store : ReleaseStore) (bundle : ReleaseBundle)
    (invocation : OperationInvocation) (reconcile : Bool) : Checked RequiredOperation := do
  assertLiveCompatible store
  if reconcile = false then
    assertNoActiveUnknownOutcome store
  match store.control (canonicalReleaseBundleOperation invocation.releaseOperation) with
  | none =>
    fail "Release Bundle operation must be admitted before any build, verify, or publish plan."
  | some current =>
    let expected ← candidateControl bundle invocation
    assertExactControl current expected
    let deadlineElapsed := releaseBundleOperationDeadlineElapsed current invocation.now
    if reconcile = false then
      assertDeadlineActive current invocation.now
    return ⟨current, deadlineElapsed⟩

def assertReleaseBundleOperationTrack (operation : StableOperation) (track : Track) :
    Checked Unit :=
  ensure (track ∈ releaseBundleOperationTracks operation)
    "Release Bundle operation cannot act on the requested track."

/-! ## What the checks say -/

theorem assertOperationControl_eq_ok {control : OperationControl} {result : Unit} :
    assertOperationControl control = .ok result ↔
      control.operationStartedAt < control.operationDeadlineAt ∧
        (control.operationKind = .standard → control.track = .standard) ∧
        (control.operationKind = .appendFull → control.track = .full) := by
  simp only [assertOperationControl, bind_eq_ok, ensure_eq_ok]
  constructor
  · rintro ⟨_, window, kept⟩
    exact ⟨window, kept⟩
  · rintro ⟨window, kept⟩
    exact ⟨(), window, kept⟩

/-- The control that an invocation names. -/
structure Names (bundle : ReleaseBundle) (invocation : OperationInvocation)
    (control : OperationControl) : Prop where
  bundleDigest : control.bundleDigest = bundle.bundleDigest
  operationId : control.operationId = invocation.operationId
  operationKind :
    control.operationKind = canonicalReleaseBundleOperation invocation.releaseOperation
  track : control.track = releaseBundleOperationTrack invocation.releaseOperation
  window : control.operationStartedAt < control.operationDeadlineAt

theorem candidateControl_eq_ok {bundle : ReleaseBundle} {invocation : OperationInvocation}
    {control : OperationControl} :
    candidateControl bundle invocation = .ok control ↔
      Names bundle invocation control ∧
        control.operationStartedAt = invocation.operationStartedAt ∧
        control.operationDeadlineAt = invocation.operationDeadlineAt := by
  simp only [candidateControl, bind_eq_ok, assertOperationControl_eq_ok, pure_eq_ok]
  constructor
  · rintro ⟨_, ⟨window, -, -⟩, rfl⟩
    exact ⟨⟨rfl, rfl, rfl, rfl, window⟩, rfl, rfl⟩
  · rintro ⟨⟨digest, id, kind, track, window⟩, started, deadline⟩
    refine ⟨(), ⟨?_, ?_, ?_⟩, ?_⟩
    · simpa only [started, deadline] using window
    · cases invocation.releaseOperation <;> simp [canonicalReleaseBundleOperation, releaseBundleOperationTrack]
    · cases invocation.releaseOperation <;> simp [canonicalReleaseBundleOperation, releaseBundleOperationTrack]
    · rw [← digest, ← id, ← kind, ← track, ← started, ← deadline]

/-- What a command that ran under a control has been told. -/
structure Admitted (bundle : ReleaseBundle) (store : ReleaseStore)
    (invocation : OperationInvocation) (reconcile : Bool) (control : OperationControl) : Prop where
  live : store.legacy = none
  unblocked : reconcile = false → ∀ slot, store.unknown slot = none
  held : store.control (canonicalReleaseBundleOperation invocation.releaseOperation) = some control
  names : Names bundle invocation control
  active : reconcile = false →
    releaseBundleOperationDeadlineElapsed control invocation.now = false

theorem admitted_of_require {bundle : ReleaseBundle} {store : ReleaseStore}
    {invocation : OperationInvocation} {reconcile : Bool} {operation : RequiredOperation}
    (required : requireReleaseBundleOperation store bundle invocation reconcile = .ok operation) :
    Admitted bundle store invocation reconcile operation.control ∧
      operation.deadlineElapsed =
        releaseBundleOperationDeadlineElapsed operation.control invocation.now := by
  simp only [requireReleaseBundleOperation, assertLiveCompatible, bind_eq_ok, ensure_eq_ok]
    at required
  obtain ⟨_, live, required⟩ := required
  cases held : store.control (canonicalReleaseBundleOperation invocation.releaseOperation) with
  | none => cases reconcile <;> simp [held] at required
  | some current =>
    cases reconcile with
    | false =>
      simp only [held, assertNoActiveUnknownOutcome, assertExactControl, assertDeadlineActive,
        if_true, bind_eq_ok, ensure_eq_ok, pure_eq_ok,
        listReleaseBundleUnknownOutcomes_eq_nil] at required
      obtain ⟨_, unblocked, expected, candidate, _, rfl, _, active, rfl⟩ := required
      exact ⟨⟨live, fun _ => unblocked, held, (candidateControl_eq_ok.1 candidate).1,
        fun _ => active⟩, rfl⟩
    | true =>
      simp only [held, assertExactControl, Bool.true_eq_false, if_false, bind_eq_ok, ensure_eq_ok,
        pure_eq_ok] at required
      obtain ⟨expected, candidate, _, rfl, rfl⟩ := required
      exact ⟨⟨live, by simp, held, (candidateControl_eq_ok.1 candidate).1, by simp⟩, rfl⟩

end OnePersonLab.Release
