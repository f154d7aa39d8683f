import OnePersonLab.Evolution.EvaluationBar
import OnePersonLab.Evolution.KernelSafety

/-!
# Activation safety

Every activation in the history of a target was made by a run that took the
whole route to it: qualification, canary and the owner approvals that its risk
asks for, in this order and for one version and one generation.
-/

namespace OnePersonLab.Evolution.Kernel

open Contract Lib

variable {kernel : FoundryKernel} {world : World} {request : DesignRequest}
  {events log : List FoundryRunEvent} {run : FoundryRunSnapshot} {entry : CommittedTransaction}

/-- The owner approved the activation after the canary, and the transaction
names the receipt of that approval; a run of low risk needs none and names none. -/
structure Authorized (kernel : FoundryKernel) (log : List FoundryRunEvent)
    (run : FoundryRunSnapshot) (passed : Nat) (entry : CommittedTransaction) : Prop where
  raised : run.riskTier ≠ some .low → ∃ approved receipt, passed < approved ∧
    EventAt log approved (Approves kernel.platform .approveActive run.runId run.generation
      entry.toVersionDigest receipt) ∧ entry.authorityReceiptRef = some receipt.receiptRef
  low : run.riskTier = some .low → entry.authorityReceiptRef = none

/-- What the log of a run shows of an activation: the run at the moment it
activated, and the events behind it. -/
structure ActivatedBy (kernel : FoundryKernel) (world : World) (runId : String)
    (entry : CommittedTransaction) : Prop where
  shown : ∃ log events run request passed,
    world.events.runs runId = some log ∧ events <+: log ∧ IsSnapshot events run ∧
      run.runId = runId ∧ run.state = .activating ∧
      run.targetAgentId = entry.targetAgentId ∧ run.targetDomainId = entry.targetDomainId ∧
      run.versionDigest = some entry.toVersionDigest ∧ run.riskTier.isSome = true ∧
      world.objects run.requestDigest = some (.request request) ∧
      request.deliveryPolicy.activationMode = .activate ∧
      PassedCanary kernel world log run entry.toVersionDigest passed ∧
      Authorized kernel log run passed entry

/-- Every activation was made by a run that took the route to it. -/
def ActivationsAccounted (kernel : FoundryKernel) (world : World) : Prop :=
  ∀ targetAgentId targetDomainId,
    ∀ entry ∈ (world.registry.state targetAgentId targetDomainId).transactions,
      entry.transactionKind = .activate →
        ∃ runId, entry.madeBy = some runId ∧ ActivatedBy kernel world runId entry

/-! ## The authority of a run under activation -/

/-- The authority of an approval is the ref of its receipt. -/
theorem Approves.authority {platform : Platform} {action : OwnerGateAction}
    {runId versionDigest : String} {generation : Nat} {receipt : OwnerAuthorityReceipt}
    {event : FoundryRunEvent} {before : FoundryRunSnapshot} {authority : OwnerAuthority}
    (approves : Approves platform action runId generation versionDigest receipt event before)
    (read : ownerAuthorityOf event = .ok authority) : authority.ref = receipt.receiptRef := by
  obtain ⟨-, -, -, bound, -, digestField⟩ := approves
  simp only [ownerAuthorityOf, Kernel.requiredDigest, bind_eq_ok, ensure_eq_ok, pure_eq_ok,
    ownerAuthorityReceiptRef_eq_ok] at read
  obtain ⟨digest, ⟨_, given, _, -, rfl⟩, ref, -, _, ⟨-, rfl⟩, _, rfl, rfl⟩ := read
  have digestGiven := requiredRef_eq_ok given
  rw [show (field? event.payload "owner_authority_receipt_digest").bind Json.asString? =
    some receipt.receiptDigest from digestField] at digestGiven
  rw [digestGiven, Option.getD_some, trim_of_isSha256Digest bound.canonical.wellFormed,
    bound.canonical.ref]

/-- The receipt that a run under activation swapped the pointer with. -/
theorem Route.authorized (route : Route kernel world request events run) {passed : Nat}
    {later : List FoundryRunEvent} (approved : run.riskTier ≠ some .low →
      ApprovedActive kernel events run entry.toVersionDigest passed)
    (unapproved : lastApproval later = lastApproval events)
    {authority : Option OwnerAuthority} (read : latestOwnerAuthority later = .ok authority)
    (receipt : entry.authorityReceiptRef = authority.map OwnerAuthority.ref)
    (within : events <+: log) : Authorized kernel log run passed entry := by
  obtain ⟨rest, rfl⟩ := within
  rw [latestOwnerAuthority_eq, unapproved] at read
  constructor
  · intro raised
    obtain ⟨index, granted, late, event, before, found, snapshot, approves, last⟩ := approved raised
    refine ⟨index, granted, late, EventAt.append ⟨event, before, found, snapshot, approves⟩ rest, ?_⟩
    simp only [last, map_eq_ok] at read
    obtain ⟨held, read, rfl⟩ := read
    rw [receipt, Option.map_some, approves.authority read]
  · intro low
    have none_ : lastApproval events = none := by
      refine route.approvals.resolve_right ?_
      rintro ⟨tier, graded, raised⟩
      exact raised (Option.some.inj (graded.symm.trans low))
    simp only [none_, Except.ok.injEq] at read
    rw [receipt, ← read, Option.map_none]

theorem Activating.activatedBy (invariant : KernelInvariant kernel world) {runId : String}
    (activating : Activating world runId entry.input) : ActivatedBy kernel world runId entry := by
  obtain ⟨log, later, events, run, recorded, within, earlier, snapshot, state, version, agent,
    domain, -, authority, read, receipt⟩ := activating.log
  obtain ⟨named, request, written⟩ := invariant.logs runId log recorded
  have known : KernelLog kernel world request events :=
    written.of_prefix (earlier.trans within) snapshot.ne_nil
  have route := known.route snapshot
  obtain ⟨last, ends, sameRun, -⟩ := snapshot.last
  have own : run.runId = runId :=
    sameRun.trans (named last ((earlier.trans within).subset (List.mem_of_getLast? ends)))
  obtain ⟨versionDigest, current, -, behind⟩ := route.version (by rw [state]; rfl)
  obtain rfl : versionDigest = entry.toVersionDigest := Option.some.inj (current.symm.trans version)
  simp only [RouteTo, state] at behind
  obtain ⟨mode, passed, canary, approved⟩ := behind
  have settled := lastApproval_settled
    (written.verified.of_prefix within (earlier.ne_nil snapshot.ne_nil)) earlier snapshot state
  refine ⟨log, events, run, request, passed, recorded, earlier.trans within, snapshot, own, state,
    agent, domain, version, route.graded (by rw [state]; rfl), (known.identity snapshot).stored,
    mode, ?_, route.authorized approved settled read receipt (earlier.trans within)⟩
  obtain ⟨rest, rfl⟩ := earlier.trans within
  exact canary.append (Steady.refl run) rest

/-- A digest for each kind of object, as far as a small run needs them apart. -/
def kindDigest : Json → String
  | .object ((_, .string kind) :: _) =>
    if kind = "opl_foundry_design_request" then
      "sha256:0000000000000000000000000000000000000000000000000000000000000001"
    else "sha256:0000000000000000000000000000000000000000000000000000000000000002"
  | _ => "sha256:0000000000000000000000000000000000000000000000000000000000000003"

theorem kindDigest_wellFormed (value : Json) : isSha256Digest (kindDigest value) = true := by
  unfold kindDigest
  split
  · split <;> decide +kernel
  · decide +kernel

def quietPlatform : Platform where
  digest := kindDigest
  digest_wellFormed := kindDigest_wellFormed
  localeAtMost _ _ := true
  dateParse _ := some 0
  toISOString _ := "1970-01-01T00:00:00.000Z"

/-- A kernel that hands transient failures on to its caller. -/
def propagatingKernel : FoundryKernel where
  platform := quietPlatform
  designerProducerId := "designer"
  evaluatorId := "evaluator"
  activityMaxAttempts := 1
  propagateTransientActivityFailures := true
  independent := by decide
  retryBudget := by decide

/-- Every port outside the stores is down, but for the clock and the ids. -/
def portsDown : (request : KernelRequest) → Except Failure (KernelResponse request)
  | .now => .ok "1970-01-01T00:00:00.000Z"
  | .createRunId => .ok "run"
  | _ => .error (.transientActivity "down")

def serveAlone (world : World) (request : KernelRequest) :
    World × Except Failure (KernelResponse request) :=
  match world.serve quietPlatform request with
  | some served => served
  | none => (world, portsDown request)

theorem serves_serveAlone (world : World) (request : KernelRequest) :
    Serves quietPlatform world request (serveAlone world request).1
      (serveAlone world request).2 := by
  unfold serveAlone
  cases served : world.serve quietPlatform request with
  | some result => exact .served served
  | none =>
    cases request with
    | now => exact .answered served trivial rfl
    | createRunId =>
      have fits : plausibleAnswer .createRunId (portsDown .createRunId) :=
        show trim "run" = "run" by decide +kernel
      exact .answered served fits trivial
    | verifyOwner context =>
      have fits : plausibleAnswer (.verifyOwner context) (portsDown (.verifyOwner context)) :=
        trivial
      exact .answered served fits trivial
    | _ => exact .answered served trivial trivial

def startedWorld : World :=
  (((fun _ => ()) <$> startRun propagatingKernel
    { request := unconstrainedRequest, runId := some "run" } false).run serveAlone .empty).1

theorem startedWorld_reachable : Reachable (kernelMachine propagatingKernel.platform)
    (Operation propagatingKernel) .empty ⟨startedWorld, []⟩ :=
  Reachable.run (fun world request => (serves_serveAlone world request).performs) .refl
    (.startRun { request := unconstrainedRequest, runId := some "run" } false)

end OnePersonLab.Evolution.Kernel
