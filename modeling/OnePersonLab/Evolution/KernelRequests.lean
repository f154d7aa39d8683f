import OnePersonLab.Evolution.KernelPorts
import OnePersonLab.Lib.Alone

/-!
# What the operations ask

An inspection only reads. A step of a run leaves the event store alone until it
appends, and it returns as soon as the append is answered: a step that fails has
left the log as it was.
-/

namespace OnePersonLab.Evolution.Kernel

open Contract Lib

variable {kernel : FoundryKernel} {world after : World} {request : DesignRequest} {α : Type}
  {run : FoundryRunSnapshot} {inspection : FoundryRunInspection} {transition : TransitionInput}
  {runId : String}

/-! ## Requests that leave things in place -/

/-- The requests that only read the stores. -/
def Reads : KernelRequest → Prop
  | .getObject _ | .readEvents _ | .readResult _ | .resolveVersion _ _ _ | .readActivation _ _
  | .activationHistory _ _ => True
  | _ => False

/-- The requests that write to the event store. -/
def WritesEvents : KernelRequest → Prop
  | .createEvents _ | .appendEvent _ => True
  | _ => False

section

variable {platform : Platform}

theorem serves_reads {request : KernelRequest} {answer : Except Failure (KernelResponse request)}
    (reads : Reads request) (served : Serves platform world request after answer) :
    after = world := by
  cases served with
  | served done =>
    cases request <;> first | exact reads.elim | exact (Prod.mk.inj (Option.some.inj done)).1.symm
  | answered unserved => cases request <;> first | exact reads.elim | cases unserved

theorem serves_events {request : KernelRequest} {answer : Except Failure (KernelResponse request)}
    (silent : ¬ WritesEvents request) (served : Serves platform world request after answer) :
    after.events = world.events := by
  cases served with
  | served done =>
    cases request with
    | createEvents | appendEvent => exact absurd trivial silent
    | putObject | commitResult | registerVersion | swapActivation =>
      rcases World.attempt_cases (Option.some.inj done) with ⟨_, _, -, rfl, -⟩ | ⟨rfl, -⟩ <;> rfl
    | getObject | readEvents | readResult | resolveVersion | readActivation | activationHistory =>
      rw [← (Prod.mk.inj (Option.some.inj done)).1]
    | _ => cases done
  | answered unserved =>
    cases request with
    | verifyOwner => cases answer <;> rfl
    | _ => rfl

theorem serves_refused {request : KernelRequest} {failure : Failure}
    (served : Serves platform world request after (.error failure)) :
    after.events = world.events := by
  cases served with
  | served done =>
    cases request with
    | createEvents | appendEvent | putObject | commitResult | registerVersion | swapActivation =>
      rcases World.attempt_cases (Option.some.inj done) with ⟨_, _, -, -, impossible⟩ | ⟨rfl, -⟩
      · cases impossible
      · rfl
    | getObject | readEvents | readResult | resolveVersion | readActivation | activationHistory =>
      rw [← (Prod.mk.inj (Option.some.inj done)).1]
    | _ => cases done
  | answered unserved =>
    cases request <;> rfl

end

/-! ## What the programs ask -/

section Only

variable {allowed : KernelRequest → Prop} {last : KernelRequest → Prop}

theorem only_check {checked : Checked α} : (check checked).Only allowed := .done

theorem only_object {kind : FoundryObject → Option α} {digest label : String}
    (reads : allowed (.getObject digest)) : (object kind digest label).Only allowed := by
  refine (Program.Only.call reads).bind fun stored => ?_
  cases stored with
  | none => exact .done
  | some stored => cases read : kind stored <;> simp only [read] <;> exact .done

theorem only_activity {operation : String} {attempt : KernelProgram α}
    (only : attempt.Only allowed) : (activity kernel operation attempt).Only allowed := by
  unfold activity
  generalize kernel.activityMaxAttempts = remaining
  induction remaining with
  | zero => exact .done
  | succ remaining ih =>
    refine only.tryCatch fun failure => ?_
    split
    · exact .done
    · split
      · exact .done
      · exact ih

end Only

variable {canary : Bool} {options : FoundryAdvanceRunStepOptions} {subject : EvaluationSubject}

theorem only_qualifiedAgentVersion : (qualifiedAgentVersion run).Only Reads := by
  unfold qualifiedAgentVersion
  split
  · exact .done
  · exact (Program.Only.call (by exact trivial)).bind fun _ => only_check.bind fun _ => .done

theorem only_activationTransaction {decisions : List FoundryOwnerDecisionReadback}
    {event : Option FoundryRunEvent} :
    (activationTransaction kernel run decisions event).Only Reads := by
  cases event with
  | none => exact .done
  | some event =>
    refine only_check.bind fun _ => (Program.Only.call (by exact trivial)).bind fun history => ?_
    split
    · exact .done
    · exact only_check.bind fun _ => only_check.bind fun _ => .done

/-- An inspection only reads. -/
theorem only_inspectRun : (inspectRun kernel runId).Only Reads := by
  refine (Program.Only.call (by exact trivial)).bind fun events => only_check.bind fun _ =>
    only_check.bind fun run => (only_object (by exact trivial)).bind fun request =>
    (Program.Only.call (by exact trivial)).bind fun activation => ?_
  refine Program.Only.bind ?_ fun _ => .done
  exact only_qualifiedAgentVersion.bind fun version => only_check.bind fun decisions =>
    only_check.bind fun _ => only_check.bind fun _ => only_activationTransaction.bind fun _ => .done

/-- A program that leaves the event store alone. -/
abbrev Quiet (program : KernelProgram α) : Prop := program.Only fun request => ¬ WritesEvents request

theorem quiet_ask {request : KernelRequest} (silent : ¬ WritesEvents request) :
    Quiet (ask request) := Program.Only.call silent

theorem quiet_currentBlueprint : Quiet (currentBlueprint inspection) := by
  unfold currentBlueprint
  split
  · exact .done
  · exact only_object id

theorem quiet_currentCandidate : Quiet (currentCandidate kernel inspection) := by
  unfold currentCandidate
  split
  · exact (only_object id).bind fun _ => only_check.bind fun _ => only_check.bind fun _ => .done
  · exact .done

theorem quiet_currentVersion : Quiet (currentVersion inspection) := by
  unfold currentVersion
  split
  · exact .done
  · refine (quiet_ask id).bind fun found => ?_
    cases found <;> exact .done

theorem quiet_resolveBaseline : Quiet (resolveBaseline request) := by
  unfold resolveBaseline
  split
  · exact .done
  · exact quiet_ask id

theorem quiet_baselineBlueprint : Quiet (baselineBlueprint request) := by
  refine quiet_resolveBaseline.bind fun version => ?_
  cases version with
  | none => exact .done
  | some version => exact (only_object id).bind fun _ => .done

theorem quiet_evaluationSubject : Quiet (evaluationSubject kernel inspection canary options) := by
  refine quiet_currentBlueprint.bind fun _ => quiet_currentCandidate.bind fun _ =>
    only_check.bind fun _ => quiet_resolveBaseline.bind fun _ => Program.Only.bind ?_ fun _ =>
    only_check.bind fun _ => only_check.bind fun _ => only_check.bind fun _ => .done
  cases canary with
  | false => exact .done
  | true => exact quiet_currentVersion.bind fun _ => .done

theorem quiet_freshEvidence : Quiet (freshEvidence kernel inspection subject canary) := by
  refine Program.Only.bind (only_activity (quiet_ask id)) fun evaluated => ?_
  refine Program.Only.bind only_check fun evidence => Program.Only.bind only_check fun facts => ?_
  refine Program.Only.bind (quiet_ask id) fun stored => Program.Only.bind only_check fun digest => ?_
  refine Program.Only.bind only_check fun _ => Program.Only.bind (quiet_ask id) fun result => ?_
  exact .done

theorem quiet_evaluationEvidence :
    Quiet (evaluationEvidence kernel inspection subject canary options) := by
  refine (quiet_ask id).bind fun result => ?_
  cases result with
  | some result =>
    exact (only_object id).bind fun _ => only_check.bind fun _ => only_check.bind fun _ =>
      only_check.bind fun _ => only_check.bind fun _ => .done
  | none =>
    dsimp only
    split
    · exact .done
    · exact quiet_freshEvidence

theorem quiet_registerVersion {result : FoundryOperationResult} :
    Quiet (registerVersion kernel inspection subject result) := by
  refine only_activity ((quiet_ask id).tryCatch fun failure => ?_)
  split <;> exact .done

theorem quiet_commitFoundryActivation {kind : ActivationTransactionKind} {version : AgentVersion}
    {expectedActivationRevision : Nat} {authorityReceiptRef madeBy : Option String} :
    Quiet (commitFoundryActivation kernel kind version expectedActivationRevision
      authorityReceiptRef madeBy) := by
  refine Program.Only.bind only_check fun _ => ?_
  refine Program.Only.bind (only_activity (quiet_ask id)) fun preflight => ?_
  refine Program.Only.bind only_check fun _ => Program.Only.bind (quiet_ask id) fun occurredAt => ?_
  refine Program.Only.bind (only_activity (quiet_ask id)) fun transaction => ?_
  exact Program.Only.bind only_check fun _ => .done

/-! ## Steps append last -/

/-- A program that returns once it has appended. -/
abbrev AppendsLast (program : KernelProgram α) : Prop := program.EndsWith WritesEvents

theorem appendsLast_append : AppendsLast (append kernel inspection transition) :=
  .bind (quiet_ask id) fun _ => .bind only_check fun _ => .call _

theorem appendsLast_appendJournaledResult {result : FoundryOperationResult} :
    AppendsLast (appendJournaledResult kernel inspection result transition) := by
  refine appendsLast_append.tryCatch fun failure => ?_
  split <;> exact .done

theorem appendsLast_design : AppendsLast (design kernel inspection) :=
  .bind (only_activity (quiet_ask id)) fun _ => .bind only_check fun _ => .bind only_check fun _ =>
    .bind (quiet_ask id) fun _ => .bind quiet_baselineBlueprint fun _ => .bind only_check fun _ =>
    appendsLast_append

theorem appendsLast_materialize : AppendsLast (materialize kernel inspection) :=
  .bind quiet_currentBlueprint fun _ => .bind (only_activity (quiet_ask id)) fun _ =>
    .bind only_check fun _ => .bind (quiet_ask id) fun _ => .bind only_check fun _ =>
    .bind only_check fun _ => appendsLast_append

theorem appendsLast_evaluate : AppendsLast (evaluate kernel inspection canary options) := by
  refine .bind quiet_evaluationSubject fun subject => .bind quiet_evaluationEvidence fun journaled => ?_
  dsimp only [settleEvaluation]
  split
  · split
    · exact appendsLast_appendJournaledResult
    · exact .bind quiet_registerVersion fun _ => .bind only_check fun _ =>
        appendsLast_appendJournaledResult
  · exact appendsLast_appendJournaledResult

theorem appendsLast_diagnose : AppendsLast (diagnose kernel inspection) := by
  refine .bind quiet_currentBlueprint fun blueprint => .bind (only_object id) fun evidence => ?_
  have asked : Quiet (askDiagnosis kernel inspection blueprint evidence) :=
    only_check.bind fun _ => quiet_ask id
  refine .bind (only_activity asked) fun _ => .bind only_check fun _ => .bind only_check fun _ =>
    .bind (quiet_ask id) fun _ => .bind only_check fun _ => ?_
  split
  · exact .bind only_check fun _ => appendsLast_append
  · exact .bind only_check fun _ => .bind only_check fun _ => .bind (quiet_ask id) fun _ =>
      appendsLast_append

theorem appendsLast_activate : AppendsLast (activate kernel inspection) := by
  refine .bind (quiet_ask id) fun _ => .bind only_check fun _ => .bind only_check fun _ =>
    .bind (quiet_ask id) fun version => ?_
  cases version with
  | none => exact .done
  | some version => exact .bind quiet_commitFoundryActivation fun _ => appendsLast_append

theorem appendsLast_advanceOne : AppendsLast (advanceOne kernel inspection options) := by
  unfold advanceOne
  split
  · exact appendsLast_append
  · exact appendsLast_design
  · exact appendsLast_materialize
  · exact appendsLast_evaluate
  · exact appendsLast_append
  · exact appendsLast_diagnose
  · exact appendsLast_append
  · exact appendsLast_evaluate
  · exact appendsLast_activate
  · exact .done

end OnePersonLab.Evolution.Kernel
