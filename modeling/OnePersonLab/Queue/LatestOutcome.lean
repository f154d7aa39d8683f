import OnePersonLab.Lib.Reducer
import OnePersonLab.Queue.DomainRouteTask

/-!
# Tasks and their latest attempts

The rows of the attempts are written in any order, and any of them are reconciled with
their tasks at any time. A task follows its latest attempt as long as the latest one is
let through and no earlier one is after it.
-/

namespace OnePersonLab.Queue

open Contract Stage Attempt Lib

/-! ## Runs -/

/-- The queue and the attempts that have been reconciled since their rows were written. -/
structure Watch where
  queue : RuntimeQueue
  reconciled : List String
  deriving DecidableEq

inductive QueueCall where
  | writeAttempt (row : AttemptRow) (updatedAt : Int)
  | prune (pass : RetentionPass)
  | reconcileAttempt (stageAttemptId source : String) (admission : ScopeAdmission)
    (stamp : AnnouncementStamp)
  | reconcileTasks (taskIds : List String) (source : String) (admission : ScopeAdmission)
    (stamps : Nat → AnnouncementStamp)

/-- One call; a call that fails is dropped. -/
def watches (texts : LedgerTexts) : Reducer Watch QueueCall Failure := fun watch call =>
  match call with
  | .writeAttempt row updatedAt =>
    .ok ⟨{ watch.queue with attempts := watch.queue.attempts.write row updatedAt },
      watch.reconciled.filter (· ≠ row.stageAttemptId)⟩
  | .prune pass => .ok ⟨pruneRuntimeQueueHistory texts watch.queue pass, watch.reconciled⟩
  | .reconcileAttempt stageAttemptId source admission stamp => do
    let (queue, _) ← reconcileDomainRouteTerminalTaskForAttempt texts watch.queue stageAttemptId
      source admission stamp
    return ⟨queue, stageAttemptId :: watch.reconciled⟩
  | .reconcileTasks taskIds source admission stamps => do
    let (queue, _) ← reconcileDomainRouteTerminalTasks texts watch.queue taskIds source admission
      stamps
    let candidates := taskIds.filterMap (candidate? watch.queue)
    return ⟨queue, candidates.map (·.attempt.stageAttemptId) ++ watch.reconciled⟩

/-- The latest attempt of a task, by its creation and then its row. -/
def IsLatest (queue : RuntimeQueue) (taskId : String) (attempt : StoredAttempt) : Prop :=
  attempt ∈ queue.attempts.rows ∧ attempt.linkedTask = some taskId ∧
    ∀ other ∈ queue.attempts.rows, other.linkedTask = some taskId → ¬ other.LaterThan attempt

instance (queue : RuntimeQueue) (taskId : String) (attempt : StoredAttempt) :
    Decidable (IsLatest queue taskId attempt) :=
  inferInstanceAs (Decidable (_ ∧ _ ∧ _))

/-- The task stands at the outcome of the attempt. -/
def Follows (queue : RuntimeQueue) (taskId : String) (attempt : StoredAttempt) : Prop :=
  ∃ row ∈ queue.task? taskId, row.Shows (taskStatusForTerminalAttempt attempt.row)

instance (queue : RuntimeQueue) (taskId : String) (attempt : StoredAttempt) :
    Decidable (Follows queue taskId attempt) :=
  decidable_of_iff ((queue.task? taskId).any fun row =>
      row.Shows (taskStatusForTerminalAttempt attempt.row)) (by
    simp [Follows, Option.any_eq_true])

/-- A candidate is in turn: the latest attempt of a domain route is let through unless its
task shows its outcome already, and an attempt that is let through after the latest one
has the same outcome. -/
structure InTurn (queue : RuntimeQueue) (reconciled : List String) (candidate : Candidate) :
    Prop where
  latest : isDomainRouteStageRouteTask candidate.task = true →
    IsLatest queue candidate.task.taskId candidate.attempt →
    terminalStatus candidate.attempt.row.status = true →
    Follows queue candidate.task.taskId candidate.attempt ∨
      canReconcileTask candidate.task candidate.attempt = true ∧
        alreadyReconciled queue candidate.task candidate.attempt = false ∧
        updateChanges queue candidate.task = true
  earlier : ∀ last ∈ queue.attempts.rows, IsLatest queue candidate.task.taskId last →
    last.stageAttemptId ∈ reconciled → Admits queue candidate.task candidate.attempt →
    taskStatusForTerminalAttempt candidate.attempt.row = taskStatusForTerminalAttempt last.row

/-- Every candidate is in turn when the ones before it have been reconciled. -/
def AllInTurn (texts : LedgerTexts) (source : String) :
    (Nat → AnnouncementStamp) → RuntimeQueue → List String → List Candidate → Prop
  | _, _, _, [] => True
  | stamps, queue, reconciled, candidate :: rest =>
    InTurn queue reconciled candidate ∧
      AllInTurn texts source (fun n => stamps (n + 1))
        (reconcileTaskRowWithAttempt texts queue candidate.task candidate.attempt source
          (stamps 0)).1
        (candidate.attempt.stageAttemptId :: reconciled) rest

/-- What a call may reconcile is in turn. -/
def CallInTurn (texts : LedgerTexts) (watch : Watch) : QueueCall → Prop
  | .writeAttempt _ _ | .prune _ => True
  | .reconcileAttempt stageAttemptId _ _ _ =>
    ∀ candidate ∈ linkedCandidate? watch.queue stageAttemptId,
      InTurn watch.queue watch.reconciled candidate
  | .reconcileTasks taskIds source _ stamps =>
    AllInTurn texts source stamps watch.queue watch.reconciled
      (taskIds.filterMap (candidate? watch.queue))

/-! ## Latest attempts -/

section

variable {queue : RuntimeQueue} {taskId : String} {attempt last : StoredAttempt}

theorem IsLatest.hasNoLaterLive (latest : IsLatest queue taskId attempt) :
    hasLaterLiveLinkedStageAttempt queue attempt = false := by
  obtain ⟨-, linked, none_later⟩ := latest
  unfold hasLaterLiveLinkedStageAttempt
  rw [linked]
  refine List.any_eq_false.2 fun other listed later => ?_
  simp only [Bool.and_eq_true, decide_eq_true_eq] at later
  have named := (StoredAttempt.linkedTask_eq_some.1 linked).2
  exact none_later other listed (StoredAttempt.linkedTask_eq_some.2 ⟨later.1.1.1, named⟩) later.2

theorem IsLatest.taskId_eq (latest : IsLatest queue taskId attempt) :
    attempt.taskId = some taskId :=
  (StoredAttempt.linkedTask_eq_some.1 latest.2.1).1

end

/-! ## What a candidate leaves -/

/-- A candidate has been read from the queue, whose task may have changed since. -/
structure ReadFrom (queue : RuntimeQueue) (candidate : Candidate) : Prop where
  listed : candidate.attempt ∈ queue.attempts.rows
  linked : candidate.attempt.taskId = some candidate.task.taskId
  task : ∃ row ∈ queue.task? candidate.task.taskId,
    isDomainRouteStageRouteTask row = isDomainRouteStageRouteTask candidate.task

/-- Every domain route follows its latest attempt once that one is terminal and reconciled. -/
def FollowsLatest (queue : RuntimeQueue) (reconciled : List String) : Prop :=
  ∀ taskId, ∀ row ∈ queue.task? taskId, isDomainRouteStageRouteTask row = true →
    ∀ last, IsLatest queue taskId last → last.stageAttemptId ∈ reconciled →
      terminalStatus last.row.status = true → row.Shows (taskStatusForTerminalAttempt last.row)

theorem FollowsLatest.mono {queue : RuntimeQueue} {reconciled fewer : List String}
    (follows : FollowsLatest queue reconciled) (within : fewer ⊆ reconciled) :
    FollowsLatest queue fewer :=
  fun taskId row found route last latest listed terminal =>
    follows taskId row found route last latest (within listed) terminal

theorem IsLatest.congr {queue after : RuntimeQueue} {taskId : String} {attempt : StoredAttempt}
    (same : after.attempts = queue.attempts) (latest : IsLatest after taskId attempt) :
    IsLatest queue taskId attempt := by
  unfold IsLatest at latest ⊢
  rwa [same] at latest

section

variable {texts : LedgerTexts} {queue : RuntimeQueue} {reconciled : List String}
  {candidate : Candidate} {source : String} {stamp : AnnouncementStamp}

/-- A candidate that no guard would hold back is not held back. -/
theorem InTurn.follows_of_kept (turn : InTurn queue reconciled candidate)
    (kept : ¬ (Admits queue candidate.task candidate.attempt ∧
      updateChanges queue candidate.task = true))
    (route : isDomainRouteStageRouteTask candidate.task = true)
    (latest : IsLatest queue candidate.task.taskId candidate.attempt)
    (terminal : terminalStatus candidate.attempt.row.status = true) :
    Follows queue candidate.task.taskId candidate.attempt := by
  rcases turn.latest route latest terminal with follows | ⟨reconcilable, fresh, changes⟩
  · exact follows
  · exact absurd ⟨⟨route, terminal, latest.hasNoLaterLive, reconcilable, fresh⟩, changes⟩ kept

/-- A task that the update finds takes the outcome. -/
theorem task?_projectTerminal {row : TaskRow}
    (found : queue.task? candidate.task.taskId = some row)
    (changes : updateChanges queue candidate.task = true) :
    (projectTerminal texts queue candidate.task candidate.attempt source stamp).task?
      candidate.task.taskId =
        some ((taskStatusForTerminalAttempt candidate.attempt.row).applyTo row) := by
  have status : row.status = candidate.task.status := by
    simpa [updateChanges, found] using changes
  have named : row.taskId = candidate.task.taskId := by
    simpa using List.find?_some found
  rw [task?_updateTasks projectTerminal_tasks, found, Option.map_some, if_pos ⟨named, status⟩]

/-- The other tasks stay as they are. -/
theorem task?_projectTerminal_other {taskId : String} (other : taskId ≠ candidate.task.taskId) :
    (projectTerminal texts queue candidate.task candidate.attempt source stamp).task? taskId =
      queue.task? taskId := by
  rw [task?_updateTasks projectTerminal_tasks]
  cases found : queue.task? taskId with
  | none => rfl
  | some row =>
    have named : row.taskId = taskId := by simpa using List.find?_some found
    rw [Option.map_some, if_neg fun same => other (named.symm.trans same.1)]

variable (texts source stamp) in
/-- A candidate in turn keeps what follows, and is then followed itself. -/
theorem FollowsLatest.reconcile (follows : FollowsLatest queue reconciled)
    (read : ReadFrom queue candidate) (turn : InTurn queue reconciled candidate) :
    FollowsLatest (reconcileTaskRowWithAttempt texts queue candidate.task candidate.attempt source
      stamp).1 (candidate.attempt.stageAttemptId :: reconciled) := by
  intro taskId row found route last latest listed terminal
  replace latest := latest.congr reconcileTaskRowWithAttempt_attempts
  obtain ⟨current, present, sameRoute⟩ := read.task
  rcases reconcileTaskRowWithAttempt_cases texts queue candidate.task candidate.attempt source
    stamp with
    ⟨unchanged, kept⟩ | ⟨written, admitted, changes⟩
  · rw [unchanged] at found
    rcases List.mem_cons.1 listed with own | earlier
    · obtain rfl := AttemptTable.eq_of_stageAttemptId latest.1 read.listed own
      obtain rfl := Option.some.inj (read.linked.symm.trans latest.taskId_eq)
      obtain rfl := Option.some.inj (present.symm.trans found)
      obtain ⟨shown, there, shows⟩ :=
        turn.follows_of_kept kept (sameRoute.symm.trans route) latest terminal
      obtain rfl := Option.some.inj (there.symm.trans found)
      exact shows
    · exact follows taskId row found route last latest earlier terminal
  · rw [written] at found
    by_cases same : taskId = candidate.task.taskId
    · subst same
      rw [task?_projectTerminal present changes] at found
      obtain rfl := Option.some.inj found
      rcases List.mem_cons.1 listed with own | earlier
      · obtain rfl := AttemptTable.eq_of_stageAttemptId latest.1 read.listed own
        exact TaskOutcome.applyTo_shows _ _
      · rw [← turn.earlier last latest.1 latest earlier admitted]
        exact TaskOutcome.applyTo_shows _ _
    · rw [task?_projectTerminal_other same] at found
      rcases List.mem_cons.1 listed with own | earlier
      · obtain rfl := AttemptTable.eq_of_stageAttemptId latest.1 read.listed own
        exact absurd (Option.some.inj (latest.taskId_eq.symm.trans read.linked)) same
      · exact follows taskId row found route last latest earlier terminal

/-- The other candidates are still read from the queue. -/
theorem ReadFrom.reconcile {other : Candidate} (read : ReadFrom queue other) :
    ReadFrom (reconcileTaskRowWithAttempt texts queue candidate.task candidate.attempt source
      stamp).1 other := by
  rcases reconcileTaskRowWithAttempt_cases texts queue candidate.task candidate.attempt source
    stamp with
    ⟨unchanged, -⟩ | ⟨written, -, -⟩
  · rwa [unchanged]
  · obtain ⟨row, present, route⟩ := read.task
    rw [written]
    refine ⟨?_, read.linked, ?_⟩
    · rw [projectTerminal_attempts]
      exact read.listed
    · rw [task?_updateTasks projectTerminal_tasks, present]
      refine ⟨_, rfl, ?_⟩
      dsimp only
      split
      · exact (TaskOutcome.applyTo_route _ row).trans route
      · exact route

theorem FollowsLatest.reconcileCandidates {candidates : List Candidate}
    {stamps : Nat → AnnouncementStamp} (follows : FollowsLatest queue reconciled)
    (read : ∀ candidate ∈ candidates, ReadFrom queue candidate)
    (turn : AllInTurn texts source stamps queue reconciled candidates) :
    FollowsLatest (reconcileCandidates texts source stamps queue candidates).1
      (candidates.map (·.attempt.stageAttemptId) ++ reconciled) := by
  induction candidates generalizing queue reconciled stamps with
  | nil => exact follows
  | cons candidate rest ih =>
    obtain ⟨first, others⟩ := turn
    have after := follows.reconcile texts source (stamps 0)
      (read candidate (List.mem_cons_self ..)) first
    have settled := ih after (fun other listed =>
      (read other (List.mem_cons_of_mem _ listed)).reconcile) others
    refine settled.mono fun stageAttemptId listed => ?_
    simp only [List.map_cons, List.cons_append, List.mem_cons, List.mem_append] at listed ⊢
    rcases listed with own | elsewhere | earlier
    · exact .inr (.inl own)
    · exact .inl elsewhere
    · exact .inr (.inr earlier)

end

section

variable {texts : LedgerTexts} {queue : RuntimeQueue} {source : String}

/-- Whether a task is there, and a domain route, stays as it is. -/
def taskRoute (queue : RuntimeQueue) (taskId : String) : Option Bool :=
  (queue.task? taskId).map isDomainRouteStageRouteTask

theorem taskRoute_reconcile {row : TaskRow} {attempt : StoredAttempt} {stamp : AnnouncementStamp}
    (taskId : String) :
    taskRoute (reconcileTaskRowWithAttempt texts queue row attempt source stamp).1 taskId =
      taskRoute queue taskId := by
  rcases reconcileTaskRowWithAttempt_cases texts queue row attempt source stamp with
    ⟨unchanged, -⟩ | ⟨written, -, -⟩
  · rw [unchanged]
  · rw [written, taskRoute, task?_updateTasks projectTerminal_tasks, Option.map_map]
    refine congrArg (Option.map · _) (funext fun task => ?_)
    dsimp only [Function.comp_apply]
    split
    · exact TaskOutcome.applyTo_route _ task
    · rfl

theorem taskRoute_reconcileCandidates {candidates : List Candidate}
    {stamps : Nat → AnnouncementStamp} (taskId : String) :
    taskRoute (reconcileCandidates texts source stamps queue candidates).1 taskId =
      taskRoute queue taskId := by
  induction candidates generalizing queue stamps with
  | nil => rfl
  | cons candidate rest ih => exact ih.trans (taskRoute_reconcile taskId)

end

/-! ## What a call leaves -/

section

variable {texts : LedgerTexts} {queue after : RuntimeQueue} {source : String}
  {admission : ScopeAdmission}

variable {stageAttemptId : String}

theorem readFrom_of_linkedCandidate? {candidate : Candidate}
    (linked : linkedCandidate? queue stageAttemptId = some candidate) :
    ReadFrom queue candidate ∧ candidate.attempt.stageAttemptId = stageAttemptId := by
  simp only [linkedCandidate?, Option.bind_eq_bind, Option.bind_eq_some_iff,
    StoredAttempt.linkedTask_eq_some, Option.pure_def, Option.some.injEq] at linked
  obtain ⟨attempt, found, taskId, ⟨named, -⟩, row, present, rfl⟩ := linked
  have own : row.taskId = taskId := by simpa using List.find?_some present
  subst own
  have listed := AttemptTable.get?_some found
  exact ⟨⟨listed.1, named, row, present, rfl⟩, listed.2⟩

theorem readFrom_of_candidate? {taskId : String} {candidate : Candidate}
    (chosen : candidate? queue taskId = some candidate) : ReadFrom queue candidate := by
  unfold candidate? at chosen
  cases present : queue.task? taskId with
  | none => simp [present] at chosen
  | some row =>
    have own : row.taskId = taskId := by simpa using List.find?_some present
    subst own
    simp only [present] at chosen
    split at chosen
    · cases chosen
    · split at chosen
      · cases chosen
      · obtain ⟨attempt, found, rfl⟩ := Option.map_eq_some_iff.1 chosen
        have listed :=
          RuntimeQueue.mem_listStageAttemptsForTask.1 (List.mem_of_find?_eq_some found)
        exact ⟨listed.1, listed.2, row, present, rfl⟩

/-- A call for one attempt reconciles its candidate, if there is one. -/
theorem reconcileForAttempt_ok {stamp : AnnouncementStamp} {result : ReconcileResult}
    (reconciled : reconcileDomainRouteTerminalTaskForAttempt texts queue stageAttemptId source
      admission stamp = .ok (after, result)) :
    (linkedCandidate? queue stageAttemptId = none ∧ after = queue) ∨
      ∃ candidate, linkedCandidate? queue stageAttemptId = some candidate ∧
        after = (reconcileTaskRowWithAttempt texts queue candidate.task candidate.attempt source
          stamp).1 := by
  unfold reconcileDomainRouteTerminalTaskForAttempt at reconciled
  simp only [linkedCandidate?, Option.bind_eq_bind]
  cases found : queue.attempts.get? stageAttemptId with
  | none =>
    simp only [found, Except.ok.injEq, Prod.mk.injEq] at reconciled
    exact .inl ⟨rfl, reconciled.1.symm⟩
  | some attempt =>
    simp only [found] at reconciled
    obtain ⟨_, -, reconciled⟩ := bind_eq_ok.1 reconciled
    cases linked : attempt.linkedTask with
    | none =>
      simp only [linked, pure_eq_ok, Prod.mk.injEq] at reconciled
      exact .inl ⟨by simp only [Option.bind_some, linked, Option.bind_none], reconciled.1.symm⟩
    | some taskId =>
      cases present : queue.task? taskId with
      | none =>
        simp only [linked, present, pure_eq_ok, Prod.mk.injEq] at reconciled
        refine .inl ⟨?_, reconciled.1.symm⟩
        simp only [Option.bind_some, linked, present, Option.bind_none]
      | some row =>
        simp only [linked, present, pure_eq_ok, Prod.mk.injEq] at reconciled
        refine .inr ⟨⟨row, attempt⟩, ?_, reconciled.1.symm⟩
        simp only [Option.bind_some, linked, present, Option.pure_def]

/-- An attempt that is linked to no task is the latest of none. -/
theorem FollowsLatest.unlinked {reconciled : List String} (follows : FollowsLatest queue reconciled)
    (unlinked : linkedCandidate? queue stageAttemptId = none) :
    FollowsLatest queue (stageAttemptId :: reconciled) := by
  intro taskId row found route last latest listed terminal
  rcases List.mem_cons.1 listed with rfl | earlier
  · have own : queue.attempts.get? last.stageAttemptId = some last :=
      AttemptTable.get?_of_mem latest.1
    simp only [linkedCandidate?, Option.bind_eq_bind, own, Option.bind_some, latest.2.1,
      Option.mem_def.1 found, Option.pure_def, reduceCtorEq] at unlinked
  · exact follows taskId row found route last latest earlier terminal

/-- A row that is written again is no longer reconciled, and the others stay. -/
theorem FollowsLatest.writeAttempt {reconciled : List String}
    (follows : FollowsLatest queue reconciled) (row : AttemptRow) (updatedAt : Int) :
    FollowsLatest { queue with attempts := queue.attempts.write row updatedAt }
      (reconciled.filter (· ≠ row.stageAttemptId)) := by
  intro taskId task found route last latest listed terminal
  obtain ⟨written, linked, none_later⟩ := latest
  obtain ⟨old, stored, rfl⟩ := List.mem_map.1 written
  obtain ⟨earlier, foreign⟩ := List.mem_filter.1 listed
  rw [AttemptTable.rewrite_stageAttemptId] at earlier foreign
  have unchanged : AttemptTable.rewrite row updatedAt old = old :=
    if_neg (by simpa using foreign)
  rw [unchanged] at terminal linked none_later ⊢
  refine follows taskId task found route old ⟨stored, linked, ?_⟩ earlier terminal
  intro other there same later
  refine none_later (AttemptTable.rewrite row updatedAt other) (List.mem_map_of_mem there)
    ((AttemptTable.rewrite_linkedTask row updatedAt other).trans same) ?_
  unfold StoredAttempt.LaterThan at later ⊢
  rwa [AttemptTable.rewrite_createdAt, AttemptTable.rewrite_rowid]

/-- Every accepted call in turn keeps what follows. -/
theorem FollowsLatest.call {watch next : Watch} {call : QueueCall}
    (follows : FollowsLatest watch.queue watch.reconciled) (turn : CallInTurn texts watch call)
    (accepted : watches texts watch call = .ok next) :
    FollowsLatest next.queue next.reconciled := by
  cases call with
  | writeAttempt row updatedAt =>
    obtain rfl := Except.ok.inj accepted
    exact follows.writeAttempt row updatedAt
  | prune pass =>
    obtain rfl := Except.ok.inj accepted
    exact follows
  | reconcileAttempt stageAttemptId source admission stamp =>
    obtain ⟨⟨settled, result⟩, reconciled, accepted⟩ := bind_eq_ok.1 accepted
    obtain rfl := pure_eq_ok.1 accepted
    rcases reconcileForAttempt_ok reconciled with ⟨none_linked, rfl⟩ | ⟨candidate, linked, rfl⟩
    · exact follows.unlinked none_linked
    · obtain ⟨read, rfl⟩ := readFrom_of_linkedCandidate? linked
      exact follows.reconcile _ _ _ read (turn candidate linked)
  | reconcileTasks taskIds source admission stamps =>
    obtain ⟨⟨settled, reconciledIds⟩, reconciled, accepted⟩ := bind_eq_ok.1 accepted
    obtain rfl := pure_eq_ok.1 accepted
    obtain ⟨_, -, rest⟩ := bind_eq_ok.1 reconciled
    obtain rfl := congrArg Prod.fst (pure_eq_ok.1 rest)
    refine follows.reconcileCandidates (fun candidate listed => ?_) turn
    obtain ⟨taskId, -, chosen⟩ := List.mem_filterMap.1 listed
    exact readFrom_of_candidate? chosen

theorem taskRoute_call {watch next : Watch} {call : QueueCall}
    (accepted : watches texts watch call = .ok next) (taskId : String) :
    taskRoute next.queue taskId = taskRoute watch.queue taskId := by
  cases call with
  | writeAttempt row updatedAt =>
    obtain rfl := Except.ok.inj accepted
    rfl
  | prune pass =>
    obtain rfl := Except.ok.inj accepted
    rfl
  | reconcileAttempt stageAttemptId source admission stamp =>
    obtain ⟨⟨settled, result⟩, reconciled, accepted⟩ := bind_eq_ok.1 accepted
    obtain rfl := pure_eq_ok.1 accepted
    rcases reconcileForAttempt_ok reconciled with ⟨-, rfl⟩ | ⟨candidate, -, rfl⟩
    · rfl
    · exact taskRoute_reconcile taskId
  | reconcileTasks taskIds source admission stamps =>
    obtain ⟨⟨settled, reconciledIds⟩, reconciled, accepted⟩ := bind_eq_ok.1 accepted
    obtain rfl := pure_eq_ok.1 accepted
    obtain ⟨_, -, rest⟩ := bind_eq_ok.1 reconciled
    obtain rfl := congrArg Prod.fst (pure_eq_ok.1 rest)
    exact taskRoute_reconcileCandidates taskId

end

/-! ## Runs of calls -/

section

variable (texts : LedgerTexts) (queue : RuntimeQueue)

/-- What a sequence of calls makes of a queue in which nothing has been reconciled. -/
def watched (calls : List QueueCall) : Watch :=
  ((watches texts).history ⟨queue, []⟩ calls).state

/-- All attempts of the task have ended and been reconciled at their ends. -/
def AllReconciled (watch : Watch) (taskId : String) : Prop :=
  ∀ attempt ∈ watch.queue.attempts.rows, attempt.linkedTask = some taskId →
    terminalStatus attempt.row.status = true ∧ attempt.stageAttemptId ∈ watch.reconciled

instance (watch : Watch) (taskId : String) : Decidable (AllReconciled watch taskId) :=
  inferInstanceAs (Decidable (∀ attempt ∈ watch.queue.attempts.rows, _))

variable {texts queue}

variable (texts queue) in
theorem taskRoute_watched (calls : List QueueCall) (taskId : String) :
    taskRoute (watched texts queue calls).queue taskId = taskRoute queue taskId :=
  (watches texts).history_induction_any ⟨queue, []⟩
    (motive := fun history => taskRoute history.state.queue taskId = taskRoute queue taskId) rfl
    (fun _ _ _ accepted same => (taskRoute_call accepted taskId).trans same) calls

theorem followsLatest_watched {calls : List QueueCall}
    (turn : (watches texts).Meets ⟨queue, []⟩ (CallInTurn texts) calls) :
    FollowsLatest (watched texts queue calls).queue (watched texts queue calls).reconciled := by
  refine (watches texts).history_induction ⟨queue, []⟩
    (motive := fun history => FollowsLatest history.state.queue history.state.reconciled) ?_ ?_ turn
  · intro taskId row found route last latest listed
    exact absurd listed List.not_mem_nil
  · intro history call next inTurn accepted follows
    exact follows.call inTurn accepted

end

/-- A domain-route task follows its latest attempt in every run whose reconciliations are in
turn, as soon as that attempt has ended and been reconciled. -/
theorem domainRoute_follows_latest {texts : LedgerTexts} {queue : RuntimeQueue} {row : TaskRow}
    (listed : queue.task? row.taskId = some row) (route : isDomainRouteStageRouteTask row = true)
    {calls : List QueueCall}
    (turn : (watches texts).Meets ⟨queue, []⟩ (CallInTurn texts) calls) :
    ∀ last, IsLatest (watched texts queue calls).queue row.taskId last →
      terminalStatus last.row.status = true →
      last.stageAttemptId ∈ (watched texts queue calls).reconciled →
      Follows (watched texts queue calls).queue row.taskId last := by
  intro last latest terminal reconciled
  have same := taskRoute_watched texts queue calls row.taskId
  rw [taskRoute, taskRoute, listed, Option.map_some, route, Option.map_eq_some_iff] at same
  obtain ⟨settled, found, settledRoute⟩ := same
  exact ⟨settled, found, followsLatest_watched turn row.taskId settled found settledRoute last latest
    reconciled terminal⟩

/-! ## Late reports -/

instance (queue : RuntimeQueue) (reconciled : List String) (candidate : Candidate) :
    Decidable (InTurn queue reconciled candidate) :=
  decidable_of_iff
    ((isDomainRouteStageRouteTask candidate.task = true →
      IsLatest queue candidate.task.taskId candidate.attempt →
      terminalStatus candidate.attempt.row.status = true →
      Follows queue candidate.task.taskId candidate.attempt ∨
        canReconcileTask candidate.task candidate.attempt = true ∧
          alreadyReconciled queue candidate.task candidate.attempt = false ∧
          updateChanges queue candidate.task = true) ∧
    ∀ last ∈ queue.attempts.rows, IsLatest queue candidate.task.taskId last →
      last.stageAttemptId ∈ reconciled → Admits queue candidate.task candidate.attempt →
      taskStatusForTerminalAttempt candidate.attempt.row = taskStatusForTerminalAttempt last.row)
    ⟨fun turn => ⟨turn.1, turn.2⟩, fun turn => ⟨turn.latest, turn.earlier⟩⟩

namespace Sample

def plainTexts : LedgerTexts where
  stringify := fun _ => "\x7b\x7d"
  sha256Text := fun _ => ""
  slice := fun value _ => value
  closeoutId := fun _ => ""

def routeTask : TaskRow where
  taskId := "task_1"
  domainId := "redcube"
  taskKind := domainRouteStageRouteTaskKind
  payload := []
  status := .running
  lastError := none
  deadLetterReason := none

def attemptRow (stageAttemptId : String) (status : AttemptStatus) (closeoutRefs : List String) :
    AttemptRow :=
  { executorRow status closeoutRefs none with stageAttemptId := stageAttemptId }

/-- A task with an attempt and a later one, both under way. -/
def twoAttempts : RuntimeQueue where
  tasks := [routeTask]
  attempts :=
    ⟨[⟨attemptRow "sat_1" .running [], some "task_1", 0, 0, 1⟩,
      ⟨attemptRow "sat_2" .running [], some "task_1", 1, 1, 2⟩], by decide, by decide⟩
  events := []
  notifications := []
  closeouts := []
  announced := []
  taken := []

/-- Any attempt may be written; its row ends, and the attempt is reconciled. -/
def reports (row : AttemptRow) (time : Int) : List QueueCall :=
  [.writeAttempt row time,
    .reconcileAttempt row.stageAttemptId "temporal-terminal-observation" (fun _ => .ok ())
      ⟨⟨"evt_" ++ row.stageAttemptId, time, none⟩, ⟨"ntf_" ++ row.stageAttemptId, time, none⟩⟩]

def inOrder : List QueueCall :=
  reports (attemptRow "sat_1" .failed []) 2 ++ reports (attemptRow "sat_2" .blocked []) 3

def outOfOrder : List QueueCall :=
  reports (attemptRow "sat_2" .blocked []) 2 ++ reports (attemptRow "sat_1" .failed []) 3

def latestBlocked (updatedAt : Int) : StoredAttempt :=
  ⟨attemptRow "sat_2" .blocked [], some "task_1", 1, updatedAt, 2⟩

theorem inOrder_inTurn :
    (watches plainTexts).Meets ⟨twoAttempts, []⟩ (CallInTurn plainTexts) inOrder := by
  refine ((((Reducer.meets_nil _ _ _).concat ?_).concat ?_).concat ?_).concat ?_
  · trivial
  · show ∀ candidate ∈ linkedCandidate? _ _, InTurn _ _ candidate
    decide +kernel
  · trivial
  · show ∀ candidate ∈ linkedCandidate? _ _, InTurn _ _ candidate
    decide +kernel

end Sample

theorem domainRoute_follows_latest_inOrder :
    Follows (watched Sample.plainTexts Sample.twoAttempts Sample.inOrder).queue
      Sample.routeTask.taskId (Sample.latestBlocked 3) :=
  domainRoute_follows_latest
    (show Sample.twoAttempts.task? Sample.routeTask.taskId = some Sample.routeTask by decide +kernel)
    (by decide +kernel) Sample.inOrder_inTurn _ (by decide +kernel) (by decide +kernel) (by decide +kernel)

/-- An earlier attempt that is reported after the latest one takes the task from it. -/
theorem late_report_takes_task :
    ¬ ∀ (texts : LedgerTexts) (queue : RuntimeQueue) (row : TaskRow) (calls : List QueueCall),
      queue.task? row.taskId = some row → row.status = .running →
      isDomainRouteStageRouteTask row = true →
      AllReconciled (watched texts queue calls) row.taskId →
      ∀ last, IsLatest (watched texts queue calls).queue row.taskId last →
        Follows (watched texts queue calls).queue row.taskId last := by
  intro claim
  have follows := claim Sample.plainTexts Sample.twoAttempts Sample.routeTask Sample.outOfOrder
    (by decide +kernel) rfl (by decide +kernel) (by decide +kernel) (Sample.latestBlocked 2)
    (by decide +kernel)
  revert follows
  decide +kernel

end OnePersonLab.Queue
