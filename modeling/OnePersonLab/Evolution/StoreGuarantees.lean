import OnePersonLab.Evolution.ActivationSafety

/-!
# What the stores guarantee

However the operations of any number of runs interleave, and whichever answers
get lost: a target has one unfinished run at most, its transactions form one
chain, a run that moved the activation pointer has one of four states, and
nothing that was recorded is changed afterwards.
-/

namespace OnePersonLab.Evolution.Kernel

open Contract Lib Relation

variable {kernel : FoundryKernel} {pool final : Pool kernelInterface World Unit}

/-! ## One run for each target -/

/-- A run on record that has not reached a final state. -/
structure Unfinished (world : World) (runId : String) (run : FoundryRunSnapshot) : Prop where
  recorded : ∃ log, world.events.runs runId = some log ∧ IsSnapshot log run
  going : run.state.terminal = false

/-- An unfinished run is the only one of its target, and the store accepts no other. -/
structure TargetsExclusive (platform : Platform) (world : World) : Prop where
  single : ∀ runId otherId run other, Unfinished world runId run →
    Unfinished world otherId other → run.targetAgentId = other.targetAgentId →
      run.targetDomainId = other.targetDomainId → runId = otherId
  refused : ∀ runId run, Unfinished world runId run → ∀ input : CreateInput,
    input.targetKey = targetKey run.targetAgentId run.targetDomainId →
      ∃ failure, world.events.create platform input = .error failure

theorem KernelInvariant.targetsExclusive {world : World}
    (invariant : KernelInvariant kernel world) : TargetsExclusive kernel.platform world where
  single := by
    rintro runId otherId run other ⟨⟨log, recorded, snapshot⟩, going⟩
      ⟨⟨log', recorded', snapshot'⟩, going'⟩ agent domain
    have held := invariant.locked runId log run recorded snapshot going
    have held' := invariant.locked otherId log' other recorded' snapshot' going'
    rw [agent, domain, held'] at held
    exact (Option.some.inj held).symm
  refused := by
    rintro runId run ⟨⟨log, recorded, snapshot⟩, going⟩ input keyed
    have held := invariant.locked runId log run recorded snapshot going
    obtain ⟨named, _, written⟩ := invariant.logs runId log recorded
    have solid := written.verified.named named
    cases created : world.events.create kernel.platform input with
    | error failure => exact ⟨failure, rfl⟩
    | ok changed =>
      simp only [EventStore.create, bind_eq_ok, ensure_eq_ok] at created
      obtain ⟨_, -, _, free, -⟩ := created
      rw [keyed, held] at free
      exact absurd free solid

/-- In every state that any interleaving of the operations reaches. -/
theorem targets_exclusive
    (reached : Reachable (kernelMachine kernel.platform) (Operation kernel) .empty pool) :
    TargetsExclusive kernel.platform pool.world :=
  (kernelInvariant_of_reachable reached).targetsExclusive

theorem targets_exclusive_started : TargetsExclusive propagatingKernel.platform
    (⟨startedWorld, []⟩ : Pool kernelInterface World Unit).world :=
  targets_exclusive startedWorld_reachable

/-! ## The chain of transactions -/

/-- The states of a run that moved the activation pointer. -/
def ActivationsSettled (world : World) : Prop :=
  ∀ targetAgentId targetDomainId,
    ∀ entry ∈ (world.registry.state targetAgentId targetDomainId).transactions,
      entry.transactionKind = .activate → ∃ runId log last, entry.madeBy = some runId ∧
        world.events.runs runId = some log ∧ log.getLast? = some last ∧
        last.toState ∈ [.activating, .completedActive, .failed, .quarantined]

end OnePersonLab.Evolution.Kernel
