import OnePersonLab.Update.LockExclusivity

/-!
# The lock can be had again

Whatever has become of the lock, a running process that asks for it and is left alone gets it
when no file is there, or when the one that is there may be reclaimed.
-/

namespace OnePersonLab.Update

open Lib

/-- The world with one more call. -/
def World.joined (world : World) (call : Call) : World :=
  { world with calls := world.calls ++ [call] }

/-- Left alone, the call gets the lock from a point on. -/
def Gets (world : World) (call : Call) (point : Point) : Prop :=
  ∃ steps, Holds ((goesOn world.calls.length steps).foldl managedUpdateLock.after
    (world.joined { call with point })) world.calls.length

/-- The call goes on at another point, and that is all. -/
def GoesOn (world : World) (call : Call) (point after : Point) : Prop :=
  advance (world.joined { call with point }) world.calls.length { call with point } false =
    (world.joined { call with point }).proceed world.calls.length { call with point } after

def Reclaimable (world : World) (file : FileId) : Prop :=
  isReclaimableLockPayload world (readLockFile world file) file = true

section

variable {world : World} {call : Call} {file : FileId}
  (alive : isProcessAlive world call.process = true)

include alive

/-- A step, after which the call gets the lock. -/
theorem gets_step (next : World) {point : Point} (after : Point) (calls : next.calls = world.calls)
    (advanced : advance (world.joined { call with point }) world.calls.length
      { call with point } false = next.joined { call with point := after })
    (rest : Gets next call after) : Gets world call point := by
  obtain ⟨steps, holds⟩ := rest
  have last : (world.joined { call with point }).calls[world.calls.length]? =
      some { call with point } := by
    simp [World.joined]
  have stepped : managedUpdateLock.after (world.joined { call with point })
      (.advance world.calls.length false) = next.joined { call with point := after } := by
    simp only [Reducer.after, managedUpdateLock, step, last]
    rw [if_pos (show isProcessAlive (world.joined _) call.process = true from alive)]
    exact advanced
  refine ⟨steps + 1, ?_⟩
  rw [goesOn, List.replicate_succ, List.foldl_cons, stepped, ← calls]
  exact holds

/-- A step that only the call notices. -/
theorem gets_on {point after : Point} (goes : GoesOn world call point after)
    (rest : Gets world call after) : Gets world call point := by
  refine gets_step alive world after rfl (goes.trans ?_) rest
  simp [World.joined, World.proceed]

theorem gets_creating {attempt : Nat} (free : world.lock = none) :
    Gets world call (.creating attempt) := by
  let made := (world.make ⟨none, world.now, world.calls.length⟩).lead (some world.files.length)
  let written := made.write world.files.length ⟨some call.receipt, world.now, world.calls.length⟩
  have running : isProcessAlive made call.process = true := alive
  have held : Gets written call (.holding world.files.length) :=
    ⟨0, { call with point := .holding world.files.length }, world.files.length,
      List.getElem?_concat_length, alive, rfl⟩
  refine gets_step alive made (.writing world.files.length) rfl ?_
    (gets_step running written _ rfl ?_ held)
  · simp only [advance, Bool.false_eq_true, if_false]
    rw [show (world.joined _).lock = none from free]
    simp [World.joined, World.proceed, made, World.make, World.lead]
  · simp [advance, World.joined, World.proceed, World.write, written, made, World.make,
      World.lead, Call.receipt]

/-- The file is judged by what it says, then by its age. -/
theorem gets_judging {judging reclaims stats : Point} (reclaimable : Reclaimable world file)
    (judges : GoesOn world call judging (judged world (readLockFile world file) reclaims stats))
    (ages : isStaleLock world file = true → GoesOn world call stats reclaims)
    (rest : Gets world call reclaims) : Gets world call judging := by
  refine gets_on alive judges ?_
  rw [judged]
  split
  · exact rest
  · rename_i running
    exact gets_on alive (ages ((Bool.or_eq_true_iff.1 reclaimable).resolve_left running)) rest

theorem gets_readingGuard (reclaimable : Reclaimable world file) (free : world.lock = none) :
    Gets world call (.readingGuard 0 file) := by
  have ages (stale : isStaleLock world file = true) :
      GoesOn world call (.statingGuard 0 file) (.removingGuard 0 file) := by
    simp only [GoesOn, advance]
    exact congrArg _ (if_pos stale)
  have removes : GoesOn world call (.removingGuard 0 file) (.creating 1) := rfl
  exact gets_on alive rfl
    (gets_judging alive reclaimable rfl ages (gets_on alive removes (gets_creating alive free)))

theorem gets_readingLock (reclaimable : Reclaimable world file) (leads : world.lock = some file) :
    Gets world call (.readingLock 0) := by
  have there {point : Point} : (world.joined { call with point }).lock = some file := leads
  have reads : GoesOn world call (.readingLock 0) (.judgingLock 0 (readLockFile world file)) := by
    simp only [GoesOn, advance, there]
    rfl
  have ages (stale : isStaleLock world file = true) :
      GoesOn world call (.statingLock 0) (.renamingLock 0) := by
    simp only [GoesOn, advance, there]
    exact congrArg _ (if_pos stale)
  have aside : Gets (world.lead none) call (.readingGuard 0 file) := by
    have running : isProcessAlive (world.lead none) call.process = true := alive
    exact gets_readingGuard running reclaimable rfl
  refine gets_on alive reads (gets_judging alive reclaimable rfl ages
    (gets_step alive (world.lead none) (.readingGuard 0 file) rfl ?_ aside))
  simp only [advance, there]
  simp [World.joined, World.proceed, World.lead]

end

/-- A running process gets a lock that is free or may be reclaimed, unless others interfere. -/
theorem lock_recovers {world : World} {process : ProcessIdentity}
    (alive : isProcessAlive world process = true)
    (free : ∀ file ∈ world.lock, Reclaimable world file) :
    ∃ steps, Holds (managedUpdateLock.history world
      (.acquire process :: goesOn world.calls.length steps)).state world.calls.length := by
  let call : Call := ⟨process, world.now, .creating 0⟩
  have entered : managedUpdateLock.after world (.acquire process) = world.joined call := by
    simp only [Reducer.after, managedUpdateLock, step, alive, if_true]
    rfl
  have gets : Gets world call (.creating 0) := by
    cases leads : world.lock with
    | none => exact gets_creating alive leads
    | some file =>
      have occupied : GoesOn world call (.creating 0) (.readingLock 0) := by
        simp only [GoesOn, advance, Bool.false_eq_true, if_false]
        rw [show World.lock (world.joined _) = some file from leads]
      exact gets_on alive occupied (gets_readingLock alive (free file leads) leads)
  obtain ⟨steps, holds⟩ := gets
  refine ⟨steps, ?_⟩
  rw [Reducer.history_state, List.foldl_cons, entered]
  exact holds

/-- The first process has stopped while it held the lock. -/
def abandoned : World :=
  (managedUpdateLock.history emptyWorld
    ([.acquire (processOf 1)] ++ goesOn 0 2 ++ [.crash (processOf 1)])).state

theorem lock_recovers_abandoned : ∃ steps, Holds (managedUpdateLock.history abandoned
    (.acquire (processOf 2) :: goesOn abandoned.calls.length steps)).state
      abandoned.calls.length := by
  refine lock_recovers (by decide +kernel) ?_
  unfold Reclaimable
  decide +kernel

end OnePersonLab.Update
