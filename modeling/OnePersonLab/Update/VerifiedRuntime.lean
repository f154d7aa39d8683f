import OnePersonLab.Update.RuntimeAtomicity

/-!
# Only verified executables

However a runtime is staged, activated and rolled back, and whichever renames fail: once there
is a current directory there is one after every call, and the installed directories have no
executable that was not there before and was not verified either.
-/

namespace OnePersonLab.Update

open Lib Relation

variable {Tree : Type} {platform : CodexPlatform Tree} {layout after final : RuntimeLayout Tree}

def BinPlace.Installed (place : BinPlace) : Prop := place = .current ∨ place = .previous

def RuntimeLayout.codex (layout : RuntimeLayout Tree) (place : BinPlace) : Option Tree :=
  (layout.bins place).bind (·.lookup "codex")

/-- The call of an activation or of a rollback has ended, or something else has changed, such
as what is staged and whether a rename may fail again. -/
inductive RuntimeStep (platform : CodexPlatform Tree) :
    RuntimeLayout Tree → RuntimeLayout Tree → Prop where
  | activated {layout after : RuntimeLayout Tree} {processInstanceId outcome} :
      Runs (RuntimePerforms (· = .retired))
        (activatePendingCodexRuntimeGenerationAtPaths platform processInstanceId) layout.newNames
        outcome after → RuntimeStep platform layout after
  | rolledBack {layout after : RuntimeLayout Tree} {outcome} :
      Runs (RuntimePerforms fun _ => False) rollbackCodexRuntimeGeneration layout.newNames
        outcome after → RuntimeStep platform layout after
  | elsewhere {layout after : RuntimeLayout Tree} : after.bins .current = layout.bins .current →
      after.bins .previous = layout.bins .previous → RuntimeStep platform layout after

structure RuntimeKept (platform : CodexPlatform Tree) (layout after : RuntimeLayout Tree) :
    Prop where
  current : (layout.bins .current).isSome = true → (after.bins .current).isSome = true
  verified : ∀ place tree, place.Installed → after.codex place = some tree →
    platform.verifyCodexExecutable tree = true ∨
      ∃ other : BinPlace, other.Installed ∧ layout.codex other = some tree

theorem RuntimeKept.of_eq (current : after.bins .current = layout.bins .current)
    (previous : after.bins .previous = layout.bins .previous) :
    RuntimeKept platform layout after where
  current := by simp [current]
  verified := by
    rintro place tree installed found
    refine .inr ⟨place, installed, ?_⟩
    rcases installed with rfl | rfl
    · simpa only [RuntimeLayout.codex, current] using found
    · simpa only [RuntimeLayout.codex, previous] using found

theorem RuntimeKept.trans (first : RuntimeKept platform layout after)
    (rest : RuntimeKept platform after final) : RuntimeKept platform layout final where
  current := rest.current ∘ first.current
  verified place tree installed found := by
    rcases rest.verified place tree installed found with sound | ⟨other, placed, there⟩
    · exact .inl sound
    · exact first.verified other tree placed there

/-- The executable of the new directory is the verified one of the generation. -/
theorem Switched.kept {processInstanceId : String} (switched : Switched layout after)
    (admitted : Admitted platform processInstanceId layout) :
    RuntimeKept platform layout after where
  current _ := by simp [switched.current]
  verified place tree installed found := by
    obtain ⟨pending, verified, -⟩ := admitted
    obtain ⟨staged, there, accepted⟩ := (Option.any_eq_true _ _).1 verified.staged
    rcases installed with rfl | rfl
    · simp only [RuntimeLayout.codex, switched.current, Option.bind_some, overlaid,
        lookup_withSource, there, Option.some_or, Option.some.injEq] at found
      subst found
      exact .inl (Bool.and_eq_true_iff.1 accepted).1
    · simp only [RuntimeLayout.codex, switched.previous] at found
      cases placed : layout.bins .current with
      | none => exact .inr ⟨.previous, .inr rfl, by simpa [placed, RuntimeLayout.codex] using found⟩
      | some bin => exact .inr ⟨.current, .inl rfl, by simpa [placed, RuntimeLayout.codex] using found⟩

theorem activation_kept {spares : BinPlace → Prop} {processInstanceId : String}
    {outcome : Except RuntimeFailure ActivationStatus}
    (run : Runs (RuntimePerforms spares)
      (activatePendingCodexRuntimeGenerationAtPaths platform processInstanceId) layout.newNames
      outcome after) (spared : spares .retired) : RuntimeKept platform layout after := by
  have named : RuntimeKept platform layout layout.newNames := .of_eq rfl rfl
  have unnamed : layout.newNames.bins .retired = none := rfl
  refine named.trans ?_
  by_cases admitted : Admitted platform processInstanceId layout.newNames
  · have ends := (activate_admitted spared unnamed admitted).leads _ _ run
    cases outcome with
    | ok status => exact ends.2.kept admitted
    | error failure => exact .of_eq ends.2.1 ends.2.2
  · have ends := (activate_refused admitted).leads _ _ run
    cases outcome with
    | ok status =>
      obtain ⟨-, rfl⟩ := ends
      exact .of_eq rfl rfl
    | error failure => exact ends.elim

theorem rollback_kept {outcome : Except RuntimeFailure RollbackStatus}
    (run : Runs (RuntimePerforms fun _ => False) rollbackCodexRuntimeGeneration layout.newNames
      outcome after) : RuntimeKept platform layout after := by
  have unnamed : layout.newNames.bins .swap = none := rfl
  have ends := (rollback_settles unnamed).leads _ _ run
  cases outcome with
  | ok status =>
    rcases ends with ⟨current, previous, there⟩ | ⟨-, rfl⟩
    · refine ⟨fun _ => current ▸ there, fun place tree installed found => .inr ?_⟩
      rcases installed with rfl | rfl
      · rw [RuntimeLayout.codex, current] at found
        exact ⟨.previous, .inr rfl, found⟩
      · rw [RuntimeLayout.codex, previous] at found
        exact ⟨.current, .inl rfl, found⟩
    · exact .of_eq rfl rfl
  | error failure => exact .of_eq ends.1 ends.2

theorem RuntimeStep.kept (step : RuntimeStep platform layout after) :
    RuntimeKept platform layout after := by
  cases step with
  | activated run => exact activation_kept run rfl
  | rolledBack run => exact rollback_kept run
  | elsewhere current previous => exact .of_eq current previous

/-- Over any sequence of calls and other changes. -/
theorem executables_verified (steps : ReflTransGen (RuntimeStep platform) layout after) :
    RuntimeKept platform layout after := by
  induction steps with
  | refl => exact .of_eq rfl rfl
  | tail _ step ih => exact ih.trans step.kept

theorem executables_verified_repeated : RuntimeKept plainPlatform halfSwitched repeated.1 :=
  executables_verified (.single (.activated (runs_of_run (fun _ _ => .done) _ _)))

end OnePersonLab.Update
