import OnePersonLab.Update.RuntimeSwitch

/-!
# Activations that fail or are stopped

A rename that fails leaves the current directory and the previous one as they were, except
for the one that gives a retired directory back. A stopped activation can be repeated as long
as the stop has left the current directory and the generation alone, or came after the end of
the pending generation.
-/

namespace OnePersonLab.Update

open Lib

section

variable {Tree : Type}

/-- What a stopped call may leave for a repetition: it has not come to the renames of the
current directory, nor to those of the previous one where there is no current one. -/
structure Untouched (layout left : RuntimeLayout Tree) : Prop where
  pending : left.pending = layout.pending
  root : left.generationRoot = layout.generationRoot
  generation : left.bins .generation = layout.bins .generation
  current : left.bins .current = layout.bins .current
  previous : layout.bins .current = none → left.bins .previous = layout.bins .previous

/-- While the metadata are there, nothing was touched. -/
def Harmless (layout left : RuntimeLayout Tree) : Prop :=
  SamePending layout left → Untouched layout left

/-- The layouts that activations leave which are stopped one after another. -/
inductive Interrupted (platform : CodexPlatform Tree)
    (harmless : RuntimeLayout Tree → RuntimeLayout Tree → Prop) (start : RuntimeLayout Tree) :
    RuntimeLayout Tree → Prop where
  | start : Interrupted platform harmless start start
  | stopped {layout left : RuntimeLayout Tree} {processInstanceId : String} :
      Interrupted platform harmless start layout →
      Stops (runtimeDevice fun _ => True)
        (activatePendingCodexRuntimeGenerationAtPaths platform processInstanceId)
        layout.newNames left →
      harmless layout left → Interrupted platform harmless start left

/-- The switch is atomic where a rename may fail, and repeatable after stops. -/
structure AtomicSwitch (platform : CodexPlatform Tree) (spares : BinPlace → Prop)
    (harmless : RuntimeLayout Tree → RuntimeLayout Tree → Prop) : Prop where
  activation_fails : ∀ {layout final : RuntimeLayout Tree} {processInstanceId failure},
    Runs (RuntimePerforms spares)
      (activatePendingCodexRuntimeGenerationAtPaths platform processInstanceId) layout.newNames
      (.error failure) final →
    final.bins .current = layout.bins .current ∧ final.bins .previous = layout.bins .previous
  rollback_fails : ∀ {layout final : RuntimeLayout Tree} {failure},
    Runs (RuntimePerforms fun _ => False) rollbackCodexRuntimeGeneration layout.newNames
      (.error failure) final →
    final.bins .current = layout.bins .current ∧ final.bins .previous = layout.bins .previous
  repetition_ends : ∀ {start left : RuntimeLayout Tree} {processInstanceId},
    Admitted platform processInstanceId start → Interrupted platform harmless start left →
    ∃ outcome final, Runs (RuntimePerforms fun _ => True)
      (activatePendingCodexRuntimeGenerationAtPaths platform processInstanceId) left.newNames
      outcome final
  repetition : ∀ {start left final : RuntimeLayout Tree} {processInstanceId outcome},
    Admitted platform processInstanceId start → Interrupted platform harmless start left →
    Runs (RuntimePerforms fun _ => True)
      (activatePendingCodexRuntimeGenerationAtPaths platform processInstanceId) left.newNames
      outcome final →
    (∃ status, outcome = .ok status) ∧ Switched start final
  overlay : ∀ {layout : RuntimeLayout Tree} {generation : Bin Tree} {name},
    layout.bins .generation = some generation → (overlaid layout).lookup name =
      (generation.lookup name).or ((layout.bins .current).bind (·.lookup name))
  rollback_twice : ∀ {layout middle final : RuntimeLayout Tree},
    Runs (RuntimePerforms fun _ => False) rollbackCodexRuntimeGeneration layout.newNames
      (.ok .completed) middle →
    Runs (RuntimePerforms fun _ => False) rollbackCodexRuntimeGeneration middle.newNames
      (.ok .completed) final →
    final.bins .current = layout.bins .current ∧ final.bins .previous = layout.bins .previous

/-! ## Repetitions -/

variable {platform : CodexPlatform Tree} {layout left start final : RuntimeLayout Tree}
  {processInstanceId : String}

theorem Untouched.trans (first : Untouched start layout) (second : Untouched layout left) :
    Untouched start left where
  pending := second.pending.trans first.pending
  root := second.root.trans first.root
  generation := second.generation.trans first.generation
  current := second.current.trans first.current
  previous := fun none =>
    (second.previous (first.current.trans none)).trans (first.previous none)

theorem Untouched.admitted (untouched : Untouched layout left)
    (admitted : Admitted platform processInstanceId layout) :
    Admitted platform processInstanceId left := by
  obtain ⟨pending, ⟨metadata, paths, root, protocol, staged⟩, prompt⟩ := admitted
  refine ⟨pending, ⟨untouched.pending.trans metadata, paths, untouched.root.trans root, protocol,
    ?_⟩, ?_⟩
  · rw [untouched.generation]
    exact staged
  · unfold Deferred
    rw [untouched.current]
    exact prompt

/-- The directories that were not touched give the same result. -/
theorem Untouched.switched (untouched : Untouched layout left) (switched : Switched left final) :
    Switched layout final := by
  have same : overlaid left = overlaid layout := by
    unfold overlaid
    rw [untouched.current, untouched.generation]
  refine ⟨switched.current.trans (congrArg some same), ?_, switched.pending⟩
  rw [switched.previous, untouched.current]
  cases there : layout.bins .current with
  | none => exact untouched.previous there
  | some bin => rfl

theorem newNames_untouched (layout : RuntimeLayout Tree) : Untouched layout layout.newNames :=
  ⟨rfl, rfl, rfl, rfl, fun _ => rfl⟩

theorem Switched.newNames (switched : Switched layout final) : Switched layout final.newNames :=
  ⟨switched.current, switched.previous, switched.pending⟩

theorem Switched.not_admitted (switched : Switched layout final) :
    ¬ Admitted platform processInstanceId final := by
  rintro ⟨pending, verified, -⟩
  have metadata := verified.metadata
  rw [switched.pending] at metadata
  cases metadata

/-- After harmless stops nothing was touched, or the switch is done. -/
theorem Interrupted.cases (interrupted : Interrupted platform Harmless start left) :
    Untouched start left ∨ Switched start left := by
  induction interrupted with
  | start => exact .inl ⟨rfl, rfl, rfl, rfl, fun _ => rfl⟩
  | @stopped layout left processInstanceId _ stop harmless ih =>
    by_cases admitted : Admitted platform processInstanceId layout.newNames
    · rcases ih with untouched | switched
      · rcases (activate_admitted trivial rfl admitted).stops left stop with same | switched
        · exact .inl (untouched.trans (harmless same))
        · exact .inr ((untouched.trans (newNames_untouched layout)).switched switched)
      · exact absurd admitted switched.newNames.not_admitted
    · have same : left = layout.newNames := (activate_refused admitted).stops left stop
      subst same
      exact ih.imp (fun untouched => untouched.trans (newNames_untouched layout)) Switched.newNames

theorem answers_runtime {spares : BinPlace → Prop} (world : RuntimeLayout Tree)
    (request : (RuntimeFiles Tree).Request) :
    ∃ after answer, RuntimePerforms spares world request after answer :=
  ⟨_, _, .done⟩

theorem lookup_empty (name : String) : (Bin.empty : Bin Tree).lookup name = none := rfl

theorem lookup_withSource (bin : Bin Tree) (source : Option (Bin Tree)) (name : String) :
    (bin.withSource source).lookup name = (source.bind (·.lookup name)).or (bin.lookup name) := by
  cases source with
  | none => rfl
  | some original => exact Bin.lookup_overlay bin original name

/-- What a repetition after harmless stops comes to. -/
theorem Interrupted.repetition {outcome : Except RuntimeFailure ActivationStatus}
    (interrupted : Interrupted platform Harmless start left)
    (admitted : Admitted platform processInstanceId start)
    (run : Runs (RuntimePerforms fun _ => True)
      (activatePendingCodexRuntimeGenerationAtPaths platform processInstanceId) left.newNames
      outcome final) :
    (∃ status, outcome = .ok status) ∧ Switched start final := by
  rcases interrupted.cases with untouched | switched
  · have kept := untouched.trans (newNames_untouched left)
    have ends := (activate_admitted trivial rfl (kept.admitted admitted)).leads outcome final run
    cases outcome with
    | ok status => exact ⟨⟨status, rfl⟩, kept.switched ends.2⟩
    | error failure =>
      obtain ⟨⟨place, fallible⟩, -⟩ := ends
      exact absurd trivial fallible
  · have ends := (activate_refused switched.newNames.not_admitted).leads outcome final run
    cases outcome with
    | ok status =>
      obtain ⟨-, rfl⟩ := ends
      exact ⟨⟨status, rfl⟩, switched.newNames⟩
    | error failure => exact ends.elim

/-- A failing activation leaves the directories in place where the rename of the retired one is
spared. -/
theorem activation_restores {spares : BinPlace → Prop} {failure : RuntimeFailure}
    (run : Runs (RuntimePerforms spares)
      (activatePendingCodexRuntimeGenerationAtPaths platform processInstanceId) layout.newNames
      (.error failure) final) (spared : spares .retired) :
    final.bins .current = layout.bins .current ∧ final.bins .previous = layout.bins .previous := by
  have unnamed : layout.newNames.bins .retired = none := rfl
  by_cases admitted : Admitted platform processInstanceId layout.newNames
  · exact ((activate_admitted spared unnamed admitted).leads _ _ run).2
  · exact ((activate_refused admitted).leads _ _ run).elim

/-- The switch is atomic as long as the rename that gives the retired directory back does not
fail, and repeatable after harmless stops. -/
theorem switch_atomic (platform : CodexPlatform Tree) :
    AtomicSwitch platform (· = .retired) Harmless where
  activation_fails run := activation_restores run rfl
  rollback_fails {layout final failure} run := by
    have unnamed : layout.newNames.bins .swap = none := rfl
    exact (rollback_withstands unnamed).leads _ _ run
  repetition_ends {_ left processInstanceId} _ _ := exists_runs answers_runtime
    (activatePendingCodexRuntimeGenerationAtPaths platform processInstanceId) left.newNames
  repetition admitted interrupted run := interrupted.repetition admitted run
  overlay {layout generation name} there := by
    unfold overlaid
    rw [lookup_withSource, lookup_withSource, there, lookup_empty, Option.or_none]
    rfl
  rollback_twice {layout middle final} first second := by
    have unnamed : layout.newNames.bins .swap = none := rfl
    have unnamed' : middle.newNames.bins .swap = none := rfl
    have once := (rollback_withstands unnamed).leads _ _ first rfl
    have twice := (rollback_withstands unnamed').leads _ _ second rfl
    exact ⟨twice.1.trans once.2, twice.2.trans once.1⟩

end

/-! ## A stop between the renames -/

/-- Trees that are their own digests. -/
def plainPlatform : CodexPlatform String := ⟨fun _ => true, id⟩

def plainPending : PendingGeneration := ⟨true, none, true, some "codex 2"⟩

/-- The generation brings a new executable; a tool is in the current directory only. -/
def toolLayout : RuntimeLayout String where
  pending := some (some plainPending)
  generationRoot := true
  bins
    | .current => some ⟨[("codex", "codex 1"), ("tool", "tool")], by decide⟩
    | .generation => some ⟨[("codex", "codex 2")], by decide⟩
    | _ => none
  mayFail := false

/-- The activation is stopped after its first rename. -/
def halfSwitched : RuntimeLayout String :=
  (activatePendingCodexRuntimeGenerationAtPaths plainPlatform "app").proceed performRuntime 20
    toolLayout.newNames

/-- The repetition of the stopped activation. -/
def repeated : RuntimeLayout String × Except RuntimeFailure ActivationStatus :=
  (activatePendingCodexRuntimeGenerationAtPaths plainPlatform "app").run performRuntime
    halfSwitched.newNames

theorem toolLayout_admitted : Admitted plainPlatform "app" toolLayout :=
  ⟨plainPending, ⟨rfl, rfl, rfl, rfl, rfl⟩, nofun⟩

theorem repeated_tool : (repeated.1.bins .current).bind (·.lookup "tool") = none := by
  decide +kernel

theorem overlaid_tool : (overlaid toolLayout).lookup "tool" = some "tool" := by
  decide +kernel

/-- The repetition lays the generation over nothing: the tool is lost. -/
theorem stopped_not_atomic : ¬ ∀ platform : CodexPlatform String,
    AtomicSwitch platform (fun _ => False) (fun _ _ => True) := by
  intro atomic
  have stop : Stops (runtimeDevice fun _ => True)
      (activatePendingCodexRuntimeGenerationAtPaths plainPlatform "app") toolLayout.newNames
      halfSwitched := stops_of_proceed (fun _ _ => RuntimePerforms.done) 20 _ _
  have run : Runs (RuntimePerforms fun _ => True)
      (activatePendingCodexRuntimeGenerationAtPaths plainPlatform "app") halfSwitched.newNames
      repeated.2 repeated.1 := runs_of_run (fun _ _ => .done) _ _
  obtain ⟨-, switched⟩ := (atomic plainPlatform).repetition toolLayout_admitted
    (.stopped .start stop trivial) run
  have lost := repeated_tool
  rw [switched.current] at lost
  exact absurd (overlaid_tool.symm.trans lost) nofun

end OnePersonLab.Update
