import OnePersonLab.Update.RuntimeGeneration

/-!
# The switch of the runtime

What an activation of a verified generation makes of a layout, what a stop on its way leaves,
and what a failing rename leaves; the same for the rollback. Every part of the two programs
has its rule, and the rules of the parts give the one of the whole.
-/

namespace OnePersonLab.Update

open Lib

variable {Tree : Type}

/-! ## Directories -/

namespace Bin

variable {bin other : Bin Tree} {entry : String × Tree} {name : String}

@[ext] theorem ext (same : bin.entries = other.entries) : bin = other := by
  cases bin
  cases other
  simp_all

theorem without_place (bin : Bin Tree) (entry : String × Tree) :
    (bin.without entry.1).place entry = bin.place entry := by
  ext1
  show ((bin.entries.filter _).filter _) ++ [entry] = bin.entries.filter _ ++ [entry]
  rw [List.filter_filter]
  simp

theorem lookup_of_mem (listed : entry ∈ bin.entries) : bin.lookup entry.1 = some entry.2 := by
  unfold lookup
  rw [lookupNamed_of_nodup bin.distinct listed]
  rfl

theorem lookup_without (bin : Bin Tree) (wanted name : String) :
    (bin.without wanted).lookup name = if name = wanted then none else bin.lookup name := by
  show ((bin.entries.filter (·.1 ≠ wanted)).find? (·.1 == name)).map Prod.snd = _
  by_cases same : name = wanted
  · rw [if_pos same, Option.map_eq_none_iff, List.find?_eq_none]
    intro entry listed
    simpa [same] using (List.mem_filter.1 listed).2
  · rw [if_neg same, List.find?_filter, lookup, lookupNamed]
    congr 2
    funext entry
    by_cases found : entry.1 = name
    · simp [found, same]
    · simp [found]

theorem lookup_place (bin : Bin Tree) (entry : String × Tree) (name : String) :
    (bin.place entry).lookup name =
      if name = entry.1 then some entry.2 else bin.lookup name := by
  have split : (bin.place entry).lookup name =
      ((bin.without entry.1).lookup name).or
        (([entry].find? fun other => other.1 == name).map Prod.snd) := by
    show (((bin.without entry.1).entries ++ [entry]).find? (·.1 == name)).map Prod.snd = _
    rw [List.find?_append, Option.map_or]
    rfl
  rw [split, lookup_without]
  by_cases same : name = entry.1
  · simp [same]
  · have apart : entry.1 ≠ name := fun equal => same equal.symm
    simp [same, apart]

theorem lookup_foldl_place (bin : Bin Tree) (entries : List (String × Tree)) (name : String)
    (distinct : (entries.map Prod.fst).Nodup) :
    (bin.overlay entries).lookup name =
      ((lookupNamed Prod.fst entries name).map Prod.snd).or (bin.lookup name) := by
  unfold overlay
  induction entries generalizing bin with
  | nil => rfl
  | cons first rest ih =>
    obtain ⟨fresh, distinct⟩ := List.nodup_cons.1 distinct
    rw [List.foldl_cons, ih (bin.place first) distinct, lookup_place]
    by_cases same : name = first.1
    · have absent : lookupNamed Prod.fst rest name = none := by
        rw [lookupNamed, List.find?_eq_none]
        intro entry listed found
        exact fresh (same ▸ eq_of_beq found ▸ List.mem_map_of_mem listed)
      rw [absent, if_pos same, lookupNamed, List.find?_cons_of_pos (by simp [same])]
      rfl
    · have later : lookupNamed Prod.fst (first :: rest) name = lookupNamed Prod.fst rest name :=
        List.find?_cons_of_neg (by simpa using fun equal => same equal.symm)
      rw [if_neg same, later]

/-- What is laid over a directory is found there, and what it had under other names. -/
theorem lookup_overlay (bin upper : Bin Tree) (name : String) :
    (bin.overlay upper.entries).lookup name = (upper.lookup name).or (bin.lookup name) :=
  lookup_foldl_place bin upper.entries name upper.distinct

end Bin

/-! ## Requests -/

section

variable {spares : BinPlace → Prop} {layout : RuntimeLayout Tree} {place source target : BinPlace}
  {moment : RuntimeLayout Tree → Prop} {fails : RuntimeFailure → RuntimeLayout Tree → Prop}

variable {returns : Unit → RuntimeLayout Tree → Prop}

/-- A request that is performed for sure: before it, in the middle of it and after it. -/
theorem withstands_ask (request : RuntimeRequest)
    {returns : (RuntimeFiles Tree).Response request → RuntimeLayout Tree → Prop}
    (moves : ∀ source target, request ≠ .rename source target) :
    Withstands (runtimeDevice spares) (ask request) layout moment returns fails ↔
      moment layout ∧ (∀ left, RuntimeTorn layout request left → moment left) ∧
        moment (performRuntime layout request).1 ∧
        Ends returns fails (performRuntime layout request).2 (performRuntime layout request).1 := by
  refine Iff.trans withstands_call ?_
  constructor
  · rintro ⟨before, torn, later⟩
    exact ⟨before, torn, later _ _ .done⟩
  · rintro ⟨before, torn, after, ends⟩
    refine ⟨before, torn, fun final answer performed => ?_⟩
    cases performed with
    | done => exact ⟨after, ends⟩
    | fails => exact absurd rfl (moves _ _)

@[simp] theorem withstands_binExists {returns : Bool → RuntimeLayout Tree → Prop} :
    Withstands (runtimeDevice spares) (binExists place) layout moment returns fails ↔
      moment layout ∧ returns (layout.bins place).isSome layout := by
  refine Iff.trans (withstands_ask (.binExists place) nofun) ?_
  exact ⟨fun ⟨now, _, _, ends⟩ => ⟨now, ends⟩, fun ⟨now, ends⟩ => ⟨now, nofun, now, ends⟩⟩

theorem withstands_provided {condition : Bool} {program : RuntimeProgram Tree Unit} :
    Withstands (runtimeDevice spares) (provided condition program) layout moment returns fails ↔
      if condition = true then
        Withstands (runtimeDevice spares) program layout moment returns fails
      else moment layout ∧ returns () layout := by
  unfold provided
  split
  · rfl
  · exact withstands_pure

/-- A rename to a free place: it is done, or it fails where it may. -/
theorem withstands_renameBin {bin : Bin Tree} (there : layout.bins source = some bin)
    (free : layout.bins target = none) (before : moment layout)
    (done : moment ((layout.put source none).put target (some bin)) ∧
      returns () ((layout.put source none).put target (some bin)))
    (failed : layout.mayFail = true → ¬ spares source →
      moment { layout with mayFail := false } ∧
        fails .fileSystem { layout with mayFail := false }) :
    Withstands (runtimeDevice spares) (renameBin source target) layout moment returns fails := by
  refine withstands_call.2 ⟨before, nofun, fun final answer performed => ?_⟩
  cases performed with
  | done =>
    have result : performRuntime layout (.rename source target) =
        ((layout.put source none).put target (some bin), .ok ()) := by
      simp only [performRuntime]
      rw [there, free]
    rw [result]
    exact done
  | fails may fallible => exact failed may fallible

/-- A removal, which leaves something while it goes on. -/
theorem withstands_remove (before : moment layout) (torn : ∀ rest, moment (layout.put place rest))
    (done : returns () (layout.put place none)) :
    Withstands (runtimeDevice spares) (ask (.remove place)) layout moment returns fails := by
  refine (withstands_ask (.remove place) nofun).2
    ⟨before, fun left broken => ?_, torn none, done⟩
  cases broken with
  | remove => exact torn _

end

/-! ## The overlay -/

section

variable {spares : BinPlace → Prop} {layout : RuntimeLayout Tree} {source : BinPlace}
  {moment : RuntimeLayout Tree → Prop} {fails : RuntimeFailure → RuntimeLayout Tree → Prop}

theorem put_put (layout : RuntimeLayout Tree) (place : BinPlace) (bin other : Option (Bin Tree)) :
    (layout.put place bin).put place other = layout.put place other := by
  unfold RuntimeLayout.put
  rw [Function.update_idem]

theorem put_bins_self (layout : RuntimeLayout Tree) (place : BinPlace) (bin : Option (Bin Tree)) :
    (layout.put place bin).bins place = bin := Function.update_self ..

theorem put_bins_ne {place other : BinPlace} (apart : other ≠ place) (layout : RuntimeLayout Tree)
    (bin : Option (Bin Tree)) : (layout.put place bin).bins other = layout.bins other :=
  Function.update_of_ne apart ..

/-- While an overlay is built, only its directory changes. -/
def Building (layout left : RuntimeLayout Tree) : Prop :=
  ∃ bin, left = layout.put .activation bin

theorem building_put (bin other : Option (Bin Tree)) :
    Building layout ((layout.put .activation bin).put .activation other) := ⟨other, put_put ..⟩

/-- One turn of the loop over the entries. -/
theorem copyEntry_withstands {original bin : Bin Tree} {entry : String × Tree}
    (apart : source ≠ .activation) (there : layout.bins source = some original)
    (listed : entry ∈ original.entries) :
    Withstands (runtimeDevice spares) (copyEntry source entry.1)
      (layout.put .activation (some bin)) (Building layout)
      (fun _ after => after = layout.put .activation (some (bin.place entry)))
      (fun _ _ => False) := by
  have removed : performRuntime (layout.put .activation (some bin)) (.removeEntry entry.1) =
      (layout.put .activation (some (bin.without entry.1)), .ok ()) := by
    simp only [performRuntime]
    rw [put_put, put_bins_self]
    rfl
  have copied : performRuntime (layout.put .activation (some (bin.without entry.1)))
      (.copyEntry source entry.1) = (layout.put .activation (some (bin.place entry)), .ok ()) := by
    have found : ((layout.put .activation (some (bin.without entry.1))).bins source).bind
        (·.lookup entry.1) = some entry.2 := by
      rw [put_bins_ne apart, there]
      exact Bin.lookup_of_mem listed
    simp only [performRuntime]
    rw [found, put_bins_self]
    dsimp only
    rw [put_put, Bin.without_place]
  refine withstands_bind.2 ((withstands_ask (.removeEntry entry.1) nofun).2
    ⟨⟨_, rfl⟩, ?_, ?_, ?_⟩)
  · intro left broken
    cases broken with
    | removeEntry => exact building_put ..
  · rw [removed]
    exact ⟨_, rfl⟩
  · rw [removed]
    refine (withstands_ask (.copyEntry source entry.1) nofun).2 ⟨⟨_, rfl⟩, ?_, ?_, ?_⟩
    · intro left broken
      cases broken with
      | copyEntry => exact building_put ..
    · rw [copied]
      exact ⟨_, rfl⟩
    · rw [copied]
      exact rfl

/-- The loop over the entries of a directory lays them over the activation directory. -/
theorem copyEntries_withstands {original bin : Bin Tree} {rest : List (String × Tree)}
    (apart : source ≠ .activation) (there : layout.bins source = some original)
    (among : rest ⊆ original.entries) :
    Withstands (runtimeDevice spares) (copyEntries source (rest.map Prod.fst))
      (layout.put .activation (some bin)) (Building layout)
      (fun _ after => after = layout.put .activation (some (bin.overlay rest)))
      (fun _ _ => False) := by
  induction rest generalizing bin with
  | nil => exact withstands_pure.2 ⟨⟨_, rfl⟩, rfl⟩
  | cons entry rest ih =>
    have later : rest ⊆ original.entries := fun other mem => among (List.mem_cons_of_mem _ mem)
    have turn : (copyEntries source ((entry :: rest).map Prod.fst) : RuntimeProgram Tree Unit) =
        copyEntry source entry.1 >>= fun _ => copyEntries source (rest.map Prod.fst) := rfl
    rw [turn, withstands_bind]
    refine (copyEntry_withstands apart there (among (List.mem_cons_self ..))).mono
      (fun _ built => built) ?_ (fun _ _ impossible => impossible)
    rintro - after rfl
    exact ih later

/-- A directory with the entries of a source root laid over it, where there is one. -/
def Bin.withSource (bin : Bin Tree) (source : Option (Bin Tree)) : Bin Tree :=
  source.elim bin fun original => bin.overlay original.entries

theorem overlaySource_withstands {bin : Bin Tree} (source : BinPlace) (apart : source ≠ .activation) :
    Withstands (runtimeDevice spares) (overlaySource source) (layout.put .activation (some bin))
      (Building layout)
      (fun _ after => after = layout.put .activation (some (bin.withSource (layout.bins source))))
      (fun _ _ => False) := by
  refine withstands_bind.2 (withstands_binExists.2 ⟨⟨_, rfl⟩, withstands_provided.2 ?_⟩)
  rw [put_bins_ne apart]
  cases there : layout.bins source with
  | none => exact ⟨⟨_, rfl⟩, rfl⟩
  | some original =>
    have listing : performRuntime (layout.put .activation (some bin)) (.listBin source) =
        (layout.put .activation (some bin), .ok (original.entries.map Prod.fst)) := by
      simp only [performRuntime]
      rw [put_bins_ne apart, there]
    refine withstands_bind.2 ((withstands_ask (.listBin source) nofun).2
      ⟨⟨_, rfl⟩, nofun, ?_, ?_⟩)
    · rw [listing]
      exact ⟨_, rfl⟩
    · rw [listing]
      exact copyEntries_withstands apart there (List.Subset.refl _)

end

/-! ## The renames -/

section

variable {spares : BinPlace → Prop} {layout : RuntimeLayout Tree} {source target : BinPlace}
  {moment : RuntimeLayout Tree → Prop} {fails : RuntimeFailure → RuntimeLayout Tree → Prop}

/-- The metadata of the pending generation are as before. -/
def SamePending (layout left : RuntimeLayout Tree) : Prop := left.pending = layout.pending

/-- A rename after the one that has failed. -/
theorem withstands_renameBin_quiet {bin : Bin Tree}
    {returns : Unit → RuntimeLayout Tree → Prop} (quiet : layout.mayFail = false)
    (there : layout.bins source = some bin) (free : layout.bins target = none)
    (before : moment layout)
    (done : moment ((layout.put source none).put target (some bin)) ∧
      returns () ((layout.put source none).put target (some bin))) :
    Withstands (runtimeDevice spares) (renameBin source target) layout moment returns fails := by
  refine withstands_renameBin there free before done fun may => ?_
  rw [quiet] at may
  cases may

theorem restorePrevious_withstands (quiet : layout.mayFail = false)
    (vacant : layout.bins .previous = none) :
    Withstands (runtimeDevice spares) restorePrevious layout (SamePending layout)
      (fun _ after => SamePending layout after ∧ after.bins .previous = layout.bins .retired ∧
        after.bins .current = layout.bins .current)
      (fun _ _ => False) := by
  refine withstands_bind.2 (withstands_binExists.2 ⟨rfl, ?_⟩)
  refine withstands_bind.2 (withstands_binExists.2 ⟨rfl, withstands_provided.2 ?_⟩)
  rw [vacant]
  cases there : layout.bins .retired with
  | none => exact ⟨rfl, rfl, rfl, rfl⟩
  | some bin => exact withstands_renameBin_quiet quiet there vacant rfl ⟨rfl, rfl, rfl, rfl⟩

theorem restoreCurrent_withstands (moved : Bool) (quiet : layout.mayFail = false)
    (state : if moved = true then
        layout.bins .current = none ∧ (layout.bins .previous).isSome = true
      else layout.bins .previous = none) :
    Withstands (runtimeDevice spares) (restoreCurrent moved) layout (SamePending layout)
      (fun _ after => SamePending layout after ∧ after.mayFail = false ∧
        after.bins .previous = none ∧ after.bins .retired = layout.bins .retired ∧
        after.bins .current = if moved = true then layout.bins .previous else layout.bins .current)
      (fun _ _ => False) := by
  refine withstands_bind.2 (withstands_binExists.2 ⟨rfl, ?_⟩)
  refine withstands_bind.2 (withstands_binExists.2 ⟨rfl, withstands_provided.2 ?_⟩)
  cases moved with
  | false =>
    rw [if_neg Bool.false_ne_true] at state
    rw [state]
    rw [Bool.and_false, Bool.false_and, if_neg Bool.false_ne_true]
    exact ⟨rfl, rfl, quiet, rfl, rfl, rfl⟩
  | true =>
    obtain ⟨vacant, moved⟩ := state
    obtain ⟨bin, there⟩ := Option.isSome_iff_exists.1 moved
    rw [vacant, there]
    exact withstands_renameBin_quiet quiet there vacant rfl ⟨rfl, rfl, quiet, rfl, rfl, rfl⟩

/-- The handler puts the directories back that were moved before a rename failed. -/
theorem restoreBins_withstands {failure : RuntimeFailure} (moved : Bool)
    (state : if moved = true then
        layout.bins .current = none ∧ (layout.bins .previous).isSome = true
      else layout.bins .previous = none) :
    Withstands (runtimeDevice spares) (restoreBins moved failure) { layout with mayFail := false }
      (SamePending layout) (fun _ _ => False)
      (fun _ after => after.bins .previous = layout.bins .retired ∧
        after.bins .current =
          if moved = true then layout.bins .previous else layout.bins .current) := by
  refine withstands_bind.2 (Withstands.mono (restoreCurrent_withstands moved ?_ ?_)
    (fun _ same => same) ?_ (fun _ _ impossible => impossible.elim))
  · rfl
  · exact state
  rintro - middle ⟨same, quiet, vacant, retired, current⟩
  refine withstands_bind.2 ((restorePrevious_withstands quiet vacant).mono
    (fun _ same' => same'.trans same) ?_ (fun _ _ impossible => impossible.elim))
  rintro - after ⟨same', previous, current'⟩
  exact withstands_throw.2 ⟨same'.trans same, previous.trans retired, current'.trans current⟩

/-- The current directory and the activation directory change places, or nothing is moved. -/
theorem moveBins_withstands {activation : Bin Tree}
    (staged : layout.bins .activation = some activation)
    (vacant : layout.bins .previous = none) :
    Withstands (runtimeDevice spares) moveBins layout (SamePending layout)
      (fun moved after => moved = (layout.bins .current).isSome ∧ SamePending layout after ∧
        after.bins .current = some activation ∧
        after.bins .previous = layout.bins .current ∧
        after.bins .retired = layout.bins .retired)
      (fun _ after => (∃ place, ¬ spares place) ∧ after.bins .current = layout.bins .current ∧
        after.bins .previous = layout.bins .retired) := by
  refine withstands_bind.2 (withstands_binExists.2 ⟨rfl, ?_⟩)
  cases there : layout.bins .current with
  | none =>
    refine withstands_bind.2 (withstands_tryCatch.2 (withstands_renameBin staged there rfl ?_ ?_))
    · exact ⟨rfl, withstands_pure.2 ⟨rfl, rfl, rfl, rfl, vacant, rfl⟩⟩
    · intro _ fallible
      refine ⟨rfl, (restoreBins_withstands false vacant).mono (fun _ same => same)
        (fun _ _ impossible => impossible.elim) ?_⟩
      rintro - after ⟨previous, current⟩
      exact ⟨⟨_, fallible⟩, current.trans there, previous⟩
  | some bin =>
    refine withstands_bind.2 (withstands_tryCatch.2 (withstands_renameBin there vacant rfl ?_ ?_))
    · refine ⟨rfl, withstands_bind.2 (withstands_tryCatch.2
        (withstands_renameBin staged rfl rfl ?_ ?_))⟩
      · exact ⟨rfl, withstands_pure.2 ⟨rfl, rfl, rfl, rfl, rfl, rfl⟩⟩
      · intro _ fallible
        refine ⟨rfl, (restoreBins_withstands true ⟨rfl, rfl⟩).mono (fun _ same => same)
          (fun _ _ impossible => impossible.elim) ?_⟩
        rintro - after ⟨previous, current⟩
        exact ⟨⟨_, fallible⟩, current, previous⟩
    · intro _ fallible
      refine ⟨rfl, (restoreBins_withstands false vacant).mono (fun _ same => same)
        (fun _ _ impossible => impossible.elim) ?_⟩
      rintro - after ⟨previous, current⟩
      exact ⟨⟨_, fallible⟩, current.trans there, previous⟩

end

/-! ## The whole switch -/

section

variable {spares : BinPlace → Prop} {layout middle : RuntimeLayout Tree}

/-- The current directory with the one of the generation laid over it. -/
def overlaid (layout : RuntimeLayout Tree) : Bin Tree :=
  (Bin.empty.withSource (layout.bins .current)).withSource (layout.bins .generation)

/-- The layout that an activation which nothing disturbs makes of another. -/
structure Switched (layout after : RuntimeLayout Tree) : Prop where
  current : after.bins .current = some (overlaid layout)
  previous : after.bins .previous = (layout.bins .current).or (layout.bins .previous)
  pending : after.pending = none

theorem buildActivation_withstands :
    Withstands (runtimeDevice spares) buildActivation layout (SamePending layout)
      (fun _ after => after = layout.put .activation (some (overlaid layout)))
      (fun _ _ => False) := by
  have building : ∀ left, Building layout left → SamePending layout left := by
    rintro left ⟨bin, rfl⟩
    rfl
  refine withstands_bind.2 (withstands_remove rfl (fun _ => rfl) ?_)
  refine withstands_bind.2 ((withstands_ask .makeActivation nofun).2 ⟨rfl, nofun, rfl, ?_⟩)
  have made : ((layout.put .activation none).put .activation (some .empty)) =
      layout.put .activation (some .empty) := put_put ..
  show Withstands _ _ ((layout.put .activation none).put .activation (some .empty)) _ _ _
  rw [made]
  refine withstands_bind.2 ((overlaySource_withstands .current nofun).mono building ?_
    (fun _ _ impossible => impossible))
  rintro - after rfl
  exact (overlaySource_withstands .generation nofun).mono building (fun _ _ same => same)
    (fun _ _ impossible => impossible)

/-- A stop of a switch leaves the metadata, or the switch is done. -/
def Underway (layout left : RuntimeLayout Tree) : Prop :=
  SamePending layout left ∨ Switched layout left

theorem settleRetired_withstands {moved : Bool} (spared : spares .retired)
    (same : SamePending layout middle)
    (current : middle.bins .current = some (overlaid layout))
    (previous : if moved = true then
        middle.bins .previous = (layout.bins .current).or (layout.bins .previous)
      else middle.bins .previous = none ∧
        middle.bins .retired = (layout.bins .current).or (layout.bins .previous)) :
    Withstands (runtimeDevice spares) (settleRetired moved) middle (SamePending layout)
      (fun _ after => SamePending layout after ∧
        after.bins .current = some (overlaid layout) ∧
        after.bins .previous = (layout.bins .current).or (layout.bins .previous))
      (fun _ _ => False) := by
  refine withstands_bind.2 (withstands_binExists.2 ⟨same, withstands_provided.2 ?_⟩)
  cases moved with
  | false =>
    obtain ⟨vacant, retired⟩ := previous
    cases there : middle.bins .retired with
    | none => exact ⟨same, same, current, vacant.trans (there.symm.trans retired)⟩
    | some bin =>
      refine withstands_renameBin there vacant same ⟨same, same, current, ?_⟩
        fun _ fallible => absurd spared fallible
      exact there.symm.trans retired
  | true =>
    cases there : middle.bins .retired with
    | none => exact ⟨same, same, current, previous⟩
    | some bin => exact withstands_remove same (fun _ => same) ⟨same, current, previous⟩

/-- After the renames the generation goes, and then its metadata. -/
theorem dropGeneration_withstands (same : SamePending layout middle)
    (current : middle.bins .current = some (overlaid layout))
    (previous : middle.bins .previous = (layout.bins .current).or (layout.bins .previous)) :
    Withstands (runtimeDevice spares) dropGeneration middle (Underway layout)
      (fun status after => status = .activated ∧ Switched layout after) (fun _ _ => False) := by
  refine withstands_bind.2 ((withstands_ask .removeGeneration nofun).2
    ⟨.inl same, ?_, .inl same, ?_⟩)
  · intro left broken
    cases broken with
    | removeGeneration => exact .inl same
  have switched : Switched layout { middle.removeGeneration with pending := none } :=
    ⟨current, previous, rfl⟩
  refine withstands_bind.2 ((withstands_ask .removePending nofun).2
    ⟨.inl same, nofun, .inr switched, ?_⟩)
  exact withstands_pure.2 ⟨.inr switched, rfl, switched⟩

/-- Once the previous directory is out of the way, the places are changed; or a rename fails
and everything is back. -/
theorem changePlaces_withstands (spared : spares .retired) (same : SamePending layout middle)
    (staged : middle.bins .activation = some (overlaid layout))
    (vacant : middle.bins .previous = none)
    (current : middle.bins .current = layout.bins .current)
    (retired : middle.bins .retired = layout.bins .previous) :
    Withstands (runtimeDevice spares) changePlaces middle (Underway layout)
      (fun status after => status = .activated ∧ Switched layout after)
      (fun _ after => (∃ place, ¬ spares place) ∧ after.bins .current = layout.bins .current ∧
        after.bins .previous = layout.bins .previous) := by
  refine withstands_bind.2 ((moveBins_withstands staged vacant).mono
    (fun _ same' => .inl (same'.trans same)) ?_ ?_)
  · rintro moved after ⟨rfl, same', current', previous', retired'⟩
    rw [current] at previous' ⊢
    refine withstands_bind.2 ((settleRetired_withstands spared (same'.trans same) current' ?_).mono
      (fun _ same'' => .inl same'') ?_ (fun _ _ impossible => impossible.elim))
    · cases there : layout.bins .current with
      | none => exact ⟨previous'.trans there, retired'.trans retired⟩
      | some bin => exact previous'.trans there
    · rintro - last ⟨same'', current'', previous''⟩
      exact (dropGeneration_withstands same'' current'' previous'').mono (fun _ under => under)
        (fun _ _ done => done) (fun _ _ impossible => impossible.elim)
  · rintro - after ⟨fallible, current', previous'⟩
    exact ⟨fallible, current'.trans current, previous'.trans retired⟩

/-- A verified generation is switched to; a rename that fails leaves the current directory and
the previous one as they were. -/
theorem switchToolchain_withstands (spared : spares .retired) (unnamed : layout.bins .retired = none) :
    Withstands (runtimeDevice spares) switchToolchain layout (Underway layout)
      (fun status after => status = .activated ∧ Switched layout after)
      (fun _ after => (∃ place, ¬ spares place) ∧ after.bins .current = layout.bins .current ∧
        after.bins .previous = layout.bins .previous) := by
  refine withstands_bind.2 (buildActivation_withstands.mono (fun _ same => .inl same) ?_
    (fun _ _ impossible => impossible.elim))
  rintro - built rfl
  refine withstands_bind.2 (withstands_binExists.2 ⟨.inl rfl, ?_⟩)
  refine withstands_bind.2 (withstands_provided.2 ?_)
  cases there : (layout.put .activation (some (overlaid layout))).bins .previous with
  | none =>
    refine ⟨.inl rfl, changePlaces_withstands spared rfl rfl there rfl ?_⟩
    exact unnamed.trans there.symm
  | some bin =>
    refine withstands_renameBin there unnamed (.inl rfl) ⟨.inl rfl, ?_⟩
      fun _ fallible => ?_
    · exact changePlaces_withstands spared rfl rfl rfl rfl there.symm
    · exact ⟨.inl rfl, ⟨_, fallible⟩, rfl, rfl⟩

/-! ## The checks before the switch -/

/-- A pending generation that passes every check. -/
structure Verified (platform : CodexPlatform Tree) (layout : RuntimeLayout Tree)
    (pending : PendingGeneration) : Prop where
  metadata : layout.pending = some (some pending)
  paths : pending.pathsAllowed = true
  root : layout.generationRoot = true
  protocol : pending.protocolVerified = true
  staged : platform.accepts pending ((layout.bins .generation).bind (·.lookup "codex")) = true

/-- The process would activate in the application instance that has staged the generation. -/
def Deferred (processInstanceId : String) (layout : RuntimeLayout Tree)
    (pending : PendingGeneration) : Prop :=
  ((layout.bins .current).bind (·.lookup "codex")).isSome = true ∧
    pending.stagingProcessInstanceId = some processInstanceId

/-- A call of the process activates. -/
def Admitted (platform : CodexPlatform Tree) (processInstanceId : String)
    (layout : RuntimeLayout Tree) : Prop :=
  ∃ pending, Verified platform layout pending ∧ ¬ Deferred processInstanceId layout pending

variable {platform : CodexPlatform Tree} {processInstanceId : String}

/-- The requests with which an activation looks around. -/
def RuntimeRequest.looks : RuntimeRequest → Bool
  | .pendingExists | .readPending | .generationExists | .readCodex _ => true
  | _ => false

theorem withstands_look {moment : RuntimeLayout Tree → Prop}
    {fails : RuntimeFailure → RuntimeLayout Tree → Prop} (request : RuntimeRequest)
    {returns : (RuntimeFiles Tree).Response request → RuntimeLayout Tree → Prop}
    {value : (RuntimeFiles Tree).Response request} (looks : request.looks = true)
    (seen : performRuntime layout request = (layout, .ok value))
    (now : moment layout) (onward : returns value layout) :
    Withstands (runtimeDevice spares) (ask request) layout moment returns fails := by
  have moves (source target : BinPlace) : request ≠ .rename source target := by
    rintro rfl
    cases looks
  have whole (left : RuntimeLayout Tree) : ¬ RuntimeTorn layout request left := by
    intro torn
    cases torn <;> cases looks
  refine (withstands_ask request moves).2 ⟨now, fun left torn => absurd torn (whole left), ?_, ?_⟩
  · rw [seen]
    exact now
  · rw [seen]
    exact onward

theorem activate_admitted (spared : spares .retired) (unnamed : layout.bins .retired = none)
    (admitted : Admitted platform processInstanceId layout) :
    Withstands (runtimeDevice spares)
      (activatePendingCodexRuntimeGenerationAtPaths platform processInstanceId) layout
      (Underway layout) (fun status after => status = .activated ∧ Switched layout after)
      (fun _ after => (∃ place, ¬ spares place) ∧ after.bins .current = layout.bins .current ∧
        after.bins .previous = layout.bins .previous) := by
  obtain ⟨pending, verified, prompt⟩ := admitted
  have now : Underway layout layout := .inl rfl
  refine withstands_bind.2 (withstands_look .pendingExists rfl rfl now ?_)
  rw [verified.metadata]
  refine withstands_bind.2 (withstands_look .readPending rfl rfl now ?_)
  rw [verified.metadata]
  refine withstands_bind.2 (withstands_look .generationExists rfl rfl now ?_)
  rw [verified.paths, verified.root]
  refine withstands_bind.2 (withstands_look (.readCodex .current) rfl rfl now ?_)
  have onward : (((layout.bins .current).bind (·.lookup "codex")).isSome &&
      decide (pending.stagingProcessInstanceId = some processInstanceId)) = false := by
    simpa [Deferred] using prompt
  rw [onward, verified.protocol]
  refine withstands_bind.2 (withstands_look (.readCodex .generation) rfl rfl now ?_)
  rw [verified.staged]
  exact switchToolchain_withstands spared unnamed

/-- A call that does not activate changes nothing. -/
theorem activate_refused (refused : ¬ Admitted platform processInstanceId layout) :
    Withstands (runtimeDevice spares)
      (activatePendingCodexRuntimeGenerationAtPaths platform processInstanceId) layout
      (· = layout) (fun status after => status ≠ .activated ∧ after = layout)
      (fun _ _ => False) := by
  have ends : ∀ {status : ActivationStatus}, status ≠ .activated →
      Withstands (runtimeDevice spares) (pure status : RuntimeProgram Tree ActivationStatus) layout
        (· = layout) (fun status after => status ≠ .activated ∧ after = layout)
        (fun _ _ => False) := fun other => withstands_pure.2 ⟨rfl, other, rfl⟩
  refine withstands_bind.2 (withstands_look .pendingExists rfl rfl rfl ?_)
  cases metadata : layout.pending with
  | none => exact ends nofun
  | some payload =>
    refine withstands_bind.2 (withstands_look .readPending rfl rfl rfl ?_)
    rw [metadata]
    cases payload with
    | none => exact ends nofun
    | some pending =>
      refine withstands_bind.2 (withstands_look .generationExists rfl rfl rfl ?_)
      cases paths : pending.pathsAllowed && layout.generationRoot with
      | false => exact ends nofun
      | true =>
        obtain ⟨allowed, root⟩ := Bool.and_eq_true_iff.1 paths
        refine withstands_bind.2 (withstands_look (.readCodex .current) rfl rfl rfl ?_)
        split
        · exact ends nofun
        · rename_i prompt
          split
          · exact ends nofun
          · rename_i protocol
            refine withstands_bind.2
              (withstands_look (.readCodex .generation) rfl rfl rfl ?_)
            split
            · exact ends nofun
            · rename_i staged
              refine absurd ⟨pending, ⟨metadata, allowed, root, by simpa using protocol,
                by simpa using staged⟩, fun deferred => prompt ?_⟩ refused
              simpa [Deferred] using deferred

/-! ## The rollback -/

/-- After the failure of the second or of the third rename everything is back. -/
theorem restoreSwap_withstands {failure : RuntimeFailure} (completed : Nat)
    (swapped : layout.bins .swap = none ∧ completed = 0 ∨
      layout.bins .current = none ∧ (layout.bins .swap).isSome = true ∧ completed = 1 ∨
      (layout.bins .current).isSome = true ∧ (layout.bins .swap).isSome = true ∧
        layout.bins .previous = none ∧ completed = 2) :
    Withstands (runtimeDevice spares) (restoreSwap completed failure)
      { layout with mayFail := false } (fun _ => True) (fun _ _ => False)
      (fun _ after =>
        after.bins .current =
          (if completed = 0 then layout.bins .current else layout.bins .swap) ∧
        after.bins .previous =
          (if completed = 2 then layout.bins .current else layout.bins .previous)) := by
  refine withstands_bind.2 (withstands_binExists.2 ⟨trivial, ?_⟩)
  refine withstands_bind.2 (withstands_binExists.2 ⟨trivial, ?_⟩)
  rcases swapped with ⟨absent, rfl⟩ | ⟨vacant, there, rfl⟩ | ⟨here, there, vacant, rfl⟩
  · refine withstands_bind.2 (withstands_provided.2 ?_)
    rw [if_neg (by simp)]
    refine ⟨trivial, withstands_bind.2 (withstands_provided.2 ?_)⟩
    rw [if_neg (by simp)]
    exact ⟨trivial, withstands_throw.2 ⟨trivial, rfl, rfl⟩⟩
  · obtain ⟨bin, moved⟩ := Option.isSome_iff_exists.1 there
    refine withstands_bind.2 (withstands_provided.2 ?_)
    rw [if_neg (by simp)]
    refine ⟨trivial, withstands_bind.2 (withstands_provided.2 ?_)⟩
    rw [if_pos (by simp [vacant, there])]
    refine withstands_renameBin_quiet rfl moved vacant trivial ⟨trivial, ?_⟩
    exact withstands_throw.2 ⟨trivial, moved.symm, rfl⟩
  · obtain ⟨bin, placed⟩ := Option.isSome_iff_exists.1 here
    obtain ⟨bin', moved⟩ := Option.isSome_iff_exists.1 there
    refine withstands_bind.2 (withstands_provided.2 ?_)
    rw [if_pos (by simp)]
    refine withstands_bind.2 (withstands_renameBin_quiet rfl placed vacant trivial ⟨trivial, ?_⟩)
    refine withstands_renameBin_quiet rfl moved rfl trivial ⟨trivial, ?_⟩
    refine withstands_bind.2 (withstands_provided.2 ?_)
    rw [if_neg (by simp)]
    exact ⟨trivial, withstands_throw.2 ⟨trivial, moved.symm, placed.symm⟩⟩

/-- A rollback that does not swap the directories changes nothing. -/
theorem rollback_settles (unnamed : layout.bins .swap = none) :
    Withstands (runtimeDevice spares) rollbackCodexRuntimeGeneration layout (fun _ => True)
      (fun status after => (after.bins .current = layout.bins .previous ∧
        after.bins .previous = layout.bins .current ∧ (layout.bins .previous).isSome = true) ∨
          status ≠ .completed ∧ after = layout)
      (fun _ after => after.bins .current = layout.bins .current ∧
        after.bins .previous = layout.bins .previous) := by
  refine withstands_bind.2 (withstands_binExists.2 ⟨trivial, ?_⟩)
  cases previous : layout.bins .previous with
  | none => exact withstands_pure.2 ⟨trivial, .inr ⟨nofun, rfl⟩⟩
  | some bin =>
    refine withstands_bind.2 (withstands_binExists.2 ⟨trivial, ?_⟩)
    cases current : layout.bins .current with
    | none => exact withstands_pure.2 ⟨trivial, .inr ⟨nofun, rfl⟩⟩
    | some bin' =>
      refine withstands_bind.2 (withstands_tryCatch.2
        (withstands_renameBin current unnamed trivial ⟨trivial, ?_⟩ fun _ _ => ⟨trivial, ?_⟩))
      · refine withstands_bind.2 (withstands_tryCatch.2
          (withstands_renameBin previous rfl trivial ⟨trivial, ?_⟩ fun _ _ => ⟨trivial, ?_⟩))
        · refine withstands_bind.2 (withstands_tryCatch.2
            (withstands_renameBin rfl rfl trivial ⟨trivial, ?_⟩ fun _ _ => ⟨trivial, ?_⟩))
          · refine withstands_bind.2 ((withstands_ask .removePending nofun).2
              ⟨trivial, nofun, trivial, ?_⟩)
            exact withstands_pure.2 ⟨trivial, .inl ⟨rfl, rfl, rfl⟩⟩
          · exact (restoreSwap_withstands 2 (.inr (.inr ⟨rfl, rfl, rfl, rfl⟩))).mono
              (fun _ now => now) (fun _ _ impossible => impossible.elim) (fun _ _ back => back)
        · exact (restoreSwap_withstands 1 (.inr (.inl ⟨rfl, rfl, rfl⟩))).mono
            (fun _ now => now) (fun _ _ impossible => impossible.elim)
            (fun _ _ back => ⟨back.1, back.2.trans previous⟩)
      · exact (restoreSwap_withstands 0 (.inl ⟨unnamed, rfl⟩)).mono (fun _ now => now)
          (fun _ _ impossible => impossible.elim)
          (fun _ _ back => ⟨back.1.trans current, back.2.trans previous⟩)

theorem rollback_withstands (unnamed : layout.bins .swap = none) :
    Withstands (runtimeDevice spares) rollbackCodexRuntimeGeneration layout (fun _ => True)
      (fun status after => status = .completed → after.bins .current = layout.bins .previous ∧
        after.bins .previous = layout.bins .current)
      (fun _ after => after.bins .current = layout.bins .current ∧
        after.bins .previous = layout.bins .previous) := by
  refine (rollback_settles unnamed).mono (fun _ now => now) ?_ (fun _ _ back => back)
  rintro status after (⟨current, previous, -⟩ | ⟨other, -⟩) completed
  · exact ⟨current, previous⟩
  · exact absurd completed other

end

end OnePersonLab.Update
