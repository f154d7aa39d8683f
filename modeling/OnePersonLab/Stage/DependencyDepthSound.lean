import OnePersonLab.Lib.Graph
import OnePersonLab.Stage.DependencyDepth

/-!
# What the dependency depth says

Every reported path follows the imports and meets no file twice, on any graph: a finished path
has finished files only, and a file under visit is not finished. Without cycles a file under visit
is never met from another one, so that every finished path is a longest one.
-/

namespace OnePersonLab.QualityDetails

open Lib Relation

section

variable {adjacency : String → List String} {nodes visiting : List String} {file : String}
  {memo memo' : PathMemo} {path : List String}

/-- What holds of the paths of the finished files. -/
structure Sound (adjacency : String → List String) (memo : PathMemo) : Prop where
  simple : ∀ file path, memo file = some path → SimplePath (Arc adjacency) file path
  closed : ∀ file path, memo file = some path → ∀ inner ∈ path, memo inner ≠ none
  longest : OnlySelfLoops (Arc adjacency) → ∀ file path, memo file = some path →
    LongestPath (Arc adjacency) file path

/-- What holds when the search reaches a file. -/
structure Reached (adjacency : String → List String) (nodes visiting : List String)
    (file : String) (memo : PathMemo) : Prop where
  sound : Sound adjacency memo
  unfinished : ∀ ancestor ∈ visiting, memo ancestor = none
  ancestors : ∀ ancestor ∈ visiting,
    ReflTransGen (LeadsElsewhere (Arc adjacency)) ancestor file
  listed : visiting ⊆ nodes
  distinct : visiting.Nodup
  file : file ∈ nodes

/-- What holds when the search returns from a file. -/
structure Searched (adjacency : String → List String) (visiting : List String) (file : String)
    (memo : PathMemo) (path : List String) (memo' : PathMemo) : Prop where
  sound : Sound adjacency memo'
  kept : ∀ other, memo other ≠ none → memo' other = memo other
  unfinished : ∀ ancestor ∈ visiting, memo' ancestor = none
  result : file ∈ visiting ∧ path = [] ∨ file ∉ visiting ∧ memo' file = some path

/-- What holds in the loop, after the listed imports. -/
structure Extending (adjacency : String → List String) (visiting : List String) (file : String)
    (memo : PathMemo) (done : List String) (found : List String × PathMemo) : Prop where
  sound : Sound adjacency found.2
  kept : ∀ other, memo other ≠ none → found.2 other = memo other
  unfinished : ∀ ancestor ∈ file :: visiting, found.2 ancestor = none
  simple : SimplePath (Arc adjacency) file found.1
  closed : ∀ inner ∈ found.1, inner = file ∨ found.2 inner ≠ none
  longest : OnlySelfLoops (Arc adjacency) → ∀ successor ∈ done, successor ≠ file → ∀ rest,
    SimplePath (Arc adjacency) successor rest → rest.length + 1 ≤ found.1.length

/-! ## One turn of the loop -/

variable {successor : String} {found : List String × PathMemo} {tail : List String}
  {search : String → PathMemo → Option (List String × PathMemo)}

theorem Reached.next (reached : Reached adjacency nodes visiting file memo)
    (fresh : file ∉ visiting) (sound : Sound adjacency memo')
    (unfinished : ∀ ancestor ∈ file :: visiting, memo' ancestor = none)
    (imported : successor ∈ adjacency file) (listed : successor ∈ nodes) :
    Reached adjacency nodes (file :: visiting) successor memo' where
  sound := sound
  unfinished := unfinished
  ancestors := by
    have ownWay : ReflTransGen (LeadsElsewhere (Arc adjacency)) file successor := by
      by_cases same : file = successor
      · rw [same]
      · exact ReflTransGen.single ⟨imported, same⟩
    intro ancestor above
    obtain rfl | above := List.mem_cons.1 above
    · exact ownWay
    · exact (reached.ancestors ancestor above).trans ownWay
  listed := List.cons_subset.2 ⟨reached.file, reached.listed⟩
  distinct := List.nodup_cons.2 ⟨fresh, reached.distinct⟩
  file := listed

theorem Searched.kept_all {done : List String}
    (extending : Extending adjacency visiting file memo done found)
    (searched : Searched adjacency (file :: visiting) successor found.2 tail memo') :
    ∀ other, memo other ≠ none → memo' other = memo other := by
  intro other known
  have kept := extending.kept other known
  rw [searched.kept other (kept ▸ known), kept]

theorem Extending.turn {done : List String} (reached : Reached adjacency nodes visiting file memo)
    (imported : successor ∈ adjacency file)
    (extending : Extending adjacency visiting file memo done found)
    (searched : Searched adjacency (file :: visiting) successor found.2 tail memo') :
    Extending adjacency visiting file memo (done ++ [successor])
      (if tail ≠ [] ∧ found.1.length < (file :: tail).length then (file :: tail, memo')
        else (found.1, memo')) := by
  have kept := searched.kept_all extending
  have closed : ∀ inner ∈ found.1, inner = file ∨ memo' inner ≠ none := by
    intro inner listed
    refine (extending.closed inner listed).imp_right fun known => ?_
    rw [searched.kept inner known]
    exact known
  obtain ⟨under, rfl⟩ | ⟨outside, finished⟩ := searched.result
  · -- a file under visit is met from a cycle, or from itself
    rw [if_neg (fun longer => longer.1 rfl)]
    refine ⟨searched.sound, kept, searched.unfinished, extending.simple, closed, ?_⟩
    intro loops other listed elsewhere rest simple
    obtain earlier | here := List.mem_append.1 listed
    · exact extending.longest loops other earlier elsewhere rest simple
    · obtain rfl := List.mem_singleton.1 here
      have above := (List.mem_cons.1 under).resolve_left elsewhere
      exact absurd (reached.ancestors other above) (loops.not_back ⟨imported, elsewhere.symm⟩)
  · have simple := searched.sound.simple successor tail finished
    have fresh : file ∉ tail := by
      intro inside
      exact searched.sound.closed successor tail finished file inside
        (searched.unfinished file List.mem_cons_self)
    have bound : OnlySelfLoops (Arc adjacency) → ∀ rest,
        SimplePath (Arc adjacency) successor rest → rest.length ≤ tail.length :=
      fun loops => (searched.sound.longest loops successor tail finished).longest
    split_ifs with longer
    · refine ⟨searched.sound, kept, searched.unfinished, simple.cons imported fresh, ?_, ?_⟩
      · intro inner listed
        refine (List.mem_cons.1 listed).imp_right fun inside => ?_
        exact searched.sound.closed successor tail finished inner inside
      · intro loops other listed elsewhere rest simpleRest
        obtain earlier | here := List.mem_append.1 listed
        · have before := extending.longest loops other earlier elsewhere rest simpleRest
          exact before.trans longer.2.le
        · obtain rfl := List.mem_singleton.1 here
          exact Nat.succ_le_succ (bound loops rest simpleRest)
    · refine ⟨searched.sound, kept, searched.unfinished, extending.simple, closed, ?_⟩
      intro loops other listed elsewhere rest simpleRest
      obtain earlier | here := List.mem_append.1 listed
      · exact extending.longest loops other earlier elsewhere rest simpleRest
      · obtain rfl := List.mem_singleton.1 here
        have short := not_lt.1 (fun shorter => longer ⟨simple.ne_nil, shorter⟩)
        exact (Nat.succ_le_succ (bound loops rest simpleRest)).trans short

theorem extendLongest_eq (searched : search successor found.2 = some (tail, memo')) :
    extendLongest search file found successor =
      some (if tail ≠ [] ∧ found.1.length < (file :: tail).length then (file :: tail, memo')
        else (found.1, memo')) := by
  rw [extendLongest, searched, Option.map_some]

theorem foldlM_extendLongest (reached : Reached adjacency nodes visiting file memo)
    (fresh : file ∉ visiting) (closed : ClosedUnder adjacency nodes)
    (spec : ∀ successor memo, Reached adjacency nodes (file :: visiting) successor memo →
      ∃ path memo', search successor memo = some (path, memo') ∧
        Searched adjacency (file :: visiting) successor memo path memo') :
    ∀ todo done found, todo ⊆ adjacency file →
      Extending adjacency visiting file memo done found →
      ∃ found', todo.foldlM (extendLongest search file) found = some found' ∧
        Extending adjacency visiting file memo (done ++ todo) found' := by
  intro todo
  induction todo with
  | nil =>
    intro done found _ extending
    rw [List.append_nil]
    exact ⟨found, rfl, extending⟩
  | cons successor todo ih =>
    intro done found listed extending
    obtain ⟨imported, later⟩ := List.cons_subset.1 listed
    have next := reached.next fresh extending.sound extending.unfinished imported
      (closed file reached.file imported)
    obtain ⟨tail, memo', run, searched⟩ := spec successor found.2 next
    obtain ⟨found', runs, extending'⟩ := ih (done ++ [successor]) _ later
      (extending.turn reached imported searched)
    refine ⟨found', ?_, ?_⟩
    · rw [List.foldlM_cons, extendLongest_eq run]
      exact runs
    · rwa [List.append_assoc] at extending'

/-! ## The search -/

theorem Sound.update (sound : Sound adjacency memo) (unknown : memo file = none)
    (simple : SimplePath (Arc adjacency) file path)
    (closed : ∀ inner ∈ path, inner = file ∨ memo inner ≠ none)
    (longest : OnlySelfLoops (Arc adjacency) → LongestPath (Arc adjacency) file path) :
    Sound adjacency (Function.update memo file (some path)) := by
  have known : ∀ inner, inner = file ∨ memo inner ≠ none →
      Function.update memo file (some path) inner ≠ none := by
    intro inner either
    by_cases same : inner = file
    · rw [same, Function.update_self]
      exact Option.some_ne_none path
    · rw [Function.update_of_ne same]
      exact either.resolve_left same
  have entry : ∀ other found, Function.update memo file (some path) other = some found →
      other = file ∧ found = path ∨ memo other = some found := by
    intro other found read
    by_cases same : other = file
    · rw [same, Function.update_self] at read
      exact .inl ⟨same, (Option.some.inj read).symm⟩
    · rw [Function.update_of_ne same] at read
      exact .inr read
  constructor
  · intro other found read
    obtain ⟨rfl, rfl⟩ | before := entry other found read
    · exact simple
    · exact sound.simple other found before
  · intro other found read inner listed
    refine known inner ?_
    obtain ⟨rfl, rfl⟩ | before := entry other found read
    · exact closed inner listed
    · exact .inr (sound.closed other found before inner listed)
  · intro loops other found read
    obtain ⟨rfl, rfl⟩ | before := entry other found read
    · exact longest loops
    · exact sound.longest loops other found before

/-- Storing the path of a file finishes the file. -/
theorem Reached.store (reached : Reached adjacency nodes visiting file memo)
    (fresh : file ∉ visiting) {found : PathMemo}
    (sound : Sound adjacency (Function.update found file (some path)))
    (unknown : memo file = none) (kept : ∀ other, memo other ≠ none → found other = memo other)
    (unfinished : ∀ ancestor ∈ visiting, found ancestor = none) :
    Searched adjacency visiting file memo path (Function.update found file (some path)) where
  sound := sound
  kept := by
    intro other known
    have apart : other ≠ file := by
      rintro rfl
      exact known unknown
    rw [Function.update_of_ne apart, kept other known]
  unfinished := by
    intro ancestor above
    have apart : ancestor ≠ file := by
      rintro rfl
      exact fresh above
    rw [Function.update_of_ne apart, unfinished ancestor above]
  result := .inr ⟨fresh, Function.update_self file (some path) found⟩

theorem longestPath_of_extending
    (extending : Extending adjacency visiting file memo (adjacency file) found)
    (loops : OnlySelfLoops (Arc adjacency)) : LongestPath (Arc adjacency) file found.1 where
  simple := extending.simple
  longest := by
    intro other simple
    obtain rfl | ⟨successor, rest, rfl, ⟨step, elsewhere⟩, simpleRest⟩ := simple.cases_on_step
    · exact List.length_pos_iff.2 extending.simple.ne_nil
    · exact extending.longest loops successor step elsewhere.symm rest simpleRest

theorem longestPathFrom_spec (closed : ClosedUnder adjacency nodes) (fuel : Nat) :
    ∀ visiting file memo, Reached adjacency nodes visiting file memo →
      nodes.length < fuel + visiting.length →
      ∃ path memo', longestPathFrom adjacency fuel visiting file memo = some (path, memo') ∧
        Searched adjacency visiting file memo path memo' := by
  induction fuel with
  | zero =>
    intro visiting file memo reached enough
    have bound := (reached.distinct.subperm reached.listed).length_le
    omega
  | succ fuel ih =>
    intro visiting file memo reached enough
    rw [longestPathFrom]
    by_cases under : file ∈ visiting
    · rw [if_pos under]
      exact ⟨[], memo, rfl, reached.sound, fun _ _ => rfl, reached.unfinished, .inl ⟨under, rfl⟩⟩
    rw [if_neg under]
    cases known : memo file with
    | some cached =>
      exact ⟨cached, memo, rfl, reached.sound, fun _ _ => rfl, reached.unfinished,
        .inr ⟨under, known⟩⟩
    | none =>
      have start : Extending adjacency visiting file memo [] ([file], memo) := by
        refine ⟨reached.sound, fun _ _ => rfl, ?_, simplePath_singleton file, ?_, ?_⟩
        · exact List.forall_mem_cons.2 ⟨known, reached.unfinished⟩
        · exact fun inner listed => .inl (List.mem_singleton.1 listed)
        · exact fun _ successor listed => absurd listed List.not_mem_nil
      have finish : ∀ found : List String × PathMemo,
          Extending adjacency visiting file memo (adjacency file) found →
          Searched adjacency visiting file memo found.1
            (Function.update found.2 file (some found.1)) := by
        intro found extending
        have unknown := extending.unfinished file List.mem_cons_self
        exact reached.store under (extending.sound.update unknown extending.simple
          extending.closed (longestPath_of_extending extending)) known extending.kept
          fun ancestor above => extending.unfinished ancestor (List.mem_cons_of_mem _ above)
      by_cases terminal : adjacency file = []
      · refine ⟨[file], Function.update memo file (some [file]), if_pos terminal, ?_⟩
        exact finish ([file], memo) (terminal.symm ▸ start)
      · have inner : ∀ successor memo, Reached adjacency nodes (file :: visiting) successor memo →
            ∃ path memo', longestPathFrom adjacency fuel (file :: visiting) successor memo =
                some (path, memo') ∧
              Searched adjacency (file :: visiting) successor memo path memo' := by
          intro successor memo next
          refine ih (file :: visiting) successor memo next ?_
          rw [List.length_cons]
          omega
        obtain ⟨found, run, extending⟩ := foldlM_extendLongest reached under closed inner
          (adjacency file) [] _ (List.Subset.refl _) start
        refine ⟨found.1, Function.update found.2 file (some found.1), ?_, finish found extending⟩
        show (if adjacency file = [] then _ else _) = _
        rw [if_neg terminal, run]
        rfl

/-- The searches from several files share a memo, where their paths stand at last. -/
theorem searchPaths_spec
    (spec : ∀ file memo, file ∈ nodes → Sound adjacency memo →
      ∃ path memo', search file memo = some (path, memo') ∧
        Searched adjacency [] file memo path memo') :
    ∀ names memo, names ⊆ nodes → Sound adjacency memo →
      ∃ paths final, searchPaths search names memo = some paths ∧ Sound adjacency final ∧
        (∀ other, memo other ≠ none → final other = memo other) ∧
        paths.map some = names.map final := by
  intro names
  induction names with
  | nil =>
    intro memo _ sound
    exact ⟨[], memo, rfl, sound, fun _ _ => rfl, rfl⟩
  | cons file names ih =>
    intro memo listed sound
    obtain ⟨here, later⟩ := List.cons_subset.1 listed
    obtain ⟨path, middle, run, searched⟩ := spec file memo here sound
    obtain ⟨paths, final, runs, soundFinal, kept, same⟩ := ih middle later searched.sound
    have stored : middle file = some path :=
      (searched.result.resolve_left fun under => List.not_mem_nil under.1).2
    refine ⟨path :: paths, final, ?_, soundFinal, ?_, ?_⟩
    · rw [searchPaths, run, Option.bind_some, runs]
      rfl
    · intro other known
      have before := searched.kept other known
      rw [kept other (before ▸ known), before]
    · rw [List.map_cons, List.map_cons, same, kept file (stored ▸ Option.some_ne_none path), stored]

end

/-! ## The imports -/

/-- One source file imports another. -/
def Imports (files : List SourceFileInfo) (file other : String) : Prop :=
  (∃ entry ∈ sourceFiles files, entry.relativePath = file ∧ other ∈ entry.resolvedImports) ∧
    other ∈ sourceFilePaths files

/-- No two source files have one path. -/
def DistinctPaths (files : List SourceFileInfo) : Prop := (sourceFilePaths files).Nodup

section

variable {files : List SourceFileInfo} {file other : String}

theorem imports_of_adjacency (listed : other ∈ adjacency files file) : Imports files file other := by
  rw [adjacency] at listed
  cases found : (sourceFiles files).reverse.find? fun entry => entry.relativePath = file with
  | none =>
    rw [found] at listed
    cases listed
  | some entry =>
    rw [found] at listed
    obtain ⟨imported, known⟩ := List.mem_filter.1 listed
    refine ⟨⟨entry, List.mem_reverse.1 (List.mem_of_find?_eq_some found), ?_, imported⟩,
      of_decide_eq_true known⟩
    exact of_decide_eq_true (List.find?_some found :)

theorem arc_adjacency_iff (distinct : DistinctPaths files) :
    Arc (adjacency files) file other ↔ Imports files file other := by
  refine ⟨imports_of_adjacency, ?_⟩
  rintro ⟨⟨entry, listed, named, imported⟩, known⟩
  have found : (sourceFiles files).reverse.find? (fun entry => entry.relativePath = file) =
      some entry := by
    cases first : (sourceFiles files).reverse.find? fun entry => entry.relativePath = file with
    | none =>
      have absent := List.find?_eq_none.1 first entry (List.mem_reverse.2 listed)
      exact absurd (decide_eq_true named) absent
    | some entry' =>
      have listed' := List.mem_reverse.1 (List.mem_of_find?_eq_some first)
      have named' : entry'.relativePath = file := of_decide_eq_true (List.find?_some first :)
      rw [List.inj_on_of_nodup_map distinct listed listed' (named.trans named'.symm)]
  show other ∈ adjacency files file
  rw [adjacency, found]
  exact List.mem_filter.2 ⟨imported, decide_eq_true known⟩

theorem closedUnder_adjacency (files : List SourceFileInfo) :
    ClosedUnder (adjacency files) (sourceFilePaths files) :=
  fun _ _ _ listed => (imports_of_adjacency listed).2

/-- What the search of a list of files finds. -/
structure Found (files : List SourceFileInfo) (paths : List (List String)) : Prop where
  run : searchPaths (longestPathFrom (adjacency files) (searchFuel files) [])
    (sourceFilePaths files) (fun _ => none) = some paths
  memo : ∃ final, Sound (adjacency files) final ∧ paths.map some = (sourceFilePaths files).map final

theorem exists_found (files : List SourceFileInfo) : ∃ paths, Found files paths := by
  have empty : Sound (adjacency files) fun _ => none := by
    constructor
    · intro file path read
      cases read
    · intro file path read
      cases read
    · intro _ file path read
      cases read
  have spec : ∀ file memo, file ∈ sourceFilePaths files → Sound (adjacency files) memo →
      ∃ path memo', longestPathFrom (adjacency files) (searchFuel files) [] file memo =
          some (path, memo') ∧ Searched (adjacency files) [] file memo path memo' := by
    intro file memo listed sound
    refine longestPathFrom_spec (closedUnder_adjacency files) (searchFuel files) [] file memo ?_ ?_
    · exact ⟨sound, List.forall_mem_nil _, List.forall_mem_nil _, List.nil_subset _,
        List.nodup_nil, listed⟩
    · rw [sourceFilePaths, List.length_map]
      exact Nat.lt_succ_self _
  obtain ⟨paths, final, run, sound, _, same⟩ :=
    searchPaths_spec spec (sourceFilePaths files) _ (List.Subset.refl _) empty
  exact ⟨paths, run, final, sound, same⟩

end

end OnePersonLab.QualityDetails
