import OnePersonLab.Stage.DependencyDepthSound

/-!
# Depths and the order of the files

On a graph without cycles the depths are those of the longest import paths, whatever the order of
the files. A cycle makes them depend on where the search enters it.
-/

namespace OnePersonLab.QualityDetails

open Lib Relation

/-- The depths of the reported dependency paths, in the order of the report. -/
def reportedDepths (analysis : GraphAnalysis) : List Nat :=
  (analysis.dependencyFindings.filter fun finding => finding.kind = .deepDependencyPath).map
    DependencyFinding.depth

/-- The depth is the length of the longest path along the imports of the source files. -/
structure LongestDepth (files : List SourceFileInfo) (depth : Nat) : Prop where
  bound : ∀ file path, SimplePath (Imports files) file path → path.length ≤ depth + 1
  attained : sourceFiles files ≠ [] →
    ∃ file path, SimplePath (Imports files) file path ∧ path.length = depth + 1
  empty : sourceFiles files = [] → depth = 0

section

variable {files others : List SourceFileInfo} {paths paths' : List (List String)}
  {path : List String} {file : String}

/-! ## Reported paths -/

theorem Found.analyzeGraph_eq (found : Found files paths) (limit : Nat) :
    analyzeGraph files limit = some (analysisOf files limit paths) := by
  rw [analyzeGraph, found.run, Option.map_some]

theorem Found.simple (found : Found files paths) (listed : path ∈ paths) :
    ∃ file ∈ sourceFilePaths files, SimplePath (Arc (adjacency files)) file path := by
  obtain ⟨final, sound, same⟩ := found.memo
  have present : some path ∈ (sourceFilePaths files).map final :=
    same ▸ List.mem_map_of_mem listed
  obtain ⟨file, known, stored⟩ := List.mem_map.1 present
  exact ⟨file, known, sound.simple file path stored⟩

theorem reported_path {limit : Nat} {finding : DependencyFinding}
    (listed : finding ∈ (analysisOf files limit paths).dependencyFindings)
    (deep : finding.kind = .deepDependencyPath) :
    finding.path ∈ paths ∧ finding.depth = finding.path.length - 1 := by
  have sorted := mem_stableSort.1 (List.mem_of_mem_take listed)
  obtain here | fan := List.mem_append.1 sorted
  · obtain ⟨path, taken, rfl⟩ := List.mem_map.1 here
    exact ⟨mem_stableSort.1 (List.mem_filter.1 (List.mem_of_mem_take taken)).1, rfl⟩
  · obtain ⟨file, _, produced⟩ := List.mem_flatMap.1 fan
    rw [fanFindings, List.mem_append] at produced
    obtain out | into := produced
    · split_ifs at out
      · rw [List.mem_singleton.1 out] at deep
        cases deep
      · cases out
    · split_ifs at into
      · rw [List.mem_singleton.1 into] at deep
        cases deep
      · cases into

/-! ## The longest depth -/

theorem descending_order : TotalPreorder descending where
  total left right := by
    simp only [descending, decide_eq_true_iff]
    exact Nat.le_total right left
  trans left mid right := by
    simp only [descending, decide_eq_true_iff]
    intro first second
    exact second.trans first

theorem maxDepth_bound {limit : Nat} (listed : path ∈ paths) :
    path.length ≤ (analysisOf files limit paths).maxDepth + 1 := by
  have sorted := @stableSort_pairwise _ _ descending List.length descending_order paths
  have there : path ∈ stableSort descending List.length paths := mem_stableSort.2 listed
  show path.length ≤ ((stableSort descending List.length paths).head?.getD []).length - 1 + 1
  generalize stableSort descending List.length paths = ordered at sorted there
  cases ordered with
  | nil => cases there
  | cons first rest =>
    have least : path.length ≤ first.length := by
      obtain rfl | later := List.mem_cons.1 there
      · exact Nat.le_refl _
      · exact of_decide_eq_true ((List.pairwise_cons.1 sorted).1 path later)
    show path.length ≤ first.length - 1 + 1
    omega

theorem maxDepth_attained {limit : Nat} (nonempty : paths ≠ []) :
    ∃ path ∈ paths, (analysisOf files limit paths).maxDepth = path.length - 1 := by
  cases ordered : stableSort descending List.length paths with
  | nil =>
    have perm : (stableSort descending List.length paths).Perm paths := stableSort_perm paths
    rw [ordered] at perm
    exact absurd perm.symm.eq_nil nonempty
  | cons first rest =>
    refine ⟨first, mem_stableSort.1 (ordered ▸ List.mem_cons_self), ?_⟩
    show ((stableSort descending List.length paths).head?.getD []).length - 1 = _
    rw [ordered]
    rfl

theorem onlySelfLoops_adjacency (loops : OnlySelfLoops (Imports files)) :
    OnlySelfLoops (Arc (adjacency files)) := by
  intro node cycle
  exact loops node (TransGen.mono (fun _ _ step => ⟨imports_of_adjacency step.1, step.2⟩) _ _ cycle)

/-- Without cycles the path of a file is a longest one along the imports. -/
theorem Found.longest (found : Found files paths) (distinct : DistinctPaths files)
    (loops : OnlySelfLoops (Imports files)) :
    ∃ final : PathMemo, paths.map some = (sourceFilePaths files).map final ∧
      ∀ file path, final file = some path → LongestPath (Imports files) file path := by
  obtain ⟨final, sound, same⟩ := found.memo
  refine ⟨final, same, ?_⟩
  intro file path stored
  have longest := sound.longest (onlySelfLoops_adjacency loops) file path stored
  refine ⟨longest.simple.congr fun _ _ => arc_adjacency_iff distinct, ?_⟩
  intro other simple
  exact longest.longest other (simple.congr fun _ _ => (arc_adjacency_iff distinct).symm)

theorem simplePath_of_unlisted (unlisted : file ∉ sourceFilePaths files)
    (simple : SimplePath (Imports files) file path) : path = [file] := by
  refine simple.cases_on_step.resolve_right ?_
  rintro ⟨successor, rest, rfl, ⟨⟨⟨entry, listed, rfl, _⟩, _⟩, _⟩, _⟩
  exact unlisted (List.mem_map_of_mem listed)

theorem Found.longestDepth (found : Found files paths) (distinct : DistinctPaths files)
    (loops : OnlySelfLoops (Imports files)) (limit : Nat) :
    LongestDepth files (analysisOf files limit paths).maxDepth := by
  obtain ⟨final, same, longest⟩ := found.longest distinct loops
  have length_eq : paths.length = (sourceFiles files).length := by
    simpa [sourceFilePaths] using congrArg List.length same
  constructor
  · intro file path simple
    by_cases listed : file ∈ sourceFilePaths files
    · have stored : final file ∈ paths.map some := same ▸ List.mem_map_of_mem listed
      obtain ⟨own, there, stored⟩ := List.mem_map.1 stored
      exact ((longest file own stored.symm).longest path simple).trans (maxDepth_bound there)
    · rw [simplePath_of_unlisted listed simple]
      exact Nat.succ_le_succ (Nat.zero_le _)
  · intro nonempty
    have filled : paths ≠ [] := by
      rintro rfl
      exact nonempty (List.eq_nil_of_length_eq_zero length_eq.symm)
    obtain ⟨path, there, depth⟩ := @maxDepth_attained files _ limit filled
    obtain ⟨file, _, simple⟩ := found.simple there
    have along : SimplePath (Imports files) file path :=
      simple.congr fun _ _ => arc_adjacency_iff distinct
    refine ⟨file, path, along, ?_⟩
    have long := List.length_pos_iff.2 along.ne_nil
    omega
  · intro empty
    have none : paths = [] := List.eq_nil_of_length_eq_zero (by rw [length_eq, empty]; rfl)
    rw [none]
    rfl

/-! ## The order of the files -/

theorem sourceFiles_perm (same : files.Perm others) :
    (sourceFiles files).Perm (sourceFiles others) :=
  same.filter _

theorem sourceFilePaths_perm (same : files.Perm others) :
    (sourceFilePaths files).Perm (sourceFilePaths others) :=
  (sourceFiles_perm same).map _

theorem imports_of_perm (same : files.Perm others) : Imports files = Imports others := by
  funext file other
  rw [Imports, Imports, (sourceFilePaths_perm same).mem_iff]
  have entries : (∃ entry ∈ sourceFiles files,
      entry.relativePath = file ∧ other ∈ entry.resolvedImports) ↔
      ∃ entry ∈ sourceFiles others, entry.relativePath = file ∧ other ∈ entry.resolvedImports :=
    exists_congr fun entry => and_congr_left' (sourceFiles_perm same).mem_iff
  rw [entries]

/-- The lengths of the paths, up to their order, are those of the longest ones. -/
theorem lengths_perm (same : files.Perm others) (found : Found files paths)
    (found' : Found others paths') (distinct : DistinctPaths files)
    (loops : OnlySelfLoops (Imports files)) :
    (paths.map List.length).Perm (paths'.map List.length) := by
  have distinct' : DistinctPaths others := (sourceFilePaths_perm same).nodup_iff.1 distinct
  have loops' : OnlySelfLoops (Imports others) := imports_of_perm same ▸ loops
  obtain ⟨final, listed, longest⟩ := found.longest distinct loops
  obtain ⟨final', listed', longest'⟩ := found'.longest distinct' loops'
  have lengths : ∀ {names : List String} {ways : List (List String)} {memo : PathMemo},
      ways.map some = names.map memo →
      ways.map List.length = names.map fun name => ((memo name).getD []).length := by
    intro names ways memo stored
    have read := congrArg (List.map fun way => (Option.getD way []).length) stored
    rwa [List.map_map, List.map_map] at read
  rw [lengths listed, lengths listed']
  refine List.Perm.trans ?_ ((sourceFilePaths_perm same).map _)
  refine List.Perm.of_eq (List.map_congr_left fun name known => ?_)
  have stored : final name ∈ paths.map some := listed ▸ List.mem_map_of_mem known
  have stored' : final' name ∈ paths'.map some :=
    listed' ▸ List.mem_map_of_mem ((sourceFilePaths_perm same).mem_iff.1 known)
  obtain ⟨path, _, stored⟩ := List.mem_map.1 stored
  obtain ⟨path', _, stored'⟩ := List.mem_map.1 stored'
  rw [← stored, ← stored']
  exact (longest name path stored.symm).length_eq
    (imports_of_perm same ▸ longest' name path' stored'.symm)

theorem descending_antisymm (left right : Nat) (first : descending left right = true)
    (second : descending right left = true) : left = right :=
  Nat.le_antisymm (of_decide_eq_true second) (of_decide_eq_true first)

theorem sorted_lengths_eq (perm : (paths.map List.length).Perm (paths'.map List.length)) :
    (stableSort descending List.length paths).map List.length =
      (stableSort descending List.length paths').map List.length := by
  have sorted (ways : List (List String)) :
      (stableSort descending List.length ways).map List.length =
        stableSort descending id (ways.map List.length) :=
    @map_stableSort _ _ descending id _ List.length ways
  rw [sorted, sorted]
  exact stableSort_eq_of_perm descending_order perm fun left _ right _ tie =>
    descending_antisymm left right tie.1 tie.2

/-! ## What is reported of a finding -/

/-- The score of a finding, and its depth when it is a dependency path. -/
def mark (finding : DependencyFinding) : Nat × Option Nat :=
  (finding.score, if finding.kind = .deepDependencyPath then some finding.depth else none)

theorem reportedDepths_eq (analysis : GraphAnalysis) :
    reportedDepths analysis =
      (analysis.dependencyFindings.map mark).filterMap Prod.snd := by
  rw [reportedDepths, List.filterMap_map, ← List.filterMap_eq_map, List.filterMap_filter]
  refine List.filterMap_congr fun finding _ => ?_
  by_cases deep : finding.kind = .deepDependencyPath <;> simp [mark, deep]

theorem mark_fanFindings {incoming : String → List String} {entry : SourceFileInfo}
    {finding : DependencyFinding} (produced : finding ∈ fanFindings incoming entry) :
    (mark finding).2 = none := by
  rw [fanFindings, List.mem_append] at produced
  obtain out | into := produced
  · split_ifs at out
    · rw [List.mem_singleton.1 out]
      rfl
    · cases out
  · split_ifs at into
    · rw [List.mem_singleton.1 into]
      rfl
    · cases into

theorem marks_deep (paths : List (List String)) (limit : Nat) :
    (((paths.filter fun path => 1 < path.length).take (min limit 10)).map
        deepDependencyPath).map mark =
      (((paths.map List.length).filter fun length => 1 < length).take (min limit 10)).map
        fun length => (length * 25, some (length - 1)) := by
  rw [List.filter_map, ← List.map_take, List.map_map, List.map_map]
  rfl

/-- Depths whose lengths agree are reported alike, whichever the files with many imports are. -/
theorem reportedDepths_congr {limit : Nat} {fans fans' : List DependencyFinding}
    (lengths : paths.map List.length = paths'.map List.length) (same : fans.Perm fans')
    (unmarked : ∀ finding ∈ fans, (mark finding).2 = none) :
    ((stableSort descending DependencyFinding.score
        (((paths.filter fun path => 1 < path.length).take (min limit 10)).map
          deepDependencyPath ++ fans)).take limit).map mark =
      ((stableSort descending DependencyFinding.score
        (((paths'.filter fun path => 1 < path.length).take (min limit 10)).map
          deepDependencyPath ++ fans')).take limit).map mark := by
  have sorted (findings : List DependencyFinding) :
      (stableSort descending DependencyFinding.score findings).map mark =
        stableSort descending Prod.fst (findings.map mark) :=
    @map_stableSort _ _ descending Prod.fst _ mark findings
  have taken (findings : List DependencyFinding) :
      (findings.take limit).map mark = (findings.map mark).take limit := List.map_take
  rw [taken, taken, sorted, sorted, List.map_append, List.map_append, marks_deep, marks_deep,
    lengths]
  refine congrArg (List.take limit) (stableSort_append_congr ?_ _)
  refine stableSort_eq_of_perm descending_order (same.map mark) ?_
  intro left listed right listed' tie
  obtain ⟨finding, there, rfl⟩ := List.mem_map.1 listed
  obtain ⟨finding', there', rfl⟩ := List.mem_map.1 listed'
  refine Prod.ext (descending_antisymm _ _ tie.1 tie.2) ?_
  rw [unmarked finding there, unmarked finding' there']

theorem buildIncoming_length (same : files.Perm others) (target : String) :
    (buildIncoming files target).length = (buildIncoming others target).length := by
  refine List.Perm.length_eq ?_
  refine (List.perm_ext_iff_of_nodup (nodup_eraseDups _) (nodup_eraseDups _)).2 ?_
  intro importer
  rw [List.mem_eraseDups, List.mem_eraseDups]
  exact ((same.filter _).map _).mem_iff

theorem fans_perm (same : files.Perm others) :
    ((sourceFiles files).flatMap (fanFindings (buildIncoming files))).Perm
      ((sourceFiles others).flatMap (fanFindings (buildIncoming others))) := by
  have findings : fanFindings (buildIncoming files) = fanFindings (buildIncoming others) := by
    funext entry
    rw [fanFindings, fanFindings, buildIncoming_length same]
  rw [findings]
  exact (sourceFiles_perm same).flatMap_right _

theorem maxDepth_eq (limit : Nat) :
    (analysisOf files limit paths).maxDepth =
      ((((stableSort descending List.length paths).map List.length).head?).getD 0) - 1 := by
  show ((stableSort descending List.length paths).head?.getD []).length - 1 = _
  cases stableSort descending List.length paths <;> rfl

theorem analysis_of_perm (same : files.Perm others) (found : Found files paths)
    (found' : Found others paths') (distinct : DistinctPaths files)
    (loops : OnlySelfLoops (Imports files)) (limit : Nat) :
    (analysisOf others limit paths').maxDepth = (analysisOf files limit paths).maxDepth ∧
      reportedDepths (analysisOf others limit paths') =
        reportedDepths (analysisOf files limit paths) := by
  have lengths := sorted_lengths_eq (lengths_perm same found found' distinct loops)
  constructor
  · rw [maxDepth_eq, maxDepth_eq, lengths]
  · rw [reportedDepths_eq, reportedDepths_eq]
    refine congrArg (List.filterMap Prod.snd) (Eq.symm ?_)
    refine reportedDepths_congr lengths (fans_perm same) ?_
    intro finding listed
    obtain ⟨entry, _, produced⟩ := List.mem_flatMap.1 listed
    exact mark_fanFindings produced

/-- The reported paths are import paths on every graph. On a graph without cycles the depths are
those of the longest paths, whatever the order of the files. -/
theorem dependencyDepth_sound (files : List SourceFileInfo) (limit : Nat) :
    ∃ analysis, analyzeGraph files limit = some analysis ∧
      (∀ finding ∈ analysis.dependencyFindings, finding.kind = .deepDependencyPath →
        finding.path.Nodup ∧ finding.path.IsChain (Imports files) ∧
          finding.depth = finding.path.length - 1) ∧
      (DistinctPaths files → OnlySelfLoops (Imports files) →
        LongestDepth files analysis.maxDepth ∧
        ∀ others, files.Perm others → ∃ analysis', analyzeGraph others limit = some analysis' ∧
          analysis'.maxDepth = analysis.maxDepth ∧
          reportedDepths analysis' = reportedDepths analysis) := by
  obtain ⟨paths, found⟩ := exists_found files
  refine ⟨_, found.analyzeGraph_eq limit, ?_, ?_⟩
  · intro finding listed deep
    obtain ⟨there, depth⟩ := reported_path listed deep
    obtain ⟨file, _, simple⟩ := found.simple there
    exact ⟨simple.distinct, simple.follows.imp fun _ _ => imports_of_adjacency, depth⟩
  · intro distinct loops
    refine ⟨found.longestDepth distinct loops limit, ?_⟩
    intro others same
    obtain ⟨paths', found'⟩ := exists_found others
    exact ⟨_, found'.analyzeGraph_eq limit, analysis_of_perm same found found' distinct loops limit⟩

end

/-! ## Sample graphs -/

def sourceFile (relativePath : String) (resolvedImports : List String) : SourceFileInfo :=
  { relativePath, resolvedImports, isTest := false }

/-- An entry that imports a file which imports itself. -/
def selfImporting : List SourceFileInfo :=
  [sourceFile "main.ts" ["util.ts"], sourceFile "util.ts" ["util.ts"]]

theorem imports_selfImporting {file other : String}
    (step : LeadsElsewhere (Imports selfImporting) file other) :
    file = "main.ts" ∧ other = "util.ts" := by
  obtain ⟨⟨⟨entry, listed, rfl, imported⟩, _⟩, apart⟩ := step
  obtain rfl | rfl : entry = sourceFile "main.ts" ["util.ts"] ∨
      entry = sourceFile "util.ts" ["util.ts"] := by
    simpa [sourceFiles, selfImporting, sourceFile] using listed
  · exact ⟨rfl, List.mem_singleton.1 imported⟩
  · exact absurd (List.mem_singleton.1 imported).symm apart

theorem onlySelfLoops_selfImporting : OnlySelfLoops (Imports selfImporting) := by
  intro node cycle
  obtain ⟨_, first, _⟩ := TransGen.head'_iff.1 cycle
  obtain ⟨_, _, last⟩ := TransGen.tail'_iff.1 cycle
  have named := (imports_selfImporting first).1
  rw [(imports_selfImporting last).2] at named
  revert named
  decide

theorem selfImporting_sound :
    ∃ analysis, analyzeGraph selfImporting 20 = some analysis ∧
      LongestDepth selfImporting analysis.maxDepth ∧
      ∃ analysis', analyzeGraph selfImporting.reverse 20 = some analysis' ∧
        analysis'.maxDepth = analysis.maxDepth := by
  obtain ⟨analysis, run, _, sound⟩ := dependencyDepth_sound selfImporting 20
  obtain ⟨longest, ordered⟩ := sound (by unfold DistinctPaths; decide) onlySelfLoops_selfImporting
  obtain ⟨analysis', run', same, _⟩ := ordered _ (List.reverse_perm _).symm
  exact ⟨analysis, run, longest, analysis', run', same⟩

/-- Two files that import each other, and what the second one imports. -/
def cyclic : List SourceFileInfo :=
  [sourceFile "a.ts" ["b.ts"], sourceFile "b.ts" ["a.ts", "c.ts"], sourceFile "c.ts" []]

def cyclicReordered : List SourceFileInfo :=
  [sourceFile "b.ts" ["a.ts", "c.ts"], sourceFile "a.ts" ["b.ts"], sourceFile "c.ts" []]

/-- Two entries of one path. -/
def twice : List SourceFileInfo :=
  [sourceFile "a.ts" [], sourceFile "a.ts" ["b.ts"], sourceFile "b.ts" []]

def twiceReordered : List SourceFileInfo :=
  [sourceFile "a.ts" ["b.ts"], sourceFile "a.ts" [], sourceFile "b.ts" []]

/-- Entered at the second file, the cycle hides the way through the first. Of two entries of one
path the later one counts. -/
theorem maxDepth_of_order :
    (cyclic.Perm cyclicReordered ∧
      (analyzeGraph cyclic 20).map GraphAnalysis.maxDepth = some 2 ∧
      (analyzeGraph cyclicReordered 20).map GraphAnalysis.maxDepth = some 1) ∧
    twice.Perm twiceReordered ∧
      (analyzeGraph twice 20).map GraphAnalysis.maxDepth = some 1 ∧
      (analyzeGraph twiceReordered 20).map GraphAnalysis.maxDepth = some 0 := by
  refine ⟨⟨List.Perm.swap _ _ _, ?_⟩, List.Perm.swap _ _ _, ?_⟩
  · decide +kernel
  · decide +kernel

end OnePersonLab.QualityDetails
