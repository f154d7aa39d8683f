import Mathlib.Logic.Function.Basic
import OnePersonLab.Lib.SimplePaths
import OnePersonLab.Lib.StableSort

/-!
# How deep the source files import each other

The quality details report the longest import paths of a repository. The search is depth first. A
file under visit is cut off, and every finished file keeps the path that was found for it.
-/

namespace OnePersonLab.QualityDetails

open Lib

/-- A scanned file, as far as the dependency findings read it. -/
structure SourceFileInfo where
  relativePath : String
  resolvedImports : List String
  isTest : Bool

inductive DependencyFindingKind where
  | deepDependencyPath
  | highFanOut
  | highFanIn
  deriving DecidableEq

structure DependencyFinding where
  kind : DependencyFindingKind
  file : Option String
  path : List String
  depth : Nat
  fanIn : Option Nat
  fanOut : Option Nat
  score : Nat
  reason : String

structure GraphAnalysis where
  dependencyFindings : List DependencyFinding
  maxDepth : Nat

def sourceFiles (files : List SourceFileInfo) : List SourceFileInfo :=
  files.filter fun file => !file.isTest

def sourceFilePaths (files : List SourceFileInfo) : List String :=
  (sourceFiles files).map SourceFileInfo.relativePath

/-- The importers of the file, each once. -/
def buildIncoming (files : List SourceFileInfo) (target : String) : List String :=
  ((files.filter fun file => target ∈ file.resolvedImports).map
    SourceFileInfo.relativePath).eraseDups

/-- The source files that the file imports. Of two entries with one path the later one counts. -/
def adjacency (files : List SourceFileInfo) (file : String) : List String :=
  (((sourceFiles files).reverse.find? fun entry => entry.relativePath = file).map fun entry =>
    entry.resolvedImports.filter (· ∈ sourceFilePaths files)).getD []

/-! ## The search -/

/-- The paths of the finished files. -/
abbrev PathMemo := String → Option (List String)

/-- One turn of the loop over the imported files. -/
def extendLongest (search : String → PathMemo → Option (List String × PathMemo)) (file : String)
    (found : List String × PathMemo) (nextFile : String) : Option (List String × PathMemo) :=
  (search nextFile found.2).map fun tail =>
    if tail.1 ≠ [] ∧ found.1.length < (file :: tail.1).length then (file :: tail.1, tail.2)
    else (found.1, tail.2)

/-- The path from the file and the paths known afterwards. -/
def longestPathFrom (adjacency : String → List String) :
    Nat → List String → String → PathMemo → Option (List String × PathMemo)
  | 0, _, _, _ => none
  | fuel + 1, visiting, file, memo =>
    if file ∈ visiting then some ([], memo)
    else match memo file with
      | some cached => some (cached, memo)
      | none =>
        if adjacency file = [] then some ([file], Function.update memo file (some [file]))
        else ((adjacency file).foldlM
          (extendLongest (longestPathFrom adjacency fuel (file :: visiting)) file)
          ([file], memo)).map fun found => (found.1, Function.update found.2 file (some found.1))

/-- The path of each file, with one memo for all. -/
def searchPaths (search : String → PathMemo → Option (List String × PathMemo)) :
    List String → PathMemo → Option (List (List String))
  | [], _ => some []
  | file :: rest, memo =>
    (search file memo).bind fun found =>
      (searchPaths search rest found.2).map (found.1 :: ·)

/-- The fuel covers a path through every source file. -/
def searchFuel (files : List SourceFileInfo) : Nat := (sourceFiles files).length + 1

/-! ## The findings -/

def deepDependencyPath (path : List String) : DependencyFinding where
  kind := .deepDependencyPath
  file := none
  path := path
  depth := path.length - 1
  fanIn := none
  fanOut := none
  score := path.length * 25
  reason := s!"source import path has depth {path.length - 1}"

def highFanOut (file : SourceFileInfo) : DependencyFinding where
  kind := .highFanOut
  file := some file.relativePath
  path := file.relativePath :: file.resolvedImports
  depth := 1
  fanIn := none
  fanOut := some file.resolvedImports.length
  score := file.resolvedImports.length * 20
  reason := s!"source file imports {file.resolvedImports.length} local files"

def highFanIn (fanIn : Nat) (file : SourceFileInfo) : DependencyFinding where
  kind := .highFanIn
  file := some file.relativePath
  path := [file.relativePath]
  depth := 0
  fanIn := some fanIn
  fanOut := none
  score := fanIn * 16
  reason := s!"source file is imported by {fanIn} local files"

def fanFindings (incoming : String → List String) (file : SourceFileInfo) :
    List DependencyFinding :=
  (if 8 ≤ file.resolvedImports.length then [highFanOut file] else []) ++
    (if 8 ≤ (incoming file.relativePath).length then
      [highFanIn (incoming file.relativePath).length file] else [])

/-- Larger numbers first. -/
def descending (left right : Nat) : Bool := decide (right ≤ left)

/-- The part of `analyzeGraph` after the search. -/
def analysisOf (files : List SourceFileInfo) (limit : Nat) (found : List (List String)) :
    GraphAnalysis :=
  let paths := stableSort descending List.length found
  let deep := ((paths.filter fun path => 1 < path.length).take (min limit 10)).map
    deepDependencyPath
  let fans := (sourceFiles files).flatMap (fanFindings (buildIncoming files))
  { dependencyFindings :=
      (stableSort descending DependencyFinding.score (deep ++ fans)).take limit
    maxDepth := (paths.head?.getD []).length - 1 }

def analyzeGraph (files : List SourceFileInfo) (limit : Nat) : Option GraphAnalysis :=
  (searchPaths (longestPathFrom (adjacency files) (searchFuel files) []) (sourceFilePaths files)
    fun _ => none).map (analysisOf files limit)

end OnePersonLab.QualityDetails
