import Mathlib.Data.List.Nodup
import OnePersonLab.Closure.PythonCallGraph

/-!
# Which calls the call graph reports

A visit is a run over the events of the file: its imports, declarations and calls, in the order in
which the visitor meets them. A call is resolved by the imports before it. What the call denotes
under Python's import semantics is stated apart from the visitor.
-/

namespace OnePersonLab.SourceClosure

open Contract

/-! ## Events -/

inductive Event where
  | declared (symbol : Symbol) (line : Nat)
  | importModules (context : Context) (names : List Alias) (line : Nat)
  | importFrom (context : Context) (module : Option String) (names : List Alias) (level line : Nat)
  | call (site : CallSite)

mutual
def events (path : String) (context : Context) : Node → List Event
  | .name _ => []
  | .attribute value _ => events path context value
  | .constant _ => []
  | .sequence elements => eventsOfAll path context elements
  | .subscript value slice => events path context value ++ events path context slice
  | .keyword _ value => events path context value
  | .call func args keywords line =>
    .call ⟨context, func, args, keywords, line⟩ :: (events path context func ++
      (eventsOfAll path context args ++ eventsOfAll path context keywords))
  | .importModules names line => [.importModules context names line]
  | .importFrom module names level line => [.importFrom context module names level line]
  | .functionDef name params arguments body rest line =>
    let symbol := context.functionSymbol path name
    let outside := { context with symbol := symbol }
    let inside := { outside with scope := context.scope ++ [.function name params] }
    .declared symbol line :: (eventsOfAll path outside arguments ++
      (eventsOfAll path inside body ++ eventsOfAll path outside rest))
  | .classDef name bases body decorators =>
    let outside := { context with currentClass := some name }
    eventsOfAll path outside bases ++
      (eventsOfAll path (context.inClass name) body ++ eventsOfAll path outside decorators)
  | .other children => eventsOfAll path context children

def eventsOfAll (path : String) (context : Context) : List Node → List Event
  | [] => []
  | node :: rest => events path context node ++ eventsOfAll path context rest
end

namespace ParsedFile

variable (file : ParsedFile)

def moduleContext : Context := ⟨moduleSymbol file.path, none, []⟩

def events : List Event :=
  .declared (moduleSymbol file.path) 1 :: eventsOfAll file.path file.moduleContext file.body

end ParsedFile

namespace FileAnalyzer

variable (analyzer : FileAnalyzer)

def step (state : AnalyzerState) : Event → AnalyzerState
  | .declared symbol line => analyzer.addSymbol symbol line state
  | .importModules context names line => analyzer.visitImport context names line state
  | .importFrom context module names level line =>
    analyzer.visitImportFrom context module names level line state
  | .call site => analyzer.visitCall site state

mutual
theorem visit_eq_foldl (context : Context) : (node : Node) → (state : AnalyzerState) →
    analyzer.visit context node state =
      (events analyzer.file.path context node).foldl analyzer.step state
  | .name _, _ | .constant _, _ => rfl
  | .attribute value _, state => by
    rw [visit, events, visit_eq_foldl context value state]
  | .sequence elements, state => by
    rw [visit, events, visitAll_eq_foldl context elements state]
  | .subscript value slice, state => by
    rw [visit, events, visit_eq_foldl context value, visit_eq_foldl context slice,
      List.foldl_append]
  | .keyword _ value, state => by
    rw [visit, events, visit_eq_foldl context value state]
  | .call func args keywords line, state => by
    rw [visit, events, visit_eq_foldl context func, visitAll_eq_foldl context args,
      visitAll_eq_foldl context keywords, List.foldl_cons, List.foldl_append, List.foldl_append]
    rfl
  | .importModules names line, state => rfl
  | .importFrom module names level line, state => rfl
  | .functionDef name params arguments body rest line, state => by
    simp only [visit, events]
    rw [visitAll_eq_foldl _ arguments, visitAll_eq_foldl _ body, visitAll_eq_foldl _ rest,
      List.foldl_cons, List.foldl_append, List.foldl_append]
    rfl
  | .classDef name bases body decorators, state => by
    simp only [visit, events]
    rw [visitAll_eq_foldl _ bases, visitAll_eq_foldl _ body, visitAll_eq_foldl _ decorators,
      List.foldl_append, List.foldl_append]
  | .other children, state => by
    rw [visit, events, visitAll_eq_foldl context children state]

theorem visitAll_eq_foldl (context : Context) : (nodes : List Node) → (state : AnalyzerState) →
    analyzer.visitAll context nodes state =
      (eventsOfAll analyzer.file.path context nodes).foldl analyzer.step state
  | [], _ => rfl
  | node :: rest, state => by
    rw [visitAll, eventsOfAll, visit_eq_foldl context node, visitAll_eq_foldl context rest,
      List.foldl_append]
end

/-- The state after some events. -/
def stateAfter (before : List Event) : AnalyzerState :=
  before.foldl analyzer.step ⟨[], [], [], [], []⟩

/-- The visit of a file runs over its events. -/
theorem analyze_eq_stateAfter : analyzer.analyze = analyzer.stateAfter analyzer.file.events := by
  rw [analyze, visitAll_eq_foldl]
  rfl

/-! ### Imports before a call -/

def bindings : Event → List (String × ImportTarget)
  | .importModules _ names _ => names.map analyzer.moduleBinding
  | .importFrom _ module names level _ =>
    names.map (analyzer.memberBinding (analyzer.importedModule module level))
  | .declared _ _ => []
  | .call _ => []

/-- What the imports bind, the last one first. -/
def importsBefore (before : List Event) : List (String × ImportTarget) :=
  (before.flatMap analyzer.bindings).reverse

/-- What the last import says that binds the name. -/
def lastImport (before : List Event) (name : String) : Option ImportTarget :=
  (analyzer.importsBefore before).lookup name

theorem step_importAliases (state : AnalyzerState) (event : Event) :
    (analyzer.step state event).importAliases =
      (analyzer.bindings event).reverse ++ state.importAliases := by
  cases event with
  | declared symbol line => rfl
  | importModules context names line => rfl
  | importFrom context module names level line => rfl
  | call site => rfl

theorem foldl_importAliases (events : List Event) (state : AnalyzerState) :
    (events.foldl analyzer.step state).importAliases =
      (events.flatMap analyzer.bindings).reverse ++ state.importAliases := by
  induction events generalizing state with
  | nil => rfl
  | cons event rest ih =>
    rw [List.foldl_cons, ih, step_importAliases, List.flatMap_cons, List.reverse_append,
      List.append_assoc]

theorem importAliases_stateAfter (before : List Event) :
    (analyzer.stateAfter before).importAliases = analyzer.importsBefore before := by
  rw [stateAfter, foldl_importAliases, List.append_nil]
  rfl

theorem lookup_stateAfter (before : List Event) (name : String) :
    (analyzer.stateAfter before).importAliases.lookup name = analyzer.lastImport before name := by
  rw [importAliases_stateAfter]
  rfl

/-! ### Edges -/

/-- An event adds edges at the end. -/
theorem step_grows (state : AnalyzerState) (event : Event) :
    state.callEdges <+: (analyzer.step state event).callEdges ∧
      state.unresolvedEdges <+: (analyzer.step state event).unresolvedEdges := by
  cases event with
  | declared symbol line => exact ⟨List.prefix_refl _, List.prefix_refl _⟩
  | importModules context names line => exact ⟨List.prefix_append _ _, List.prefix_refl _⟩
  | importFrom context module names level line =>
    exact ⟨List.prefix_append _ _, List.prefix_append _ _⟩
  | call site => exact ⟨List.prefix_append _ _, List.prefix_append _ _⟩

theorem foldl_grows (events : List Event) (state : AnalyzerState) :
    state.callEdges <+: (events.foldl analyzer.step state).callEdges ∧
      state.unresolvedEdges <+: (events.foldl analyzer.step state).unresolvedEdges := by
  induction events generalizing state with
  | nil => exact ⟨List.prefix_refl _, List.prefix_refl _⟩
  | cons event rest ih =>
    obtain ⟨edges, unresolved⟩ := analyzer.step_grows state event
    obtain ⟨laterEdges, laterUnresolved⟩ := ih (analyzer.step state event)
    exact ⟨edges.trans laterEdges, unresolved.trans laterUnresolved⟩

/-- What a call adds stays in the analysis, behind what was there before. -/
theorem analyze_contains_call {before after : List Event} {site : CallSite}
    (visited : analyzer.file.events = before ++ .call site :: after) :
    (analyzer.stateAfter before).callEdges ++
        analyzer.callEdgesAt (analyzer.stateAfter before).importAliases site <+:
      analyzer.analyze.callEdges ∧
    (analyzer.stateAfter before).unresolvedEdges ++
        analyzer.unresolvedAt (analyzer.stateAfter before).importAliases site <+:
      analyzer.analyze.unresolvedEdges := by
  have onwards : analyzer.analyze =
      after.foldl analyzer.step (analyzer.step (analyzer.stateAfter before) (.call site)) := by
    rw [analyze_eq_stateAfter, visited, stateAfter, List.foldl_append, List.foldl_cons]
    rfl
  rw [onwards]
  exact analyzer.foldl_grows after (analyzer.step (analyzer.stateAfter before) (.call site))

theorem known_of_moduleFile {module file : String}
    (found : analyzer.project.moduleFile module = some file) :
    moduleSymbol file ∈ analyzer.project.knownSymbols := by
  obtain ⟨parsed, listed, rfl⟩ := Option.map_eq_some_iff.1 found
  have scanned : parsed ∈ analyzer.project.files :=
    List.mem_reverse.1 (List.mem_of_find?_eq_some listed)
  exact List.mem_flatMap.2 ⟨parsed, scanned, List.mem_cons_self⟩

variable {analyzer} in
theorem candidate_eq_some {file : String} {name : List String} {target : Symbol} :
    analyzer.candidate file name = some target ↔
      target ∈ analyzer.project.knownSymbols ∧ target.file = file ∧ target.name = name := by
  obtain ⟨targetFile, targetName⟩ := target
  unfold candidate
  by_cases known : Symbol.mk file name ∈ analyzer.project.knownSymbols
  · rw [if_pos known, Option.some.injEq]
    constructor
    · rintro ⟨⟩
      exact ⟨known, rfl, rfl⟩
    · rintro ⟨-, rfl, rfl⟩
      rfl
  · rw [if_neg known]
    constructor
    · rintro ⟨⟩
    · rintro ⟨listed, rfl, rfl⟩
      exact absurd listed known

/-- A resolved target is a known symbol. -/
theorem known_of_resolvePieces {aliases : List (String × ImportTarget)} {context : Context}
    {pieces : List String} {target : Symbol}
    (resolved : analyzer.resolvePieces aliases context pieces = some target) :
    target ∈ analyzer.project.knownSymbols := by
  unfold resolvePieces at resolved
  split at resolved
  · cases resolved
  · split at resolved
    · exact (candidate_eq_some.1 resolved).1
    · exact (candidate_eq_some.1 resolved).1
  · split at resolved
    · exact (candidate_eq_some.1 resolved).1
    · split at resolved
      · rename_i symbol found
        obtain rfl : symbol = target := Option.some.inj resolved
        obtain ⟨entry, -, inFile⟩ := Option.bind_eq_some_iff.1 found
        obtain ⟨file, -, candidate⟩ := Option.bind_eq_some_iff.1 inFile
        exact (candidate_eq_some.1 candidate).1
      · exact (candidate_eq_some.1 resolved).1

/-- Every new edge leads to a known symbol. -/
theorem step_known {state : AnalyzerState} (event : Event)
    (known : ∀ edge ∈ state.callEdges, edge.toSymbol ∈ analyzer.project.knownSymbols) :
    ∀ edge ∈ (analyzer.step state event).callEdges,
      edge.toSymbol ∈ analyzer.project.knownSymbols := by
  cases event with
  | declared symbol line => exact known
  | importModules context names line =>
    refine List.forall_mem_append.2 ⟨known, fun edge listed => ?_⟩
    obtain ⟨entry, -, found⟩ := List.mem_filterMap.1 listed
    obtain ⟨file, inFile, rfl⟩ := Option.map_eq_some_iff.1 found
    exact analyzer.known_of_moduleFile inFile
  | importFrom context module names level line =>
    refine List.forall_mem_append.2 ⟨known, fun edge listed => ?_⟩
    obtain ⟨file, imported, rfl⟩ := List.mem_map.1 listed
    obtain ⟨entry, -, found⟩ := List.mem_filterMap.1 imported
    unfold importedFile at found
    split at found
    · exact analyzer.known_of_moduleFile found
    · exact analyzer.known_of_moduleFile found
  | call site =>
    refine List.forall_mem_append.2 ⟨known, List.forall_mem_append.2 ⟨?_, ?_⟩⟩
    · intro edge listed
      obtain ⟨target, resolved, rfl⟩ := List.mem_map.1 listed
      rw [Option.mem_toList] at resolved
      obtain ⟨pieces, -, found⟩ := Option.bind_eq_some_iff.1 resolved
      exact analyzer.known_of_resolvePieces found
    · split
      · intro edge listed
        obtain ⟨file, found, rfl⟩ := List.mem_map.1 listed
        rw [Option.mem_toList] at found
        obtain ⟨module, -, inFile⟩ := Option.bind_eq_some_iff.1 found
        exact analyzer.known_of_moduleFile inFile
      · simp

/-- Every edge of the analysis leads to a known symbol. -/
theorem analyze_known : ∀ edge ∈ analyzer.analyze.callEdges,
    edge.toSymbol ∈ analyzer.project.knownSymbols := by
  rw [analyze_eq_stateAfter, stateAfter]
  have start : ∀ edge ∈ (AnalyzerState.mk [] [] [] [] []).callEdges,
      edge.toSymbol ∈ analyzer.project.knownSymbols := by simp
  generalize AnalyzerState.mk [] [] [] [] [] = state at start ⊢
  induction analyzer.file.events generalizing state with
  | nil => exact start
  | cons event rest ih => exact ih _ (analyzer.step_known event start)

end FileAnalyzer

/-! ## What a name denotes -/

/-- What a dotted name can denote along the way. -/
inductive Thing where
  | module (name : String)
  /-- A function, a class or a method that a file declares. -/
  | member (file : String) (name : List String)

/-- What an import binds a name to: a module, or an attribute of one. -/
inductive Selection where
  | module (name : String)
  | attribute (module name : String)
  deriving DecidableEq

/-- The functions and classes of a module. -/
def topLevelNames : List Node → List String
  | [] => []
  | .functionDef name _ _ _ _ _ :: rest => name :: topLevelNames rest
  | .classDef name _ _ _ :: rest => name :: topLevelNames rest
  | _ :: rest => topLevelNames rest

/-- The module that a relative import names, when there is one. -/
def absoluteName (path : String) (module : Option String) (level : Nat) : Option String :=
  if level = 0 then module
  else
    let parts := split (moduleName path) '.'
    let package := (if isPackage path then parts else parts.dropLast).filter (· ≠ "")
    if package.length < level then none
    else some (".".intercalate (package.take (package.length - (level - 1)) ++
      (module.map (split · '.')).getD []))

section

variable (project : Project)

/-- The files beside a native helper are found before the packages. -/
def searchedModule (path name : String) : String :=
  if startsWith path "runtime/native_helpers/" ∧
      (project.moduleFile ("runtime.native_helpers." ++ name)).isSome then
    "runtime.native_helpers." ++ name
  else name

/-- `import a.b` binds `a` to the package, and `import a.b as c` binds `c` to the module. -/
def moduleSelection (path : String) (entry : Alias) : String × Selection :=
  match entry.asname with
  | some local_ => (local_, .module (searchedModule project path entry.name))
  | none =>
    let first := (split entry.name '.').headD ""
    (first, .module (if searchedModule project path entry.name = entry.name then first
      else "runtime.native_helpers." ++ first))

def memberSelections (path : String) (module : Option String) (names : List Alias)
    (level : Nat) : List (String × Selection) :=
  match absoluteName path module level with
  | none => []
  | some absolute =>
    let found := if level = 0 then searchedModule project path absolute else absolute
    names.map fun entry => (entry.asname.getD entry.name, .attribute found entry.name)

def selections (path : String) : Event → List (String × Selection)
  | .importModules _ names _ => names.map (moduleSelection project path)
  | .importFrom _ module names level _ => memberSelections project path module names level
  | .declared _ _ => []
  | .call _ => []

def Event.scope : Event → List Frame
  | .importModules context _ _ => context.scope
  | .importFrom context _ _ _ _ => context.scope
  | .declared _ _ => []
  | .call site => site.context.scope

/-- Some import of the project loads the module. -/
def Loaded (module : String) : Prop :=
  ∃ file ∈ project.files, ∃ event ∈ file.events,
    (∃ context names line, event = .importModules context names line ∧ ∃ entry ∈ names,
      module = searchedModule project file.path entry.name ∨
        startsWith (searchedModule project file.path entry.name) (module ++ ".")) ∨
    ∃ selection ∈ selections project file.path event, ∃ absolute name,
      selection.2 = .attribute absolute name ∧
        (module = absolute ∨ startsWith absolute (module ++ ".") ∨
          module = absolute ++ "." ++ name)

/-- The module binds the name itself. -/
def BindsName (file : ParsedFile) (name : String) : Prop :=
  name ∈ topLevelNames file.body ∨
    ∃ event ∈ file.events, event.scope = [] ∧ ∃ selection ∈ selections project file.path event,
      selection.1 = name

/-- An attribute of a module or of a class. -/
inductive Attribute : Thing → String → Thing → Prop
  | declared {file : ParsedFile} {name : String} : file ∈ project.files →
      name ∈ topLevelNames file.body →
      Attribute (.module (moduleName file.path)) name (.member file.path [name])
  | imported {file : ParsedFile} {event : Event} {name module : String} : file ∈ project.files →
      event ∈ file.events → event.scope = [] →
      (name, Selection.module module) ∈ selections project file.path event →
      Attribute (.module (moduleName file.path)) name (.module module)
  | exported {file : ParsedFile} {event : Event} {name module member : String} {thing : Thing} :
      file ∈ project.files → event ∈ file.events → event.scope = [] →
      (name, Selection.attribute module member) ∈ selections project file.path event →
      Attribute (.module module) member thing →
      Attribute (.module (moduleName file.path)) name thing
  | submodule {file : ParsedFile} {module name : String} : file ∈ project.files →
      moduleName file.path = module ++ "." ++ name → Loaded project (module ++ "." ++ name) →
      (∀ package ∈ project.files, moduleName package.path = module →
        ¬ BindsName project package name) →
      Attribute (.module module) name (.module (module ++ "." ++ name))
  | method {file : ParsedFile} {class_ name : String} : file ∈ project.files →
      [class_, name] ∈ declaredNames file.body →
      Attribute (.member file.path [class_]) name (.member file.path [class_, name])

/-- An import of the outer scope is visible unless the outer scope is a class body. -/
def Visible (binder scope : List Frame) : Prop :=
  binder <+: scope ∧ (binder = scope ∨ ∀ name, binder.getLast? ≠ some (.classBody name))

/-- What the first name of a callee denotes at the call. -/
inductive FirstName (file : ParsedFile) (before : List Event) (site : CallSite) :
    String → Thing → Prop
  | imported {event : Event} {name module : String} : event ∈ file.events →
      Visible event.scope site.context.scope →
      (name, Selection.module module) ∈ selections project file.path event →
      FirstName file before site name (.module module)
  | member {event : Event} {name module member : String} {thing : Thing} : event ∈ file.events →
      Visible event.scope site.context.scope →
      (name, Selection.attribute module member) ∈ selections project file.path event →
      Attribute project (.module module) member thing →
      FirstName file before site name thing
  | declared {name : String} : name ∈ topLevelNames file.body →
      (∀ outer class_ line, site.context.scope = outer ++ [.classBody class_] →
        Event.declared ⟨file.path, [class_, name]⟩ line ∉ before) →
      FirstName file before site name (.member file.path [name])
  | sibling {outer : List Frame} {class_ name : String} {line : Nat} :
      site.context.scope = outer ++ [.classBody class_] →
      Event.declared ⟨file.path, [class_, name]⟩ line ∈ before →
      FirstName file before site name (.member file.path [class_, name])
  /-- The first parameter of a method stands for its class. -/
  | receiver {outer inner : List Frame} {class_ method name : String} {params : List String} :
      site.context.scope = outer ++ .classBody class_ :: .function method (name :: params) :: inner →
      name ∈ ["self", "cls"] → FirstName file before site name (.member file.path [class_])

/-- Reading attributes one after another. -/
inductive Attributes : Thing → List String → Thing → Prop
  | here {thing : Thing} : Attributes thing [] thing
  | next {thing between last : Thing} {name : String} {others : List String} :
      Attribute project thing name between → Attributes between others last →
      Attributes thing (name :: others) last

end

/-- The callee is written as a dotted name. -/
def Node.isDotted : Node → Bool
  | .name _ => true
  | .attribute value _ => value.isDotted
  | _ => false

/-- The callee is a dotted name for a function or a method that a scanned file declares. -/
structure Denotes (project : Project) (file : ParsedFile) (before : List Event) (site : CallSite)
    (target : Symbol) : Prop where
  dotted : site.func.isDotted = true
  callee : ∃ first others thing, dottedName site.func = some (first :: others) ∧
    FirstName project file before site first thing ∧
    Attributes project thing others (.member target.file target.name)
  function : ∃ declaring ∈ project.files, declaring.path = target.file ∧
    target.name ∈ declaredNames declaring.body

/-! ## Which calls are reported -/

/-- The names that an import binds. -/
def importedNames : Event → List String
  | .importModules _ names _ =>
    names.map fun entry => entry.asname.getD ((split entry.name '.').headD "")
  | .importFrom _ _ names _ _ => names.map fun entry => entry.asname.getD entry.name
  | .declared _ _ => []
  | .call _ => []

/-- No file imports a name that it declares at top level. -/
def Project.ImportsApart (project : Project) : Prop :=
  ∀ file ∈ project.files, ∀ event ∈ file.events, ∀ name ∈ importedNames event,
    name ∉ topLevelNames file.body

namespace FileAnalyzer

variable (analyzer : FileAnalyzer)

/-- The call is reported: by its edge to the target, or as unresolved. -/
def Reported (before : List Event) (site : CallSite) (target : Symbol) : Prop :=
  (∃ edge ∈ analyzer.callEdgesAt (analyzer.stateAfter before).importAliases site,
    edge.kind = .call ∧ edge.fromSymbol = site.context.symbol ∧ edge.toSymbol = target) ∨
  analyzer.unresolvedAt (analyzer.stateAfter before).importAliases site ≠ []

/-- The callee spells the target: as a name of the file, as a method of the receiver, or behind the
last import of its first name that stands before the call, which names the declaring module. -/
inductive Spelled (before : List Event) (site : CallSite) (target : Symbol) : Prop
  | own {first : String} {others : List String} : dottedName site.func = some (first :: others) →
      (others ≠ [] → isReceiver site.context first = false) →
      target = ⟨analyzer.file.path, first :: others⟩ →
      Spelled before site target
  | receiver {first : String} {others : List String} :
      dottedName site.func = some (first :: others) → others ≠ [] →
      isReceiver site.context first = true →
      target = ⟨analyzer.file.path, site.context.currentClass.toList ++ others.getLast?.toList⟩ →
      Spelled before site target
  | imported {first : String} {others : List String} {standing : ImportTarget} :
      dottedName site.func = some (first :: others) →
      (others ≠ [] → isReceiver site.context first = false) →
      analyzer.lastImport before first = some standing →
      analyzer.project.moduleFile standing.module = some target.file →
      targetName standing others = target.name →
      Spelled before site target

variable {analyzer}

variable {before after : List Event} {site : CallSite} {target : Symbol}

theorem fst_mem_importedNames {event : Event} {binding : String × ImportTarget}
    (listed : binding ∈ analyzer.bindings event) : binding.1 ∈ importedNames event := by
  cases event with
  | declared symbol line => simp [bindings] at listed
  | importModules context names line =>
    obtain ⟨entry, imported, rfl⟩ := List.mem_map.1 listed
    exact List.mem_map.2 ⟨entry, imported, rfl⟩
  | importFrom context module names level line =>
    obtain ⟨entry, imported, rfl⟩ := List.mem_map.1 listed
    exact List.mem_map.2 ⟨entry, imported, rfl⟩
  | call site => simp [bindings] at listed

theorem lookup_eq_none {α : Type} {entries : List (String × α)} {name : String}
    (absent : ∀ entry ∈ entries, entry.1 ≠ name) : entries.lookup name = none := by
  induction entries with
  | nil => rfl
  | cons entry rest ih =>
    rw [List.forall_mem_cons] at absent
    rw [List.lookup_cons, beq_eq_false_iff_ne.2 (Ne.symm absent.1)]
    exact ih absent.2

/-- A name that no import binds is in no table. -/
theorem lastImport_eq_none {name : String}
    (visited : analyzer.file.events = before ++ .call site :: after)
    (apart : ∀ event ∈ analyzer.file.events, name ∉ importedNames event) :
    analyzer.lastImport before name = none := by
  refine lookup_eq_none fun binding listed same => ?_
  obtain ⟨event, earlier, bound⟩ := List.mem_flatMap.1 (List.mem_reverse.1 listed)
  have inFile : event ∈ analyzer.file.events := by
    rw [visited]
    exact List.mem_append_left _ earlier
  exact apart event inFile (same ▸ fst_mem_importedNames bound)

theorem head_mem_topLevelNames {nodes : List Node} {first : String} {others : List String}
    (declared : first :: others ∈ declaredNames nodes) : first ∈ topLevelNames nodes := by
  induction nodes with
  | nil => simp [declaredNames] at declared
  | cons node rest ih =>
    cases node with
    | functionDef name params arguments body others line =>
      rcases List.mem_cons.1 declared with same | later
      · obtain ⟨rfl, -⟩ := List.cons.inj same
        exact List.mem_cons_self
      · exact List.mem_cons_of_mem _ (ih later)
    | classDef name bases body decorators =>
      rcases List.mem_append.1 declared with method | later
      · obtain ⟨method, -, same⟩ := List.mem_map.1 method
        obtain ⟨rfl, -⟩ := List.cons.inj same
        exact List.mem_cons_self
      · exact List.mem_cons_of_mem _ (ih later)
    | _ => exact ih declared

theorem ne_nil_of_declared {nodes : List Node} {name : List String}
    (declared : name ∈ declaredNames nodes) : name ≠ [] := by
  induction nodes with
  | nil => simp [declaredNames] at declared
  | cons node rest ih =>
    cases node with
    | functionDef name params arguments body others line =>
      rcases List.mem_cons.1 declared with rfl | later
      · exact List.cons_ne_nil _ _
      · exact ih later
    | classDef name bases body decorators =>
      rcases List.mem_append.1 declared with method | later
      · obtain ⟨method, -, rfl⟩ := List.mem_map.1 method
        exact List.cons_ne_nil _ _
      · exact ih later
    | _ => exact ih declared

/-- The first name of a declared symbol of the file is not imported. -/
theorem lastImport_of_own {first : String} {others : List String}
    (apart : analyzer.project.ImportsApart) (scanned : analyzer.file ∈ analyzer.project.files)
    (visited : analyzer.file.events = before ++ .call site :: after)
    (declared : ∃ declaring ∈ analyzer.project.files, declaring.path = analyzer.file.path ∧
      first :: others ∈ declaredNames declaring.body) :
    analyzer.lastImport before first = none := by
  obtain ⟨declaring, listed, same, named⟩ := declared
  obtain rfl : declaring = analyzer.file :=
    List.inj_on_of_nodup_map analyzer.project.distinct listed scanned same
  refine lastImport_eq_none visited fun event inFile imported => ?_
  exact apart _ scanned event inFile first imported (head_mem_topLevelNames named)

/-- Resolving by the imports before the call. -/
def resolved (analyzer : FileAnalyzer) (before : List Event) (site : CallSite) : Option Symbol :=
  analyzer.resolveCallTarget (analyzer.stateAfter before).importAliases site

/-- A resolved callee spells its target. -/
theorem spelled_of_resolved (found : analyzer.resolved before site = some target) :
    analyzer.Spelled before site target := by
  obtain ⟨pieces, dotted, found⟩ := Option.bind_eq_some_iff.1 found
  unfold resolvePieces at found
  split at found
  · cases found
  · rename_i first
    rw [lookup_stateAfter] at found
    split at found
    · rename_i entry inImports
      obtain ⟨standing, last, inFile⟩ := Option.bind_eq_some_iff.1 inImports
      obtain ⟨file, module, named⟩ := Option.bind_eq_some_iff.1 inFile
      obtain ⟨-, pair⟩ := Option.ite_none_left_eq_some.1 named
      obtain rfl := Option.some.inj pair
      obtain ⟨-, same, spelled⟩ := candidate_eq_some.1 found
      refine .imported dotted (fun more => absurd rfl more) last ?_ spelled.symm
      rw [same]
      exact module
    · obtain ⟨-, file, name⟩ := candidate_eq_some.1 found
      refine .own dotted (fun more => absurd rfl more) ?_
      rw [← file, ← name]
  · rename_i first others several
    have more : others ≠ [] := several
    split at found
    · rename_i receiver
      obtain ⟨-, file, name⟩ := candidate_eq_some.1 found
      refine .receiver dotted more receiver ?_
      rw [← file, ← name]
    · rename_i plain
      rw [lookup_stateAfter] at found
      split at found
      · rename_i symbol inImports
        obtain rfl : symbol = target := Option.some.inj found
        obtain ⟨standing, last, inFile⟩ := Option.bind_eq_some_iff.1 inImports
        obtain ⟨file, module, named⟩ := Option.bind_eq_some_iff.1 inFile
        obtain ⟨-, same, spelled⟩ := candidate_eq_some.1 named
        refine .imported dotted (fun _ => by simpa using plain) last ?_ spelled.symm
        rw [same]
        exact module
      · obtain ⟨-, file, name⟩ := candidate_eq_some.1 found
        refine .own dotted (fun _ => by simpa using plain) ?_
        rw [← file, ← name]

/-- A callee that spells a declared target resolves to it. -/
theorem resolved_of_spelled (apart : analyzer.project.ImportsApart)
    (scanned : analyzer.file ∈ analyzer.project.files)
    (visited : analyzer.file.events = before ++ .call site :: after)
    (declared : ∃ declaring ∈ analyzer.project.files, declaring.path = target.file ∧
      target.name ∈ declaredNames declaring.body) (spelled : analyzer.Spelled before site target) :
    analyzer.resolved before site = some target := by
  have known : target ∈ analyzer.project.knownSymbols := by
    obtain ⟨declaring, listed, file, named⟩ := declared
    refine List.mem_flatMap.2 ⟨declaring, listed, List.mem_cons_of_mem _ ?_⟩
    exact List.mem_map.2 ⟨target.name, named, by rw [file]⟩
  refine Option.bind_eq_some_iff.2 ?_
  cases spelled with
  | @own first others dotted plain here =>
    subst here
    have unbound := lastImport_of_own apart scanned visited declared
    refine ⟨_, dotted, ?_⟩
    cases others with
    | nil =>
      simp only [resolvePieces, lookup_stateAfter, unbound, Option.bind_none]
      exact candidate_eq_some.2 ⟨known, rfl, rfl⟩
    | cons second rest =>
      simp only [resolvePieces, plain (List.cons_ne_nil _ _), lookup_stateAfter, unbound,
        Option.bind_none, Bool.false_eq_true, if_false]
      exact candidate_eq_some.2 ⟨known, rfl, rfl⟩
  | @receiver first others dotted more receiver here =>
    subst here
    refine ⟨_, dotted, ?_⟩
    cases others with
    | nil => exact absurd rfl more
    | cons second rest =>
      simp only [resolvePieces, receiver, if_true]
      exact candidate_eq_some.2 ⟨known, rfl, rfl⟩
  | @imported first others standing dotted plain last file name =>
    have candidate : analyzer.candidate target.file (targetName standing others) = some target :=
      candidate_eq_some.2 ⟨known, rfl, name.symm⟩
    refine ⟨_, dotted, ?_⟩
    cases others with
    | nil =>
      have named : targetName standing [] ≠ [] := by
        rw [name]
        obtain ⟨declaring, -, -, listed⟩ := declared
        exact ne_nil_of_declared listed
      simp only [resolvePieces, lookup_stateAfter, last, Option.bind_some, file, named, if_false]
      exact candidate
    | cons second rest =>
      simp only [resolvePieces, plain (List.cons_ne_nil _ _), lookup_stateAfter, last, file,
        Option.bind_some, candidate, Bool.false_eq_true, if_false]

theorem reported_iff :
    analyzer.Reported before site target ↔
      analyzer.resolved before site = some target ∨
        analyzer.dynamic (analyzer.stateAfter before).importAliases site = true := by
  refine or_congr ⟨?_, ?_⟩ ?_
  · rintro ⟨edge, listed, kind, -, same⟩
    rcases List.mem_append.1 listed with call | static
    · obtain ⟨found, resolves, rfl⟩ := List.mem_map.1 call
      rw [← same]
      exact Option.mem_toList.1 resolves
    · split at static
      · obtain ⟨file, -, rfl⟩ := List.mem_map.1 static
        cases kind
      · simp at static
  · intro resolves
    refine ⟨⟨site.context.symbol, target, analyzer.file.path, site.line, .call⟩,
      List.mem_append_left _ ?_, rfl, rfl, rfl⟩
    exact List.mem_map.2 ⟨target, Option.mem_toList.2 resolves, rfl⟩
  · unfold unresolvedAt
    by_cases dynamic : analyzer.dynamic (analyzer.stateAfter before).importAliases site = true
    · simp [dynamic]
    · simp [dynamic]

/-- A call of a declared function is reported exactly when its callee spells the function, or when
it is one of the dynamic calls. What a call reports is in the analysis, and every edge leads to a
known symbol. -/
theorem calls_reported (apart : analyzer.project.ImportsApart)
    (scanned : analyzer.file ∈ analyzer.project.files) :
    (∀ before site after target, analyzer.file.events = before ++ .call site :: after →
      Denotes analyzer.project analyzer.file before site target →
        (analyzer.Reported before site target ↔
          analyzer.Spelled before site target ∨
            analyzer.dynamic (analyzer.importsBefore before) site = true)) ∧
    (∀ before site after, analyzer.file.events = before ++ .call site :: after →
      (analyzer.stateAfter before).callEdges ++
          analyzer.callEdgesAt (analyzer.stateAfter before).importAliases site <+:
        analyzer.analyze.callEdges ∧
      (analyzer.stateAfter before).unresolvedEdges ++
          analyzer.unresolvedAt (analyzer.stateAfter before).importAliases site <+:
        analyzer.analyze.unresolvedEdges) ∧
    ∀ edge ∈ analyzer.analyze.callEdges, edge.toSymbol ∈ analyzer.project.knownSymbols := by
  refine ⟨fun before site after target visited denotes => ?_,
    fun before site after visited => analyzer.analyze_contains_call visited,
    analyzer.analyze_known⟩
  rw [reported_iff, importAliases_stateAfter]
  refine or_congr ⟨spelled_of_resolved, fun spelled => ?_⟩ Iff.rfl
  exact resolved_of_spelled apart scanned visited denotes.function spelled

end FileAnalyzer

/-! ## Two files -/

/-- A module `pkg.mod` with a function, and a script that imports it and calls it. -/
def sampleFiles (imported : Node) (func : Node) : List ParsedFile :=
  [⟨"pkg/mod.py", [.functionDef "go" [] [] [.other []] [] 1]⟩,
    ⟨"app.py", [imported, .functionDef "run" [] [] [.other [.call func [] [] 4]] [] 3]⟩]

theorem sampleFiles_distinct (imported func : Node) :
    ((sampleFiles imported func).map ParsedFile.path).Nodup := by
  simp [sampleFiles]

def sampleProject (imported func : Node) : Project :=
  ⟨sampleFiles imported func, sampleFiles_distinct imported func⟩

def sampleScript (imported func : Node) : ParsedFile :=
  ⟨"app.py", [imported, .functionDef "run" [] [] [.other [.call func [] [] 4]] [] 3]⟩

/-- The analyzer of the script, where the unparsed node is always the call. -/
def sampleAnalyzer (imported func : Node) (callText : String) : FileAnalyzer :=
  ⟨sampleProject imported func, sampleScript imported func, fun _ => callText⟩

def scriptContext : Context := ⟨⟨"app.py", ["run"]⟩, none, [.function "run" []]⟩

def sampleSite (func : Node) : CallSite := ⟨scriptContext, func, [], [], 4⟩

def sampleTarget : Symbol := ⟨"pkg/mod.py", ["go"]⟩

theorem sampleTarget_declared (imported func : Node) :
    ∃ declaring ∈ (sampleProject imported func).files, declaring.path = sampleTarget.file ∧
      sampleTarget.name ∈ declaredNames declaring.body :=
  ⟨⟨"pkg/mod.py", [.functionDef "go" [] [] [.other []] [] 1]⟩, List.mem_cons_self, rfl,
    List.mem_cons_self⟩

theorem sampleTarget_attribute (imported func : Node) :
    Attribute (sampleProject imported func) (.module "pkg.mod") "go"
      (.member sampleTarget.file sampleTarget.name) := by
  have named : moduleName "pkg/mod.py" = "pkg.mod" := by decide +kernel
  rw [← named]
  exact @Attribute.declared (sampleProject imported func)
    ⟨"pkg/mod.py", [.functionDef "go" [] [] [.other []] [] 1]⟩ "go" List.mem_cons_self
    List.mem_cons_self

/-- `from pkg.mod import go`, and `import pkg.mod`. -/
def fromImport : Node := .importFrom (some "pkg.mod") [⟨"go", none⟩] 0 1

def plainImport : Node := .importModules [⟨"pkg.mod", none⟩] 1

/-- `go`, and `pkg.mod.go`. -/
def shortCallee : Node := .name "go"

def longCallee : Node := .attribute (.attribute (.name "pkg") "mod") "go"

def fromAnalyzer : FileAnalyzer := sampleAnalyzer fromImport shortCallee "go()"

def plainAnalyzer : FileAnalyzer := sampleAnalyzer plainImport longCallee "pkg.mod.go()"

def fromBefore : List Event :=
  [.declared (moduleSymbol "app.py") 1,
    .importFrom ⟨moduleSymbol "app.py", none, []⟩ (some "pkg.mod") [⟨"go", none⟩] 0 1,
    .declared ⟨"app.py", ["run"]⟩ 3]

def plainBefore : List Event :=
  [.declared (moduleSymbol "app.py") 1,
    .importModules ⟨moduleSymbol "app.py", none, []⟩ [⟨"pkg.mod", none⟩] 1,
    .declared ⟨"app.py", ["run"]⟩ 3]

theorem visible_script : Visible [] scriptContext.scope :=
  ⟨List.nil_prefix, .inr fun _ found => by cases found⟩

/-- What the two scripts evaluate to. -/
theorem sample_runs :
    (∀ file ∈ fromAnalyzer.project.files, ∀ event ∈ file.events, ∀ name ∈ importedNames event,
      name ∉ topLevelNames file.body) ∧
    (∀ file ∈ plainAnalyzer.project.files, ∀ event ∈ file.events, ∀ name ∈ importedNames event,
      name ∉ topLevelNames file.body) ∧
    ("go", Selection.attribute "pkg.mod" "go") ∈ memberSelections fromAnalyzer.project "app.py"
      (some "pkg.mod") [⟨"go", none⟩] 0 ∧
    fromAnalyzer.lastImport fromBefore "go" = some ⟨"pkg.mod", some "go"⟩ ∧
    fromAnalyzer.project.moduleFile "pkg.mod" = some "pkg/mod.py" ∧
    moduleSelection plainAnalyzer.project "app.py" ⟨"pkg.mod", none⟩ =
      ("pkg", Selection.module "pkg") ∧
    searchedModule plainAnalyzer.project "app.py" "pkg.mod" = "pkg.mod" ∧
    (∀ file ∈ plainAnalyzer.project.files, moduleName file.path ≠ "pkg") ∧
    plainAnalyzer.resolved plainBefore (sampleSite longCallee) = none ∧
    plainAnalyzer.dynamic (plainAnalyzer.stateAfter plainBefore).importAliases
      (sampleSite longCallee) = false := by
  decide +kernel

theorem fromImport_denotes : Denotes fromAnalyzer.project fromAnalyzer.file fromBefore
    (sampleSite shortCallee) sampleTarget where
  dotted := rfl
  callee := by
    have imported : Event.importFrom ⟨moduleSymbol "app.py", none, []⟩ (some "pkg.mod")
        [⟨"go", none⟩] 0 1 ∈ fromAnalyzer.file.events :=
      List.mem_cons_of_mem _ List.mem_cons_self
    exact ⟨"go", [], _, rfl, .member imported visible_script sample_runs.2.2.1
      (sampleTarget_attribute _ _), .here⟩
  function := sampleTarget_declared _ _

theorem fromImport_reported :
    fromAnalyzer.Reported fromBefore (sampleSite shortCallee) sampleTarget := by
  have scanned : fromAnalyzer.file ∈ fromAnalyzer.project.files :=
    List.mem_cons_of_mem _ List.mem_cons_self
  refine ((FileAnalyzer.calls_reported sample_runs.1 scanned).1 fromBefore (sampleSite shortCallee)
    [] sampleTarget rfl fromImport_denotes).2 (.inl ?_)
  exact .imported rfl (fun more => absurd rfl more) sample_runs.2.2.2.1 sample_runs.2.2.2.2.1 rfl

theorem plainImport_denotes : Denotes plainAnalyzer.project plainAnalyzer.file plainBefore
    (sampleSite longCallee) sampleTarget where
  dotted := rfl
  callee := by
    obtain ⟨-, -, -, -, -, selected, searched, noPackage, -, -⟩ := sample_runs
    have imported : Event.importModules ⟨moduleSymbol "app.py", none, []⟩ [⟨"pkg.mod", none⟩] 1 ∈
        plainAnalyzer.file.events := List.mem_cons_of_mem _ List.mem_cons_self
    have loaded : Loaded plainAnalyzer.project "pkg.mod" := by
      refine ⟨plainAnalyzer.file, List.mem_cons_of_mem _ List.mem_cons_self, _, imported, ?_⟩
      exact .inl ⟨_, _, _, rfl, _, List.mem_cons_self, .inl searched.symm⟩
    have listed : ("pkg", Selection.module "pkg") ∈ selections plainAnalyzer.project "app.py"
        (.importModules ⟨moduleSymbol "app.py", none, []⟩ [⟨"pkg.mod", none⟩] 1) :=
      List.mem_map.2 ⟨_, List.mem_cons_self, selected⟩
    have joined : "pkg.mod" = "pkg" ++ "." ++ "mod" := rfl
    have named : moduleName "pkg/mod.py" = "pkg" ++ "." ++ "mod" := by decide +kernel
    refine ⟨"pkg", ["mod", "go"], _, rfl, .imported imported visible_script listed, ?_⟩
    refine .next (@Attribute.submodule plainAnalyzer.project
      ⟨"pkg/mod.py", [.functionDef "go" [] [] [.other []] [] 1]⟩ "pkg" "mod" List.mem_cons_self
      named (joined ▸ loaded) ?_) (.next ?_ .here)
    · exact fun package scanned same => absurd same (noPackage package scanned)
    · rw [← joined]
      exact sampleTarget_attribute _ _
  function := sampleTarget_declared _ _

/-- A plain import of a dotted module hides the calls through its full name. -/
theorem plainImport_missed : ¬ ∀ analyzer : FileAnalyzer, analyzer.project.ImportsApart →
    analyzer.file ∈ analyzer.project.files → ∀ before site after target,
    analyzer.file.events = before ++ .call site :: after →
    Denotes analyzer.project analyzer.file before site target →
    analyzer.Reported before site target := by
  intro claimed
  obtain ⟨-, apart, -, -, -, -, -, -, unresolved, plain⟩ := sample_runs
  have reported := claimed plainAnalyzer apart (List.mem_cons_of_mem _ List.mem_cons_self)
    plainBefore (sampleSite longCallee) [] sampleTarget rfl plainImport_denotes
  rcases FileAnalyzer.reported_iff.1 reported with found | dynamic
  · rw [unresolved] at found
    cases found
  · rw [plain] at dynamic
    cases dynamic

end OnePersonLab.SourceClosure
