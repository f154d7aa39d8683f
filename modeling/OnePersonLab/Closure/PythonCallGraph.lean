import OnePersonLab.Contract.Text

/-!
# The Python call graph of the source closure

Every parsed file is visited once. The visitor keeps one table of import aliases for the file, fills
it as it meets the imports, and resolves a call by the table as it stands then. A symbol is its
file and the pieces of its name: the two determine the symbol id, since identifiers hold neither a
dot nor `#`.
-/

namespace OnePersonLab.SourceClosure

open Contract

/-! ## Syntax trees -/

/-- A constant, with the text that `str` gives it. -/
inductive Constant where
  | text (value : String)
  | numberOrBool (shown : String)
  | other

/-- One name of an import statement. -/
structure Alias where
  name : String
  asname : Option String

inductive Node where
  | name (id : String)
  | attribute (value : Node) (attr : String)
  | constant (value : Constant)
  /-- A list or a tuple. -/
  | sequence (elements : List Node)
  | subscript (value slice : Node)
  | keyword (arg : Option String) (value : Node)
  | call (func : Node) (args keywords : List Node) (line : Nat)
  | importModules (names : List Alias) (line : Nat)
  | importFrom (module : Option String) (names : List Alias) (level line : Nat)
  /-- A function, plain or asynchronous: its parameters with defaults and annotations, its body,
  then its decorators and what else it has. -/
  | functionDef (name : String) (params : List String) (arguments body rest : List Node) (line : Nat)
  | classDef (name : String) (bases body decorators : List Node)
  | other (children : List Node)

structure ParsedFile where
  path : String
  body : List Node

structure Symbol where
  file : String
  name : List String
  deriving DecidableEq

def moduleSymbol (path : String) : Symbol := ⟨path, ["<module>"]⟩

/-! ## Names -/

def afterMarker (marker : String) (parts : List String) : List String :=
  (parts.dropWhile (· ≠ marker)).drop 1

def removeSuffix (text suffix : String) : String :=
  if endsWith text suffix then
    String.ofList ((characters text).take ((characters text).length - (characters suffix).length))
  else text

def moduleName (relativePath : String) : String :=
  let path := String.ofList ((characters relativePath).map fun c => if c = '\\' then '/' else c)
  let parts := split (removeSuffix path ".py") '/'
  let parts :=
    if "src" ∈ parts then afterMarker "src" parts
    else if "python" ∈ parts then afterMarker "python" parts
    else if ("packages" ∈ parts ∨ "apps" ∈ parts) ∧ "src" ∈ parts then afterMarker "src" parts
    else parts
  ".".intercalate (if parts.getLast? = some "__init__" then parts.dropLast else parts)

/-- `Path(relative_path).name == "__init__.py"`. -/
def isPackage (relativePath : String) : Bool :=
  (split relativePath '/').getLast? == some "__init__.py"

def resolveRelativeModule (current : String) (imported : Option String) (level : Nat)
    (package : Bool) : String :=
  if level = 0 then imported.getD ""
  else
    let parts := split current '.'
    let packageParts := if package then parts else parts.dropLast
    let base := packageParts.take (packageParts.length - (level - 1))
    let named := match imported with
      | some name => if name = "" then [] else split name '.'
      | none => []
    ".".intercalate ((base ++ named).filter (· ≠ ""))

/-- `dotted_name`: the pieces of the name. A value that is none gives its last attribute alone. -/
def dottedName : Node → Option (List String)
  | .name id => some [id]
  | .attribute value attr => some ((dottedName value).getD [] ++ [attr])
  | _ => none

def constantText : Constant → Option String
  | .text value => some value
  | .numberOrBool shown => some shown
  | .other => none

def dynamicText : String := "<dynamic>"

def positionalText : Node → String
  | .constant value => (constantText value).getD dynamicText
  | .sequence (.constant (.text first) :: _) => first
  | _ => dynamicText

def keywordText : Node → String
  | .keyword arg (.constant value) =>
    arg.getD "None" ++ "=" ++ (constantText value).getD dynamicText
  | .keyword arg _ => arg.getD "None" ++ "=" ++ dynamicText
  | _ => dynamicText

def literalArguments (args keywords : List Node) : List String :=
  args.map positionalText ++ keywords.map keywordText

/-- `argument_expressions`, with `ast.unparse` as a parameter. -/
def argumentExpressions (unparse : Node → String) (args keywords : List Node) : List String :=
  args.map unparse ++ keywords.map fun node =>
    match node with
    | .keyword arg value => arg.getD "None" ++ "=" ++ unparse value
    | other => unparse other

/-! ## Declared symbols -/

def functionNames : List Node → List String
  | [] => []
  | .functionDef name _ _ _ _ _ :: rest => name :: functionNames rest
  | _ :: rest => functionNames rest

def declaredNames : List Node → List (List String)
  | [] => []
  | .functionDef name _ _ _ _ _ :: rest => [name] :: declaredNames rest
  | .classDef name _ body _ :: rest =>
    (functionNames body).map (fun method => [name, method]) ++ declaredNames rest
  | _ :: rest => declaredNames rest

def collectDeclaredSymbols (file : ParsedFile) : List Symbol :=
  moduleSymbol file.path :: (declaredNames file.body).map fun name => ⟨file.path, name⟩

/-- The parsed files, in the order of the request, each path once. -/
structure Project where
  files : List ParsedFile
  distinct : (files.map ParsedFile.path).Nodup

namespace Project

def knownSymbols (project : Project) : List Symbol := project.files.flatMap collectDeclaredSymbols

/-- `module_files.get`: of two files with one module name the later one counts. -/
def moduleFile (project : Project) (module : String) : Option String :=
  (project.files.reverse.find? fun file => moduleName file.path = module).map ParsedFile.path

end Project

/-! ## The visitor -/

structure ImportTarget where
  module : String
  name : Option String
  deriving DecidableEq

inductive EdgeKind where
  | staticImport
  | call
  deriving DecidableEq

structure CallEdge where
  fromSymbol : Symbol
  toSymbol : Symbol
  file : String
  line : Nat
  kind : EdgeKind

inductive UnresolvedReason where
  | relativeImportUnresolved
  | dynamicDispatchOrImport
  deriving DecidableEq

structure UnresolvedEdge where
  fromSymbol : Symbol
  file : String
  line : Nat
  reason : UnresolvedReason
  expression : String

structure SymbolEntry where
  symbol : Symbol
  moduleName : String
  line : Nat

structure ObservedCall where
  symbol : Symbol
  file : String
  line : Nat
  callee : String
  sourceText : String
  literalArguments : List String
  argumentExpressions : List String

structure AnalyzerState where
  importAliases : List (String × ImportTarget)
  symbols : List SymbolEntry
  callEdges : List CallEdge
  unresolvedEdges : List UnresolvedEdge
  observedCalls : List ObservedCall

/-- A function or a class body around a node. The visitor has no use for it. -/
inductive Frame where
  | function (name : String) (params : List String)
  | classBody (name : String)
  deriving DecidableEq

/-- Where the visitor stands: `current_symbol`, `current_class`, and the frames, outermost first. -/
structure Context where
  symbol : Symbol
  currentClass : Option String
  scope : List Frame

def Context.functionSymbol (context : Context) (path name : String) : Symbol :=
  ⟨path, context.currentClass.toList ++ [name]⟩

/-- Inside a class. -/
def Context.inClass (context : Context) (name : String) : Context :=
  { context with currentClass := some name, scope := context.scope ++ [.classBody name] }

/-- A call, where it stands. -/
structure CallSite where
  context : Context
  func : Node
  args : List Node
  keywords : List Node
  line : Nat

def CallSite.node (site : CallSite) : Node := .call site.func site.args site.keywords site.line

structure FileAnalyzer where
  project : Project
  file : ParsedFile
  /-- `expression_text`. -/
  unparse : Node → String

namespace FileAnalyzer

variable (analyzer : FileAnalyzer)

def module : String := moduleName analyzer.file.path

def resolveImportModule (imported : String) : String :=
  if startsWith analyzer.file.path "runtime/native_helpers/" ∧
      (analyzer.project.moduleFile ("runtime.native_helpers." ++ imported)).isSome then
    "runtime.native_helpers." ++ imported
  else imported

def importEdge (context : Context) (line : Nat) (file : String) : CallEdge :=
  ⟨context.symbol, moduleSymbol file, analyzer.file.path, line, .staticImport⟩

/-- The name that an alias of an import binds, and what the table says about it. -/
def moduleBinding (entry : Alias) : String × ImportTarget :=
  (entry.asname.getD ((split entry.name '.').headD ""),
    ⟨analyzer.resolveImportModule entry.name, none⟩)

def visitImport (context : Context) (names : List Alias) (line : Nat) (state : AnalyzerState) :
    AnalyzerState :=
  { state with
    importAliases := (names.map analyzer.moduleBinding).reverse ++ state.importAliases
    callEdges := state.callEdges ++ names.filterMap fun entry =>
      (analyzer.project.moduleFile (analyzer.resolveImportModule entry.name)).map
        (analyzer.importEdge context line) }

def importedModule (module : Option String) (level : Nat) : String :=
  analyzer.resolveImportModule
    (resolveRelativeModule analyzer.module module level (isPackage analyzer.file.path))

def submodule (module name : String) : String :=
  ".".intercalate ([module, name].filter (· ≠ ""))

/-- The name of a submodule, unless the module declares the name itself. -/
def namesSubmodule (module name : String) : Bool :=
  (analyzer.project.moduleFile (submodule module name)).isSome &&
    !((analyzer.project.moduleFile module).any fun file =>
      decide (Symbol.mk file [name] ∈ analyzer.project.knownSymbols))

def memberBinding (module : String) (entry : Alias) : String × ImportTarget :=
  (entry.asname.getD entry.name,
    if analyzer.namesSubmodule module entry.name then ⟨submodule module entry.name, none⟩
    else ⟨module, some entry.name⟩)

def importedFile (module : String) (entry : Alias) : Option String :=
  if analyzer.namesSubmodule module entry.name then
    analyzer.project.moduleFile (submodule module entry.name)
  else analyzer.project.moduleFile module

def visitImportFrom (context : Context) (module : Option String) (names : List Alias)
    (level line : Nat) (state : AnalyzerState) : AnalyzerState :=
  let target := analyzer.importedModule module level
  let importedFiles := names.filterMap (analyzer.importedFile target)
  { state with
    importAliases := (names.map (analyzer.memberBinding target)).reverse ++ state.importAliases
    callEdges := state.callEdges ++ importedFiles.map (analyzer.importEdge context line)
    unresolvedEdges := state.unresolvedEdges ++
      if importedFiles = [] ∧ 0 < level then
        [⟨context.symbol, analyzer.file.path, line, .relativeImportUnresolved,
          analyzer.unparse (.importFrom module names level line)⟩]
      else [] }

/-! ### Calls -/

def candidate (file : String) (name : List String) : Option Symbol :=
  if Symbol.mk file name ∈ analyzer.project.knownSymbols then some ⟨file, name⟩ else none

/-- The pieces of the target's name behind an import. -/
def targetName (target : ImportTarget) (others : List String) : List String :=
  (target.name.toList ++ others).filter (· ≠ "")

def isReceiver (context : Context) (first : String) : Bool :=
  (first == "self" || first == "cls") && context.currentClass.isSome

/-- `resolve_call_target`, on the pieces of the callee. -/
def resolvePieces (aliases : List (String × ImportTarget)) (context : Context) :
    List String → Option Symbol
  | [] => none
  | [first] =>
    match (aliases.lookup first).bind fun target =>
      (analyzer.project.moduleFile target.module).bind fun file =>
        if targetName target [] = [] then none else some (file, targetName target []) with
    | some found => analyzer.candidate found.1 found.2
    | none => analyzer.candidate analyzer.file.path [first]
  | first :: others =>
    if isReceiver context first then
      analyzer.candidate analyzer.file.path
        (context.currentClass.toList ++ others.getLast?.toList)
    else
      match (aliases.lookup first).bind fun target =>
        (analyzer.project.moduleFile target.module).bind fun file =>
          analyzer.candidate file (targetName target others) with
      | some symbol => some symbol
      | none => analyzer.candidate analyzer.file.path (first :: others)

def resolveCallTarget (aliases : List (String × ImportTarget)) (site : CallSite) : Option Symbol :=
  (dottedName site.func).bind (analyzer.resolvePieces aliases site.context)

def canonicalCallee (aliases : List (String × ImportTarget)) (func : Node) : String :=
  let pieces := (dottedName func).getD (split (analyzer.unparse func) '.')
  match aliases.lookup (pieces.headD "") with
  | none => ".".intercalate pieces
  | some target => ".".intercalate (target.module :: targetName target pieces.tail)

def dynamicImportNames : List String := ["__import__", "importlib.import_module"]

def literalDynamicImport (callee : String) (values : List String) : Bool :=
  decide (callee ∈ dynamicImportNames) && values.head?.any (· ≠ dynamicText)

def isGetattr (func : Node) : Bool :=
  match func with
  | .call inner _ _ _ => dottedName inner == some ["getattr"]
  | _ => false

def isSubscript : Node → Bool
  | .subscript _ _ => true
  | _ => false

/-- The call goes to the unresolved edges. -/
def dynamic (aliases : List (String × ImportTarget)) (site : CallSite) : Bool :=
  let callee := analyzer.canonicalCallee aliases site.func
  let values := literalArguments site.args site.keywords
  decide (callee = "eval") || decide (callee = "exec") ||
    (decide (callee ∈ dynamicImportNames) && !literalDynamicImport callee values) ||
    (decide (callee = "getattr") &&
      (decide (values.length < 2) || decide (values[1]? = some dynamicText)) &&
      endsWith (".".intercalate site.context.symbol.name) "__getattr__") ||
    isGetattr site.func || isSubscript site.func

/-- The call edges that a call adds. -/
def callEdgesAt (aliases : List (String × ImportTarget)) (site : CallSite) : List CallEdge :=
  let callee := analyzer.canonicalCallee aliases site.func
  let values := literalArguments site.args site.keywords
  ((analyzer.resolveCallTarget aliases site).toList.map fun target =>
    ⟨site.context.symbol, target, analyzer.file.path, site.line, .call⟩) ++
  if literalDynamicImport callee values then
    (values.head?.bind analyzer.project.moduleFile).toList.map
      (analyzer.importEdge site.context site.line)
  else []

/-- The unresolved edges that a call adds. -/
def unresolvedAt (aliases : List (String × ImportTarget)) (site : CallSite) :
    List UnresolvedEdge :=
  if analyzer.dynamic aliases site then
    [⟨site.context.symbol, analyzer.file.path, site.line, .dynamicDispatchOrImport,
      analyzer.unparse site.node⟩]
  else []

def visitCall (site : CallSite) (state : AnalyzerState) : AnalyzerState :=
  { state with
    observedCalls := state.observedCalls ++
      [⟨site.context.symbol, analyzer.file.path, site.line,
        analyzer.canonicalCallee state.importAliases site.func, analyzer.unparse site.node,
        literalArguments site.args site.keywords,
        argumentExpressions analyzer.unparse site.args site.keywords⟩]
    callEdges := state.callEdges ++ analyzer.callEdgesAt state.importAliases site
    unresolvedEdges := state.unresolvedEdges ++ analyzer.unresolvedAt state.importAliases site }

def addSymbol (symbol : Symbol) (line : Nat) (state : AnalyzerState) : AnalyzerState :=
  { state with symbols := state.symbols ++ [⟨symbol, analyzer.module, line⟩] }

mutual
def visit (context : Context) : Node → AnalyzerState → AnalyzerState
  | .name _, state => state
  | .attribute value _, state => visit context value state
  | .constant _, state => state
  | .sequence elements, state => visitAll context elements state
  | .subscript value slice, state => visit context slice (visit context value state)
  | .keyword _ value, state => visit context value state
  | .call func args keywords line, state =>
    visitAll context keywords (visitAll context args (visit context func
      (analyzer.visitCall ⟨context, func, args, keywords, line⟩ state)))
  | .importModules names line, state => analyzer.visitImport context names line state
  | .importFrom module names level line, state =>
    analyzer.visitImportFrom context module names level line state
  | .functionDef name params arguments body rest line, state =>
    let symbol := context.functionSymbol analyzer.file.path name
    let outside := { context with symbol := symbol }
    let inside := { outside with scope := context.scope ++ [.function name params] }
    visitAll outside rest (visitAll inside body (visitAll outside arguments
      (analyzer.addSymbol symbol line state)))
  | .classDef name bases body decorators, state =>
    let outside := { context with currentClass := some name }
    visitAll outside decorators (visitAll (context.inClass name) body
      (visitAll outside bases state))
  | .other children, state => visitAll context children state

def visitAll (context : Context) : List Node → AnalyzerState → AnalyzerState
  | [], state => state
  | node :: rest, state => visitAll context rest (visit context node state)
end

def moduleContext : Context := ⟨moduleSymbol analyzer.file.path, none, []⟩

/-- The visit of the file. -/
def analyze : AnalyzerState :=
  analyzer.visitAll analyzer.moduleContext analyzer.file.body
    (analyzer.addSymbol (moduleSymbol analyzer.file.path) 1 ⟨[], [], [], [], []⟩)

end FileAnalyzer

end OnePersonLab.SourceClosure
