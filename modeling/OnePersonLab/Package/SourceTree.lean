import OnePersonLab.Lib.Dictionary
import OnePersonLab.Lib.Outcome

/-!
# Source trees of publication packages

A Python string is a list of code points, which may be lone surrogates: the names of files
whose bytes do not decode hold them. A source tree is what a recursive listing of its root
yields; the walk goes through it in the order of the paths, component by component.
-/

namespace OnePersonLab.Package

open Lib

/-! ## Python strings -/

abbrev CodePoint := Fin 0x110000

abbrev PyStr := List CodePoint

abbrev Bytes := List UInt8

/-- What an operation raises. -/
inductive Raised where
  | package (message : String)
  | unicodeEncodeError
  | structError
  | keyError
  | badZipFile
  | osError
  deriving DecidableEq, Repr

abbrev Py := Except Raised

def raise {α : Type} (message : String) : Py α := .error (.package message)

/-- Raise the message unless the condition holds. -/
def require (condition : Prop) [Decidable condition] (message : String) : Py Unit :=
  if condition then .ok () else raise message

theorem require_eq_ok {condition : Prop} [Decidable condition] {message : String} {done : Unit} :
    require condition message = .ok done ↔ condition := by
  unfold require
  by_cases holds : condition
  · simp [holds]
  · simp [holds, raise]

theorem require_bind {α : Type} {condition : Prop} [Decidable condition] {message : String}
    (next : Unit → Py α) (holds : condition) : (require condition message >>= next) = next () := by
  unfold require
  rw [if_pos holds]
  rfl

def pointOf (c : Char) : CodePoint := Fin.ofNat 0x110000 c.toNat

/-- A string literal. -/
def str (text : String) : PyStr := text.toList.map pointOf

def slash : CodePoint := 0x2f
def backslash : CodePoint := 0x5c
def dot : CodePoint := 0x2e
def nul : CodePoint := 0

def pointLt (a b : CodePoint) : Bool := a.val < b.val

/-- `<` of strings. -/
def textLt : PyStr → PyStr → Bool := dictionary pointLt

def isSpace (c : CodePoint) : Bool :=
  (0x09 ≤ c.val && c.val ≤ 0x0d) || (0x1c ≤ c.val && c.val ≤ 0x20) || c.val = 0x85 ||
    c.val = 0xa0 || c.val = 0x1680 || (0x2000 ≤ c.val && c.val ≤ 0x200a) || c.val = 0x2028 ||
    c.val = 0x2029 || c.val = 0x202f || c.val = 0x205f || c.val = 0x3000

def isSurrogate (c : CodePoint) : Bool := 0xd800 ≤ c.val && c.val ≤ 0xdfff

/-- `value.encode("utf-8")`. -/
def encodeUtf8 (value : PyStr) : Py Bytes :=
  if value.any isSurrogate then .error .unicodeEncodeError
  else .ok (value.flatMap fun c => String.utf8EncodeChar (Char.ofNat c.val))

/-- `"/".join(parts)`. -/
def joinPath (parts : List PyStr) : PyStr := [slash].intercalate parts

theorem pointLt_strictOrder : StrictOrder pointLt where
  irrefl a := by simp [pointLt]
  trans := by
    intro a b c first second
    simp only [pointLt, decide_eq_true_eq] at first second ⊢
    omega
  connected := by
    intro a b apart
    have distinct : a.val ≠ b.val := fun same => apart (Fin.ext same)
    simp only [pointLt, decide_eq_true_eq]
    omega

theorem textLt_strictOrder : StrictOrder textLt := pointLt_strictOrder.dictionary

/-! ## Paths -/

/-- The parts of a relative path: empty ones and single dots are dropped. -/
def pathParts (value : PyStr) : List PyStr :=
  (value.splitOn slash).filter fun part => part ≠ [] && part ≠ [dot]

/-- `PurePosixPath(value).as_posix()` of a relative path. -/
def asPosix (value : PyStr) : PyStr :=
  if pathParts value = [] then [dot] else joinPath (pathParts value)

def safeRelativePath (value : PyStr) (field : String) : Py PyStr := do
  require (value.all isSpace = false) s!"{field} must be a non-empty relative path"
  require (value.head? ≠ some slash ∧ backslash ∉ value ∧ value = asPosix value ∧
      ∀ part ∈ pathParts value, part ≠ [] ∧ part ≠ [dot] ∧ part ≠ [dot, dot])
    s!"{field} must be a contained normalized path"
  return asPosix value

theorem safeRelativePath_ok {value normalized : PyStr} {field : String}
    (safe : safeRelativePath value field = .ok normalized) : normalized = value := by
  unfold safeRelativePath require at safe
  split at safe
  · split at safe
    · rename_i contained
      exact (Except.ok.inj safe).symm.trans contained.2.2.1.symm
    · cases safe
  · cases safe

theorem safeRelativePath_field {value normalized : PyStr} {field : String} (other : String)
    (safe : safeRelativePath value field = .ok normalized) :
    safeRelativePath value other = .ok normalized := by
  unfold safeRelativePath require at safe ⊢
  split at safe
  · rename_i named
    split at safe
    · rename_i contained
      rw [if_pos named, if_pos contained]
      exact safe
    · cases safe
  · cases safe

/-- The name of an entry of a directory: no file system has slashes or NUL in one. -/
abbrev FileName :=
  { name : PyStr //
    name ≠ [] ∧ slash ∉ name ∧ nul ∉ name ∧ name ≠ [dot] ∧ name ≠ [dot, dot] }

/-- A path below the root. -/
abbrev RelPath := List FileName

/-- `path.relative_to(root).as_posix()`. -/
def RelPath.posix (path : RelPath) : PyStr := joinPath (path.map Subtype.val)

def nameLt (a b : FileName) : Bool := textLt a.val b.val

/-- `<` of paths: component by component. -/
def pathLt : RelPath → RelPath → Bool := dictionary nameLt

theorem nameLt_strictOrder : StrictOrder nameLt where
  irrefl a := textLt_strictOrder.irrefl a.val
  trans := textLt_strictOrder.trans
  connected := fun apart =>
    textLt_strictOrder.connected fun same => apart (Subtype.ext same)

theorem pathLt_strictOrder : StrictOrder pathLt := nameLt_strictOrder.dictionary

/-! ## Trees -/

inductive Entry where
  | file (content : Bytes)
  | directory
  | symlink
  | special
  deriving DecidableEq

/-- A root with everything that is below it, in the order of the file system. -/
structure SourceTree where
  symlinkRoot : Bool
  directoryRoot : Bool
  entries : List (RelPath × Entry)
  distinct : (entries.map Prod.fst).Nodup
  below : ∀ entry ∈ entries, entry.1 ≠ []

/-- A regular file with the text of its path. -/
abbrev SourceFile := PyStr × Bytes

/-- The regular files among entries that come in the order of the walk. -/
def collectFiles : List (RelPath × Entry) → Py (List SourceFile)
  | [] => .ok []
  | (path, .file content) :: rest => do
    let relative ← safeRelativePath path.posix "path"
    let files ← collectFiles rest
    return (relative, content) :: files
  | (_, .directory) :: rest => collectFiles rest
  | (_, .symlink) :: _ => raise "source tree must not contain symbolic links"
  | (_, .special) :: _ => raise "source tree contains a non-regular file"

/-- `_iter_regular_files`. -/
def iterRegularFiles (tree : SourceTree) : Py (List SourceFile) := do
  require (tree.symlinkRoot = false) "source root must not be a symbolic link"
  require (tree.directoryRoot = true) "source root is not a directory"
  collectFiles (sortOn pathLt Prod.fst tree.entries)

/-! ## Inventories -/

/-- A lowercase SHA-256 digest. -/
def isHexDigest (digest : PyStr) : Bool :=
  digest.length = 64 && digest.all fun c =>
    (0x30 ≤ c.val && c.val ≤ 0x39) || (0x61 ≤ c.val && c.val ≤ 0x66)

abbrev HexDigest := { digest : PyStr // isHexDigest digest = true }

structure InventoryEntry where
  path : PyStr
  sizeBytes : Nat
  sha256 : PyStr
  deriving DecidableEq

section

variable (sha256 : Bytes → HexDigest)

def inventoryEntry (file : SourceFile) : InventoryEntry :=
  ⟨file.1, file.2.length, (sha256 file.2).val⟩

def packageInventory (tree : SourceTree) : Py (List InventoryEntry) := do
  let files ← iterRegularFiles tree
  return files.map (inventoryEntry sha256)

end

/-- An entry of an inventory as it is given: what each value is when it has the right type. -/
structure GivenEntry where
  exactKeys : Bool
  path : Option PyStr
  sizeBytes : Option Int
  sha256 : Option PyStr
  deriving DecidableEq

def InventoryEntry.given (entry : InventoryEntry) : GivenEntry where
  exactKeys := true
  path := some entry.path
  sizeBytes := some entry.sizeBytes
  sha256 := some entry.sha256

/-- `expected_inventory`: none of it, a list, or another object. -/
inductive ExpectedInventory where
  | absent
  | entries (given : List GivenEntry)
  | other
  deriving DecidableEq

def validatedEntry (given : GivenEntry) : Py InventoryEntry := do
  require (given.exactKeys = true)
    "expected_inventory must contain path, size_bytes, and sha256"
  let path ← match given.path with
    | some value => safeRelativePath value "expected_inventory.path"
    | none => raise "expected_inventory.path must be a non-empty relative path"
  let size ← match given.sizeBytes with
    | some (.ofNat size) => .ok size
    | _ => raise "expected_inventory.size_bytes must be a non-negative integer"
  match given.sha256.filter isHexDigest with
  | some digest => return ⟨path, size, digest⟩
  | none => raise "expected_inventory.sha256 must be a lowercase SHA-256 digest"

/-- `paths == sorted(paths) and len(paths) == len(set(paths))`. -/
def StrictlyLexical (paths : List PyStr) : Prop :=
  paths = sortOn textLt id paths ∧ paths.Nodup

instance (paths : List PyStr) : Decidable (StrictlyLexical paths) :=
  inferInstanceAs (Decidable (_ ∧ _))

/-- `_validated_expected_inventory`. -/
def validatedExpectedInventory : ExpectedInventory → Py (List InventoryEntry)
  | .entries given => do
    let normalized ← given.mapM validatedEntry
    require (StrictlyLexical (normalized.map InventoryEntry.path))
      "expected_inventory paths must be strictly lexical and unique"
    return normalized
  | _ => raise "expected_inventory must be a lexical list"

/-- `_verified_source_inventory`. -/
def verifiedSourceInventory (sha256 : Bytes → HexDigest) (tree : SourceTree)
    (expectedInventory : ExpectedInventory) : Py (List InventoryEntry) := do
  let actual ← packageInventory sha256 tree
  if expectedInventory = .absent then return actual
  else
    let expected ← validatedExpectedInventory expectedInventory
    require (expected = actual) "source tree does not match the authorized expected_inventory"
    return actual

/-! ## What the walk yields -/

def fileOf : RelPath × Entry → Option (RelPath × Bytes)
  | (path, .file content) => some (path, content)
  | _ => none

def sourceFile (file : RelPath × Bytes) : SourceFile := (file.1.posix, file.2)

/-- The regular files in the order of the walk. -/
def sortedFiles (tree : SourceTree) : List (RelPath × Bytes) :=
  (sortOn pathLt Prod.fst tree.entries).filterMap fileOf

section

variable {tree : SourceTree} {files : List SourceFile}

theorem fileOf_eq_some {entry : RelPath × Entry} {file : RelPath × Bytes} :
    fileOf entry = some file ↔ entry = (file.1, .file file.2) := by
  obtain ⟨path, kind⟩ := entry
  obtain ⟨path', content⟩ := file
  cases kind <;> simp [fileOf]

theorem mem_sortedFiles {file : RelPath × Bytes} :
    file ∈ sortedFiles tree ↔ (file.1, .file file.2) ∈ tree.entries := by
  simp [sortedFiles, List.mem_filterMap, fileOf_eq_some]

theorem collectFiles_ok {entries : List (RelPath × Entry)}
    (collected : collectFiles entries = .ok files) :
    files = (entries.filterMap fileOf).map sourceFile ∧
      ∀ file ∈ files, safeRelativePath file.1 "path" = .ok file.1 := by
  induction entries generalizing files with
  | nil =>
    obtain rfl := Except.ok.inj collected
    exact ⟨rfl, by simp⟩
  | cons entry rest ih =>
    obtain ⟨path, kind⟩ := entry
    cases kind with
    | file content =>
      simp only [collectFiles] at collected
      cases safe : safeRelativePath path.posix "path" with
      | error failure =>
        rw [safe] at collected
        cases collected
      | ok relative =>
        cases others : collectFiles rest with
        | error failure =>
          rw [safe, others] at collected
          cases collected
        | ok rest_files =>
          rw [safe, others] at collected
          obtain rfl := safeRelativePath_ok safe
          obtain rfl := Except.ok.inj collected
          obtain ⟨same, named⟩ := ih others
          refine ⟨?_, ?_⟩
          · rw [same]
            rfl
          · intro file listed
            rcases List.mem_cons.1 listed with rfl | later
            · exact safe
            · exact named file later
    | directory => exact ih collected
    | symlink => cases collected
    | special => cases collected

theorem iterRegularFiles_ok (listed : iterRegularFiles tree = .ok files) :
    tree.symlinkRoot = false ∧ files = (sortedFiles tree).map sourceFile ∧
      ∀ file ∈ files, safeRelativePath file.1 "path" = .ok file.1 := by
  unfold iterRegularFiles require at listed
  split at listed
  · rename_i plain
    split at listed
    · obtain ⟨same, safe⟩ := collectFiles_ok listed
      exact ⟨plain, same, safe⟩
    · cases listed
  · cases listed

theorem sortedFiles_ascending (tree : SourceTree) :
    (sortedFiles tree).Pairwise fun file other => pathLt file.1 other.1 = true := by
  refine (sortOn_ascending pathLt_strictOrder tree.distinct).filterMap fileOf ?_
  intro entry other before file found file' found'
  rw [fileOf_eq_some] at found found'
  rwa [found, found'] at before

/-- Two trees with the same files are walked alike. -/
theorem sortedFiles_congr {other : SourceTree}
    (same : ∀ path content, (path, Entry.file content) ∈ tree.entries ↔
      (path, Entry.file content) ∈ other.entries) : sortedFiles tree = sortedFiles other := by
  refine eq_of_ascending pathLt_strictOrder (sortedFiles_ascending tree)
    (sortedFiles_ascending other) fun file => ?_
  rw [mem_sortedFiles, mem_sortedFiles]
  exact same file.1 file.2

/-- The order of the paths is the order of their texts. -/
def OrdersAlike (tree : SourceTree) : Prop :=
  ∀ path content other content', (path, Entry.file content) ∈ tree.entries →
    (other, Entry.file content') ∈ tree.entries → pathLt path other = true →
    textLt path.posix other.posix = true

theorem ordersAlike_iff (tree : SourceTree) :
    OrdersAlike tree ↔ StrictlyLexical (((sortedFiles tree).map sourceFile).map Prod.fst) := by
  rw [StrictlyLexical, ascending_iff textLt_strictOrder, List.pairwise_map, List.pairwise_map,
    ascending_rel pathLt_strictOrder (sortedFiles_ascending tree)]
  constructor
  · intro alike file listed other listed' before
    exact alike file.1 file.2 other.1 other.2 (mem_sortedFiles.1 listed)
      (mem_sortedFiles.1 listed') before
  · intro alike path content other content' listed listed' before
    exact alike (path, content) (mem_sortedFiles.2 listed) (other, content')
      (mem_sortedFiles.2 listed') before

end

/-! ## Inventories that are given back -/

section

variable {sha256 : Bytes → HexDigest} {files : List SourceFile}

theorem validatedEntry_given {file : SourceFile}
    (safe : safeRelativePath file.1 "path" = .ok file.1) :
    validatedEntry (inventoryEntry sha256 file).given = .ok (inventoryEntry sha256 file) := by
  have path := safeRelativePath_field "expected_inventory.path" safe
  unfold validatedEntry
  simp only [InventoryEntry.given, inventoryEntry, path, Option.filter_some, (sha256 file.2).property,
    if_true]
  rfl

theorem mapM_validatedEntry (safe : ∀ file ∈ files, safeRelativePath file.1 "path" = .ok file.1) :
    ((files.map (inventoryEntry sha256)).map InventoryEntry.given).mapM validatedEntry =
      .ok (files.map (inventoryEntry sha256)) := by
  induction files with
  | nil => rfl
  | cons file rest ih =>
    rw [List.map_cons, List.map_cons, List.mapM_cons,
      validatedEntry_given (safe file (List.mem_cons_self ..)),
      ih fun other listed => safe other (List.mem_cons_of_mem _ listed)]
    rfl

/-- The inventory of a walk is accepted exactly when its paths come in lexical order. -/
theorem validatedExpectedInventory_given
    (safe : ∀ file ∈ files, safeRelativePath file.1 "path" = .ok file.1) :
    validatedExpectedInventory
        (.entries ((files.map (inventoryEntry sha256)).map InventoryEntry.given)) =
      if StrictlyLexical (files.map Prod.fst) then .ok (files.map (inventoryEntry sha256))
      else raise "expected_inventory paths must be strictly lexical and unique" := by
  have paths : (files.map (inventoryEntry sha256)).map InventoryEntry.path =
      files.map Prod.fst := by
    rw [List.map_map]
    rfl
  simp only [validatedExpectedInventory]
  rw [mapM_validatedEntry safe]
  show (require (StrictlyLexical _) _ >>= fun _ => _) = _
  rw [paths]
  unfold require
  split <;> rfl

end

end OnePersonLab.Package
