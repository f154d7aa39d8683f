import OnePersonLab.Contract.Text
import OnePersonLab.Lib.Dictionary
import OnePersonLab.Lib.JsonText

/-!
# The digest of a staged generation

The digest is taken of a stream that a visit of the directory tree writes: for each entry its path,
kind and mode as a JSON array, and the content of a file behind it. Link targets are read as text.
-/

namespace OnePersonLab.Update.GenerationDigest

open Contract Lib

/-! ## Trees -/

/-- What is on the disk below a name, in any order. -/
inductive Entry where
  | file (mode : Nat) (content : List UInt8)
  | link (target : List UInt8)
  | directory (mode : Nat) (entries : List (String × Entry))

theorem Entry.induction {motive : Entry → Prop} (file : ∀ mode content, motive (.file mode content))
    (link : ∀ target, motive (.link target))
    (directory : ∀ mode entries, (∀ entry ∈ entries, motive entry.2) →
      motive (.directory mode entries)) : ∀ entry, motive entry
  | .file mode content => file mode content
  | .link target => link target
  | .directory mode entries => directory mode entries fun entry _ =>
      Entry.induction file link directory entry.2
termination_by entry => sizeOf entry
decreasing_by
  rename_i listed
  have smaller := List.sizeOf_lt_of_mem listed
  obtain ⟨name, child⟩ := entry
  simp only [Prod.mk.sizeOf_spec, Entry.directory.sizeOf_spec] at smaller ⊢
  omega

/-- One entry without what is below it; a link leads to what it names in some form. -/
inductive Node (τ : Type) where
  | file (mode : Nat) (content : List UInt8)
  | link (target : τ)
  | directory (mode : Nat)

def Node.map {τ υ : Type} (f : τ → υ) : Node τ → Node υ
  | .file mode content => .file mode content
  | .link target => .link (f target)
  | .directory mode => .directory mode

/-- `mode & 0o777`. -/
def permissions (mode : Nat) : Nat := mode % 0o1000

/-- The entry with the mode that is recorded of it. -/
def Entry.node : Entry → Node (List UInt8)
  | .file mode content => .file (permissions mode) content
  | .link target => .link target
  | .directory mode _ => .directory (permissions mode)

/-- The tree has the entry at the path. -/
inductive Holds : Entry → List String → Node (List UInt8) → Prop where
  | here (entry : Entry) : Holds entry [] entry.node
  | inside {mode : Nat} {entries : List (String × Entry)} {name : String} {child : Entry}
      {path : List String} {node : Node (List UInt8)} (listed : (name, child) ∈ entries)
      (held : Holds child path node) : Holds (.directory mode entries) (name :: path) node

/-- A name in a directory. -/
def FileName (name : String) : Prop :=
  name ≠ "" ∧ '/' ∉ name.toList ∧ name ≠ "." ∧ name ≠ ".."

/-- The directories have proper names, each once. -/
inductive Valid : Entry → Prop where
  | file (mode : Nat) (content : List UInt8) : Valid (.file mode content)
  | link (target : List UInt8) : Valid (.link target)
  | directory {mode : Nat} {entries : List (String × Entry)}
      (named : ∀ entry ∈ entries, FileName entry.1) (distinct : (entries.map Prod.fst).Nodup)
      (below : ∀ entry ∈ entries, Valid entry.2) : Valid (.directory mode entries)

abbrev Generation := { tree : Entry // Valid tree }

/-! ## The visit -/

/-- How link targets are read as text, and the digest. -/
structure Platform where
  readlink : List UInt8 → String
  sha256 : List UInt8 → String
  readsText : ∀ text : String, readlink (text.toList.flatMap String.utf8EncodeChar) = text

/-- `path.join` of a path and a name. -/
def join (relative name : String) : String :=
  if relative = "" then name else relative ++ "/" ++ name

/-- The order of `sort()`. -/
def beforeInSort (left right : String) : Bool :=
  dictionary (fun unit other => decide (unit < other)) (unitsOf left) (unitsOf right)

mutual
/-- The entries with their relative paths, in the order of the visit. -/
def visit (platform : Platform) (relative : String) : Entry → List (String × Node String)
  | .file mode content => [(relative, .file (permissions mode) content)]
  | .link target => [(relative, .link (platform.readlink target))]
  | .directory mode entries =>
    (relative, .directory (permissions mode)) ::
      (sortOn beforeInSort Prod.fst (visitEntries platform relative entries)).flatMap Prod.snd

/-- What is visited below each name. -/
def visitEntries (platform : Platform) (relative : String) :
    List (String × Entry) → List (String × List (String × Node String))
  | [] => []
  | (name, child) :: rest =>
    (name, visit platform (join relative name) child) :: visitEntries platform relative rest
end

/-! ## The stream -/

def textItem (text : String) : JsonText.Tree Nat := .string (unitsOf text)

/-- The items of the JSON array that is written of an entry. -/
def headerItems (relative : String) : Node String → List (JsonText.Tree Nat)
  | .file mode content =>
    [textItem relative, textItem "file", .number mode, .number content.length]
  | .link target => [textItem relative, textItem "link", textItem target]
  | .directory mode => [textItem relative, textItem "directory", .number mode]

def contentOf : Node String → List UInt8
  | .file _ content => content
  | _ => []

/-- The bytes that the hash is updated with for an entry. -/
def update (entry : String × Node String) : List UInt8 :=
  (JsonText.write JsonText.decimal (.array (headerItems entry.1 entry.2))).flatMap
    String.utf8EncodeChar ++ contentOf entry.2

def stream (platform : Platform) (tree : Entry) : List UInt8 :=
  (visit platform "" tree).flatMap update

def frameworkGenerationDigest (platform : Platform) (tree : Entry) : String :=
  platform.sha256 (stream platform tree)

/-! ## Equal streams -/

theorem beforeInSort_order : StrictOrder beforeInSort := by
  have units : StrictOrder fun unit other : CodeUnit => decide (unit < other) := {
    irrefl := fun unit => decide_eq_false (lt_irrefl unit)
    trans := fun first second =>
      decide_eq_true ((of_decide_eq_true first).trans (of_decide_eq_true second))
    connected := fun apart => (lt_or_gt_of_ne apart).imp decide_eq_true decide_eq_true }
  exact {
    irrefl := fun text => units.dictionary.irrefl (unitsOf text)
    trans := fun first second => units.dictionary.trans first second
    connected := fun apart => units.dictionary.connected (unitsOf_injective.ne apart) }

/-- The header tells the path, the kind, the mode or the target, and how long the content is. -/
theorem headerItems_inj {relative relative' : String} {node node' : Node String}
    (same : JsonText.normalItems JsonText.decimal (headerItems relative node) =
      JsonText.normalItems JsonText.decimal (headerItems relative' node')) :
    relative = relative' ∧ (contentOf node).length = (contentOf node').length ∧
      (contentOf node = contentOf node' → node = node') := by
  cases node <;> cases node' <;>
    simp only [headerItems, JsonText.normalItems, textItem, JsonText.Tree.normal, List.cons.injEq,
      JsonText.Tree.string.injEq, JsonText.Tree.number.injEq, reduceCtorEq, and_true, and_false,
      true_and] at same
  case file.file mode content mode' content' =>
    obtain ⟨paths, modes, lengths⟩ := same
    refine ⟨unitsOf_injective paths, lengths, ?_⟩
    intro contents
    exact congrArg₂ Node.file modes contents
  case link.link target target' =>
    obtain ⟨paths, targets⟩ := same
    exact ⟨unitsOf_injective paths, rfl, fun _ => congrArg Node.link (unitsOf_injective targets)⟩
  case directory.directory mode mode' =>
    obtain ⟨paths, modes⟩ := same
    exact ⟨unitsOf_injective paths, rfl, fun _ => congrArg Node.directory modes⟩

theorem update_selfDelimiting : SelfDelimiting update := by
  intro entry other rest rest' same
  unfold update at same
  rw [List.append_assoc, List.append_assoc] at same
  obtain ⟨texts, behind⟩ := utf8_selfDelimiting.apart (JsonText.arrays_apart _ _) _ _ same
  have items := JsonText.write_inj.1 texts
  rw [JsonText.Tree.normal, JsonText.Tree.normal, JsonText.Tree.array.injEq] at items
  obtain ⟨relative, length, nodes⟩ := headerItems_inj items
  obtain ⟨content, rests⟩ := List.append_inj behind length
  exact ⟨Prod.ext relative (nodes content), rests⟩

theorem update_ne_nil (entry : String × Node String) : update entry ≠ [] := by
  intro none
  have text := (List.append_eq_nil_iff.1 none).1
  rw [JsonText.write, List.flatMap_cons] at text
  exact utf8EncodeChar_ne_nil '[' (List.append_eq_nil_iff.1 text).1

/-- Equal streams come from equal visits. -/
theorem stream_eq_iff (platform : Platform) (tree other : Entry) :
    stream platform tree = stream platform other ↔
      visit platform "" tree = visit platform "" other :=
  ⟨update_selfDelimiting.flatMap_injective update_ne_nil, congrArg (List.flatMap update)⟩

end OnePersonLab.Update.GenerationDigest
