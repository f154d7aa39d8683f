import Mathlib.Data.Rat.Defs
import OnePersonLab.Contract.Failure

/-!
# JSON values and the protocol purity scan

`scanForbidden` walks a value and reports what a Foundry protocol object may
not carry: physical paths, attempt refs and fields that name a queue, a lease,
a worktree and the like. The path is kept as its segments, innermost first.
-/

namespace OnePersonLab.Contract

inductive Json where
  | null
  | bool (value : Bool)
  | number (value : ℚ)
  | string (text : String)
  | array (items : List Json)
  | object (fields : List (String × Json))

/-- A record: the own enumerable fields of a plain object. -/
abbrev JsonRecord := List (String × Json)

namespace Json

mutual
def decEq : (left right : Json) → Decidable (left = right)
  | .null, .null => isTrue rfl
  | .bool a, .bool b => decidable_of_iff (a = b) (by simp)
  | .number a, .number b => decidable_of_iff (a = b) (by simp)
  | .string a, .string b => decidable_of_iff (a = b) (by simp)
  | .array a, .array b => @decidable_of_iff _ (a = b) (by simp) (decEqItems a b)
  | .object a, .object b => @decidable_of_iff _ (a = b) (by simp) (decEqFields a b)
  | .null, .bool _ | .null, .number _ | .null, .string _ | .null, .array _ | .null, .object _
  | .bool _, .null | .bool _, .number _ | .bool _, .string _ | .bool _, .array _
  | .bool _, .object _ | .number _, .null | .number _, .bool _ | .number _, .string _
  | .number _, .array _ | .number _, .object _ | .string _, .null | .string _, .bool _
  | .string _, .number _ | .string _, .array _ | .string _, .object _ | .array _, .null
  | .array _, .bool _ | .array _, .number _ | .array _, .string _ | .array _, .object _
  | .object _, .null | .object _, .bool _ | .object _, .number _ | .object _, .string _
  | .object _, .array _ => isFalse (by simp)

def decEqItems : (left right : List Json) → Decidable (left = right)
  | [], [] => isTrue rfl
  | [], _ :: _ => isFalse (by simp)
  | _ :: _, [] => isFalse (by simp)
  | a :: as, b :: bs =>
    match decEq a b, decEqItems as bs with
    | isTrue h, isTrue h' => isTrue (by rw [h, h'])
    | isFalse h, _ => isFalse (by simp [h])
    | _, isFalse h => isFalse (by simp [h])

def decEqFields : (left right : List (String × Json)) → Decidable (left = right)
  | [], [] => isTrue rfl
  | [], _ :: _ => isFalse (by simp)
  | _ :: _, [] => isFalse (by simp)
  | (k, a) :: as, (l, b) :: bs =>
    match decEq a b, decEqFields as bs with
    | isTrue h, isTrue h' => decidable_of_iff (k = l) (by simp [h, h'])
    | isFalse h, _ => isFalse (by simp [h])
    | _, isFalse h => isFalse (by simp [h])
end

instance : DecidableEq Json := decEq

def ofStrings (values : List String) : Json := .array (values.map .string)

def ofOptionalString : Option String → Json
  | none => .null
  | some text => .string text

def ofNat (value : Nat) : Json := .number value

theorem ofOptionalString_inj {value other : Option String} :
    ofOptionalString value = ofOptionalString other ↔ value = other := by
  cases value <;> cases other <;> simp [ofOptionalString]

theorem ofNat_inj {value other : Nat} : ofNat value = ofNat other ↔ value = other := by
  simp [ofNat]

/-- `typeof value === 'string' ? value : null`. -/
def asString? : Json → Option String
  | .string text => some text
  | _ => none

/-- `typeof value === 'number' ? value : null`. -/
def asNumber? : Json → Option ℚ
  | .number value => some value
  | _ => none

end Json

/-! ## Purity -/

def forbiddenFieldNames : List String :=
  ["repo_path", "repo_dir", "repo_root", "repository_path", "file_path", "worktree",
    "worktree_path", "branch", "branch_name", "cli", "command", "commands", "queue", "queue_id",
    "lease", "lease_id", "attempt", "attempt_id", "overwrite_policy", "promotion_ledger",
    "hidden_test_body", "hidden_test_bodies", "protected_test_body", "protected_test_bodies",
    "protected_case_body", "protected_case_bodies", "patch", "patches", "work_order",
    "work_orders"]

def looksLikePhysicalPath (value : String) : Bool :=
  startsWith value "/" || startsWith value "./" || startsWith value "../" ||
    startsWith value "file:" ||
    match characters value with
    | drive :: ':' :: slash :: _ => drive.isAlpha && (slash == '\\' || slash == '/')
    | _ => false

/-- `replace(/([a-z0-9])([A-Z])/g, '$1_$2')`. The two classes are disjoint, so
no match can hide another one. -/
def splitCamelCase : List Char → List Char
  | a :: b :: rest =>
    if (a.isLower || a.isDigit) && b.isUpper then a :: '_' :: splitCamelCase (b :: rest)
    else a :: splitCamelCase (b :: rest)
  | short => short

def normalizedKey (key : String) : String :=
  toLowerCase (String.ofList
    ((splitCamelCase (characters key)).map fun c => if c = '-' then '_' else c))

def forbiddenField (key : String) : Bool :=
  forbiddenFieldNames.contains (normalizedKey key) ||
    (split (normalizedKey key) '_').contains "attempt"

/-- `at.endsWith('/semantic_path')`: only the innermost segment can end so. -/
def semanticPath : List String → Bool
  | [] => false
  | segment :: _ => endsWith ("/" ++ segment) "/semantic_path"

def violationAt (path : List String) (kind : String) : String :=
  "/".intercalate ("$" :: path.reverse) ++ ":" ++ kind

def scanText (text : String) (path : List String) : List String :=
  (if !semanticPath path && looksLikePhysicalPath (trim text) then
    [violationAt path "physical_path"] else []) ++
  (if startsWith (toLowerCase (trim text)) "attempt:" then
    [violationAt path "forbidden_attempt_ref"] else [])

mutual
def scanForbidden : Json → List String → List String
  | .string text, path => scanText text path
  | .array items, path => scanItems items 0 path
  | .object fields, path => scanFields fields path
  | .null, _ | .bool _, _ | .number _, _ => []

def scanItems : List Json → Nat → List String → List String
  | [], _, _ => []
  | item :: rest, index, path =>
    scanForbidden item (toString index :: path) ++ scanItems rest (index + 1) path

def scanFields : JsonRecord → List String → List String
  | [], _ => []
  | (key, entry) :: rest, path =>
    (if forbiddenField key then [violationAt (key :: path) "forbidden_field"] else []) ++
      scanForbidden entry (key :: path) ++ scanFields rest path
end

def assertFoundryProtocolPurity (value : Json) (label : String) : Checked Unit :=
  ensure (scanForbidden value [] = [])
    s!"{label} crosses the Foundry semantic protocol boundary."

mutual
/-- The field names at every depth. -/
def Json.fieldNames : Json → List String
  | .array items => Json.fieldNamesOfItems items
  | .object fields => Json.fieldNamesOfFields fields
  | .null | .bool _ | .number _ | .string _ => []

def Json.fieldNamesOfItems : List Json → List String
  | [] => []
  | item :: rest => item.fieldNames ++ Json.fieldNamesOfItems rest

def Json.fieldNamesOfFields : JsonRecord → List String
  | [] => []
  | (key, entry) :: rest => key :: entry.fieldNames ++ Json.fieldNamesOfFields rest
end

mutual
/-- The string values at every depth. -/
def Json.texts : Json → List String
  | .string text => [text]
  | .array items => Json.textsOfItems items
  | .object fields => Json.textsOfFields fields
  | .null | .bool _ | .number _ => []

def Json.textsOfItems : List Json → List String
  | [] => []
  | item :: rest => item.texts ++ Json.textsOfItems rest

def Json.textsOfFields : JsonRecord → List String
  | [] => []
  | (_, entry) :: rest => entry.texts ++ Json.textsOfFields rest
end

/-- A text that the scan passes over wherever it stands. -/
def cleanText (text : String) : Bool :=
  !looksLikePhysicalPath (trim text) && !startsWith (toLowerCase (trim text)) "attempt:"

theorem scanText_of_clean {text : String} (clean : cleanText text = true) (path : List String) :
    scanText text path = [] := by
  simp only [cleanText, Bool.and_eq_true, Bool.not_eq_true'] at clean
  simp [scanText, clean.1, clean.2]

/-- Permitted names and clean texts make a pure value. -/
def Json.Clean (value : Json) : Prop :=
  (∀ key ∈ value.fieldNames, forbiddenField key = false) ∧ ∀ text ∈ value.texts, cleanText text

mutual
theorem scanForbidden_of_clean : (value : Json) → value.Clean → (path : List String) →
    scanForbidden value path = []
  | .null, _, _ | .bool _, _, _ | .number _, _, _ => rfl
  | .string text, clean, path => scanText_of_clean (clean.2 text (by simp [Json.texts])) path
  | .array items, clean, path => scanItems_of_clean items clean.1 clean.2 0 path
  | .object fields, clean, path => scanFields_of_clean fields clean.1 clean.2 path

theorem scanItems_of_clean : (items : List Json) →
    (∀ key ∈ Json.fieldNamesOfItems items, forbiddenField key = false) →
    (∀ text ∈ Json.textsOfItems items, cleanText text) → (index : Nat) → (path : List String) →
    scanItems items index path = []
  | [], _, _, _, _ => rfl
  | item :: rest, names, texts, index, path => by
    simp only [Json.fieldNamesOfItems, Json.textsOfItems, List.forall_mem_append] at names texts
    simp only [scanItems, List.append_eq_nil_iff]
    exact ⟨scanForbidden_of_clean item ⟨names.1, texts.1⟩ _,
      scanItems_of_clean rest names.2 texts.2 _ path⟩

theorem scanFields_of_clean : (fields : JsonRecord) →
    (∀ key ∈ Json.fieldNamesOfFields fields, forbiddenField key = false) →
    (∀ text ∈ Json.textsOfFields fields, cleanText text) → (path : List String) →
    scanFields fields path = []
  | [], _, _, _ => rfl
  | (key, entry) :: rest, names, texts, path => by
    simp only [Json.fieldNamesOfFields, Json.textsOfFields, List.cons_append,
      List.forall_mem_cons, List.forall_mem_append] at names texts
    simp only [scanFields, names.1, Bool.false_eq_true, if_false, List.nil_append,
      List.append_eq_nil_iff]
    exact ⟨scanForbidden_of_clean entry ⟨names.2.1, texts.1⟩ _,
      scanFields_of_clean rest names.2.2 texts.2 path⟩
end

/-! ## Lookups in a record -/

/-- Reading a field of a record. -/
def field? (record : JsonRecord) (key : String) : Option Json := record.lookup key

@[simp] theorem field?_nil (key : String) : field? [] key = none := rfl

theorem field?_cons (name key : String) (value : Json) (rest : JsonRecord) :
    field? ((name, value) :: rest) key = if key = name then some value else field? rest key := by
  by_cases same : key = name
  · simp [field?, same]
  · simp [field?, same, List.lookup_cons, beq_eq_false_iff_ne.mpr same]

@[simp] theorem field?_cons_self (key : String) (value : Json) (rest : JsonRecord) :
    field? ((key, value) :: rest) key = some value := by simp [field?_cons]

end OnePersonLab.Contract
