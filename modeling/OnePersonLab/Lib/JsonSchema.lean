import OnePersonLab.Lib.JsonText

/-!
# JSON schemas

Schemas that describe strings, truth values, null, arrays and closed objects, and the values
they accept. The keys of an object are distinct.
-/

namespace OnePersonLab.Lib.JsonText

variable {ν : Type}

/-- An object with the given fields. -/
def record (fields : List (String × Tree ν)) : Tree ν :=
  .object (fields.map fun field => (unitsOf field.1, field.2))

/-- The value of a key. -/
def lookupMember : List (Utf16 × Tree ν) → String → Option (Tree ν)
  | [], _ => none
  | (name, value) :: rest, key => if name = unitsOf key then some value else lookupMember rest key

def Tree.member? : Tree ν → String → Option (Tree ν)
  | .object members, key => lookupMember members key
  | _, _ => none

def Tree.text? : Tree ν → Option Utf16
  | .string text => some text
  | _ => none

def Tree.number? : Tree ν → Option ν
  | .number value => some value
  | _ => none

def Tree.items? : Tree ν → Option (List (Tree ν))
  | .array items => some items
  | _ => none

@[simp] theorem member?_record_nil (key : String) : (record [] : Tree ν).member? key = none := rfl

@[simp] theorem member?_record_cons (name key : String) (value : Tree ν)
    (fields : List (String × Tree ν)) :
    (record ((name, value) :: fields)).member? key =
      if name = key then some value else (record fields).member? key := by
  simp only [record, List.map_cons, Tree.member?, lookupMember, unitsOf_injective.eq_iff]

/-! ## Normal values -/

variable {format : NumberFormat ν}

theorem normalItems_eq {items : List (Tree ν)}
    (normal : ∀ item ∈ items, item.normal format = item) : normalItems format items = items := by
  induction items with
  | nil => rfl
  | cons item rest ih =>
    rw [List.forall_mem_cons] at normal
    rw [normalItems, normal.1, ih normal.2]

theorem normal_array {items : List (Tree ν)} (normal : ∀ item ∈ items, item.normal format = item) :
    (Tree.array items).normal format = .array items := by
  rw [Tree.normal, normalItems_eq normal]

theorem normal_record {fields : List (String × Tree ν)}
    (normal : ∀ field ∈ fields, field.2.normal format = field.2) :
    (record fields).normal format = record fields := by
  have members : normalMembers format (fields.map fun field => (unitsOf field.1, field.2)) =
      fields.map fun field => (unitsOf field.1, field.2) := by
    induction fields with
    | nil => rfl
    | cons field rest ih =>
      rw [List.forall_mem_cons] at normal
      rw [List.map_cons, normalMembers, normal.1, ih normal.2]
  rw [record, Tree.normal, members]

/-! ## Schemas -/

inductive Schema where
  | string (allowed : Utf16 → Bool)
  | bool (value : Bool)
  | null
  | either (left right : Schema)
  | array (items : Schema)
  /-- An object with the required keys and no others than those of the properties. -/
  | object (required : List String) (properties : List (String × Schema))

namespace Schema

def const (text : String) : Schema := .string fun value => value = unitsOf text

def oneOf (texts : List String) : Schema :=
  .string fun value => texts.any fun text => value = unitsOf text

/-- `minLength: 1`. -/
def nonEmpty : Schema := .string fun value => value ≠ []

mutual
def accepts : Schema → Tree ν → Bool
  | .string allowed, .string text => allowed text
  | .bool value, .bool given => value == given
  | .null, .null => true
  | .either left right, value => left.accepts value || right.accepts value
  | .array items, .array values => values.all fun value => items.accepts value
  | .object required properties, .object members =>
    (required.all fun key => (lookupMember members key).isSome) &&
      members.all fun member => acceptsMember properties member.1 member.2
  | _, _ => false

def acceptsMember : List (String × Schema) → Utf16 → Tree ν → Bool
  | [], _, _ => false
  | (key, schema) :: rest, name, value =>
    if name = unitsOf key then schema.accepts value else acceptsMember rest name value
end

@[simp] theorem accepts_nonEmpty (text : Utf16) :
    nonEmpty.accepts (.string text : Tree ν) = true ↔ text ≠ [] := by
  simp [nonEmpty, accepts]

@[simp] theorem accepts_const (text : String) (value : Utf16) :
    (const text).accepts (.string value : Tree ν) = true ↔ value = unitsOf text := by
  simp [const, accepts]

@[simp] theorem accepts_array (items : Schema) (values : List (Tree ν)) :
    (Schema.array items).accepts (.array values) = true ↔
      ∀ value ∈ values, items.accepts value = true := by
  simp [accepts]

@[simp] theorem acceptsMember_nil (name : Utf16) (value : Tree ν) :
    acceptsMember [] name value = false := rfl

@[simp] theorem acceptsMember_cons (key name : String) (schema : Schema)
    (properties : List (String × Schema)) (value : Tree ν) :
    acceptsMember ((key, schema) :: properties) (unitsOf name) value =
      if name = key then schema.accepts value else acceptsMember properties (unitsOf name) value := by
  simp only [acceptsMember, unitsOf_injective.eq_iff]

/-- A closed object with the given fields. -/
theorem accepts_record (required : List String) (properties : List (String × Schema))
    (fields : List (String × Tree ν)) :
    (Schema.object required properties).accepts (record fields) = true ↔
      (∀ key ∈ required, ((record fields).member? key).isSome = true) ∧
        ∀ field ∈ fields, acceptsMember properties (unitsOf field.1) field.2 = true := by
  simp [accepts, record, Tree.member?]

end Schema

end OnePersonLab.Lib.JsonText
