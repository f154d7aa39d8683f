import OnePersonLab.Contract.CanonicalForm
import OnePersonLab.Contract.Json

/-!
# JSON records under the encoder

The typed records of the protocol as values of the source language. Two of them
with one canonical text are equal up to the order of keys.
-/

namespace OnePersonLab.Contract

open Lib Lib.JsonText

/-- The rationals that are numbers of the source language, the safe integers among them. -/
structure Doubles (ν : Type) [DecidableEq ν] extends NumberText ν where
  IsDouble : ℚ → Prop
  double : ℚ → ν
  safe : ∀ value : Nat, value < 2 ^ 53 → IsDouble value
  unsignedDouble : ∀ value, IsDouble value → double value ≠ negativeZero
  double_inj : ∀ value other, IsDouble value → IsDouble other → double value = double other →
    value = other

variable {ν : Type}

namespace Json

mutual
def toJsValue (double : ℚ → ν) : Json → JsValue ν
  | .null => .null
  | .bool value => .boolean value
  | .number value => .finite (double value)
  | .string text => .string (unitsOf text)
  | .array items => .array 0 (toSlots double items) 0
  | .object fields => .object true 0 0 (toProperties double fields)

def toSlots (double : ℚ → ν) : List Json → List (Option (JsValue ν))
  | [] => []
  | item :: rest => some (item.toJsValue double) :: toSlots double rest

def toProperties (double : ℚ → ν) : List (String × Json) → List (Utf16 × Option (JsValue ν))
  | [] => []
  | (key, value) :: rest => (unitsOf key, some (value.toJsValue double)) :: toProperties double rest
end

mutual
/-- A value that the source language can hold: no key twice, every number a double. -/
def Representable (isDouble : ℚ → Prop) : Json → Prop
  | .null | .bool _ | .string _ => True
  | .number value => isDouble value
  | .array items => ItemsRepresentable isDouble items
  | .object fields => (fields.map Prod.fst).Nodup ∧ FieldsRepresentable isDouble fields

def ItemsRepresentable (isDouble : ℚ → Prop) : List Json → Prop
  | [] => True
  | item :: rest => item.Representable isDouble ∧ ItemsRepresentable isDouble rest

def FieldsRepresentable (isDouble : ℚ → Prop) : List (String × Json) → Prop
  | [] => True
  | (_, value) :: rest => value.Representable isDouble ∧ FieldsRepresentable isDouble rest
end

end Json

/-! Equality up to the order of keys. -/

mutual
inductive SameJson : Json → Json → Prop where
  | null : SameJson .null .null
  | bool (value : Bool) : SameJson (.bool value) (.bool value)
  | number (value : ℚ) : SameJson (.number value) (.number value)
  | string (text : String) : SameJson (.string text) (.string text)
  | array {items others : List Json} : SameItems items others → SameJson (.array items) (.array others)
  | object {fields others permuted : List (String × Json)} :
    others.Perm permuted → SameFields fields permuted → SameJson (.object fields) (.object others)

inductive SameItems : List Json → List Json → Prop where
  | nil : SameItems [] []
  | cons {item other : Json} {rest others : List Json} :
    SameJson item other → SameItems rest others → SameItems (item :: rest) (other :: others)

inductive SameFields : List (String × Json) → List (String × Json) → Prop where
  | nil : SameFields [] []
  | cons {key : String} {value other : Json} {rest others : List (String × Json)} :
    SameJson value other → SameFields rest others →
    SameFields ((key, value) :: rest) ((key, other) :: others)
end

mutual
theorem SameJson.refl : (value : Json) → SameJson value value
  | .null => .null
  | .bool value => .bool value
  | .number value => .number value
  | .string text => .string text
  | .array items => .array (SameItems.refl items)
  | .object fields => .object (.refl fields) (SameFields.refl fields)

theorem SameItems.refl : (items : List Json) → SameItems items items
  | [] => .nil
  | item :: rest => .cons (SameJson.refl item) (SameItems.refl rest)

theorem SameFields.refl : (fields : List (String × Json)) → SameFields fields fields
  | [] => .nil
  | (_, value) :: rest => .cons (SameJson.refl value) (SameFields.refl rest)
end

/-! ## Fields of equal records -/

section

variable {fields others : JsonRecord}

theorem SameFields.field (same : SameFields fields others) (key : String) :
    Option.Rel SameJson (field? fields key) (field? others key) := by
  induction fields generalizing others with
  | nil => cases same; exact .none
  | cons entry rest ih =>
    cases same with
    | cons value same =>
      rw [field?_cons, field?_cons]
      split
      · exact .some value
      · exact ih same

theorem field?_eq_some_iff (distinct : (fields.map Prod.fst).Nodup) {key : String} {value : Json} :
    field? fields key = some value ↔ (key, value) ∈ fields := by
  induction fields with
  | nil => simp
  | cons entry rest ih =>
    obtain ⟨name, held⟩ := entry
    obtain ⟨fresh, distinct⟩ := List.nodup_cons.1 distinct
    rw [field?_cons]
    split
    · rename_i same
      subst same
      have absent : (key, value) ∉ rest := fun listed => fresh (List.mem_map.2 ⟨_, listed, rfl⟩)
      simp [absent, eq_comm]
    · rename_i other
      simp [ih distinct, other]

theorem field?_perm (distinct : (fields.map Prod.fst).Nodup) (moved : fields.Perm others)
    (key : String) : field? fields key = field? others key := by
  refine Option.ext fun value => ?_
  rw [field?_eq_some_iff distinct,
    field?_eq_some_iff ((moved.map Prod.fst).nodup_iff.1 distinct), moved.mem_iff]

/-- Equal records have equal fields. -/
theorem SameJson.field (same : SameJson (.object fields) (.object others))
    (distinct : (others.map Prod.fst).Nodup) (key : String) :
    Option.Rel SameJson (field? fields key) (field? others key) := by
  cases same with
  | object moved same =>
    rw [field?_perm distinct moved]
    exact same.field key

end

namespace SameJson

theorem string_inj {text other : String} (same : SameJson (.string text) (.string other)) :
    text = other := by
  cases same
  rfl

theorem number_inj {value other : ℚ} (same : SameJson (.number value) (.number other)) :
    value = other := by
  cases same
  rfl

theorem optionalString_inj {text other : Option String}
    (same : SameJson (.ofOptionalString text) (.ofOptionalString other)) : text = other := by
  cases text <;> cases other <;> cases same <;> rfl

end SameJson

/-! ## The encoder on records -/

theorem assertUnicodeScalarString_cons {unit : CodeUnit} (notHigh : unit.high = false)
    (notLow : unit.low = false) (rest : Utf16) :
    assertUnicodeScalarString (unit :: rest) = assertUnicodeScalarString rest := by
  cases rest with
  | nil => simp [assertUnicodeScalarString, notHigh, notLow]
  | cons next rest => simp [assertUnicodeScalarString, notHigh, notLow]

theorem assertUnicodeScalarString_unitsOf (text : String) :
    assertUnicodeScalarString (unitsOf text) = .ok () := by
  unfold unitsOf
  induction text.toList with
  | nil => rfl
  | cons c rest ih =>
    rw [List.flatMap_cons]
    obtain ⟨unit, notHigh, notLow, units, -⟩ | ⟨first, second, high, low, units, -⟩ :=
      unitsOfChar_cases c
    · rw [units, List.singleton_append, assertUnicodeScalarString_cons notHigh notLow, ih]
    · rw [units, List.cons_append, List.singleton_append, assertUnicodeScalarString, if_pos high,
        if_pos low, ih]

variable {double : ℚ → ν}

namespace Json

theorem toSlots_eq_map (items : List Json) :
    toSlots double items = items.map fun item => some (item.toJsValue double) := by
  induction items with
  | nil => rfl
  | cons item rest ih => rw [toSlots, ih, List.map_cons]

theorem toProperties_eq_map (fields : List (String × Json)) :
    toProperties double fields =
      fields.map fun entry => (unitsOf entry.1, some (entry.2.toJsValue double)) := by
  induction fields with
  | nil => rfl
  | cons entry rest ih => rw [toProperties, ih, List.map_cons]

theorem toProperties_keys (fields : List (String × Json)) :
    (toProperties double fields).map Prod.fst = (fields.map Prod.fst).map unitsOf := by
  rw [toProperties_eq_map, List.map_map, List.map_map]
  rfl

mutual
theorem isJson_toJsValue : (value : Json) → (value.toJsValue double).IsJson
  | .null | .bool _ | .number _ => trivial
  | .string text => assertUnicodeScalarString_unitsOf text
  | .array items => ⟨rfl, rfl, slotsJson_toSlots items⟩
  | .object fields => by
    refine ⟨rfl, rfl, rfl, fun key listed => ?_, propertiesJson_toProperties fields⟩
    rw [toProperties_keys] at listed
    obtain ⟨name, -, rfl⟩ := List.mem_map.1 listed
    exact assertUnicodeScalarString_unitsOf name

theorem slotsJson_toSlots : (items : List Json) → SlotsJson (toSlots double items)
  | [] => trivial
  | item :: rest => ⟨isJson_toJsValue item, slotsJson_toSlots rest⟩

theorem propertiesJson_toProperties : (fields : List (String × Json)) →
    PropertiesJson (toProperties double fields)
  | [] => trivial
  | (_, value) :: rest => ⟨isJson_toJsValue value, propertiesJson_toProperties rest⟩
end

variable {isDouble : ℚ → Prop}

theorem fieldsRepresentable_iff {fields : List (String × Json)} :
    FieldsRepresentable isDouble fields ↔ ∀ entry ∈ fields, entry.2.Representable isDouble := by
  induction fields with
  | nil => simp [FieldsRepresentable]
  | cons entry rest ih => simp [FieldsRepresentable, ih]

mutual
theorem Representable.distinct : {value : Json} → value.Representable isDouble →
    (value.toJsValue double).Distinct
  | .null, _ | .bool _, _ | .number _, _ | .string _, _ => trivial
  | .array _, items => ItemsRepresentable.distinct items
  | .object _, ⟨keys, fields⟩ =>
    ⟨by rw [toProperties_keys]; exact keys.map unitsOf_injective, FieldsRepresentable.distinct fields⟩

theorem ItemsRepresentable.distinct : {items : List Json} → ItemsRepresentable isDouble items →
    SlotsDistinct (toSlots double items)
  | [], _ => trivial
  | _ :: _, ⟨item, rest⟩ => ⟨item.distinct, ItemsRepresentable.distinct rest⟩

theorem FieldsRepresentable.distinct : {fields : List (String × Json)} →
    FieldsRepresentable isDouble fields → PropertiesDistinct (toProperties double fields)
  | [], _ => trivial
  | _ :: _, ⟨value, rest⟩ => ⟨value.distinct, FieldsRepresentable.distinct rest⟩
end

end Json

/-! ## Equal texts -/

variable [DecidableEq ν] {doubles : Doubles ν}

theorem Doubles.normal_double_inj {value other : ℚ} (exact : doubles.IsDouble value)
    (exact' : doubles.IsDouble other)
    (same : doubles.normal (doubles.double value) = doubles.normal (doubles.double other)) :
    value = other := by
  rw [NumberText.normal, if_neg (doubles.unsignedDouble value exact), NumberText.normal,
    if_neg (doubles.unsignedDouble other exact')] at same
  exact doubles.double_inj value other exact exact' same

theorem fieldForms_eq_map (fields : List (String × Json)) :
    propertyForms doubles.toNumberText (Json.toProperties doubles.double fields) =
      fields.map fun entry =>
        (unitsOf entry.1, (entry.2.toJsValue doubles.double).form doubles.toNumberText) := by
  rw [Json.toProperties_eq_map, propertyForms_eq_map, List.map_map]
  rfl

/-- Fields with the forms of others, in another order, are a permutation of fields
with the same forms. -/
theorem exists_permutedFields {fields others : List (String × Json)}
    (same : (propertyForms doubles.toNumberText (Json.toProperties doubles.double fields)).Perm
      (propertyForms doubles.toNumberText (Json.toProperties doubles.double others))) :
    ∃ permuted, others.Perm permuted ∧
      propertyForms doubles.toNumberText (Json.toProperties doubles.double fields) =
        propertyForms doubles.toNumberText (Json.toProperties doubles.double permuted) := by
  rw [fieldForms_eq_map others] at same
  obtain ⟨permuted, forms, moved⟩ := (congrFun₂ (List.eq_map_comp_perm _) _ _).mpr same
  exact ⟨permuted, moved.symm, forms.trans (fieldForms_eq_map permuted).symm⟩

mutual
theorem sameJson_of_form_eq : (value : Json) → {other : Json} →
    value.Representable doubles.IsDouble → other.Representable doubles.IsDouble →
    (value.toJsValue doubles.double).form doubles.toNumberText =
      (other.toJsValue doubles.double).form doubles.toNumberText → SameJson value other
  | .null, other, _, _, same => by
    cases other <;> first | exact .null | cases same
  | .bool value, other, _, _, same => by
    cases other <;> cases same
    exact .bool value
  | .number value, other, representable, representable', same => by
    cases other with
    | number other =>
      obtain rfl := doubles.normal_double_inj representable representable' (JsonText.Tree.number.inj same)
      exact .number value
    | _ => cases same
  | .string text, other, _, _, same => by
    cases other with
    | string other =>
      obtain rfl := unitsOf_injective (JsonText.Tree.string.inj same)
      exact .string text
    | _ => cases same
  | .array items, other, representable, representable', same => by
    cases other with
    | array others =>
      exact .array (sameItems_of_forms_eq items representable representable' (JsonText.Tree.array.inj same))
    | _ => cases same
  | .object fields, other, ⟨_, representable⟩, representable', same => by
    cases other with
    | object others =>
      obtain ⟨permuted, moved, forms⟩ :=
        exists_permutedFields (perm_of_sortByKey_eq (JsonText.Tree.object.inj same))
      have permuted' : Json.FieldsRepresentable doubles.IsDouble permuted :=
        Json.fieldsRepresentable_iff.2 fun entry listed =>
          Json.fieldsRepresentable_iff.1 representable'.2 entry (moved.mem_iff.2 listed)
      exact .object moved (sameFields_of_forms_eq fields representable permuted' forms)
    | _ => cases same

theorem sameItems_of_forms_eq : (items : List Json) → {others : List Json} →
    Json.ItemsRepresentable doubles.IsDouble items →
    Json.ItemsRepresentable doubles.IsDouble others →
    slotForms doubles.toNumberText (Json.toSlots doubles.double items) =
      slotForms doubles.toNumberText (Json.toSlots doubles.double others) → SameItems items others
  | [], others, _, _, same => by
    cases others <;> first | exact .nil | cases same
  | item :: rest, [], _, _, same => by cases same
  | item :: rest, other :: others, ⟨first, representable⟩, ⟨first', representable'⟩, same =>
    .cons (sameJson_of_form_eq item first first' (List.cons.inj same).1)
      (sameItems_of_forms_eq rest representable representable' (List.cons.inj same).2)

theorem sameFields_of_forms_eq : (fields : List (String × Json)) → {others : List (String × Json)} →
    Json.FieldsRepresentable doubles.IsDouble fields →
    Json.FieldsRepresentable doubles.IsDouble others →
    propertyForms doubles.toNumberText (Json.toProperties doubles.double fields) =
      propertyForms doubles.toNumberText (Json.toProperties doubles.double others) →
    SameFields fields others
  | [], others, _, _, same => by
    cases others <;> first | exact .nil | cases same
  | _ :: _, [], _, _, same => by cases same
  | (key, value) :: rest, (key', other) :: others, ⟨first, representable⟩,
      ⟨first', representable'⟩, same => by
    obtain ⟨entry, rest'⟩ := List.cons.inj same
    obtain ⟨keys, form⟩ := Prod.mk.inj entry
    obtain rfl := unitsOf_injective keys
    exact .cons (sameJson_of_form_eq value first first' form)
      (sameFields_of_forms_eq rest representable representable' rest')
end

/-- Every value that the source language can hold has a canonical text. -/
theorem exists_canonicalJsonText (doubles : Doubles ν) (value : Json) :
    ∃ text, canonicalJsonText doubles.toNumberText (value.toJsValue doubles.double) = .ok text :=
  ⟨_, map_eq_ok.2 ⟨_, canonicalValueText_eq_ok.2 ⟨value.isJson_toJsValue, rfl⟩, rfl⟩⟩

mutual
theorem SameJson.same : {value other : Json} → SameJson value other →
    Same doubles.toNumberText (value.toJsValue doubles.double) (other.toJsValue doubles.double)
  | _, _, .null => .null
  | _, _, .bool value => .boolean value
  | _, _, .number _ => .finite rfl
  | _, _, .string text => .string (unitsOf text)
  | _, _, .array items => .array items.same
  | _, _, .object moved fields => by
    refine .object ?_ fields.same
    rw [Json.toProperties_eq_map, Json.toProperties_eq_map]
    exact moved.map _

theorem SameItems.same : {items others : List Json} → SameItems items others →
    SameSlots doubles.toNumberText (Json.toSlots doubles.double items)
      (Json.toSlots doubles.double others)
  | _, _, .nil => .nil
  | _, _, .cons item rest => .cons item.same rest.same

theorem SameFields.same : {fields others : List (String × Json)} → SameFields fields others →
    SameProperties doubles.toNumberText (Json.toProperties doubles.double fields)
      (Json.toProperties doubles.double others)
  | _, _, .nil => .nil
  | _, _, .cons value rest => .cons value.same rest.same
end

/-- Values have one canonical text when they are equal up to the order of keys. -/
theorem sameJson_iff_text {value other : Json} (representable : value.Representable doubles.IsDouble)
    (representable' : other.Representable doubles.IsDouble) {text text' : String}
    (written : canonicalJsonText doubles.toNumberText (value.toJsValue doubles.double) = .ok text)
    (written' : canonicalJsonText doubles.toNumberText (other.toJsValue doubles.double) = .ok text') :
    text = text' ↔ SameJson value other := by
  rw [canonicalJsonText_injective representable.distinct written written']
  refine ⟨fun same => ?_, SameJson.same⟩
  exact sameJson_of_form_eq value representable representable'
    ((same_iff value.isJson_toJsValue other.isJson_toJsValue representable.distinct).1 same)

end OnePersonLab.Contract
