import Mathlib.Data.List.Perm.Basic
import OnePersonLab.Contract.CanonicalJson

/-!
# The canonical form of a value

The canonical form is the tree that the encoder writes: keys sorted, zero without
a sign. Values are equal up to the order of keys when their forms agree, and what
is read back from a text has the form that was written.
-/

namespace OnePersonLab.Contract

open Lib Lib.JsonText

variable {ν : Type}

/-! ## Members and properties -/

section

variable {properties : List (Utf16 × Option (JsValue ν))}

theorem writeMembers_eq_map (format : NumberFormat ν) (members : List (Utf16 × JsonText.Tree ν)) :
    writeMembers format members = members.map (writeMember format) := by
  induction members with
  | nil => rfl
  | cons member rest ih => rw [writeMembers_cons, ih, List.map_cons]

theorem unsupported_of_isJson {value : JsValue ν} (json : value.IsJson) :
    value.unsupported = false := by
  cases value <;> first | rfl | exact json.elim

/-- Sorting by keys does not look at the values. -/
theorem map_sortByKey {α β : Type} {f : Utf16 × α → Utf16 × β} (kept : ∀ entry, (f entry).1 = entry.1)
    (entries : List (Utf16 × α)) :
    (entries.map f).insertionSort byKey = (entries.insertionSort byKey).map f :=
  (List.map_insertionSort byKey byKey f entries fun entry _ other _ => by
    simp only [byKey, kept]).symm

theorem normalMembers_eq_self {format : NumberFormat ν} {members : List (Utf16 × JsonText.Tree ν)}
    (each : ∀ member ∈ members, member.2.normal format = member.2) :
    normalMembers format members = members := by
  induction members with
  | nil => rfl
  | cons member rest ih =>
    simp only [List.forall_mem_cons] at each
    simp [normalMembers, each.1, ih each.2]

theorem propertiesJson_iff :
    PropertiesJson properties ↔
      ∀ entry ∈ properties, ∃ value, entry.2 = some value ∧ value.IsJson := by
  induction properties with
  | nil => simp [PropertiesJson]
  | cons entry rest ih => rcases entry with ⟨key, - | value⟩ <;> simp [PropertiesJson, ih]

/-! ## Objects that are built up -/

theorem setProperty_keys (properties : List (Utf16 × Option (JsValue ν))) (key : Utf16)
    (value : JsValue ν) : (setProperty properties key value).map Prod.fst =
      if key ∈ properties.map Prod.fst then properties.map Prod.fst
      else properties.map Prod.fst ++ [key] := by
  unfold setProperty
  split
  · rw [List.map_map]
    refine List.map_congr_left fun entry _ => ?_
    simp only [Function.comp_apply]
    split
    · rename_i same
      exact same.symm
    · rfl
  · simp

theorem propertiesDistinct_iff :
    PropertiesDistinct properties ↔
      ∀ entry ∈ properties, ∀ value, entry.2 = some value → value.Distinct := by
  induction properties with
  | nil => simp [PropertiesDistinct]
  | cons entry rest ih => rcases entry with ⟨key, - | value⟩ <;> simp [PropertiesDistinct, ih]

theorem setProperty_distinct {key : Utf16} {value : JsValue ν}
    (keys : (properties.map Prod.fst).Nodup) (each : PropertiesDistinct properties)
    (distinct : value.Distinct) :
    ((setProperty properties key value).map Prod.fst).Nodup ∧
      PropertiesDistinct (setProperty properties key value) := by
  constructor
  · rw [setProperty_keys]
    split
    · exact keys
    · rename_i fresh
      exact List.nodup_append.2 ⟨keys, List.nodup_singleton key, by
        rintro old listed _ new rfl
        exact fresh (List.mem_singleton.1 new ▸ listed)⟩
  · rw [propertiesDistinct_iff] at each ⊢
    unfold setProperty
    split
    · intro entry listed found same
      obtain ⟨old, earlier, rfl⟩ := List.mem_map.1 listed
      split at same
      · obtain rfl := Option.some.inj same
        exact distinct
      · exact each old earlier found same
    · intro entry listed found same
      rcases List.mem_append.1 listed with early | late
      · exact each entry early found same
      · obtain rfl := List.mem_singleton.1 late
        obtain rfl := Option.some.inj same
        exact distinct

end

mutual
theorem distinct_ofTree : (tree : JsonText.Tree ν) → (JsValue.ofTree tree).Distinct
  | .null | .bool _ | .number _ | .string _ => trivial
  | .array items => distinct_slotsOf items
  | .object members => distinct_propertiesOf members [] List.nodup_nil trivial

theorem distinct_slotsOf : (items : List (JsonText.Tree ν)) → SlotsDistinct (slotsOf items)
  | [] => trivial
  | item :: rest => ⟨distinct_ofTree item, distinct_slotsOf rest⟩

theorem distinct_propertiesOf : (members : List (Utf16 × JsonText.Tree ν)) →
    (properties : List (Utf16 × Option (JsValue ν))) → (properties.map Prod.fst).Nodup →
    PropertiesDistinct properties →
    ((propertiesOf members properties).map Prod.fst).Nodup ∧
      PropertiesDistinct (propertiesOf members properties)
  | [], _, keys, each => ⟨keys, each⟩
  | (_, value) :: rest, _, keys, each =>
    have set := setProperty_distinct keys each (distinct_ofTree value)
    distinct_propertiesOf rest _ set.1 set.2
end

/-- Members with different keys become properties one by one. -/
theorem propertiesOf_eq_map {members : List (Utf16 × JsonText.Tree ν)}
    {properties : List (Utf16 × Option (JsValue ν))}
    (distinct : (properties.map Prod.fst ++ members.map Prod.fst).Nodup) :
    propertiesOf members properties =
      properties ++ members.map fun member => (member.1, some (.ofTree member.2)) := by
  induction members generalizing properties with
  | nil => simp [propertiesOf]
  | cons member rest ih =>
    have fresh : member.1 ∉ properties.map Prod.fst := by
      intro listed
      exact (List.nodup_append.1 distinct).2.2 _ listed _ (List.mem_cons_self ..) rfl
    rw [propertiesOf, setProperty, if_neg fresh, ih]
    · simp
    · simpa using distinct

/-! ## The canonical form -/

variable [DecidableEq ν] {numbers : NumberText ν}

mutual
def JsValue.form (numbers : NumberText ν) : JsValue ν → JsonText.Tree ν
  | .boolean value => .bool value
  | .finite value => .number (numbers.normal value)
  | .string value => .string value
  | .array _ slots _ => .array (slotForms numbers slots)
  | .object _ _ _ properties => .object ((propertyForms numbers properties).insertionSort byKey)
  | .undefined | .null | .nonFinite | .bigint | .symbol | .function => .null

def slotForms (numbers : NumberText ν) : List (Option (JsValue ν)) → List (JsonText.Tree ν)
  | [] => []
  | none :: rest => .null :: slotForms numbers rest
  | some value :: rest => value.form numbers :: slotForms numbers rest

def propertyForms (numbers : NumberText ν) :
    List (Utf16 × Option (JsValue ν)) → List (Utf16 × JsonText.Tree ν)
  | [] => []
  | (key, none) :: rest => (key, .null) :: propertyForms numbers rest
  | (key, some value) :: rest => (key, value.form numbers) :: propertyForms numbers rest
end

theorem propertyForms_eq_map (properties : List (Utf16 × Option (JsValue ν))) :
    propertyForms numbers properties = properties.map fun entry =>
      (entry.1, (entry.2.map (JsValue.form numbers)).getD .null) := by
  induction properties with
  | nil => rfl
  | cons entry rest ih => rcases entry with ⟨key, - | value⟩ <;> simp [propertyForms, ih]

theorem propertyForms_keys (properties : List (Utf16 × Option (JsValue ν))) :
    (propertyForms numbers properties).map Prod.fst = properties.map Prod.fst := by
  simp [propertyForms_eq_map, Function.comp_def]

/-! ## The text of a form -/

/-- Sorted texts of members are the text of the sorted members. -/
theorem mapEach_members (members : List (Utf16 × JsonText.Tree ν)) :
    mapEach Prod.snd ((members.map fun member =>
        (member.1, (.ok (writeMember numbers.format member) : Checked (List Char)))).insertionSort byKey) =
      .ok (writeMembers numbers.format (members.insertionSort byKey)) := by
  rw [map_sortByKey (f := fun member =>
      (member.1, (.ok (writeMember numbers.format member) : Checked (List Char)))) (fun _ => rfl),
    mapEach_eq_ok, writeMembers_eq_map]
  simp [List.forall₂_map_left_iff, List.forall₂_map_right_iff, List.forall₂_same]

mutual
theorem canonicalValueText_of_isJson : (value : JsValue ν) → value.IsJson →
    canonicalValueText numbers value = .ok (write numbers.format (value.form numbers))
  | .null, _ => rfl
  | .boolean true, _ | .boolean false, _ => rfl
  | .finite value, _ => congrArg Except.ok (numbers.write_normal value).symm
  | .string value, json => by
    rw [canonicalValueText, show assertUnicodeScalarString value = .ok () from json]
    rfl
  | .array symbolKeys slots namedKeys, ⟨noSymbols, unnamed, json⟩ => by
    subst noSymbols unnamed
    simp [canonicalValueText, slotTexts_of_json slots json, JsValue.form, write]
  | .object plain symbolKeys hiddenKeys properties, ⟨isPlain, noSymbols, shown, scalar, json⟩ => by
    subst isPlain noSymbols shown
    have keys : checkEach assertUnicodeScalarString (properties.map Prod.fst) = .ok () :=
      checkEach_eq_ok.2 scalar
    rw [canonicalValueText, propertyTexts_of_json properties json, mapEach_members, keys]
    simp [JsValue.form, write, ensure_true]

theorem slotTexts_of_json : (slots : List (Option (JsValue ν))) → SlotsJson slots →
    slotTexts numbers slots = .ok (writeItems numbers.format (slotForms numbers slots))
  | [], _ => rfl
  | some value :: rest, json => by
    simp [slotTexts, canonicalValueText_of_isJson value json.1, slotTexts_of_json rest json.2,
      slotForms, writeItems]

theorem propertyTexts_of_json : (properties : List (Utf16 × Option (JsValue ν))) →
    PropertiesJson properties →
    propertyTexts numbers properties = (propertyForms numbers properties).map fun member =>
      (member.1, .ok (writeMember numbers.format member))
  | [], _ => rfl
  | (key, some value) :: rest, json => by
    simp [propertyTexts, unsupported_of_isJson json.1, canonicalValueText_of_isJson value json.1,
      propertyTexts_of_json rest json.2, propertyForms, writeMember]
end

mutual
theorem isJson_of_text : (value : JsValue ν) → {text : List Char} →
    canonicalValueText numbers value = .ok text → value.IsJson
  | .null, _, _ | .boolean _, _, _ | .finite _, _, _ => trivial
  | .string value, text, written => by
    simp only [canonicalValueText, bind_eq_ok] at written
    obtain ⟨_, scalar, -⟩ := written
    exact scalar
  | .array symbolKeys slots namedKeys, text, written => by
    simp only [canonicalValueText, bind_eq_ok, ensure_eq_ok] at written
    obtain ⟨_, noSymbols, entries, texts, _, unnamed, -⟩ := written
    exact ⟨noSymbols, by omega, slotsJson_of_texts slots texts⟩
  | .object plain symbolKeys hiddenKeys properties, text, written => by
    simp only [canonicalValueText, bind_eq_ok, ensure_eq_ok, checkEach_eq_ok] at written
    obtain ⟨_, isPlain, _, noSymbols, _, shown, _, scalar, entries, texts, -⟩ := written
    refine ⟨isPlain, noSymbols, by omega, scalar, propertiesJson_of_texts properties ?_⟩
    intro entry listed
    obtain ⟨text, -, written⟩ := mapEach_mem texts ((List.mem_insertionSort byKey).2 listed)
    exact ⟨text, written⟩

theorem slotsJson_of_texts : (slots : List (Option (JsValue ν))) → {texts : List (List Char)} →
    slotTexts numbers slots = .ok texts → SlotsJson slots
  | [], _, _ => trivial
  | some value :: rest, texts, written => by
    simp only [slotTexts, bind_eq_ok] at written
    obtain ⟨_, first, _, others, -⟩ := written
    exact ⟨isJson_of_text value first, slotsJson_of_texts rest others⟩

theorem propertiesJson_of_texts : (properties : List (Utf16 × Option (JsValue ν))) →
    (∀ entry ∈ propertyTexts numbers properties, ∃ text, entry.2 = .ok text) →
    PropertiesJson properties
  | [], _ => trivial
  | (key, none) :: rest, written => by
    obtain ⟨text, impossible⟩ := written _ (List.mem_cons_self ..)
    cases impossible
  | (key, some value) :: rest, written => by
    simp only [propertyTexts, List.forall_mem_cons] at written
    obtain ⟨⟨text, first⟩, others⟩ := written
    refine ⟨?_, propertiesJson_of_texts rest others⟩
    split at first
    · cases first
    · obtain ⟨text, written, -⟩ := map_eq_ok.1 first
      exact isJson_of_text value written
end

/-- The encoder accepts the JSON values and writes their canonical form. -/
theorem canonicalValueText_eq_ok {value : JsValue ν} {text : List Char} :
    canonicalValueText numbers value = .ok text ↔
      value.IsJson ∧ write numbers.format (value.form numbers) = text := by
  constructor
  · intro written
    have json := isJson_of_text value written
    rw [canonicalValueText_of_isJson value json, Except.ok.injEq] at written
    exact ⟨json, written⟩
  · rintro ⟨json, rfl⟩
    exact canonicalValueText_of_isJson value json

/-! ## Forms are normal -/

theorem NumberText.normal_normal (numbers : NumberText ν) (number : ν) :
    numbers.normal (numbers.normal number) = numbers.normal number := by
  unfold normal
  split <;> simp_all [numbers.unsigned]

mutual
theorem normal_form : (value : JsValue ν) →
    (value.form numbers).normal numbers.format = value.form numbers
  | .undefined | .null | .nonFinite | .bigint | .symbol | .function | .boolean _ | .string _ => rfl
  | .finite value => congrArg JsonText.Tree.number (numbers.normal_normal value)
  | .array _ slots _ => congrArg JsonText.Tree.array (normal_slotForms slots)
  | .object _ _ _ properties => by
    refine congrArg JsonText.Tree.object (normalMembers_eq_self fun member listed => ?_)
    exact normal_propertyForms properties member ((List.mem_insertionSort byKey).1 listed)

theorem normal_slotForms : (slots : List (Option (JsValue ν))) →
    normalItems numbers.format (slotForms numbers slots) = slotForms numbers slots
  | [] => rfl
  | none :: rest => congrArg (List.cons JsonText.Tree.null) (normal_slotForms rest)
  | some value :: rest => by
    rw [slotForms, normalItems, normal_form value, normal_slotForms rest]

theorem normal_propertyForms : (properties : List (Utf16 × Option (JsValue ν))) →
    ∀ member ∈ propertyForms numbers properties, member.2.normal numbers.format = member.2
  | [] => List.forall_mem_nil _
  | (_, none) :: rest => List.forall_mem_cons.2 ⟨rfl, normal_propertyForms rest⟩
  | (_, some value) :: rest =>
    List.forall_mem_cons.2 ⟨normal_form value, normal_propertyForms rest⟩
end

/-- Accepted values have one text when they have one form. -/
theorem text_eq_iff {value other : JsValue ν} {text text' : List Char}
    (written : canonicalValueText numbers value = .ok text)
    (written' : canonicalValueText numbers other = .ok text') :
    text = text' ↔ value.form numbers = other.form numbers := by
  obtain ⟨-, rfl⟩ := canonicalValueText_eq_ok.1 written
  obtain ⟨-, rfl⟩ := canonicalValueText_eq_ok.1 written'
  rw [write_inj, normal_form, normal_form]

/-! ## Equality up to the order of keys -/

instance {α : Type} : Std.Total (byKey (α := α)) := ⟨fun entry other => le_total entry.1 other.1⟩

instance {α : Type} : IsTrans (Utf16 × α) byKey := ⟨fun _ _ _ first second => le_trans first second⟩

/-- Entries with different keys have one order by their keys. -/
theorem sortByKey_eq_of_perm {α : Type} {entries others : List (Utf16 × α)}
    (distinct : (entries.map Prod.fst).Nodup) (same : entries.Perm others) :
    entries.insertionSort byKey = others.insertionSort byKey := by
  refine List.Perm.eq_of_pairwise ?_ (List.pairwise_insertionSort byKey entries)
    (List.pairwise_insertionSort byKey others)
    ((List.perm_insertionSort byKey entries).trans
      (same.trans (List.perm_insertionSort byKey others).symm))
  intro entry other listed listed' before after
  refine List.inj_on_of_nodup_map distinct ((List.mem_insertionSort byKey).1 listed)
    (same.mem_iff.2 ((List.mem_insertionSort byKey).1 listed')) (le_antisymm before after)

theorem perm_of_sortByKey_eq {α : Type} {entries others : List (Utf16 × α)}
    (same : entries.insertionSort byKey = others.insertionSort byKey) : entries.Perm others :=
  (List.perm_insertionSort byKey entries).symm.trans (same ▸ List.perm_insertionSort byKey others)

mutual
theorem form_eq_of_same : {value other : JsValue ν} → Same numbers value other →
    value.Distinct → value.form numbers = other.form numbers
  | _, _, .null, _ => rfl
  | _, _, .boolean _, _ => rfl
  | _, _, .finite same, _ => congrArg JsonText.Tree.number same
  | _, _, .string _, _ => rfl
  | _, _, .array same, distinct => congrArg JsonText.Tree.array (slotForms_eq_of_same same distinct)
  | _, _, .object permuted same, distinct => by
    refine congrArg JsonText.Tree.object (sortByKey_eq_of_perm ?_ ?_)
    · rw [propertyForms_keys]
      exact distinct.1
    · rw [propertyForms_eq_of_same same distinct.2, propertyForms_eq_map, propertyForms_eq_map]
      exact permuted.symm.map _

theorem slotForms_eq_of_same : {slots others : List (Option (JsValue ν))} →
    SameSlots numbers slots others → SlotsDistinct slots →
    slotForms numbers slots = slotForms numbers others
  | _, _, .nil, _ => rfl
  | _, _, .cons same rest, distinct => by
    rw [slotForms, slotForms, form_eq_of_same same distinct.1, slotForms_eq_of_same rest distinct.2]

theorem propertyForms_eq_of_same : {properties others : List (Utf16 × Option (JsValue ν))} →
    SameProperties numbers properties others → PropertiesDistinct properties →
    propertyForms numbers properties = propertyForms numbers others
  | _, _, .nil, _ => rfl
  | _, _, .cons same rest, distinct => by
    rw [propertyForms, propertyForms, form_eq_of_same same distinct.1,
      propertyForms_eq_of_same rest distinct.2]
end

/-- Properties with the forms of others, in another order, are a permutation of
properties with the same forms. -/
theorem exists_permuted {properties others : List (Utf16 × Option (JsValue ν))}
    (same : (propertyForms numbers properties).Perm (propertyForms numbers others)) :
    ∃ permuted, others.Perm permuted ∧
      propertyForms numbers properties = propertyForms numbers permuted := by
  rw [propertyForms_eq_map others] at same
  obtain ⟨permuted, forms, moved⟩ := (congrFun₂ (List.eq_map_comp_perm _) _ _).mpr same
  exact ⟨permuted, moved.symm, forms.trans (propertyForms_eq_map permuted).symm⟩

theorem isJson_of_form_null {value : JsValue ν} (json : value.IsJson)
    (same : value.form numbers = .null) : value = .null := by
  cases value <;> first | rfl | exact json.elim | cases same

mutual
theorem same_of_form_eq : (value : JsValue ν) → {other : JsValue ν} → value.IsJson → other.IsJson →
    value.form numbers = other.form numbers → Same numbers value other
  | .null, other, _, json', same => by
    rw [isJson_of_form_null json' same.symm]
    exact .null
  | .boolean value, other, _, json', same => by
    cases other <;> first | exact json'.elim | cases same
    exact .boolean value
  | .finite value, other, _, json', same => by
    cases other with
    | finite other => exact .finite (JsonText.Tree.number.inj same)
    | _ => first | exact json'.elim | cases same
  | .string value, other, _, json', same => by
    cases other <;> first | exact json'.elim | cases same
    exact .string value
  | .array symbolKeys slots namedKeys, other, json, json', same => by
    cases other with
    | array symbolKeys' others namedKeys' =>
      obtain ⟨rfl, rfl, slotsJson⟩ := json
      obtain ⟨rfl, rfl, othersJson⟩ := json'
      exact .array (sameSlots_of_forms_eq slots slotsJson othersJson (JsonText.Tree.array.inj same))
    | _ => first | exact json'.elim | cases same
  | .object plain symbolKeys hiddenKeys properties, other, json, json', same => by
    cases other with
    | object plain' symbolKeys' hiddenKeys' others =>
      obtain ⟨rfl, rfl, rfl, -, propertiesJson⟩ := json
      obtain ⟨rfl, rfl, rfl, -, othersJson⟩ := json'
      obtain ⟨permuted, moved, forms⟩ := exists_permuted (perm_of_sortByKey_eq (JsonText.Tree.object.inj same))
      have permutedJson : PropertiesJson permuted := propertiesJson_iff.2 fun entry listed =>
        propertiesJson_iff.1 othersJson entry (moved.mem_iff.2 listed)
      exact .object moved (sameProperties_of_forms_eq properties propertiesJson permutedJson forms)
    | _ => first | exact json'.elim | cases same

theorem sameSlots_of_forms_eq : (slots : List (Option (JsValue ν))) →
    {others : List (Option (JsValue ν))} → SlotsJson slots → SlotsJson others →
    slotForms numbers slots = slotForms numbers others → SameSlots numbers slots others
  | [], others, _, json', same => by
    rcases others with - | ⟨- | other, others⟩ <;> first | exact .nil | cases same
  | some value :: rest, others, json, json', same => by
    rcases others with - | ⟨- | other, others⟩
    · cases same
    · exact json'.elim
    · obtain ⟨first, others'⟩ := List.cons.inj same
      exact .cons (same_of_form_eq value json.1 json'.1 first)
        (sameSlots_of_forms_eq rest json.2 json'.2 others')

theorem sameProperties_of_forms_eq : (properties : List (Utf16 × Option (JsValue ν))) →
    {others : List (Utf16 × Option (JsValue ν))} → PropertiesJson properties →
    PropertiesJson others → propertyForms numbers properties = propertyForms numbers others →
    SameProperties numbers properties others
  | [], others, _, json', same => by
    rcases others with - | ⟨⟨key, - | other⟩, others⟩ <;> first | exact .nil | cases same
  | (key, some value) :: rest, others, json, json', same => by
    rcases others with - | ⟨⟨key', - | other⟩, others⟩
    · cases same
    · exact json'.elim
    · obtain ⟨first, others'⟩ := List.cons.inj same
      obtain ⟨rfl, form⟩ := Prod.mk.inj first
      exact .cons (same_of_form_eq value json.1 json'.1 form)
        (sameProperties_of_forms_eq rest json.2 json'.2 others')
end

/-- JSON values are equal up to the order of keys when they have one form. -/
theorem same_iff {value other : JsValue ν} (json : value.IsJson) (json' : other.IsJson)
    (distinct : value.Distinct) :
    Same numbers value other ↔ value.form numbers = other.form numbers :=
  ⟨fun same => form_eq_of_same same distinct, same_of_form_eq value json json'⟩

/-! ## What is read back -/

/-- A tree that reads as a JSON value with that form. -/
def Rereads (numbers : NumberText ν) (tree : JsonText.Tree ν) : Prop :=
  (JsValue.ofTree tree).IsJson ∧ (JsValue.ofTree tree).form numbers = tree

theorem rereads_slots {items : List (JsonText.Tree ν)} (each : ∀ item ∈ items, Rereads numbers item) :
    SlotsJson (slotsOf items) ∧ slotForms numbers (slotsOf items) = items := by
  induction items with
  | nil => exact ⟨trivial, rfl⟩
  | cons item rest ih =>
    obtain ⟨⟨json, form⟩, others⟩ := List.forall_mem_cons.1 each
    obtain ⟨restJson, restForms⟩ := ih others
    exact ⟨⟨json, restJson⟩, by rw [slotsOf, slotForms, form, restForms]⟩

theorem rereads_members {members : List (Utf16 × JsonText.Tree ν)} (keys : (members.map Prod.fst).Nodup)
    (scalar : ∀ key ∈ members.map Prod.fst, assertUnicodeScalarString key = .ok ())
    (sorted : members.Pairwise byKey) (each : ∀ member ∈ members, Rereads numbers member.2) :
    Rereads numbers (.object members) := by
  have properties : propertiesOf members [] =
      members.map fun member => (member.1, some (.ofTree member.2)) :=
    propertiesOf_eq_map (by simpa using keys)
  have forms : propertyForms numbers (propertiesOf members []) = members := by
    rw [properties, propertyForms_eq_map, List.map_map]
    refine (List.map_congr_left fun member listed => ?_).trans (List.map_id _)
    exact Prod.ext rfl (each member listed).2
  refine ⟨⟨rfl, rfl, rfl, ?_, propertiesJson_iff.2 ?_⟩, ?_⟩
  · rw [← @propertyForms_keys _ _ numbers, forms]
    exact scalar
  · rw [properties]
    intro entry listed
    obtain ⟨member, found, rfl⟩ := List.mem_map.1 listed
    exact ⟨_, rfl, (each member found).1⟩
  · rw [JsValue.ofTree, JsValue.form, forms, List.Pairwise.insertionSort_eq sorted]

mutual
theorem rereads_form : (value : JsValue ν) → value.IsJson → value.Distinct →
    Rereads numbers (value.form numbers)
  | .null, _, _ | .boolean _, _, _ => ⟨trivial, rfl⟩
  | .finite value, _, _ => ⟨trivial, congrArg JsonText.Tree.number (numbers.normal_normal value)⟩
  | .string value, json, _ => ⟨json, rfl⟩
  | .array _ slots _, json, distinct => by
    obtain ⟨slotsJson, forms⟩ := rereads_slots (rereads_slotForms slots json.2.2 distinct)
    exact ⟨⟨rfl, rfl, slotsJson⟩, congrArg JsonText.Tree.array forms⟩
  | .object _ _ _ properties, json, distinct => by
    have moved := List.perm_insertionSort byKey (propertyForms numbers properties)
    have keys : ∀ key, key ∈ ((propertyForms numbers properties).insertionSort byKey).map Prod.fst ↔
        key ∈ properties.map Prod.fst := fun key => by
      rw [(moved.map Prod.fst).mem_iff, propertyForms_keys]
    refine rereads_members ?_ (fun key listed => json.2.2.2.1 key ((keys key).1 listed))
      (List.pairwise_insertionSort byKey _) fun member listed => ?_
    · rw [(moved.map Prod.fst).nodup_iff, propertyForms_keys]
      exact distinct.1
    · exact rereads_propertyForms properties json.2.2.2.2 distinct.2 member (moved.mem_iff.1 listed)

theorem rereads_slotForms : (slots : List (Option (JsValue ν))) → SlotsJson slots →
    SlotsDistinct slots → ∀ item ∈ slotForms numbers slots, Rereads numbers item
  | [], _, _ => List.forall_mem_nil _
  | some value :: rest, json, distinct =>
    List.forall_mem_cons.2 ⟨rereads_form value json.1 distinct.1,
      rereads_slotForms rest json.2 distinct.2⟩

theorem rereads_propertyForms : (properties : List (Utf16 × Option (JsValue ν))) →
    PropertiesJson properties → PropertiesDistinct properties →
    ∀ member ∈ propertyForms numbers properties, Rereads numbers member.2
  | [], _, _ => List.forall_mem_nil _
  | (_, some value) :: rest, json, distinct =>
    List.forall_mem_cons.2 ⟨rereads_form value json.1 distinct.1,
      rereads_propertyForms rest json.2 distinct.2⟩
end

/-- What is read back from a text is equal to what was written, and has that text. -/
theorem parseJsonText_canonical {value : JsValue ν} (distinct : value.Distinct) {text : String}
    (written : canonicalJsonText numbers value = .ok text) :
    ∃ reread, parseJsonText numbers text = .ok reread ∧ reread.Distinct ∧ Same numbers reread value ∧
      canonicalJsonText numbers reread = .ok text := by
  obtain ⟨chars, encoded, rfl⟩ := map_eq_ok.1 written
  obtain ⟨json, rfl⟩ := canonicalValueText_eq_ok.1 encoded
  obtain ⟨json', form⟩ := @rereads_form _ _ numbers value json distinct
  refine ⟨.ofTree (value.form numbers), ?_, distinct_ofTree _, ?_, ?_⟩
  · rw [parseJsonText, String.toList_ofList, read_write, normal_form]
  · exact same_of_form_eq _ json' json form
  · exact map_eq_ok.2 ⟨_, canonicalValueText_eq_ok.2 ⟨json', congrArg (write _) form⟩, rfl⟩

theorem canonicalJsonText_injective {value other : JsValue ν} (distinct : value.Distinct)
    {text text' : String} (written : canonicalJsonText numbers value = .ok text)
    (written' : canonicalJsonText numbers other = .ok text') :
    text = text' ↔ Same numbers value other := by
  obtain ⟨chars, encoded, rfl⟩ := map_eq_ok.1 written
  obtain ⟨chars', encoded', rfl⟩ := map_eq_ok.1 written'
  rw [String.ofList_inj, text_eq_iff encoded encoded',
    same_iff (canonicalValueText_eq_ok.1 encoded).1 (canonicalValueText_eq_ok.1 encoded').1 distinct]

theorem distinct_of_parse {raw : String} {value : JsValue ν}
    (parsed : parseJsonText numbers raw = .ok value) : value.Distinct := by
  unfold parseJsonText at parsed
  split at parsed
  · cases parsed
  · obtain rfl := Except.ok.inj parsed
    exact distinct_ofTree _

/-- A physical file is accepted when its bytes are those that a value is written to. -/
theorem readPhysicalCanonicalJson_iff {decoder : TextDecoder} {file : PhysicalFile} {label : String} :
    (∃ value, readPhysicalCanonicalJson numbers decoder file label = .ok value) ↔
      file.isFile = true ∧ file.isSymbolicLink = false ∧
        ∃ value : JsValue ν, value.Distinct ∧ canonicalJsonBytes numbers value = .ok file.bytes := by
  simp only [readPhysicalCanonicalJson, bind_eq_ok, ensure_eq_ok, pure_eq_ok]
  constructor
  · rintro ⟨_, _, ⟨isFile, unlinked⟩, value, parsed, _, encoded, _, rfl, -⟩
    exact ⟨isFile, unlinked, value, distinct_of_parse parsed, encoded⟩
  · rintro ⟨isFile, unlinked, value, distinct, encoded⟩
    obtain ⟨text, written, same⟩ := map_eq_ok.1 encoded
    obtain ⟨reread, parsed, -, -, rewritten⟩ := parseJsonText_canonical distinct written
    refine ⟨reread, (), ⟨isFile, unlinked⟩, reread, ?_, text.toByteArray,
      map_eq_ok.2 ⟨text, rewritten, rfl⟩, (), same.symm, rfl⟩
    rw [← same, decoder.decode_encode, parsed]

/-- The encoder tells values apart up to the order of keys and the sign of zero, what
it writes is read back, and the files that pass are those with its bytes. -/
structure CanonicalJsonFaithful (numbers : NumberText ν) (decoder : TextDecoder) : Prop where
  injective : ∀ value other : JsValue ν, value.Distinct → other.Distinct → ∀ text text',
    canonicalJsonText numbers value = .ok text → canonicalJsonText numbers other = .ok text' →
    (text = text' ↔ Same numbers value other)
  roundTrip : ∀ value : JsValue ν, value.Distinct → ∀ text, canonicalJsonText numbers value = .ok text →
    ∃ reread, parseJsonText numbers text = .ok reread ∧ Same numbers reread value ∧
      canonicalJsonText numbers reread = .ok text
  files : ∀ (file : PhysicalFile) (label : String),
    (∃ value, readPhysicalCanonicalJson numbers decoder file label = .ok value) ↔
      file.isFile = true ∧ file.isSymbolicLink = false ∧
        ∃ value : JsValue ν, value.Distinct ∧ canonicalJsonBytes numbers value = .ok file.bytes

theorem canonicalJson_faithful (numbers : NumberText ν) (decoder : TextDecoder) :
    CanonicalJsonFaithful numbers decoder where
  injective _ _ distinct _ _ _ written written' :=
    canonicalJsonText_injective distinct written written'
  roundTrip _ distinct _ written := by
    obtain ⟨reread, parsed, -, same, rewritten⟩ := parseJsonText_canonical distinct written
    exact ⟨reread, parsed, same, rewritten⟩
  files _ _ := readPhysicalCanonicalJson_iff

/-- The natural numbers among the numbers, and negative zero as `none`. -/
def naturalText : NumberText (Option Nat) where
  zero := some 0
  negativeZero := none
  write number := (toString (number.getD 0)).toList
  read text :=
    if (toString (Nat.ofDigitChars 10 text 0)).toList = text then
      some (some (Nat.ofDigitChars 10 text 0))
    else none
  unsigned := nofun
  write_negativeZero := rfl
  read_write number signed := by
    obtain ⟨value, rfl⟩ := Option.ne_none_iff_exists'.1 signed
    have digits : (toString value).toList = Nat.toDigits 10 value := by
      rw [Nat.toString_eq_ofList_toDigits, String.toList_ofList]
    simp only [Option.getD_some, digits, Nat.ofDigitChars_ten_toDigits, if_true]
  numeric number c listed := by
    rw [isNumeric, isDigit_of_mem_toString listed]
    rfl
  inhabited number empty := toString_ne_empty _ (String.toList_eq_nil_iff.1 empty)

/-- Bytes that are no UTF-8 become the replacement character. -/
def utf8Decoder : TextDecoder where
  decode bytes := (String.fromUTF8? bytes).getD "\ufffd"
  decode_encode text := by
    unfold String.fromUTF8?
    rw [dif_pos text.isValidUTF8]
    rfl

theorem canonicalJson_faithful_naturals : CanonicalJsonFaithful naturalText utf8Decoder :=
  canonicalJson_faithful naturalText utf8Decoder

end OnePersonLab.Contract
