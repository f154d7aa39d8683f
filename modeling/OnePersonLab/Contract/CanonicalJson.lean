import Mathlib
import OnePersonLab.Contract.Failure
import OnePersonLab.Lib.JsonText

/-!
# Canonical JSON

`canonicalJsonText` writes a value of the source language as JSON with sorted
keys and refuses everything that is not a JSON value. Two accepted values have
one text exactly when they are equal up to the order of object keys and the sign
of zero, and the text is read back as an equal value.
-/

namespace OnePersonLab.Contract

open Lib Lib.JsonText

/-! ## Values -/

/-- `JSON.stringify` and `JSON.parse` on finite numbers: inverse to each other, but
for the sign of zero. -/
structure NumberText (ν : Type) [DecidableEq ν] where
  zero : ν
  negativeZero : ν
  write : ν → List Char
  read : List Char → Option ν
  unsigned : zero ≠ negativeZero
  write_negativeZero : write negativeZero = write zero
  read_write : ∀ number ≠ negativeZero, read (write number) = some number
  numeric : ∀ number, ∀ c ∈ write number, isNumeric c = true
  inhabited : ∀ number, write number ≠ []

variable {ν : Type} [DecidableEq ν]

/-- The number without the sign of a negative zero. -/
def NumberText.normal (numbers : NumberText ν) (number : ν) : ν :=
  if number = numbers.negativeZero then numbers.zero else number

theorem NumberText.write_normal (numbers : NumberText ν) (number : ν) :
    numbers.write (numbers.normal number) = numbers.write number := by
  unfold normal
  split
  · rename_i negative
    rw [negative, numbers.write_negativeZero]
  · rfl

def NumberText.format (numbers : NumberText ν) : NumberFormat ν where
  write := numbers.write
  read := numbers.read
  normal := numbers.normal
  write_normal := numbers.write_normal
  read_write number := by
    rw [← numbers.write_normal]
    refine numbers.read_write _ ?_
    unfold NumberText.normal
    split
    · exact numbers.unsigned
    · assumption
  numeric := numbers.numeric
  inhabited := numbers.inhabited

/-- A value of the source language, as far as the encoder looks at it. Array slots
may be holes, object properties may be accessors; of symbol keys, of named keys
of an array and of properties that are not enumerable only the number matters.
An object is plain if its prototype is that of object literals, or missing. -/
inductive JsValue (ν : Type) where
  | undefined
  | null
  | boolean (value : Bool)
  | finite (value : ν)
  | nonFinite
  | string (value : Utf16)
  | bigint
  | symbol
  | function
  | array (symbolKeys : Nat) (slots : List (Option (JsValue ν))) (namedKeys : Nat)
  | object (plain : Bool) (symbolKeys hiddenKeys : Nat)
    (properties : List (Utf16 × Option (JsValue ν)))

/-! ## The encoder -/

def assertUnicodeScalarString : Utf16 → Checked Unit
  | [] => .ok ()
  | [unit] =>
    ensure (unit.high = false ∧ unit.low = false)
      "Canonical JSON does not allow lone Unicode surrogates."
  | unit :: next :: rest =>
    if unit.high then
      if next.low then assertUnicodeScalarString rest
      else fail "Canonical JSON does not allow lone Unicode surrogates."
    else if unit.low then fail "Canonical JSON does not allow lone Unicode surrogates."
    else assertUnicodeScalarString (next :: rest)

/-- `keys.sort()`: by code units. -/
def byKey {α : Type} (entry other : Utf16 × α) : Prop := entry.1 ≤ other.1

instance {α : Type} : DecidableRel (byKey (α := α)) := fun entry other =>
  inferInstanceAs (Decidable (entry.1 ≤ other.1))

/-- The values that the loop over the keys refuses by their type. -/
def JsValue.unsupported : JsValue ν → Bool
  | .undefined | .bigint | .symbol | .function => true
  | _ => false

mutual
def canonicalValueText (numbers : NumberText ν) : JsValue ν → Checked (List Char)
  | .null => .ok ['n', 'u', 'l', 'l']
  | .boolean true => .ok ['t', 'r', 'u', 'e']
  | .boolean false => .ok ['f', 'a', 'l', 's', 'e']
  | .string value => do
    assertUnicodeScalarString value
    return quote value
  | .finite value => .ok (numbers.write value)
  | .nonFinite => fail "Canonical JSON does not allow non-finite numbers."
  | .array symbolKeys slots namedKeys => do
    ensure (symbolKeys = 0) "Canonical JSON does not allow symbol keys."
    let entries ← slotTexts numbers slots
    ensure (slots.length + namedKeys = slots.length)
      "Canonical JSON arrays cannot carry named properties."
    return '[' :: (joined entries ++ [']'])
  | .object plain symbolKeys hiddenKeys properties => do
    ensure (plain = true) "Canonical JSON only accepts plain JSON objects."
    ensure (symbolKeys = 0) "Canonical JSON does not allow symbol keys."
    ensure (properties.length + hiddenKeys = properties.length)
      "Canonical JSON objects cannot carry non-enumerable properties."
    checkEach assertUnicodeScalarString (properties.map Prod.fst)
    let entries ← mapEach Prod.snd ((propertyTexts numbers properties).insertionSort byKey)
    return '\x7b' :: (joined entries ++ ['\x7d'])
  | .undefined | .bigint | .symbol | .function =>
    fail "Canonical JSON contains an unsupported value."

/-- The loop over the indices of an array. -/
def slotTexts (numbers : NumberText ν) : List (Option (JsValue ν)) → Checked (List (List Char))
  | [] => .ok []
  | none :: _ => fail "Canonical JSON does not allow sparse arrays."
  | some value :: rest => do
    let text ← canonicalValueText numbers value
    let texts ← slotTexts numbers rest
    return text :: texts

/-- What the loop over the keys makes of each property. -/
def propertyTexts (numbers : NumberText ν) :
    List (Utf16 × Option (JsValue ν)) → List (Utf16 × Checked (List Char))
  | [] => []
  | (key, none) :: rest =>
    (key, fail "Canonical JSON objects cannot carry accessor properties.") ::
      propertyTexts numbers rest
  | (key, some value) :: rest =>
    (key,
      if value.unsupported then fail "Canonical JSON contains an unsupported value."
      else (fun text => quote key ++ ':' :: text) <$> canonicalValueText numbers value) ::
      propertyTexts numbers rest
end

def canonicalJsonText (numbers : NumberText ν) (value : JsValue ν) : Checked String :=
  String.ofList <$> canonicalValueText numbers value

/-- `Buffer.from(text, 'utf8')`. -/
def canonicalJsonBytes (numbers : NumberText ν) (value : JsValue ν) : Checked ByteArray :=
  String.toByteArray <$> canonicalJsonText numbers value

/-! ## Reading -/

/-- A property is defined: a repeated key keeps its place and takes the new value. -/
def setProperty (properties : List (Utf16 × Option (JsValue ν))) (key : Utf16) (value : JsValue ν) :
    List (Utf16 × Option (JsValue ν)) :=
  if key ∈ properties.map Prod.fst then
    properties.map fun entry => if entry.1 = key then (key, some value) else entry
  else properties ++ [(key, some value)]

mutual
/-- The value that `JSON.parse` builds. -/
def JsValue.ofTree : JsonText.Tree ν → JsValue ν
  | .null => .null
  | .bool value => .boolean value
  | .number value => .finite value
  | .string value => .string value
  | .array items => .array 0 (slotsOf items) 0
  | .object members => .object true 0 0 (propertiesOf members [])

def slotsOf : List (JsonText.Tree ν) → List (Option (JsValue ν))
  | [] => []
  | item :: rest => some (.ofTree item) :: slotsOf rest

def propertiesOf : List (Utf16 × JsonText.Tree ν) → List (Utf16 × Option (JsValue ν)) →
    List (Utf16 × Option (JsValue ν))
  | [], properties => properties
  | (key, value) :: rest, properties => propertiesOf rest (setProperty properties key (.ofTree value))
end

def parseJsonText (numbers : NumberText ν) (raw : String) : Checked (JsValue ν) :=
  match read numbers.format raw.toList with
  | none => .error (.runtime "SyntaxError: JSON.parse")
  | some tree => .ok (.ofTree tree)

/-- `bytes.toString('utf8')`: whatever it makes of other bytes, it undoes the encoding. -/
structure TextDecoder where
  decode : ByteArray → String
  decode_encode : ∀ text : String, decode text.toByteArray = text

/-- What `lstatSync` and `readFileSync` say of a file. -/
structure PhysicalFile where
  isFile : Bool
  isSymbolicLink : Bool
  bytes : ByteArray

def readPhysicalCanonicalJson (numbers : NumberText ν) (decoder : TextDecoder) (file : PhysicalFile)
    (label : String) : Checked (JsValue ν) := do
  ensure (file.isFile = true ∧ file.isSymbolicLink = false) s!"{label} must be a physical JSON file."
  let value ← parseJsonText numbers (decoder.decode file.bytes)
  let canonical ← canonicalJsonBytes numbers value
  ensure (file.bytes = canonical) s!"{label} is not canonical JSON."
  return value

/-! ## JSON values -/

mutual
/-- What the encoder accepts. -/
def JsValue.IsJson : JsValue ν → Prop
  | .null | .boolean _ | .finite _ => True
  | .string value => assertUnicodeScalarString value = .ok ()
  | .array symbolKeys slots namedKeys => symbolKeys = 0 ∧ namedKeys = 0 ∧ SlotsJson slots
  | .object plain symbolKeys hiddenKeys properties =>
    plain = true ∧ symbolKeys = 0 ∧ hiddenKeys = 0 ∧
      (∀ key ∈ properties.map Prod.fst, assertUnicodeScalarString key = .ok ()) ∧
      PropertiesJson properties
  | .undefined | .nonFinite | .bigint | .symbol | .function => False

def SlotsJson : List (Option (JsValue ν)) → Prop
  | [] => True
  | none :: _ => False
  | some value :: rest => value.IsJson ∧ SlotsJson rest

def PropertiesJson : List (Utf16 × Option (JsValue ν)) → Prop
  | [] => True
  | (_, none) :: _ => False
  | (_, some value) :: rest => value.IsJson ∧ PropertiesJson rest
end

mutual
/-- No object has a key twice. -/
def JsValue.Distinct : JsValue ν → Prop
  | .array _ slots _ => SlotsDistinct slots
  | .object _ _ _ properties => (properties.map Prod.fst).Nodup ∧ PropertiesDistinct properties
  | _ => True

def SlotsDistinct : List (Option (JsValue ν)) → Prop
  | [] => True
  | none :: rest => SlotsDistinct rest
  | some value :: rest => value.Distinct ∧ SlotsDistinct rest

def PropertiesDistinct : List (Utf16 × Option (JsValue ν)) → Prop
  | [] => True
  | (_, none) :: rest => PropertiesDistinct rest
  | (_, some value) :: rest => value.Distinct ∧ PropertiesDistinct rest
end

/-! Equality up to the order of keys and the sign of zero. -/

mutual
inductive Same (numbers : NumberText ν) : JsValue ν → JsValue ν → Prop where
  | null : Same numbers .null .null
  | boolean (value : Bool) : Same numbers (.boolean value) (.boolean value)
  | finite {value other : ν} : numbers.normal value = numbers.normal other →
    Same numbers (.finite value) (.finite other)
  | string (value : Utf16) : Same numbers (.string value) (.string value)
  | array {slots others : List (Option (JsValue ν))} : SameSlots numbers slots others →
    Same numbers (.array 0 slots 0) (.array 0 others 0)
  | object {properties others permuted : List (Utf16 × Option (JsValue ν))} :
    others.Perm permuted → SameProperties numbers properties permuted →
    Same numbers (.object true 0 0 properties) (.object true 0 0 others)

inductive SameSlots (numbers : NumberText ν) :
    List (Option (JsValue ν)) → List (Option (JsValue ν)) → Prop where
  | nil : SameSlots numbers [] []
  | cons {value other : JsValue ν} {rest others : List (Option (JsValue ν))} :
    Same numbers value other → SameSlots numbers rest others →
    SameSlots numbers (some value :: rest) (some other :: others)

inductive SameProperties (numbers : NumberText ν) :
    List (Utf16 × Option (JsValue ν)) → List (Utf16 × Option (JsValue ν)) → Prop where
  | nil : SameProperties numbers [] []
  | cons {key : Utf16} {value other : JsValue ν} {rest others : List (Utf16 × Option (JsValue ν))} :
    Same numbers value other → SameProperties numbers rest others →
    SameProperties numbers ((key, some value) :: rest) ((key, some other) :: others)
end

end OnePersonLab.Contract
