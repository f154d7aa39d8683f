import OnePersonLab.Lib.Utf16

/-!
# Text as bytes

The UTF-8 form of a text of code units, in which a lone surrogate becomes the replacement
character, and the decoder that refuses other bytes and drops a byte order mark. Encoding
what was decoded gives the bytes behind the mark.
-/

namespace OnePersonLab.Lib

/-- The characters of a text; a lone surrogate is the replacement character. -/
def scalarsOf : Utf16 → List Char
  | [] => []
  | [unit] => [if unit.high || unit.low then '\ufffd' else unit.char]
  | first :: second :: rest =>
    if first.high && second.low then CodeUnit.pair first second :: scalarsOf rest
    else (if first.high || first.low then '\ufffd' else first.char) :: scalarsOf (second :: rest)

theorem scalarsOf_unitsOfChar (c : Char) (rest : Utf16) :
    scalarsOf (unitsOfChar c ++ rest) = c :: scalarsOf rest := by
  obtain ⟨unit, high, low, units, char⟩ | ⟨first, second, high, low, units, char⟩ :=
    unitsOfChar_cases c
  · rw [units, List.singleton_append]
    cases rest with
    | nil => simp [scalarsOf, high, low, char]
    | cons next rest => simp [scalarsOf, high, low, char]
  · rw [units, List.cons_append, List.singleton_append, scalarsOf, high, low, char]
    rfl

theorem scalarsOf_unitsOf (text : String) : scalarsOf (unitsOf text) = text.toList := by
  unfold unitsOf
  induction text.toList with
  | nil => rfl
  | cons c rest ih => rw [List.flatMap_cons, scalarsOf_unitsOfChar, ih]

def byteOrderMark : List UInt8 := [0xEF, 0xBB, 0xBF]

/-- The bytes behind the mark, if there is one. -/
def dropMark (bytes : List UInt8) : List UInt8 :=
  if byteOrderMark <+: bytes then bytes.drop 3 else bytes

theorem length_dropMark (bytes : List UInt8) :
    (dropMark bytes).length = bytes.length ↔ ¬ byteOrderMark <+: bytes := by
  unfold dropMark
  by_cases marked : byteOrderMark <+: bytes
  · have three : 3 ≤ bytes.length := marked.length_le
    rw [if_pos marked, List.length_drop]
    exact iff_of_false (by omega) (not_not.2 marked)
  · rw [if_neg marked]
    exact iff_of_true rfl marked

def encodeUtf8 (text : Utf16) : List UInt8 :=
  (String.ofList (scalarsOf text)).toByteArray.data.toList

/-- The text of some bytes, unless they are malformed. -/
def decodeUtf8 (bytes : List UInt8) : Option Utf16 :=
  (String.fromUTF8? ⟨(dropMark bytes).toArray⟩).map unitsOf

theorem encodeUtf8_unitsOf (text : String) :
    encodeUtf8 (unitsOf text) = text.toByteArray.data.toList := by
  rw [encodeUtf8, scalarsOf_unitsOf, String.ofList_toList]

theorem encodeUtf8_decodeUtf8 {bytes : List UInt8} {text : Utf16}
    (decoded : decodeUtf8 bytes = some text) : encodeUtf8 text = dropMark bytes := by
  obtain ⟨content, read, rfl⟩ := Option.map_eq_some_iff.1 decoded
  rw [encodeUtf8_unitsOf]
  unfold String.fromUTF8? at read
  split at read
  · cases read
    rfl
  · cases read

end OnePersonLab.Lib
