import OnePersonLab.Contract.Json

/-!
# Evaluation by characters

A string literal is decoded character by character, which is slow to evaluate.
The characters of a literal are however at hand where it is taken to be
`String.ofList` of them, and the functions below compute from there.
-/

namespace OnePersonLab.Contract

/-- Strings and the characters they are made of. -/
inductive Spelled : List String → List (List Char) → Prop where
  | nil : Spelled [] []
  | cons {texts : List String} {spellings : List (List Char)} (spelling : List Char) :
      Spelled texts spellings → Spelled (String.ofList spelling :: texts) (spelling :: spellings)

namespace Spelled

variable {texts : List String} {spellings : List (List Char)}

theorem mem_iff (spelled : Spelled texts spellings) (text : List Char) :
    String.ofList text ∈ texts ↔ text ∈ spellings := by
  induction spelled with
  | nil => simp
  | cons spelling _ ih => simp [ih, String.ofList_inj]

/-- A property of every text, from one of every spelling. -/
theorem forall_mem (spelled : Spelled texts spellings) {property : String → Prop}
    {check : List Char → Bool} (sound : ∀ text, check text = true → property (String.ofList text))
    (checked : spellings.all check = true) : ∀ text ∈ texts, property text := by
  induction spelled with
  | nil => exact List.forall_mem_nil _
  | cons spelling _ ih =>
    simp only [List.all_cons, Bool.and_eq_true] at checked
    exact List.forall_mem_cons.2 ⟨sound _ checked.1, ih checked.2⟩

end Spelled

@[simp] theorem trim_ofList (text : List Char) :
    trim (String.ofList text) = String.ofList (trimChars text) := by simp [trim]

theorem startsWith_ofList (text pattern : List Char) :
    startsWith (String.ofList text) (String.ofList pattern) = pattern.isPrefixOf text := by
  simp [startsWith]

def forbiddenSpellings : { spellings // Spelled forbiddenFieldNames spellings } :=
  ⟨_, by unfold forbiddenFieldNames; repeat' constructor⟩

/-- `forbiddenField` on the characters of a name. -/
def forbiddenName (name : List Char) : Bool :=
  let normalized := ((splitCamelCase name).map fun c => if c = '-' then '_' else c).map lowerChar
  forbiddenSpellings.1.contains normalized ||
    (splitChars '_' normalized).contains ['a', 't', 't', 'e', 'm', 'p', 't']

theorem forbiddenField_ofList (name : List Char) :
    forbiddenField (String.ofList name) = forbiddenName name := by
  have word (parts : List (List Char)) : (parts.map String.ofList).contains "attempt" =
      parts.contains ['a', 't', 't', 'e', 'm', 'p', 't'] := by
    rw [show "attempt" = String.ofList ['a', 't', 't', 'e', 'm', 'p', 't'] from rfl]
    simp only [List.contains_eq_mem, List.mem_map, String.ofList_inj, exists_eq_right]
  simp only [forbiddenField, forbiddenName, normalizedKey, toLowerCase, split,
    characters_eq_toList, String.toList_ofList, word]
  simp only [List.contains_eq_mem, forbiddenSpellings.2.mem_iff]

/-- `cleanText` on the characters of a text. -/
def cleanChars (text : List Char) : Bool :=
  let trimmed := trimChars text
  !(['/'].isPrefixOf trimmed || ['.', '/'].isPrefixOf trimmed || ['.', '.', '/'].isPrefixOf trimmed ||
      ['f', 'i', 'l', 'e', ':'].isPrefixOf trimmed ||
      match trimmed with
      | drive :: ':' :: slash :: _ => drive.isAlpha && (slash == '\\' || slash == '/')
      | _ => false) &&
    !(['a', 't', 't', 'e', 'm', 'p', 't', ':'].isPrefixOf (trimmed.map lowerChar))

theorem cleanText_ofList (text : List Char) : cleanText (String.ofList text) = cleanChars text := by
  simp only [cleanText, cleanChars, looksLikePhysicalPath, trim_ofList, toLowerCase,
    characters_eq_toList, String.toList_ofList]
  rw [show "/" = String.ofList ['/'] from rfl, show "./" = String.ofList ['.', '/'] from rfl,
    show "../" = String.ofList ['.', '.', '/'] from rfl,
    show "file:" = String.ofList ['f', 'i', 'l', 'e', ':'] from rfl,
    show "attempt:" = String.ofList ['a', 't', 't', 'e', 'm', 'p', 't', ':'] from rfl]
  simp only [startsWith_ofList] <;> rfl

/-- A closed value is pure when its names and texts are, character by character. -/
theorem scanForbidden_of_spelled {value : Json} {names texts : List (List Char)}
    (named : Spelled value.fieldNames names) (spelled : Spelled value.texts texts)
    (permitted : names.all (fun name => !forbiddenName name) = true)
    (clean : texts.all cleanChars = true) (path : List String) : scanForbidden value path = [] :=
  scanForbidden_of_clean value
    ⟨named.forall_mem (fun name free => by
        simpa [forbiddenField_ofList] using free) permitted,
      spelled.forall_mem (fun text free => (cleanText_ofList text).trans free) clean⟩ path

end OnePersonLab.Contract
