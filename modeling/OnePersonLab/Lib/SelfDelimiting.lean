import Mathlib.Data.List.Basic

/-!
# Codes that show where a word ends

A code is self-delimiting when no text starts with the words of two values. Words that are written
one after another can then be told apart, and letters that are encoded so keep words apart.
-/

namespace OnePersonLab.Lib

variable {α β : Type}

/-- The value and what follows its word are both determined by the text. -/
def SelfDelimiting (code : α → List β) : Prop :=
  ∀ value other rest rest', code value ++ rest = code other ++ rest' → value = other ∧ rest = rest'

/-- Neither text goes on from the other. -/
def Apart (text other : List α) : Prop :=
  ∀ rest rest', text ++ rest = other ++ rest' → text = other ∧ rest = rest'

theorem SelfDelimiting.flatMap_injective {code : α → List β} (delimited : SelfDelimiting code)
    (filled : ∀ value, code value ≠ []) :
    ∀ {values others : List α}, values.flatMap code = others.flatMap code → values = others := by
  intro values
  induction values with
  | nil =>
    intro others same
    cases others with
    | nil => rfl
    | cons other others =>
      rw [List.flatMap_nil, List.flatMap_cons] at same
      exact absurd (List.append_eq_nil_iff.1 same.symm).1 (filled other)
  | cons value values ih =>
    intro others same
    cases others with
    | nil =>
      rw [List.flatMap_nil, List.flatMap_cons] at same
      exact absurd (List.append_eq_nil_iff.1 same).1 (filled value)
    | cons other others =>
      rw [List.flatMap_cons, List.flatMap_cons] at same
      obtain ⟨rfl, rest⟩ := delimited _ _ _ _ same
      rw [ih rest]

/-- Texts stay apart when each letter is written as a word of a self-delimiting code. -/
theorem SelfDelimiting.apart {code : α → List β} (delimited : SelfDelimiting code) :
    ∀ {text other : List α}, Apart text other →
      ∀ rest rest', text.flatMap code ++ rest = other.flatMap code ++ rest' →
        text = other ∧ rest = rest' := by
  intro text
  induction text with
  | nil =>
    intro other apart rest rest' same
    obtain ⟨rfl, _⟩ := apart other [] (List.append_nil other).symm
    exact ⟨rfl, same⟩
  | cons letter text ih =>
    intro other apart rest rest' same
    cases other with
    | nil =>
      obtain ⟨none, _⟩ := apart [] (letter :: text) (List.append_nil _)
      cases none
    | cons letter' other =>
      rw [List.flatMap_cons, List.flatMap_cons, List.append_assoc, List.append_assoc] at same
      obtain ⟨rfl, onward⟩ := delimited _ _ _ _ same
      have apartRest : Apart text other := by
        intro more more' whole
        obtain ⟨same, rest⟩ := apart more more' (congrArg (List.cons letter) whole)
        exact ⟨List.tail_eq_of_cons_eq same, rest⟩
      obtain ⟨rfl, rest⟩ := ih apartRest rest rest' onward
      exact ⟨rfl, rest⟩

/-! ## Characters -/

theorem utf8EncodeChar_ne_nil (c : Char) : String.utf8EncodeChar c ≠ [] := by
  intro none
  have length := String.length_utf8EncodeChar c
  rw [none] at length
  exact absurd length (Nat.ne_of_lt (Char.utf8Size_pos c))

/-- A character is read off the front of its bytes. -/
theorem utf8_selfDelimiting : SelfDelimiting String.utf8EncodeChar := by
  intro c d rest rest' same
  have read (c : Char) (rest : List UInt8) :
      ByteArray.utf8DecodeChar? (String.utf8EncodeChar c ++ rest).toByteArray 0 = some c := by
    rw [List.toByteArray_append]
    exact ByteArray.utf8DecodeChar?_utf8EncodeChar_append
  have first := read c rest
  rw [same, read] at first
  obtain rfl := Option.some.inj first
  exact ⟨rfl, List.append_cancel_left same⟩

end OnePersonLab.Lib
