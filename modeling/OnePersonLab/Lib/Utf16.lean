import Mathlib.Data.Fin.Basic
import Mathlib.Data.String.Basic

/-!
# Text as UTF-16 code units

A string of the source language is a list of code units. A character is one unit
or a surrogate pair; surrogates may also stand alone.
-/

namespace OnePersonLab.Lib

abbrev CodeUnit := Fin 0x10000

/-- A string of the source language. -/
abbrev Utf16 := List CodeUnit

namespace CodeUnit

def high (unit : CodeUnit) : Bool := 0xd800 ≤ unit.val && unit.val ≤ 0xdbff

def low (unit : CodeUnit) : Bool := 0xdc00 ≤ unit.val && unit.val ≤ 0xdfff

def ofNat (value : Nat) : CodeUnit := Fin.ofNat 0x10000 value

/-- The character of a unit that is no surrogate. -/
def char (unit : CodeUnit) : Char := Char.ofNat unit.val

/-- The character of a surrogate pair. -/
def pair (first second : CodeUnit) : Char :=
  Char.ofNat (0x10000 + (first.val - 0xd800) * 0x400 + (second.val - 0xdc00))

theorem high_iff {unit : CodeUnit} : unit.high = true ↔ 0xd800 ≤ unit.val ∧ unit.val ≤ 0xdbff := by
  simp [high]

theorem low_iff {unit : CodeUnit} : unit.low = true ↔ 0xdc00 ≤ unit.val ∧ unit.val ≤ 0xdfff := by
  simp [low]

theorem toNat_char {unit : CodeUnit} (scalar : unit.high = false ∧ unit.low = false) :
    unit.char.toNat = unit.val := by
  have high := high_iff.not.1 (Bool.eq_false_iff.1 scalar.1)
  have low := low_iff.not.1 (Bool.eq_false_iff.1 scalar.2)
  have valid : unit.val.isValidChar := by
    have := unit.isLt
    simp only [Nat.isValidChar]
    omega
  rw [char, Char.ofNat, dif_pos valid]
  rfl

theorem toNat_pair {first second : CodeUnit} (high : first.high = true) (low : second.low = true) :
    (pair first second).toNat =
      0x10000 + (first.val - 0xd800) * 0x400 + (second.val - 0xdc00) := by
  rw [high_iff] at high
  rw [low_iff] at low
  have valid : (0x10000 + (first.val - 0xd800) * 0x400 + (second.val - 0xdc00)).isValidChar := by
    simp only [Nat.isValidChar]
    omega
  rw [pair, Char.ofNat, dif_pos valid]
  rfl

end CodeUnit

/-- The code units of a character. -/
def unitsOfChar (c : Char) : Utf16 :=
  if c.toNat < 0x10000 then [.ofNat c.toNat]
  else [.ofNat (0xd800 + (c.toNat - 0x10000) / 0x400), .ofNat (0xdc00 + (c.toNat - 0x10000) % 0x400)]

theorem unitsOfChar_char {unit : CodeUnit} (scalar : unit.high = false ∧ unit.low = false) :
    unitsOfChar unit.char = [unit] := by
  have small := unit.isLt
  simp only [unitsOfChar, CodeUnit.toNat_char scalar, if_pos small]
  simp [CodeUnit.ofNat]

theorem unitsOfChar_pair {first second : CodeUnit} (high : first.high = true)
    (low : second.low = true) : unitsOfChar (CodeUnit.pair first second) = [first, second] := by
  have joined := CodeUnit.toNat_pair high low
  rw [CodeUnit.high_iff] at high
  rw [CodeUnit.low_iff] at low
  have large : ¬ (CodeUnit.pair first second).toNat < 0x10000 := by omega
  have split : (CodeUnit.pair first second).toNat - 0x10000 =
      (first.val - 0xd800) * 0x400 + (second.val - 0xdc00) := by omega
  have first_eq : CodeUnit.ofNat (0xd800 + ((first.val - 0xd800) * 0x400 + (second.val - 0xdc00)) /
      0x400) = first := by
    apply Fin.ext
    simp only [CodeUnit.ofNat, Fin.val_ofNat]
    omega
  have second_eq : CodeUnit.ofNat (0xdc00 + ((first.val - 0xd800) * 0x400 + (second.val - 0xdc00)) %
      0x400) = second := by
    apply Fin.ext
    simp only [CodeUnit.ofNat, Fin.val_ofNat]
    omega
  rw [unitsOfChar, if_neg large, split, first_eq, second_eq]

/-- The code units of a text. -/
def unitsOf (text : String) : Utf16 := text.toList.flatMap unitsOfChar

/-- The characters of well-formed code units; a lone surrogate is lost. -/
def charsOf : Utf16 → List Char
  | [] => []
  | [unit] => [unit.char]
  | first :: second :: rest =>
    if first.high && second.low then CodeUnit.pair first second :: charsOf rest
    else first.char :: charsOf (second :: rest)

theorem charsOf_cons {unit : CodeUnit} (notHigh : unit.high = false) (rest : Utf16) :
    charsOf (unit :: rest) = unit.char :: charsOf rest := by
  cases rest with
  | nil => rfl
  | cons second rest => simp [charsOf, notHigh]

/-- A character is a unit that is no surrogate, or a surrogate pair. -/
theorem unitsOfChar_cases (c : Char) :
    (∃ unit : CodeUnit, unit.high = false ∧ unit.low = false ∧ unitsOfChar c = [unit] ∧
      unit.char = c) ∨
    (∃ first second : CodeUnit, first.high = true ∧ second.low = true ∧
      unitsOfChar c = [first, second] ∧ CodeUnit.pair first second = c) := by
  have valid : c.toNat < 0xd800 ∨ 0xdfff < c.toNat ∧ c.toNat < 0x110000 := c.valid
  by_cases small : c.toNat < 0x10000
  · have value : (CodeUnit.ofNat c.toNat).val = c.toNat := Nat.mod_eq_of_lt small
    refine .inl ⟨.ofNat c.toNat, ?_, ?_, if_pos small, ?_⟩
    · rw [Bool.eq_false_iff, Ne, CodeUnit.high_iff]
      omega
    · rw [Bool.eq_false_iff, Ne, CodeUnit.low_iff]
      omega
    · rw [CodeUnit.char, value, Char.ofNat_toNat]
  · have first : (CodeUnit.ofNat (0xd800 + (c.toNat - 0x10000) / 0x400)).val =
        0xd800 + (c.toNat - 0x10000) / 0x400 := Nat.mod_eq_of_lt (by omega)
    have second : (CodeUnit.ofNat (0xdc00 + (c.toNat - 0x10000) % 0x400)).val =
        0xdc00 + (c.toNat - 0x10000) % 0x400 := Nat.mod_eq_of_lt (by omega)
    have whole : 0x10000 + ((0xd800 + (c.toNat - 0x10000) / 0x400) - 0xd800) * 0x400 +
        ((0xdc00 + (c.toNat - 0x10000) % 0x400) - 0xdc00) = c.toNat := by omega
    refine .inr ⟨.ofNat (0xd800 + (c.toNat - 0x10000) / 0x400),
      .ofNat (0xdc00 + (c.toNat - 0x10000) % 0x400), ?_, ?_, if_neg small, ?_⟩
    · rw [CodeUnit.high_iff]
      omega
    · rw [CodeUnit.low_iff]
      omega
    · rw [CodeUnit.pair, first, second, whole, Char.ofNat_toNat]

theorem charsOf_unitsOfChar (c : Char) (rest : Utf16) :
    charsOf (unitsOfChar c ++ rest) = c :: charsOf rest := by
  obtain ⟨unit, notHigh, -, units, char⟩ | ⟨first, second, high, low, units, char⟩ :=
    unitsOfChar_cases c
  · rw [units, List.singleton_append, charsOf_cons notHigh, char]
  · rw [units, List.cons_append, List.singleton_append, charsOf, high, low, char]
    rfl

theorem charsOf_unitsOf (text : String) : charsOf (unitsOf text) = text.toList := by
  unfold unitsOf
  induction text.toList with
  | nil => rfl
  | cons c rest ih => rw [List.flatMap_cons, charsOf_unitsOfChar, ih]

theorem unitsOf_injective : Function.Injective unitsOf := fun text other same =>
  String.toList_injective (by rw [← charsOf_unitsOf, same, charsOf_unitsOf])

end OnePersonLab.Lib
