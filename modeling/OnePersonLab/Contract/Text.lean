import Mathlib.Data.List.TakeWhile
import Mathlib.Data.String.Basic

/-!
# Text operations of the contract validators

The JavaScript string methods that the validators call, over the characters of
a string. Every function is structurally recursive, so a closed instance
evaluates.
-/

namespace OnePersonLab.Contract

def bytes (text : String) : List UInt8 := text.toByteArray.data.toList

/-- `String.toList`, read off the bytes where every byte is a character: that
evaluates faster than decoding. -/
def characters (text : String) : List Char :=
  if (bytes text).all (· < 128) then (bytes text).map fun byte => Char.ofNat byte.toNat
  else text.toList

variable {c : Char} {text : List Char}

theorem bytes_ofList (text : List Char) :
    bytes (String.ofList text) = text.flatMap String.utf8EncodeChar := by
  simp [bytes, List.utf8Encode]

/-- A character of more than one byte has none below 128. -/
theorem encoded_of_small (small : (String.utf8EncodeChar c).all (· < 128) = true) :
    String.utf8EncodeChar c = [UInt8.ofNat c.toNat] ∧ c.toNat < 128 := by
  by_cases ascii : c.val.toNat ≤ 0x7f
  · exact ⟨if_pos ascii, Nat.lt_succ_of_le ascii⟩
  · exfalso
    simp only [String.utf8EncodeChar, ascii, if_false] at small
    split at small
    · simp [UInt8.lt_iff_toNat_lt] at small
      omega
    · split at small
      all_goals
        simp [UInt8.lt_iff_toNat_lt] at small
        omega

@[simp] theorem characters_eq_toList (text : String) : characters text = text.toList := by
  obtain ⟨text, rfl⟩ : ∃ chars, text = String.ofList chars := ⟨text.toList, by simp⟩
  simp only [characters, bytes_ofList, String.toList_ofList, ite_eq_right_iff]
  intro small
  induction text with
  | nil => rfl
  | cons c rest ih =>
    simp only [List.flatMap_cons, List.all_append, Bool.and_eq_true] at small
    obtain ⟨encoded, ascii⟩ := encoded_of_small small.1
    have kept : (UInt8.ofNat c.toNat).toNat = c.toNat := by simp; omega
    simp [encoded, ih small.2, kept]

/-- The white space and line terminators that `String.prototype.trim` removes. -/
def isTrimmed (c : Char) : Bool :=
  [0x09, 0x0a, 0x0b, 0x0c, 0x0d, 0x20, 0xa0, 0x1680, 0x2000, 0x2001, 0x2002, 0x2003, 0x2004,
    0x2005, 0x2006, 0x2007, 0x2008, 0x2009, 0x200a, 0x2028, 0x2029, 0x202f, 0x205f, 0x3000,
    0xfeff].contains c.toNat

def trimChars (text : List Char) : List Char :=
  ((text.dropWhile isTrimmed).reverse.dropWhile isTrimmed).reverse

def trim (text : String) : String := String.ofList (trimChars (characters text))

/-- `value?.trim() || null`. -/
def trimmedText (value : Option String) : Option String :=
  (value.map trim).filter (· ≠ "")

def startsWith (text pattern : String) : Bool := (characters pattern).isPrefixOf (characters text)

def endsWith (text pattern : String) : Bool := (characters pattern).isSuffixOf (characters text)

/-- Lower case as far as it can produce an ASCII letter: `A` to `Z`, and the
Kelvin sign. The forbidden names it is compared with are ASCII. -/
def lowerChar (c : Char) : Char :=
  if 'A' ≤ c ∧ c ≤ 'Z' then Char.ofNat (c.toNat + 32)
  else if c.toNat = 0x212a then 'k'
  else c

def toLowerCase (text : String) : String := String.ofList ((characters text).map lowerChar)

def splitChars (separator : Char) : List Char → List (List Char)
  | [] => [[]]
  | c :: rest =>
    if c = separator then [] :: splitChars separator rest
    else
      match splitChars separator rest with
      | [] => [[c]]
      | part :: parts => (c :: part) :: parts

def split (text : String) (separator : Char) : List String :=
  (splitChars separator (characters text)).map String.ofList

def isLowerHex (c : Char) : Bool := ('0' ≤ c && c ≤ '9') || ('a' ≤ c && c ≤ 'f')

/-- The pattern `sha256:` followed by 64 lower-case hexadecimal digits. -/
def isSha256Digest (text : String) : Bool :=
  startsWith text "sha256:" &&
    ((characters text).drop 7).length == 64 && ((characters text).drop 7).all isLowerHex

/-- The pattern `opl-content://sha256/` followed by 64 lower-case hexadecimal digits. -/
def isContentRef (text : String) : Bool :=
  startsWith text "opl-content://sha256/" &&
    ((characters text).drop 21).length == 64 && ((characters text).drop 21).all isLowerHex

@[simp] theorem toList_trim (text : String) : (trim text).toList = trimChars text.toList := by
  simp [trim]

theorem trimChars_of_bounds (first : ∀ c ∈ text.head?, isTrimmed c = false)
    (last : ∀ c ∈ text.getLast?, isTrimmed c = false) : trimChars text = text := by
  have front : text.dropWhile isTrimmed = text := by
    cases text with
    | nil => rfl
    | cons c rest => simp [first c (by simp)]
  have back : text.reverse.dropWhile isTrimmed = text.reverse := by
    cases reversed : text.reverse with
    | nil => rfl
    | cons c rest =>
      have : c ∈ text.getLast? := by
        rw [← List.head?_reverse, reversed]; simp
      simp [last c this]
  simp [trimChars, front, back]

theorem isTrimmed_head?_dropWhile (opens : (text.dropWhile isTrimmed).head? = some c) :
    isTrimmed c = false := by
  have solid := List.head?_dropWhile_not isTrimmed text
  rwa [opens] at solid

theorem trimChars_trimChars (text : List Char) : trimChars (trimChars text) = trimChars text := by
  refine trimChars_of_bounds ?_ ?_
  · intro c opens
    -- cutting the end keeps the first character
    obtain ⟨rest, whole⟩ : trimChars text <+: text.dropWhile isTrimmed := by
      have cut := List.dropWhile_suffix isTrimmed (l := (text.dropWhile isTrimmed).reverse)
      simpa [trimChars] using List.reverse_prefix.2 cut
    have front : (text.dropWhile isTrimmed).head? = some c := by
      rw [← whole, List.head?_append, Option.mem_def.1 opens, Option.some_or]
    exact isTrimmed_head?_dropWhile front
  · intro c ends
    rw [trimChars, List.getLast?_reverse] at ends
    exact isTrimmed_head?_dropWhile ends

@[simp] theorem trim_trim (text : String) : trim (trim text) = trim text := by
  apply String.toList_injective
  simp [trimChars_trimChars]

theorem isTrimmed_of_isLowerHex (hex : isLowerHex c = true) : isTrimmed c = false := by
  have low : 48 ≤ c.toNat := by
    simp only [isLowerHex, Bool.or_eq_true, Bool.and_eq_true, decide_eq_true_eq] at hex
    rcases hex with ⟨h, _⟩ | ⟨h, _⟩
    · exact h
    · exact le_trans (by decide) (show ('a' : Char).toNat ≤ c.toNat from h)
  have high : c.toNat ≤ 102 := by
    simp only [isLowerHex, Bool.or_eq_true, Bool.and_eq_true, decide_eq_true_eq] at hex
    rcases hex with ⟨_, h⟩ | ⟨_, h⟩
    · exact le_trans (show c.toNat ≤ ('9' : Char).toNat from h) (by decide)
    · exact h
  simp only [isTrimmed, List.contains_eq_any_beq, List.any_cons, List.any_nil, Bool.or_false,
    Bool.or_eq_false_iff, beq_eq_false_iff_ne]
  omega

/-- A digest pattern leaves no white space at either end: the first character is
one of the fixed front, the last one is a hexadecimal digit. -/
theorem trim_of_front_and_hex {text front : String} {rest : List Char}
    (opens : front.toList = c :: rest) (solid : isTrimmed c = false)
    (leads : startsWith text front = true) (filled : text.toList.drop front.toList.length ≠ [])
    (hex : (text.toList.drop front.toList.length).all isLowerHex = true) : trim text = text := by
  obtain ⟨tail, shape⟩ := List.isPrefixOf_iff_prefix.mp leads
  simp only [characters_eq_toList] at shape
  have dropped : text.toList.drop front.toList.length = tail := by
    rw [← shape, List.drop_left]
  rw [dropped] at filled hex
  have ends := List.getLast?_eq_some_getLast filled
  have unchanged : trimChars text.toList = text.toList := by
    apply trimChars_of_bounds
    · rw [← shape, opens]; simpa using solid
    · rw [← shape, List.getLast?_append_of_ne_nil _ filled, ends]
      intro last found
      simp only [Option.mem_def, Option.some.injEq] at found
      exact found ▸ isTrimmed_of_isLowerHex
        (List.all_eq_true.mp hex _ (List.getLast_mem filled))
  rw [trim, characters_eq_toList, unchanged, String.ofList_toList]

theorem trim_of_isSha256Digest {text : String} (digest : isSha256Digest text = true) :
    trim text = text := by
  simp only [isSha256Digest, characters_eq_toList, Bool.and_eq_true, beq_iff_eq] at digest
  obtain ⟨⟨leads, length⟩, hex⟩ := digest
  have opens : "sha256:".toList = 's' :: "ha256:".toList := by decide
  exact trim_of_front_and_hex opens (by decide) leads
    (by intro empty; rw [show "sha256:".toList.length = 7 from rfl] at empty; simp [empty] at length)
    hex

/-! ## Texts made of parts -/

theorem isTrimmed_getLast?_trimChars (ends : (trimChars text).getLast? = some c) :
    isTrimmed c = false := by
  rw [trimChars, List.getLast?_reverse] at ends
  exact isTrimmed_head?_dropWhile ends

/-- Trimmed text behind a solid character stays trimmed. -/
theorem trim_append {front back : String} {rest : List Char} (opens : front.toList = c :: rest)
    (solid : isTrimmed c = false) (trimmed : trim back = back) (inhabited : back ≠ "") :
    trim (front ++ back) = front ++ back := by
  apply String.toList_injective
  rw [toList_trim, String.toList_append]
  have filled : back.toList ≠ [] := fun empty => inhabited (String.toList_eq_nil_iff.1 empty)
  apply trimChars_of_bounds
  · rw [opens]
    simpa using solid
  · intro last ends
    rw [List.getLast?_append_of_ne_nil _ filled, ← trimmed, toList_trim] at ends
    exact isTrimmed_getLast?_trimChars ends

theorem isDigit_of_mem_toString {n : Nat} (listed : c ∈ (toString n).toList) :
    c.isDigit = true := by
  rw [Nat.toString_eq_ofList_toDigits, String.toList_ofList] at listed
  exact Nat.isDigit_of_mem_toDigits (by decide) (by decide) listed

theorem isTrimmed_of_isDigit (digit : c.isDigit = true) : isTrimmed c = false := by
  refine isTrimmed_of_isLowerHex ?_
  simp only [Char.isDigit, Bool.and_eq_true, decide_eq_true_eq] at digit
  simp only [isLowerHex, Bool.or_eq_true, Bool.and_eq_true, decide_eq_true_eq]
  exact .inl digit

theorem trim_toString (n : Nat) : trim (toString n) = toString n := by
  apply String.toList_injective
  rw [toList_trim]
  apply trimChars_of_bounds <;> intro c found
  · exact isTrimmed_of_isDigit (isDigit_of_mem_toString (List.mem_of_mem_head? found))
  · exact isTrimmed_of_isDigit (isDigit_of_mem_toString (List.mem_of_getLast? found))

theorem toString_ne_empty (n : Nat) : toString n ≠ "" := Nat.repr_ne_empty

theorem toString_inj {m n : Nat} (same : toString m = toString n) : m = n := by
  have digits : Nat.toDigits 10 m = Nat.toDigits 10 n := by
    simpa using congrArg String.toList same
  rw [← Nat.ofDigitChars_ten_toDigits (n := m), digits, Nat.ofDigitChars_ten_toDigits]

/-- The part behind the last separator is determined by the whole. -/
theorem append_cons_inj_of_last {α : Type*} {separator : α} {front front' back back' : List α}
    (last : separator ∉ back) (last' : separator ∉ back')
    (same : front ++ separator :: back = front' ++ separator :: back') :
    front = front' ∧ back = back' := by
  rcases List.append_eq_append_iff.1 same with ⟨between, rfl, rest⟩ | ⟨between, rfl, rest⟩ <;>
    cases between with
    | nil => simp_all
    | cons c between =>
      obtain ⟨rfl, rfl⟩ := List.cons.inj rest
      simp_all

/-- The part before the first separator is determined by the whole. -/
theorem append_cons_inj_of_first {α : Type*} {separator : α} {front front' back back' : List α}
    (first : separator ∉ front) (first' : separator ∉ front')
    (same : front ++ separator :: back = front' ++ separator :: back') :
    front = front' ∧ back = back' := by
  rcases List.append_eq_append_iff.1 same with ⟨between, rfl, rest⟩ | ⟨between, rfl, rest⟩ <;>
    cases between with
    | nil => simp_all
    | cons c between =>
      obtain ⟨rfl, rfl⟩ := List.cons.inj rest
      simp_all

/-- A text with a solid character is not blank. -/
theorem trim_ne_empty_of_mem {text : String} (listed : c ∈ text.toList)
    (solid : isTrimmed c = false) : trim text ≠ "" := by
  intro blank
  have empty : trimChars text.toList = [] := by
    simpa using congrArg String.toList blank
  rw [trimChars, List.reverse_eq_nil_iff, List.dropWhile_eq_nil_iff] at empty
  have front : text.toList.dropWhile isTrimmed = [] := by
    refine List.head?_eq_none_iff.1 (Option.eq_none_iff_forall_ne_some.2 fun d opens => ?_)
    have trimmed := empty d (List.mem_reverse.2 (List.mem_of_mem_head? opens))
    rw [isTrimmed_head?_dropWhile opens] at trimmed
    cases trimmed
  have trimmed := List.dropWhile_eq_nil_iff.1 front c listed
  rw [solid] at trimmed
  cases trimmed

end OnePersonLab.Contract
