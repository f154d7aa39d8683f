import OnePersonLab.Lib.SelfDelimiting
import OnePersonLab.Lib.Utf16

/-!
# JSON texts

Values as trees, their text without white space, and the reader of JSON texts.
Numbers are a parameter: a format writes them with the characters of JSON
numbers and reads back what it wrote. The reader undoes the writer.
-/

namespace OnePersonLab.Lib.JsonText

/-! ## Characters -/

def isWhite (c : Char) : Bool := c == ' ' || c == '\t' || c == '\n' || c == '\r'

def isNumeric (c : Char) : Bool :=
  c.isDigit || c == '-' || c == '+' || c == '.' || c == 'e' || c == 'E'

def skipWhite (text : List Char) : List Char := text.dropWhile isWhite

def hexDigit (value : Nat) : Char :=
  if value < 10 then Char.ofNat (0x30 + value) else Char.ofNat (0x57 + value)

def hexValue? (c : Char) : Option Nat :=
  if '0' ≤ c ∧ c ≤ '9' then some (c.toNat - 0x30)
  else if 'a' ≤ c ∧ c ≤ 'f' then some (c.toNat - 0x57)
  else if 'A' ≤ c ∧ c ≤ 'F' then some (c.toNat - 0x37)
  else none

theorem hexValue?_hexDigit : ∀ value < 16, hexValue? (hexDigit value) = some value := by decide

/-! ## Strings -/

/-- `\uXXXX`. -/
def unicodeEscape (unit : CodeUnit) : List Char :=
  ['\\', 'u', hexDigit (unit.val / 0x1000), hexDigit (unit.val / 0x100 % 0x10),
    hexDigit (unit.val / 0x10 % 0x10), hexDigit (unit.val % 0x10)]

/-- A unit that is not part of a surrogate pair. -/
def escapeUnit (unit : CodeUnit) : List Char :=
  if unit.val = 0x08 then ['\\', 'b']
  else if unit.val = 0x09 then ['\\', 't']
  else if unit.val = 0x0a then ['\\', 'n']
  else if unit.val = 0x0c then ['\\', 'f']
  else if unit.val = 0x0d then ['\\', 'r']
  else if unit.val = 0x22 then ['\\', '"']
  else if unit.val = 0x5c then ['\\', '\\']
  else if unit.val < 0x20 || unit.high || unit.low then unicodeEscape unit
  else [unit.char]

/-- The inside of a quoted string. -/
def escape : Utf16 → List Char
  | [] => []
  | [unit] => escapeUnit unit
  | first :: second :: rest =>
    if first.high && second.low then CodeUnit.pair first second :: escape rest
    else escapeUnit first ++ escape (second :: rest)

def quote (units : Utf16) : List Char := '"' :: (escape units ++ ['"'])

def simpleEscape? (c : Char) : Option CodeUnit :=
  if c = '"' then some (.ofNat 0x22)
  else if c = '\\' then some (.ofNat 0x5c)
  else if c = '/' then some (.ofNat 0x2f)
  else if c = 'b' then some (.ofNat 0x08)
  else if c = 'f' then some (.ofNat 0x0c)
  else if c = 'n' then some (.ofNat 0x0a)
  else if c = 'r' then some (.ofNat 0x0d)
  else if c = 't' then some (.ofNat 0x09)
  else none

def unicodeUnit? (a b c d : Char) : Option CodeUnit := do
  return .ofNat ((← hexValue? a) * 0x1000 + (← hexValue? b) * 0x100 + (← hexValue? c) * 0x10 +
    (← hexValue? d))

/-- More units before the rest of a string. -/
def prepend (units : Utf16) (read : Option (Utf16 × List Char)) : Option (Utf16 × List Char) :=
  read.map fun (rest, text) => (units ++ rest, text)

/-- Read the rest of a string behind its opening quote. -/
def readString : List Char → Option (Utf16 × List Char)
  | [] => none
  | '"' :: rest => some ([], rest)
  | '\\' :: 'u' :: a :: b :: c :: d :: rest =>
    (unicodeUnit? a b c d).bind fun unit => prepend [unit] (readString rest)
  | '\\' :: c :: rest => (simpleEscape? c).bind fun unit => prepend [unit] (readString rest)
  | c :: rest => if c.toNat < 0x20 then none else prepend (unitsOfChar c) (readString rest)

theorem readString_char {c : Char} (plain : c ≠ '"' ∧ c ≠ '\\') (solid : 0x20 ≤ c.toNat)
    (rest : List Char) :
    readString (c :: rest) = prepend (unitsOfChar c) (readString rest) := by
  rw [readString.eq_def]
  split <;> simp_all

theorem readString_simple {c : Char} {unit : CodeUnit} (known : simpleEscape? c = some unit)
    (rest : List Char) : readString ('\\' :: c :: rest) = prepend [unit] (readString rest) := by
  have notUnicode : c ≠ 'u' := by
    rintro rfl
    cases known
  simp [readString, notUnicode, known]

theorem unicodeUnit?_escape (unit : CodeUnit) :
    unicodeUnit? (hexDigit (unit.val / 0x1000)) (hexDigit (unit.val / 0x100 % 0x10))
      (hexDigit (unit.val / 0x10 % 0x10)) (hexDigit (unit.val % 0x10)) = some unit := by
  have small := unit.isLt
  simp only [unicodeUnit?, hexValue?_hexDigit _ (show unit.val / 0x1000 < 16 by omega),
    hexValue?_hexDigit _ (show unit.val / 0x100 % 0x10 < 16 by omega),
    hexValue?_hexDigit _ (show unit.val / 0x10 % 0x10 < 16 by omega),
    hexValue?_hexDigit _ (show unit.val % 0x10 < 16 by omega)]
  refine congrArg some (Fin.ext ?_)
  change (_ : Nat) % _ = _
  omega

theorem readString_unicode (unit : CodeUnit) (rest : List Char) :
    readString (unicodeEscape unit ++ rest) = prepend [unit] (readString rest) := by
  simp only [unicodeEscape, List.cons_append, List.nil_append, readString, unicodeUnit?_escape,
    Option.bind_some]

theorem readString_escapeUnit (unit : CodeUnit) (rest : List Char) :
    readString (escapeUnit unit ++ rest) = prepend [unit] (readString rest) := by
  have simple : ∀ {c : Char} {known : CodeUnit}, unit.val = known.val →
      simpleEscape? c = some known →
      readString (['\\', c] ++ rest) = prepend [unit] (readString rest) := by
    intro c known same escaped
    obtain rfl : unit = known := Fin.ext same
    exact readString_simple escaped rest
  unfold escapeUnit
  repeat' split
  · exact simple ‹_› rfl
  · exact simple ‹_› rfl
  · exact simple ‹_› rfl
  · exact simple ‹_› rfl
  · exact simple ‹_› rfl
  · exact simple ‹_› rfl
  · exact simple ‹_› rfl
  · exact readString_unicode unit rest
  · rename_i quotation backslash plain
    simp only [Bool.or_eq_true, decide_eq_true_eq, not_or, Bool.not_eq_true] at plain
    have scalar := And.intro plain.1.2 plain.2
    have value := CodeUnit.toNat_char scalar
    have differs : ∀ c : Char, unit.val ≠ c.toNat → unit.char ≠ c := by
      rintro c other rfl
      exact other value.symm
    rw [List.singleton_append, readString_char ⟨differs '"' quotation, differs '\\' backslash⟩
      (by rw [value]; exact Nat.le_of_not_lt plain.1.1), unitsOfChar_char scalar]

theorem readString_pair {first second : CodeUnit} (high : first.high = true)
    (low : second.low = true) (rest : List Char) :
    readString (CodeUnit.pair first second :: rest) =
      prepend [first, second] (readString rest) := by
  have value := CodeUnit.toNat_pair high low
  have differs : ∀ c : Char, c.toNat < 0x10000 → CodeUnit.pair first second ≠ c := by
    rintro c small rfl
    omega
  rw [readString_char ⟨differs '"' (by decide), differs '\\' (by decide)⟩ (by omega),
    unitsOfChar_pair high low]

theorem readString_escape (units : Utf16) (rest : List Char) :
    readString (escape units ++ '"' :: rest) = some (units, rest) := by
  fun_induction escape units with
  | case1 => rfl
  | case2 unit => rw [readString_escapeUnit]; rfl
  | case3 first second units pair ih =>
    obtain ⟨high, low⟩ := Bool.and_eq_true_iff.1 pair
    rw [List.cons_append, readString_pair high low, ih]
    rfl
  | case4 first second units single ih => rw [List.append_assoc, readString_escapeUnit, ih]; rfl

/-! ## Values -/

/-- How numbers are written and read. A text may stand for several numbers: the one
that is read is the normal one of them. -/
structure NumberFormat (ν : Type) where
  write : ν → List Char
  read : List Char → Option ν
  normal : ν → ν
  write_normal : ∀ number, write (normal number) = write number
  read_write : ∀ number, read (write number) = some (normal number)
  numeric : ∀ number, ∀ c ∈ write number, isNumeric c = true
  inhabited : ∀ number, write number ≠ []

inductive Tree (ν : Type) where
  | null
  | bool (value : Bool)
  | number (value : ν)
  | string (value : Utf16)
  | array (items : List (Tree ν))
  | object (members : List (Utf16 × Tree ν))

/-- `join(',')`. -/
def joined (texts : List (List Char)) : List Char := [','].intercalate texts

variable {ν : Type} {format : NumberFormat ν}

mutual
def write (format : NumberFormat ν) : Tree ν → List Char
  | .null => ['n', 'u', 'l', 'l']
  | .bool true => ['t', 'r', 'u', 'e']
  | .bool false => ['f', 'a', 'l', 's', 'e']
  | .number value => format.write value
  | .string value => quote value
  | .array items => '[' :: (joined (writeItems format items) ++ [']'])
  | .object members => '\x7b' :: (joined (writeMembers format members) ++ ['\x7d'])

def writeItems (format : NumberFormat ν) : List (Tree ν) → List (List Char)
  | [] => []
  | item :: rest => write format item :: writeItems format rest

def writeMembers (format : NumberFormat ν) : List (Utf16 × Tree ν) → List (List Char)
  | [] => []
  | (key, value) :: rest => (quote key ++ ':' :: write format value) :: writeMembers format rest
end

/-- The text of a member. -/
def writeMember (format : NumberFormat ν) (member : Utf16 × Tree ν) : List Char :=
  quote member.1 ++ ':' :: write format member.2

theorem writeMembers_cons (member : Utf16 × Tree ν) (members : List (Utf16 × Tree ν)) :
    writeMembers format (member :: members) =
      writeMember format member :: writeMembers format members := rfl

theorem writeMember_opens (member : Utf16 × Tree ν) :
    ∃ text, writeMember format member = '"' :: text := ⟨_, rfl⟩

mutual
/-- The tree with normal numbers. -/
def Tree.normal (format : NumberFormat ν) : Tree ν → Tree ν
  | .null => .null
  | .bool value => .bool value
  | .number value => .number (format.normal value)
  | .string value => .string value
  | .array items => .array (normalItems format items)
  | .object members => .object (normalMembers format members)

def normalItems (format : NumberFormat ν) : List (Tree ν) → List (Tree ν)
  | [] => []
  | item :: rest => item.normal format :: normalItems format rest

def normalMembers (format : NumberFormat ν) : List (Utf16 × Tree ν) → List (Utf16 × Tree ν)
  | [] => []
  | (key, value) :: rest => (key, value.normal format) :: normalMembers format rest
end

mutual
/-- Read a value and return the text behind it. Each call uses up fuel. -/
def readValue (format : NumberFormat ν) : Nat → List Char → Option (Tree ν × List Char)
  | 0, _ => none
  | fuel + 1, text =>
    match skipWhite text with
    | 'n' :: 'u' :: 'l' :: 'l' :: rest => some (.null, rest)
    | 't' :: 'r' :: 'u' :: 'e' :: rest => some (.bool true, rest)
    | 'f' :: 'a' :: 'l' :: 's' :: 'e' :: rest => some (.bool false, rest)
    | '"' :: rest => (readString rest).map fun (value, rest) => (.string value, rest)
    | '[' :: rest =>
      match skipWhite rest with
      | ']' :: rest => some (.array [], rest)
      | rest => (readItems format fuel rest).map fun (items, rest) => (.array items, rest)
    | '\x7b' :: rest =>
      match skipWhite rest with
      | '\x7d' :: rest => some (.object [], rest)
      | rest => (readMembers format fuel rest).map fun (members, rest) => (.object members, rest)
    | text =>
      (format.read (text.takeWhile isNumeric)).map fun value =>
        (.number value, text.dropWhile isNumeric)

def readItems (format : NumberFormat ν) : Nat → List Char → Option (List (Tree ν) × List Char)
  | 0, _ => none
  | fuel + 1, text =>
    (readValue format fuel text).bind fun (item, rest) =>
      match skipWhite rest with
      | ',' :: rest => (readItems format fuel rest).map fun (items, rest) => (item :: items, rest)
      | ']' :: rest => some ([item], rest)
      | _ => none

def readMembers (format : NumberFormat ν) :
    Nat → List Char → Option (List (Utf16 × Tree ν) × List Char)
  | 0, _ => none
  | fuel + 1, text =>
    match skipWhite text with
    | '"' :: rest =>
      (readString rest).bind fun (key, rest) =>
        match skipWhite rest with
        | ':' :: rest =>
          (readValue format fuel rest).bind fun (value, rest) =>
            match skipWhite rest with
            | ',' :: rest =>
              (readMembers format fuel rest).map fun (members, rest) =>
                ((key, value) :: members, rest)
            | '\x7d' :: rest => some ([(key, value)], rest)
            | _ => none
        | _ => none
    | _ => none
end

/-- Read a whole text. -/
def read (format : NumberFormat ν) (text : List Char) : Option (Tree ν) :=
  (readValue format (2 * text.length + 1) text).bind fun (value, rest) =>
    if skipWhite rest = [] then some value else none

/-! ## Reading what was written -/

/-- No number goes on in the text. -/
def Stops (text : List Char) : Prop := ∀ c ∈ text.head?, isNumeric c = false

theorem skipWhite_cons {c : Char} (solid : isWhite c = false) (rest : List Char) :
    skipWhite (c :: rest) = c :: rest := by
  simp [skipWhite, solid]

theorem ne_of_isNumeric {c other : Char} (numeric : isNumeric c = true)
    (apart : isNumeric other = false) : c ≠ other := by
  rintro rfl
  rw [numeric] at apart
  cases apart

theorem isWhite_of_isNumeric {c : Char} (numeric : isNumeric c = true) : isWhite c = false := by
  have differs := fun other => @ne_of_isNumeric c other numeric
  simp [isWhite, differs ' ' (by decide), differs '\t' (by decide),
    differs '\n' (by decide), differs '\r' (by decide)]

/-- A written value opens with a solid character that closes no array. -/
theorem write_opens (tree : Tree ν) :
    ∃ c rest, write format tree = c :: rest ∧ isWhite c = false ∧ c ≠ ']' := by
  cases tree with
  | null => exact ⟨_, _, rfl, rfl, by decide⟩
  | bool value => cases value <;> exact ⟨_, _, rfl, rfl, by decide⟩
  | number value =>
    cases written : format.write value with
    | nil => exact absurd written (format.inhabited value)
    | cons c rest =>
      have numeric := format.numeric value c (by rw [written]; simp)
      exact ⟨c, rest, by rw [write, written], isWhite_of_isNumeric numeric,
        ne_of_isNumeric numeric (by decide)⟩
  | string value => exact ⟨_, _, rfl, rfl, by decide⟩
  | array items => exact ⟨_, _, rfl, rfl, by decide⟩
  | object members => exact ⟨_, _, rfl, rfl, by decide⟩

theorem joined_cons_cons (first second : List Char) (rest : List (List Char)) :
    joined (first :: second :: rest) = first ++ ',' :: joined (second :: rest) := by
  simp [joined, List.intercalate, List.intersperse]

theorem joined_singleton (text : List Char) : joined [text] = text := by
  simp [joined, List.intercalate]

theorem takeWhile_written {number : ν} {rest : List Char} (stops : Stops rest) :
    (format.write number ++ rest).takeWhile isNumeric = format.write number ∧
      (format.write number ++ rest).dropWhile isNumeric = rest := by
  have numeric := format.numeric number
  rw [List.takeWhile_append_of_pos numeric, List.dropWhile_append_of_pos numeric]
  cases rest with
  | nil => simp
  | cons c rest =>
    have stop := stops c rfl
    simp [stop]

theorem readValue_number {fuel : Nat} {number : ν} {rest : List Char} (stops : Stops rest) :
    readValue format (fuel + 1) (format.write number ++ rest) = some (.number (format.normal number), rest) := by
  obtain ⟨taken, dropped⟩ := @takeWhile_written ν format number rest stops
  have reads := format.read_write number
  cases written : format.write number with
  | nil => exact absurd written (format.inhabited number)
  | cons c more =>
    have numeric := format.numeric number c (by rw [written]; simp)
    have solid := isWhite_of_isNumeric numeric
    have differs := fun other => @ne_of_isNumeric c other numeric
    rw [written] at taken dropped reads
    simp only [List.cons_append] at taken dropped ⊢
    rw [readValue, skipWhite_cons solid]
    split
    · exact absurd (List.cons.inj ‹_›).1 (differs _ (by decide))
    · exact absurd (List.cons.inj ‹_›).1 (differs _ (by decide))
    · exact absurd (List.cons.inj ‹_›).1 (differs _ (by decide))
    · exact absurd (List.cons.inj ‹_›).1 (differs _ (by decide))
    · exact absurd (List.cons.inj ‹_›).1 (differs _ (by decide))
    · exact absurd (List.cons.inj ‹_›).1 (differs _ (by decide))
    · rw [taken, dropped, reads]
      rfl

theorem readValue_array {fuel : Nat} {c : Char} {text : List Char} (solid : isWhite c = false)
    (other : c ≠ ']') : readValue format (fuel + 1) ('[' :: c :: text) =
      (readItems format fuel (c :: text)).map fun (items, rest) => (.array items, rest) := by
  rw [readValue, skipWhite_cons (by decide)]
  simp only [skipWhite_cons solid]
  split
  · exact absurd (List.cons.inj ‹_›).1 other
  · rfl

theorem readValue_object {fuel : Nat} {text : List Char} :
    readValue format (fuel + 1) ('\x7b' :: '"' :: text) =
      (readMembers format fuel ('"' :: text)).map fun (members, rest) => (.object members, rest) := by
  rw [readValue, skipWhite_cons (by decide)]
  simp only [skipWhite_cons (show isWhite '"' = false by decide)]
  rfl

theorem stops_comma (rest : List Char) : Stops (',' :: rest) := by simp [Stops, isNumeric]

theorem joined_opens (c : Char) (text : List Char) (rest : List (List Char)) :
    ∃ more, joined ((c :: text) :: rest) = c :: more := by
  cases rest with
  | nil => exact ⟨text, joined_singleton _⟩
  | cons second rest => exact ⟨_, joined_cons_cons _ _ _⟩

/-- A member is read up to what follows its value. -/
theorem readMembers_member {fuel : Nat} {key : Utf16} {value : Tree ν} {rest : List Char}
    {read : Tree ν} (reads : readValue format fuel (write format value ++ rest) = some (read, rest)) :
    readMembers format (fuel + 1) (writeMember format (key, value) ++ rest) =
      match skipWhite rest with
      | ',' :: rest =>
        (readMembers format fuel rest).map fun (members, rest) => ((key, read) :: members, rest)
      | '\x7d' :: rest => some ([(key, read)], rest)
      | _ => none := by
  have text : writeMember format (key, value) ++ rest =
      '"' :: (escape key ++ '"' :: ':' :: (write format value ++ rest)) := by
    simp [writeMember, quote]
  rw [text, readMembers, skipWhite_cons (by decide)]
  simp only [readString_escape, Option.bind_some, skipWhite_cons (show isWhite ':' = false by decide),
    reads]

mutual
theorem readValue_write : (tree : Tree ν) → (fuel : Nat) → (rest : List Char) → Stops rest →
    2 * (write format tree ++ rest).length < fuel →
    readValue format fuel (write format tree ++ rest) = some (tree.normal format, rest)
  | _, 0, _, _, enough => absurd enough (Nat.not_lt_zero _)
  | .null, fuel + 1, rest, _, _ => by
    simp [write, readValue, Tree.normal, skipWhite_cons, isWhite]
  | .bool true, fuel + 1, rest, _, _ => by
    simp [write, readValue, Tree.normal, skipWhite_cons, isWhite]
  | .bool false, fuel + 1, rest, _, _ => by
    simp [write, readValue, Tree.normal, skipWhite_cons, isWhite]
  | .number value, fuel + 1, rest, stops, _ => readValue_number stops
  | .string value, fuel + 1, rest, _, _ => by
    simp [write, quote, readValue, Tree.normal, skipWhite_cons, isWhite, readString_escape]
  | .array [], fuel + 1, rest, _, _ => by
    simp [write, writeItems, joined, readValue, Tree.normal, normalItems, skipWhite_cons, isWhite]
  | .array (item :: items), fuel + 1, rest, _, enough => by
    obtain ⟨c, text, opens, solid, other⟩ := @write_opens ν format item
    have reads := readItems_write item items fuel rest (by
      simp only [write, List.cons_append, List.append_assoc, List.length_cons] at enough
      simp only [List.nil_append] at enough
      omega)
    obtain ⟨more, begins⟩ := joined_opens c text (writeItems format items)
    rw [← opens] at begins
    simp only [writeItems, begins, List.cons_append] at reads
    simp only [write, writeItems, begins, List.cons_append, List.append_assoc, List.nil_append]
    rw [readValue_array solid other, reads]
    rfl
  | .object [], fuel + 1, rest, _, _ => by
    simp [write, writeMembers, joined, readValue, Tree.normal, normalMembers, skipWhite_cons, isWhite]
  | .object (member :: members), fuel + 1, rest, _, enough => by
    obtain ⟨text, opens⟩ := @writeMember_opens ν format member
    have reads := readMembers_write member members fuel rest (by
      simp only [write, List.cons_append, List.append_assoc, List.length_cons] at enough
      simp only [List.nil_append] at enough
      omega)
    obtain ⟨more, begins⟩ := joined_opens '"' text (writeMembers format members)
    rw [← opens, ← writeMembers_cons] at begins
    simp only [begins, List.cons_append] at reads
    simp only [write, begins, List.cons_append, List.append_assoc, List.nil_append]
    rw [readValue_object, reads]
    rfl

theorem readItems_write : (item : Tree ν) → (items : List (Tree ν)) → (fuel : Nat) →
    (rest : List Char) →
    2 * (joined (writeItems format (item :: items)) ++ ']' :: rest).length + 1 < fuel →
    readItems format fuel (joined (writeItems format (item :: items)) ++ ']' :: rest) =
      some (normalItems format (item :: items), rest)
  | _, _, 0, _, enough => absurd enough (Nat.not_lt_zero _)
  | item, [], fuel + 1, rest, enough => by
    simp only [writeItems, joined_singleton] at enough ⊢
    rw [readItems, readValue_write item fuel (']' :: rest) (by simp [Stops, isNumeric]) (by omega)]
    simp [skipWhite_cons, isWhite, normalItems]
  | item, next :: items, fuel + 1, rest, enough => by
    simp only [writeItems, joined_cons_cons, List.append_assoc, List.cons_append] at enough ⊢
    have onward := readItems_write next items fuel rest (by
      simp only [List.length_append, List.length_cons, writeItems] at enough ⊢
      omega)
    simp only [writeItems] at onward
    rw [readItems, readValue_write item fuel _ (stops_comma _) (by omega), Option.bind_some]
    simp only [skipWhite_cons (show isWhite ',' = false by decide), onward]
    rfl

theorem readMembers_write : (member : Utf16 × Tree ν) → (members : List (Utf16 × Tree ν)) →
    (fuel : Nat) → (rest : List Char) →
    2 * (joined (writeMembers format (member :: members)) ++ '\x7d' :: rest).length + 1 < fuel →
    readMembers format fuel (joined (writeMembers format (member :: members)) ++ '\x7d' :: rest) =
      some (normalMembers format (member :: members), rest)
  | _, _, 0, _, enough => absurd enough (Nat.not_lt_zero _)
  | (key, value), [], fuel + 1, rest, enough => by
    have written : joined (writeMembers format [(key, value)]) = writeMember format (key, value) :=
      joined_singleton _
    rw [written] at enough ⊢
    have reads := readValue_write value fuel ('\x7d' :: rest) (by simp [Stops, isNumeric]) (by
      simp only [writeMember, List.length_append, List.length_cons] at enough ⊢
      omega)
    rw [readMembers_member reads]
    simp [skipWhite_cons, isWhite, normalMembers]
  | (key, value), next :: members, fuel + 1, rest, enough => by
    have written : joined (writeMembers format ((key, value) :: next :: members)) ++ '\x7d' :: rest =
        writeMember format (key, value) ++
          ',' :: (joined (writeMembers format (next :: members)) ++ '\x7d' :: rest) := by
      simp [writeMembers_cons, joined_cons_cons]
    rw [written] at enough ⊢
    simp only [writeMember, List.length_append, List.length_cons] at enough
    have reads := readValue_write value fuel
      (',' :: (joined (writeMembers format (next :: members)) ++ '\x7d' :: rest)) (stops_comma _) (by
        simp only [List.length_append, List.length_cons]
        omega)
    have onward := readMembers_write next members fuel rest (by
      simp only [List.length_append, List.length_cons]
      omega)
    rw [readMembers_member reads]
    simp only [skipWhite_cons (show isWhite ',' = false by decide), onward]
    rfl
end

mutual
theorem write_normal : (tree : Tree ν) → write format (tree.normal format) = write format tree
  | .null | .bool _ | .string _ => rfl
  | .number value => format.write_normal value
  | .array items => by rw [Tree.normal, write, write, writeItems_normal items]
  | .object members => by rw [Tree.normal, write, write, writeMembers_normal members]

theorem writeItems_normal : (items : List (Tree ν)) →
    writeItems format (normalItems format items) = writeItems format items
  | [] => rfl
  | item :: rest => by
    rw [normalItems, writeItems, writeItems, write_normal item, writeItems_normal rest]

theorem writeMembers_normal : (members : List (Utf16 × Tree ν)) →
    writeMembers format (normalMembers format members) = writeMembers format members
  | [] => rfl
  | (key, value) :: rest => by
    rw [normalMembers, writeMembers, writeMembers, write_normal value, writeMembers_normal rest]
end

/-- The reader undoes the writer. -/
theorem read_write (tree : Tree ν) : read format (write format tree) = some (tree.normal format) := by
  have reads := @readValue_write ν format tree (2 * (write format tree).length + 1) []
    (by simp [Stops]) (by rw [List.append_nil]; exact Nat.lt_succ_self _)
  rw [List.append_nil] at reads
  unfold read
  rw [reads]
  rfl

/-- A text determines what it was written for. -/
theorem write_inj {tree other : Tree ν} :
    write format tree = write format other ↔ tree.normal format = other.normal format := by
  constructor
  · intro same
    have reads := @read_write ν format tree
    rw [same, read_write, Option.some.injEq] at reads
    exact reads.symm
  · intro same
    rw [← write_normal tree, same, write_normal]

/-! ## Arrays in front of other text -/

/-- An array is read whatever follows it. -/
theorem readValue_write_array (items : List (Tree ν)) {fuel : Nat} {rest : List Char}
    (enough : 2 * (write format (.array items) ++ rest).length < fuel) :
    readValue format fuel (write format (.array items) ++ rest) =
      some (Tree.normal format (.array items), rest) := by
  cases fuel with
  | zero => exact absurd enough (Nat.not_lt_zero _)
  | succ fuel =>
    cases items with
    | nil =>
      simp [write, writeItems, joined, readValue, Tree.normal, normalItems, skipWhite_cons, isWhite]
    | cons item items =>
      obtain ⟨c, text, opens, solid, other⟩ := @write_opens ν format item
      have reads := @readItems_write ν format item items fuel rest (by
        simp only [write, List.cons_append, List.append_assoc, List.length_cons] at enough
        simp only [List.nil_append] at enough
        omega)
      obtain ⟨more, begins⟩ := joined_opens c text (writeItems format items)
      rw [← opens] at begins
      simp only [writeItems, begins, List.cons_append] at reads
      simp only [write, writeItems, begins, List.cons_append, List.append_assoc, List.nil_append]
      rw [readValue_array solid other, reads]
      rfl

/-- No text starts with two arrays. -/
theorem arrays_apart (items others : List (Tree ν)) :
    Apart (write format (.array items)) (write format (.array others)) := by
  intro rest rest' same
  have first := @readValue_write_array ν format items _ rest (Nat.lt_succ_self _)
  rw [same] at first
  have second := @readValue_write_array ν format others _ rest' (Nat.lt_succ_self _)
  rw [second] at first
  obtain ⟨trees, rests⟩ := Prod.mk.inj (Option.some.inj first)
  exact ⟨write_inj.2 trees.symm, rests.symm⟩

theorem decimal_read_write (number : Nat) :
    some (Nat.ofDigitChars 10 (Nat.toDigits 10 number) 0) = some (id number) :=
  congrArg some Nat.ofDigitChars_ten_toDigits

theorem decimal_numeric (number : Nat) : ∀ c ∈ Nat.toDigits 10 number, isNumeric c = true := by
  intro c listed
  have digit := Nat.isDigit_of_mem_toDigits (by decide) (by decide) listed
  simp [isNumeric, digit]

/-- Natural numbers in decimal. -/
def decimal : NumberFormat Nat where
  write := Nat.toDigits 10
  read text := some (Nat.ofDigitChars 10 text 0)
  normal := id
  write_normal := fun _ => rfl
  read_write := decimal_read_write
  numeric := decimal_numeric
  inhabited := fun _ => Nat.toDigits_ne_nil

end OnePersonLab.Lib.JsonText
