import OnePersonLab.Lib.JsonText
import OnePersonLab.Lib.NamedEntries
import OnePersonLab.Package.SourceTree

/-!
# Deterministic archives

The writer puts the files of a tree into a new archive, in the order of the walk, with one
timestamp and one set of metadata; the verifier computes all of it again and demands the
lexical order of the names.
-/

namespace OnePersonLab.Package

open Lib

/-! ## Timestamps -/

/-- An instant in UTC, as `canonical_utc_timestamp` reads it. -/
structure UtcInstant where
  year : Nat
  month : Nat
  day : Nat
  hour : Nat
  minute : Nat
  second : Nat
  epochSeconds : Int
  monthInYear : 1 ≤ month ∧ month ≤ 12
  dayInMonth : 1 ≤ day ∧ day ≤ 31
  timeInDay : hour < 24 ∧ minute < 60 ∧ second < 60

structure DosTimestamp where
  year : Nat
  month : Nat
  day : Nat
  hour : Nat
  minute : Nat
  second : Nat
  deriving DecidableEq, Repr

/-- `canonical_utc_timestamp`: an instant, when the text is one. -/
def canonicalUtcTimestamp (finalizedAt : Option UtcInstant) : Py UtcInstant :=
  match finalizedAt with
  | some instant => .ok instant
  | none => raise "finalized_at_utc is not valid ISO-8601"

def zipDosTimestamp (finalizedAt : Option UtcInstant) : Py DosTimestamp := do
  let parsed ← canonicalUtcTimestamp finalizedAt
  require (1980 ≤ parsed.year ∧ parsed.year ≤ 2107)
    "finalized_at_utc is outside the ZIP timestamp range"
  return ⟨parsed.year, parsed.month, parsed.day, parsed.hour, parsed.minute,
    parsed.second - parsed.second % 2⟩

/-- A number in little-endian bytes. -/
def littleEndian : Nat → Nat → Bytes
  | 0, _ => []
  | width + 1, value => UInt8.ofNat value :: littleEndian width (value / 256)

def zipExtendedTimestampHeaderId : Nat := 0x5455

def zipExtendedTimestamp (finalizedAt : Option UtcInstant) : Py Bytes := do
  let parsed ← canonicalUtcTimestamp finalizedAt
  require (0 ≤ parsed.epochSeconds ∧ parsed.epochSeconds ≤ 0xffffffff)
    "finalized_at_utc is outside the extended ZIP timestamp range"
  let payload := 1 :: littleEndian 4 parsed.epochSeconds.toNat
  return littleEndian 2 zipExtendedTimestampHeaderId ++ littleEndian 2 payload.length ++ payload

def requireUserVisibleTimestamp (finalizedAt : Option UtcInstant) : Py DosTimestamp := do
  let timestamp ← zipDosTimestamp finalizedAt
  require (timestamp.year ≠ 1980)
    "user-visible archive timestamp must not use the ZIP container epoch year"
  return timestamp

/-! ## Archives -/

def zipDeflated : Nat := 8
def zipFileMode : Nat := 0o100644

structure ZipInfo where
  filename : PyStr
  dateTime : DosTimestamp
  compressType : Nat
  createSystem : Nat
  createVersion : Nat
  extractVersion : Nat
  externalAttr : Nat
  internalAttr : Nat
  flagBits : Nat
  extra : Bytes
  comment : Bytes
  deriving DecidableEq

abbrev ArchiveMember := ZipInfo × Bytes

/-- `_zip_info`. -/
def zipInfo (relative : PyStr) (memberTimestamp : DosTimestamp) (memberExtra : Bytes) :
    ZipInfo where
  filename := relative
  dateTime := memberTimestamp
  compressType := zipDeflated
  createSystem := 3
  createVersion := 20
  extractVersion := 20
  externalAttr := zipFileMode * 2 ^ 16
  internalAttr := 0
  flagBits := 0
  extra := memberExtra
  comment := []

def archiveMember (memberTimestamp : DosTimestamp) (memberExtra : Bytes) (file : SourceFile) :
    ArchiveMember :=
  (zipInfo file.1 memberTimestamp memberExtra, file.2)

def isAscii (value : PyStr) : Bool := value.all (·.val < 0x80)

/-- `_expected_flag_bits`. -/
def expectedFlagBits (filename : PyStr) : Nat := if isAscii filename then 0 else 0x800

/-- A name that an archive can hold: it has a UTF-8 form of at most 65535 bytes. -/
def nameFits (filename : PyStr) : Bool :=
  match encodeUtf8 filename with
  | .ok bytes => bytes.length ≤ 0xffff
  | .error _ => false

/-- The flag of a name that is not ASCII is set when its member is written. -/
def writtenInfo (info : ZipInfo) : ZipInfo :=
  { info with
    flagBits := if isAscii info.filename then info.flagBits else info.flagBits ||| 0x800 }

structure ReadArchive where
  comment : Bytes
  members : List ArchiveMember
  testzip : Option PyStr
  deriving DecidableEq

/-- The zip library: the bytes of the archive of some members, those of one whose writing
was stopped, and what is read from bytes. A member needs the ZIP64 format when it is too large
for the classic one or lies too far behind the start of the archive. -/
structure ZipLibrary where
  archive : List ArchiveMember → Bytes
  stopped : List ArchiveMember → Bytes
  read : Bytes → Option ReadArchive
  needsZip64 : List ArchiveMember → Bool

/-- Members as the writer makes them of files with names that an archive can hold. -/
structure FinalizedMembers (members : List ArchiveMember) (finalizedAt : Option UtcInstant)
    (timestamp : DosTimestamp) (extra : Bytes) (files : List SourceFile) : Prop where
  stamped : requireUserVisibleTimestamp finalizedAt = .ok timestamp
  extended : zipExtendedTimestamp finalizedAt = .ok extra
  named : ∀ file ∈ files, nameFits file.1 = true ∧ nul ∉ file.1
  made : members = files.map (archiveMember timestamp extra)

def ZipLibrary.openArchive (zip : ZipLibrary) (content : Bytes) : Py ReadArchive :=
  match zip.read content with
  | some archive => .ok archive
  | none => .error .badZipFile

/-- What the writer writes is read again; a member in the ZIP64 format has its version. -/
structure ZipLibrary.Inverse (zip : ZipLibrary) : Prop where
  read_archive : ∀ {members finalizedAt timestamp extra files},
    FinalizedMembers members finalizedAt timestamp extra files →
    zip.needsZip64 members = false →
    zip.read (zip.archive members) =
      some ⟨[], members.map fun member => (writtenInfo member.1, member.2), none⟩
  read_zip64 : ∀ {members finalizedAt timestamp extra files found},
    FinalizedMembers members finalizedAt timestamp extra files →
    zip.needsZip64 members = true → zip.read (zip.archive members) = some found →
    ∃ member ∈ found.members, member.1.extractVersion = 45

/-- The libraries: archives and digests. -/
structure Python where
  zip : ZipLibrary
  sha256 : Bytes → HexDigest

/-- The members are written one after another; a name that does not fit stops the writer. -/
def writeMembers (zip : ZipLibrary) (members : List ArchiveMember) : Py Unit × Bytes :=
  match members.find? fun member => !nameFits member.1.filename with
  | none => (.ok (), zip.archive members)
  | some member =>
    (if member.1.filename.any isSurrogate then .error .unicodeEncodeError else .error .structError,
      zip.stopped members)

/-! ## The inventory digest -/

def escapePoint (c : CodePoint) : PyStr :=
  if c.val = 0x22 then str "\\\""
  else if c = backslash then str "\\\\"
  else if c.val = 0x08 then str "\\b"
  else if c.val = 0x0c then str "\\f"
  else if c.val = 0x0a then str "\\n"
  else if c.val = 0x0d then str "\\r"
  else if c.val = 0x09 then str "\\t"
  else if c.val < 0x20 then
    str "\\u00" ++
      [pointOf (JsonText.hexDigit (c.val / 16)), pointOf (JsonText.hexDigit (c.val % 16))]
  else [c]

def jsonString (value : PyStr) : PyStr := str "\"" ++ value.flatMap escapePoint ++ str "\""

def InventoryEntry.json (entry : InventoryEntry) : PyStr :=
  str "\x7b\"path\":" ++ jsonString entry.path ++ str ",\"sha256\":" ++ jsonString entry.sha256 ++
    str ",\"size_bytes\":" ++ str (toString entry.sizeBytes) ++ str "\x7d"

/-- `canonical_json_bytes` of an inventory. -/
def canonicalJsonBytes (inventory : List InventoryEntry) : Py Bytes :=
  encodeUtf8 (str "[" ++ (str ",").intercalate (inventory.map InventoryEntry.json) ++ str "]\n")

def packageInventorySha256 (python : Python) (inventory : List InventoryEntry) : Py PyStr := do
  let text ← canonicalJsonBytes inventory
  return (python.sha256 text).val

/-! ## Writing and verifying -/

/-- A place for an archive, and the regular file that is there. -/
structure ArchivePath where
  name : PyStr
  traversesSymlink : Bool
  insideRoot : Bool
  parentUsable : Bool
  content : Option Bytes
  deriving DecidableEq

/-- `_archive_destination`. -/
def archiveDestination (path : ArchivePath) : Py Unit := do
  require (path.traversesSymlink = false) "archive path must not traverse a symbolic link"
  require (path.content = none) "archive already exists"
  require (path.insideRoot = false) "archive path must not be inside the source root"

/-- `_existing_archive_path`. -/
def existingArchivePath (path : ArchivePath) : Py Bytes := do
  require (path.traversesSymlink = false) "archive path must not traverse a symbolic link"
  match path.content with
  | some content => return content
  | none => raise "archive path must be a regular file"

structure ArchiveResult where
  path : PyStr
  sha256 : PyStr
  sizeBytes : Nat
  memberCount : Nat
  sourceInventorySha256 : PyStr
  memberTimestampUtc : PyStr
  deriving DecidableEq

def padded (width value : Nat) : PyStr :=
  let digits := toString value
  List.replicate (width - digits.length) (pointOf '0') ++ str digits

def DosTimestamp.isoformat (timestamp : DosTimestamp) : PyStr :=
  padded 4 timestamp.year ++ str "-" ++ padded 2 timestamp.month ++ str "-" ++
    padded 2 timestamp.day ++ str "T" ++ padded 2 timestamp.hour ++ str ":" ++
    padded 2 timestamp.minute ++ str ":" ++ padded 2 timestamp.second ++ str "Z"

/-- The metadata that every member has. -/
def CanonicalInfo (info : ZipInfo) (memberTimestamp : DosTimestamp) (memberExtra : Bytes) : Prop :=
  info.filename.getLast? ≠ some slash ∧ info.dateTime = memberTimestamp ∧ info.createSystem = 3 ∧
    info.createVersion = 20 ∧ info.extractVersion = 20 ∧
    info.externalAttr / 2 ^ 16 = zipFileMode ∧ info.compressType = zipDeflated ∧
    info.flagBits = expectedFlagBits info.filename ∧ info.extra = memberExtra ∧ info.comment = []

instance (info : ZipInfo) (memberTimestamp : DosTimestamp) (memberExtra : Bytes) :
    Decidable (CanonicalInfo info memberTimestamp memberExtra) :=
  inferInstanceAs (Decidable (_ ∧ _ ∧ _ ∧ _ ∧ _ ∧ _ ∧ _ ∧ _ ∧ _ ∧ _))

section

variable (python : Python)

def verifyMember (memberTimestamp : DosTimestamp) (memberExtra : Bytes)
    (expected : List SourceFile) (member : ArchiveMember) : Py Unit := do
  require (CanonicalInfo member.1 memberTimestamp memberExtra)
    "archive member metadata is not canonical"
  match lookupNamed Prod.fst expected member.1.filename with
  | none => .error .keyError
  | some file =>
    require (member.2.length = file.2.length) "archive member size differs"
    require (python.sha256 member.2 = python.sha256 file.2) "archive member bytes differ"

/-- The members one after another. -/
def verifyMembers (memberTimestamp : DosTimestamp) (memberExtra : Bytes)
    (expected : List SourceFile) : List ArchiveMember → Py Unit
  | [] => .ok ()
  | member :: rest => do
    verifyMember python memberTimestamp memberExtra expected member
    verifyMembers memberTimestamp memberExtra expected rest

/-- The checks on the archive that was read. -/
def verifyReadArchive (memberTimestamp : DosTimestamp) (memberExtra : Bytes)
    (expected : List SourceFile) (archive : ReadArchive) : Py Unit := do
  let names := archive.members.map fun member => member.1.filename
  require (StrictlyLexical names) "archive members must be strictly lexical and unique"
  require (archive.comment = [] ∧ archive.testzip = none) "archive comment or CRC contract failed"
  require (names ⊆ expected.map Prod.fst ∧ expected.map Prod.fst ⊆ names)
    "archive membership does not match the package tree"
  verifyMembers python memberTimestamp memberExtra expected archive.members

def verifyDeterministicArchive (tree : SourceTree) (path : ArchivePath)
    (finalizedAt : Option UtcInstant) (expectedInventory : ExpectedInventory) :
    Py ArchiveResult := do
  require (tree.symlinkRoot = false) "source root must not be a symbolic link"
  let content ← existingArchivePath path
  let sourceInventory ← verifiedSourceInventory python.sha256 tree expectedInventory
  let memberTimestamp ← requireUserVisibleTimestamp finalizedAt
  let memberExtra ← zipExtendedTimestamp finalizedAt
  let expected ← iterRegularFiles tree
  let archive ← python.zip.openArchive content
  verifyReadArchive python memberTimestamp memberExtra expected archive
  let inventorySha256 ← packageInventorySha256 python sourceInventory
  return {
    path := path.name
    sha256 := (python.sha256 content).val
    sizeBytes := content.length
    memberCount := expected.length
    sourceInventorySha256 := inventorySha256
    memberTimestampUtc := memberTimestamp.isoformat }

/-- What the writer does before it creates the archive: the members are ready. -/
def prepareArchive (tree : SourceTree) (path : ArchivePath) (finalizedAt : Option UtcInstant)
    (expectedInventory : ExpectedInventory) : Py (List ArchiveMember) := do
  require (tree.symlinkRoot = false) "source root must not be a symbolic link"
  archiveDestination path
  let _ ← verifiedSourceInventory python.sha256 tree expectedInventory
  let memberTimestamp ← requireUserVisibleTimestamp finalizedAt
  let memberExtra ← zipExtendedTimestamp finalizedAt
  let files ← iterRegularFiles tree
  if path.parentUsable then return files.map (archiveMember memberTimestamp memberExtra)
  else .error .osError

/-- `write_deterministic_archive`, with the file that is at the destination afterwards. -/
def writeDeterministicArchive (tree : SourceTree) (path : ArchivePath)
    (finalizedAt : Option UtcInstant) (expectedInventory : ExpectedInventory) :
    Py ArchiveResult × Option Bytes :=
  match prepareArchive python tree path finalizedAt expectedInventory with
  | .error failure => (.error failure, path.content)
  | .ok members =>
    match writeMembers python.zip members with
    | (.error failure, stopped) => (.error failure, some stopped)
    | (.ok (), archive) =>
      (verifyDeterministicArchive python tree { path with content := some archive } finalizedAt
        expectedInventory, some archive)

end

end OnePersonLab.Package
