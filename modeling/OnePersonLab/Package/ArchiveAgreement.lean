import Mathlib.Logic.Equiv.List
import OnePersonLab.Package.Archive

/-!
# The writer and the verifier agree

A finished archive passes its verification exactly when the order of the paths is the order
of their texts, every name fits into an archive and no member needs the ZIP64 format. In
every other case the call raises after it has created the archive, and leaves it there.
-/

namespace OnePersonLab.Package

open Lib

/-! ## Texts with a UTF-8 form -/

/-- No code point of the text is a surrogate. -/
def HasUtf8 (value : PyStr) : Prop := ∀ c ∈ value, isSurrogate c = false

section

variable {value other : PyStr}

theorem encodeUtf8_ok : (∃ bytes, encodeUtf8 value = .ok bytes) ↔ HasUtf8 value := by
  unfold encodeUtf8 HasUtf8
  constructor
  · rintro ⟨bytes, encoded⟩
    split at encoded
    · cases encoded
    · rename_i plain
      simpa using plain
  · intro plain
    rw [if_neg (by simpa using plain)]
    exact ⟨_, rfl⟩

theorem HasUtf8.append (front : HasUtf8 value) (back : HasUtf8 other) :
    HasUtf8 (value ++ other) := by
  intro c listed
  rcases List.mem_append.1 listed with early | late
  · exact front c early
  · exact back c late

theorem HasUtf8.flatMap {f : CodePoint → PyStr} (plain : HasUtf8 value)
    (pieces : ∀ c, isSurrogate c = false → HasUtf8 (f c)) : HasUtf8 (value.flatMap f) := by
  intro c listed
  obtain ⟨point, among, found⟩ := List.mem_flatMap.1 listed
  exact pieces point (plain point among) c found

theorem mem_intercalate {α : Type} {separator : List α} {parts : List (List α)} {a : α}
    (listed : a ∈ separator.intercalate parts) : a ∈ separator ∨ ∃ part ∈ parts, a ∈ part := by
  induction parts with
  | nil => cases listed
  | cons part rest ih =>
    by_cases last : rest = []
    · rw [last, List.intercalate_singleton] at listed
      exact .inr ⟨part, List.mem_cons_self .., listed⟩
    · rw [List.intercalate_cons_of_ne_nil last, List.mem_append, List.mem_append] at listed
      rcases listed with (here | between) | later
      · exact .inr ⟨part, List.mem_cons_self .., here⟩
      · exact .inl between
      · rcases ih later with between | ⟨part', among, found⟩
        · exact .inl between
        · exact .inr ⟨part', List.mem_cons_of_mem _ among, found⟩

theorem HasUtf8.intercalate {parts : List PyStr} (plain : HasUtf8 value)
    (pieces : ∀ part ∈ parts, HasUtf8 part) : HasUtf8 (value.intercalate parts) := by
  intro c listed
  rcases mem_intercalate listed with between | ⟨part, among, found⟩
  · exact plain c between
  · exact pieces part among c found

theorem pointOf_plain (c : Char) : isSurrogate (pointOf c) = false := by
  have small : c.toNat < 0x110000 := by
    rcases c.valid with low | high
    · exact Nat.lt_of_lt_of_le low (by decide)
    · exact high.2
  have same : (pointOf c).val = c.toNat := Nat.mod_eq_of_lt small
  unfold isSurrogate
  rw [same]
  rcases c.valid with low | high
  · have below : c.toNat < 0xd800 := low
    simp
    omega
  · have above : 0xdfff < c.toNat := high.1
    simp
    omega

/-- A literal has a UTF-8 form. -/
theorem str_hasUtf8 (text : String) : HasUtf8 (str text) := by
  intro c listed
  obtain ⟨letter, -, rfl⟩ := List.mem_map.1 listed
  exact pointOf_plain letter

theorem escapePoint_hasUtf8 (c : CodePoint) (plain : isSurrogate c = false) :
    HasUtf8 (escapePoint c) := by
  unfold escapePoint
  repeat' split
  all_goals try exact str_hasUtf8 _
  · refine (str_hasUtf8 _).append fun d listed => ?_
    rcases List.mem_cons.1 listed with rfl | later
    · exact pointOf_plain _
    · obtain rfl := List.mem_singleton.1 later
      exact pointOf_plain _
  · intro d listed
    obtain rfl := List.mem_singleton.1 listed
    exact plain

theorem jsonString_hasUtf8 (plain : HasUtf8 value) : HasUtf8 (jsonString value) :=
  ((str_hasUtf8 _).append (plain.flatMap escapePoint_hasUtf8)).append (str_hasUtf8 _)

theorem InventoryEntry.json_hasUtf8 {entry : InventoryEntry} (path : HasUtf8 entry.path)
    (digest : HasUtf8 entry.sha256) : HasUtf8 entry.json := by
  unfold InventoryEntry.json
  refine HasUtf8.append ?_ (str_hasUtf8 _)
  refine HasUtf8.append ?_ (str_hasUtf8 _)
  refine HasUtf8.append ?_ (str_hasUtf8 _)
  refine HasUtf8.append ?_ (jsonString_hasUtf8 digest)
  refine HasUtf8.append ?_ (str_hasUtf8 _)
  exact (str_hasUtf8 _).append (jsonString_hasUtf8 path)

theorem HexDigest.hasUtf8 (digest : HexDigest) : HasUtf8 digest.val := by
  intro c listed
  have hex := digest.property
  simp only [isHexDigest, Bool.and_eq_true, List.all_eq_true] at hex
  have letter := hex.2 c listed
  simp only [Bool.or_eq_true, Bool.and_eq_true, decide_eq_true_eq] at letter
  unfold isSurrogate
  simp
  omega

theorem canonicalJsonBytes_ok {inventory : List InventoryEntry}
    (paths : ∀ entry ∈ inventory, HasUtf8 entry.path)
    (digests : ∀ entry ∈ inventory, HasUtf8 entry.sha256) :
    ∃ bytes, canonicalJsonBytes inventory = .ok bytes := by
  refine encodeUtf8_ok.2 ?_
  refine ((str_hasUtf8 _).append ?_).append (str_hasUtf8 _)
  refine HasUtf8.intercalate (str_hasUtf8 _) fun part listed => ?_
  obtain ⟨entry, among, rfl⟩ := List.mem_map.1 listed
  exact InventoryEntry.json_hasUtf8 (paths entry among) (digests entry among)

theorem nameFits_hasUtf8 (fits : nameFits value = true) : HasUtf8 value := by
  unfold nameFits at fits
  split at fits
  · rename_i bytes encoded
    exact encodeUtf8_ok.1 ⟨bytes, encoded⟩
  · cases fits

end

/-! ## Names of files -/

section

variable {path : RelPath}

/-- The text of a path holds the letters of its names and slashes. -/
theorem RelPath.nul_notMem (path : RelPath) : nul ∉ path.posix := by
  intro listed
  rcases mem_intercalate listed with between | ⟨part, among, found⟩
  · exact absurd (List.mem_singleton.1 between) (by decide)
  · obtain ⟨name, -, rfl⟩ := List.mem_map.1 among
    exact name.property.2.2.1 found

theorem RelPath.posix_ne_nil (below : path ≠ []) : path.posix ≠ [] := by
  intro empty
  cases path with
  | nil => exact below rfl
  | cons name rest =>
    cases rest with
    | nil =>
      rw [RelPath.posix, List.map_singleton, joinPath, List.intercalate_singleton] at empty
      exact name.property.1 empty
    | cons other rest =>
      rw [RelPath.posix, joinPath, List.map_cons,
        List.intercalate_cons_of_ne_nil (by simp)] at empty
      simp at empty

/-- The text of a path does not end in a slash. -/
theorem RelPath.posix_getLast (below : path ≠ []) : path.posix.getLast? ≠ some slash := by
  induction path with
  | nil => exact absurd rfl below
  | cons name rest ih =>
    cases rest with
    | nil =>
      rw [RelPath.posix, List.map_singleton, joinPath, List.intercalate_singleton]
      intro last
      exact name.property.2.1 (List.mem_of_getLast? last)
    | cons other rest =>
      have split : RelPath.posix (name :: other :: rest) =
          name.val ++ [slash] ++ RelPath.posix (other :: rest) := by
        rw [RelPath.posix, joinPath, List.map_cons, List.intercalate_cons_of_ne_nil (by simp)]
        rfl
      rw [split, List.getLast?_append_of_ne_nil _
        (RelPath.posix_ne_nil (List.cons_ne_nil other rest))]
      exact ih (List.cons_ne_nil other rest)

variable {tree : SourceTree} {files : List SourceFile}

theorem walked_name (walk : iterRegularFiles tree = .ok files) {file : SourceFile}
    (listed : file ∈ files) : nul ∉ file.1 ∧ file.1.getLast? ≠ some slash := by
  obtain ⟨-, rfl, -⟩ := iterRegularFiles_ok walk
  obtain ⟨entry, among, rfl⟩ := List.mem_map.1 listed
  have below : entry.1 ≠ [] := tree.below _ (mem_sortedFiles.1 among)
  exact ⟨entry.1.nul_notMem, RelPath.posix_getLast below⟩

theorem packageInventory_ok {sha256 : Bytes → HexDigest}
    (walk : iterRegularFiles tree = .ok files) :
    packageInventory sha256 tree = .ok (files.map (inventoryEntry sha256)) := by
  unfold packageInventory
  rw [walk]
  rfl

end

/-! ## The writer -/

section

variable {zip : ZipLibrary} {timestamp : DosTimestamp} {extra : Bytes} {files : List SourceFile}

theorem writeMembers_fits (fits : ∀ file ∈ files, nameFits file.1 = true) :
    writeMembers zip (files.map (archiveMember timestamp extra)) =
      (.ok (), zip.archive (files.map (archiveMember timestamp extra))) := by
  unfold writeMembers
  have none_stops : (files.map (archiveMember timestamp extra)).find?
      (fun member => !nameFits member.1.filename) = none := by
    rw [List.find?_eq_none]
    intro member listed
    obtain ⟨file, among, rfl⟩ := List.mem_map.1 listed
    simpa [archiveMember, zipInfo] using fits file among
  rw [none_stops]

theorem fits_of_writeMembers {archive : Bytes}
    (written : writeMembers zip (files.map (archiveMember timestamp extra)) = (.ok (), archive)) :
    ∀ file ∈ files, nameFits file.1 = true := by
  unfold writeMembers at written
  split at written
  · rename_i none_stops
    intro file among
    rw [List.find?_eq_none] at none_stops
    simpa [archiveMember, zipInfo] using
      none_stops _ (List.mem_map_of_mem (f := archiveMember timestamp extra) among)
  · split at written <;> cases written

/-- What is read of a member that was written. -/
def readMember (timestamp : DosTimestamp) (extra : Bytes) (file : SourceFile) : ArchiveMember :=
  (writtenInfo (zipInfo file.1 timestamp extra), file.2)

theorem canonicalInfo_written {file : SourceFile} (last : file.1.getLast? ≠ some slash) :
    CanonicalInfo (readMember timestamp extra file).1 timestamp extra := by
  refine ⟨last, rfl, rfl, rfl, rfl, Nat.mul_div_cancel _ (by decide), rfl, ?_, rfl, rfl⟩
  unfold readMember writtenInfo expectedFlagBits zipInfo
  dsimp only
  split <;> rfl

end

/-! ## The verifier -/

section

variable {python : Python} {timestamp : DosTimestamp} {extra : Bytes} {files : List SourceFile}

theorem verifyMember_written {file : SourceFile} (last : file.1.getLast? ≠ some slash)
    (distinct : (files.map Prod.fst).Nodup) (listed : file ∈ files) :
    verifyMember python timestamp extra files (readMember timestamp extra file) = .ok () := by
  have found : lookupNamed Prod.fst files
      (readMember timestamp extra file).1.filename = some file :=
    lookupNamed_of_nodup distinct listed
  unfold verifyMember
  rw [require_bind _ (canonicalInfo_written last), found]
  have size : (readMember timestamp extra file).2.length = file.2.length := rfl
  dsimp only
  rw [require_bind _ size]
  exact require_eq_ok.2 rfl

theorem verifyMembers_written (names : ∀ file ∈ files, file.1.getLast? ≠ some slash)
    (distinct : (files.map Prod.fst).Nodup) {rest : List SourceFile} (among : rest ⊆ files) :
    verifyMembers python timestamp extra files (rest.map (readMember timestamp extra)) =
      .ok () := by
  induction rest with
  | nil => rfl
  | cons file rest ih =>
    have listed : file ∈ files := among (List.mem_cons_self ..)
    rw [List.map_cons, verifyMembers, verifyMember_written (names file listed) distinct listed]
    exact ih fun other later => among (List.mem_cons_of_mem _ later)

/-- Verified members have the metadata that every member has. -/
theorem verifyMembers_canonical {members : List ArchiveMember}
    (verified : verifyMembers python timestamp extra files members = .ok ()) :
    ∀ member ∈ members, CanonicalInfo member.1 timestamp extra := by
  induction members with
  | nil => simp
  | cons first rest ih =>
    obtain ⟨done, checked, others⟩ := ok_of_bind.1 verified
    intro member listed
    rcases List.mem_cons.1 listed with rfl | later
    · obtain ⟨done', canonical, -⟩ := ok_of_bind.1 checked
      exact require_eq_ok.1 canonical
    · exact ih others member later

variable {tree : SourceTree} {path : ArchivePath} {finalizedAt : Option UtcInstant}
variable {expectedInventory : ExpectedInventory} {inventory : List InventoryEntry}

/-- What is known of a call once its inventory, its timestamps and its files are. -/
structure Described (python : Python) (tree : SourceTree) (finalizedAt : Option UtcInstant)
    (expectedInventory : ExpectedInventory) (inventory : List InventoryEntry)
    (timestamp : DosTimestamp) (extra : Bytes) (files : List SourceFile) : Prop where
  inventoried : verifiedSourceInventory python.sha256 tree expectedInventory = .ok inventory
  stamped : requireUserVisibleTimestamp finalizedAt = .ok timestamp
  extended : zipExtendedTimestamp finalizedAt = .ok extra
  walked : iterRegularFiles tree = .ok files

theorem Described.inventory_eq
    (described : Described python tree finalizedAt expectedInventory inventory timestamp extra
      files) : inventory = files.map (inventoryEntry python.sha256) := by
  obtain ⟨actual, walked, rest⟩ := ok_of_bind.1 described.inventoried
  rw [packageInventory_ok described.walked] at walked
  obtain rfl := Except.ok.inj walked
  split at rest
  · exact (Except.ok.inj rest).symm
  · obtain ⟨expected, -, rest⟩ := ok_of_bind.1 rest
    obtain ⟨-, -, same⟩ := ok_of_bind.1 rest
    exact (Except.ok.inj same).symm

theorem Described.finalized
    (described : Described python tree finalizedAt expectedInventory inventory timestamp extra
      files) (fits : ∀ file ∈ files, nameFits file.1 = true) :
    FinalizedMembers (files.map (archiveMember timestamp extra)) finalizedAt timestamp extra
      files where
  stamped := described.stamped
  extended := described.extended
  named := fun file listed => ⟨fits file listed, (walked_name described.walked listed).1⟩
  made := rfl

theorem open_written (inverse : python.zip.Inverse)
    (described : Described python tree finalizedAt expectedInventory inventory timestamp extra
      files) (fits : ∀ file ∈ files, nameFits file.1 = true)
    (classic : python.zip.needsZip64 (files.map (archiveMember timestamp extra)) = false) :
    python.zip.openArchive (python.zip.archive (files.map (archiveMember timestamp extra))) =
      .ok ⟨[], files.map (readMember timestamp extra), none⟩ := by
  unfold ZipLibrary.openArchive
  rw [inverse.read_archive (described.finalized fits) classic, List.map_map]
  rfl

theorem verifyReadArchive_written (walked : iterRegularFiles tree = .ok files)
    (lexical : StrictlyLexical (files.map Prod.fst)) :
    verifyReadArchive python timestamp extra files
      ⟨[], files.map (readMember timestamp extra), none⟩ = .ok () := by
  have names : (files.map (readMember timestamp extra)).map (fun member => member.1.filename) =
      files.map Prod.fst := by
    rw [List.map_map]
    rfl
  unfold verifyReadArchive
  dsimp only
  rw [names, require_bind _ lexical, require_bind _ ⟨rfl, rfl⟩,
    require_bind _ ⟨List.Subset.refl _, List.Subset.refl _⟩]
  exact verifyMembers_written (fun file listed => (walked_name walked listed).2) lexical.2
    (List.Subset.refl files)

/-- The archive of the members passes when they come in lexical order, their names fit and
none needs the ZIP64 format. -/
theorem verify_written (inverse : python.zip.Inverse)
    (described : Described python tree finalizedAt expectedInventory inventory timestamp extra
      files)
    (lexical : StrictlyLexical (files.map Prod.fst))
    (fits : ∀ file ∈ files, nameFits file.1 = true)
    (classic : python.zip.needsZip64 (files.map (archiveMember timestamp extra)) = false)
    (direct : path.traversesSymlink = false)
    (there : path.content =
      some (python.zip.archive (files.map (archiveMember timestamp extra)))) :
    ∃ result, verifyDeterministicArchive python tree path finalizedAt expectedInventory =
      .ok result := by
  obtain ⟨plain, -, -⟩ := iterRegularFiles_ok described.walked
  obtain ⟨text, encoded⟩ : ∃ text, canonicalJsonBytes inventory = .ok text := by
    rw [described.inventory_eq]
    apply canonicalJsonBytes_ok
    · intro entry listed
      obtain ⟨file, among, rfl⟩ := List.mem_map.1 listed
      exact nameFits_hasUtf8 (fits file among)
    · intro entry listed
      obtain ⟨file, among, rfl⟩ := List.mem_map.1 listed
      exact HexDigest.hasUtf8 _
  have digest : packageInventorySha256 python inventory = .ok (python.sha256 text).val := by
    unfold packageInventorySha256
    rw [encoded]
    rfl
  have content : existingArchivePath path =
      .ok (python.zip.archive (files.map (archiveMember timestamp extra))) := by
    unfold existingArchivePath
    rw [require_bind _ direct, there]
    rfl
  unfold verifyDeterministicArchive
  rw [require_bind _ plain, content, described.inventoried, described.stamped, described.extended,
    described.walked]
  simp only [bind, Except.bind]
  rw [open_written inverse described fits classic]
  dsimp only
  rw [verifyReadArchive_written described.walked lexical, digest]
  exact ⟨_, rfl⟩

theorem existingArchivePath_eq_ok {content : Bytes}
    (existing : existingArchivePath path = .ok content) : path.content = some content := by
  obtain ⟨_, -, rest⟩ := ok_of_bind.1 existing
  split at rest
  · rename_i found there
    rw [there, Except.ok.inj rest]
  · cases rest

/-- An archive whose members are in the ZIP64 format does not pass. -/
theorem classic_of_verified (inverse : python.zip.Inverse) {members : List ArchiveMember}
    {result : ArchiveResult}
    (finalized : FinalizedMembers members finalizedAt timestamp extra files)
    (there : path.content = some (python.zip.archive members))
    (verified : verifyDeterministicArchive python tree path finalizedAt expectedInventory =
      .ok result) : python.zip.needsZip64 members = false := by
  obtain ⟨_, -, verified⟩ := ok_of_bind.1 verified
  obtain ⟨content, existing, verified⟩ := ok_of_bind.1 verified
  obtain ⟨_, -, verified⟩ := ok_of_bind.1 verified
  obtain ⟨_, -, verified⟩ := ok_of_bind.1 verified
  obtain ⟨_, -, verified⟩ := ok_of_bind.1 verified
  obtain ⟨_, -, verified⟩ := ok_of_bind.1 verified
  obtain ⟨archive, opened, verified⟩ := ok_of_bind.1 verified
  obtain ⟨_, checked, -⟩ := ok_of_bind.1 verified
  obtain ⟨_, -, checked⟩ := ok_of_bind.1 checked
  obtain ⟨_, -, checked⟩ := ok_of_bind.1 checked
  obtain ⟨_, -, checked⟩ := ok_of_bind.1 checked
  obtain rfl : python.zip.archive members = content := by
    have same := existingArchivePath_eq_ok existing
    rw [there] at same
    exact Option.some.inj same
  have found : python.zip.read (python.zip.archive members) = some archive := by
    unfold ZipLibrary.openArchive at opened
    split at opened
    · rename_i read_there
      rw [read_there, Except.ok.inj opened]
    · cases opened
  cases large : python.zip.needsZip64 members with
  | false => rfl
  | true =>
    obtain ⟨member, listed, version⟩ := inverse.read_zip64 finalized large found
    have canonical := verifyMembers_canonical checked member listed
    rw [canonical.2.2.2.2.1] at version
    cases version

end

/-! ## The claim about the whole -/

section

variable (python : Python) (tree : SourceTree) (path : ArchivePath)
variable (finalizedAt : Option UtcInstant)

/-- An absent destination outside the tree. -/
structure Fresh (path : ArchivePath) : Prop where
  absent : path.content = none
  outside : path.insideRoot = false

/-- The destination is reached without symbolic links, and its directory can be made. -/
structure Reachable (path : ArchivePath) : Prop where
  direct : path.traversesSymlink = false
  parent : path.parentUsable = true

/-- The inventory of a package, as it is given to later calls. -/
def givenInventory (inventory : List InventoryEntry) : ExpectedInventory :=
  .entries (inventory.map InventoryEntry.given)

/-- Two trees have the same paths and bytes. -/
def SameFiles (tree other : SourceTree) : Prop :=
  ∀ path content, (path, Entry.file content) ∈ tree.entries ↔
    (path, Entry.file content) ∈ other.entries

/-- The inventory is accepted; the archive is written, verified with the same result, and is
the same for every tree with these files; a call that raises leaves no file. -/
structure WritesAlike : Prop where
  accepted : ∃ inventory, packageInventory python.sha256 tree = .ok inventory ∧
    validatedExpectedInventory (givenInventory inventory) = .ok inventory
  written : ∃ inventory result archive, packageInventory python.sha256 tree = .ok inventory ∧
    writeDeterministicArchive python tree path finalizedAt (givenInventory inventory) =
      (.ok result, some archive) ∧
    verifyDeterministicArchive python tree { path with content := some archive } finalizedAt
      (givenInventory inventory) = .ok result ∧
    ∀ other files otherPath, iterRegularFiles other = .ok files → SameFiles tree other →
      Fresh otherPath → Reachable otherPath → ∃ result',
      writeDeterministicArchive python other otherPath finalizedAt (givenInventory inventory) =
        (.ok result', some archive)
  clean : ∀ expectedInventory failure left,
    writeDeterministicArchive python tree path finalizedAt expectedInventory =
      (.error failure, left) → left = none

/-- Such a tree can be written: its paths and their texts have one order, the archive can
hold every name, and no member needs the ZIP64 format. -/
structure Archivable (files : List SourceFile) (members : List ArchiveMember) : Prop where
  ordered : OrdersAlike tree
  fits : ∀ file ∈ files, nameFits file.1 = true
  classic : python.zip.needsZip64 members = false

end

section

variable {python : Python} {tree : SourceTree} {path : ArchivePath}
variable {finalizedAt : Option UtcInstant} {timestamp : DosTimestamp} {extra : Bytes}
variable {files : List SourceFile} {expectedInventory : ExpectedInventory}
variable {inventory : List InventoryEntry}

theorem prepareArchive_described
    (described : Described python tree finalizedAt expectedInventory inventory timestamp extra
      files) (fresh : Fresh path) (reachable : Reachable path) :
    prepareArchive python tree path finalizedAt expectedInventory =
      .ok (files.map (archiveMember timestamp extra)) := by
  obtain ⟨plain, -, -⟩ := iterRegularFiles_ok described.walked
  have destination : archiveDestination path = .ok () := by
    unfold archiveDestination
    rw [require_bind _ reachable.direct, require_bind _ fresh.absent]
    exact require_eq_ok.2 fresh.outside
  unfold prepareArchive
  rw [require_bind _ plain, destination, described.inventoried, described.stamped,
    described.extended, described.walked]
  simp only [bind, Except.bind]
  rw [if_pos reachable.parent]
  rfl

/-- What is known of a call whose members are ready. -/
theorem described_of_prepared {members : List ArchiveMember}
    (prepared : prepareArchive python tree path finalizedAt expectedInventory = .ok members) :
    Reachable path ∧ ∃ inventory timestamp extra files,
      Described python tree finalizedAt expectedInventory inventory timestamp extra files ∧
      members = files.map (archiveMember timestamp extra) := by
  obtain ⟨_, -, prepared⟩ := ok_of_bind.1 prepared
  obtain ⟨_, destination, prepared⟩ := ok_of_bind.1 prepared
  obtain ⟨inventory, inventoried, prepared⟩ := ok_of_bind.1 prepared
  obtain ⟨timestamp, stamped, prepared⟩ := ok_of_bind.1 prepared
  obtain ⟨extra, extended, prepared⟩ := ok_of_bind.1 prepared
  obtain ⟨files, walked, prepared⟩ := ok_of_bind.1 prepared
  obtain ⟨_, direct, -⟩ := ok_of_bind.1 destination
  split at prepared
  · rename_i usable
    exact ⟨⟨require_eq_ok.1 direct, usable⟩, inventory, timestamp, extra, files,
      ⟨inventoried, stamped, extended, walked⟩, (Except.ok.inj prepared).symm⟩
  · cases prepared

/-- What is written of files whose names fit. -/
theorem write_described
    (described : Described python tree finalizedAt expectedInventory inventory timestamp extra
      files) (fresh : Fresh path) (reachable : Reachable path)
    (fits : ∀ file ∈ files, nameFits file.1 = true) :
    writeDeterministicArchive python tree path finalizedAt expectedInventory =
      (verifyDeterministicArchive python tree
        { path with
          content := some (python.zip.archive (files.map (archiveMember timestamp extra))) }
        finalizedAt expectedInventory,
      some (python.zip.archive (files.map (archiveMember timestamp extra)))) := by
  unfold writeDeterministicArchive
  rw [prepareArchive_described described fresh reachable]
  dsimp only
  rw [writeMembers_fits fits]

theorem givenInventory_accepted (walk : iterRegularFiles tree = .ok files)
    (ordered : OrdersAlike tree) :
    validatedExpectedInventory (givenInventory (files.map (inventoryEntry python.sha256))) =
      .ok (files.map (inventoryEntry python.sha256)) := by
  obtain ⟨-, same, safe⟩ := iterRegularFiles_ok walk
  rw [givenInventory, validatedExpectedInventory_given safe, if_pos]
  rw [same]
  exact (ordersAlike_iff tree).1 ordered

/-- The inventory of the files is accepted for every tree that has these files. -/
theorem verifiedSourceInventory_given (walk : iterRegularFiles tree = .ok files)
    (ordered : OrdersAlike tree) :
    verifiedSourceInventory python.sha256 tree
        (givenInventory (files.map (inventoryEntry python.sha256))) =
      .ok (files.map (inventoryEntry python.sha256)) := by
  unfold verifiedSourceInventory
  rw [packageInventory_ok walk]
  simp only [bind, Except.bind]
  rw [if_neg (by simp [givenInventory]), givenInventory_accepted walk ordered]
  exact require_bind _ rfl

/-- What is known of a call that returns. -/
theorem write_returned {result : ArchiveResult} {left : Option Bytes}
    (written : writeDeterministicArchive python tree path finalizedAt expectedInventory =
      (.ok result, left)) :
    Reachable path ∧ ∃ inventory timestamp extra files,
      Described python tree finalizedAt expectedInventory inventory timestamp extra files ∧
      (∀ file ∈ files, nameFits file.1 = true) ∧
      verifyDeterministicArchive python tree
        { path with
          content := some (python.zip.archive (files.map (archiveMember timestamp extra))) }
        finalizedAt expectedInventory = .ok result := by
  unfold writeDeterministicArchive at written
  split at written
  · cases written
  · rename_i members prepared
    obtain ⟨reachable, inventory, timestamp, extra, files, described, rfl⟩ :=
      described_of_prepared prepared
    split at written
    · cases written
    · rename_i archive members_written
      have fits := fits_of_writeMembers members_written
      rw [writeMembers_fits fits] at members_written
      obtain rfl := (Prod.mk.inj members_written).2
      exact ⟨reachable, inventory, timestamp, extra, files, described, fits,
        (Prod.mk.inj written).1⟩

/-- A tree that can be archived is written, and its archive is verified with this result. -/
theorem write_archivable (inverse : python.zip.Inverse)
    (described : Described python tree finalizedAt expectedInventory inventory timestamp extra
      files)
    (archivable : Archivable python tree files (files.map (archiveMember timestamp extra)))
    (fresh : Fresh path) (reachable : Reachable path) :
    ∃ result, writeDeterministicArchive python tree path finalizedAt expectedInventory =
        (.ok result, some (python.zip.archive (files.map (archiveMember timestamp extra)))) ∧
      verifyDeterministicArchive python tree
        { path with
          content := some (python.zip.archive (files.map (archiveMember timestamp extra))) }
        finalizedAt expectedInventory = .ok result := by
  have lexical : StrictlyLexical (files.map Prod.fst) := by
    obtain ⟨-, same, -⟩ := iterRegularFiles_ok described.walked
    rw [same]
    exact (ordersAlike_iff tree).1 archivable.ordered
  obtain ⟨result, verified⟩ : ∃ result, verifyDeterministicArchive python tree
      { path with
        content := some (python.zip.archive (files.map (archiveMember timestamp extra))) }
      finalizedAt expectedInventory = .ok result :=
    verify_written inverse described lexical archivable.fits archivable.classic reachable.direct
      rfl
  refine ⟨result, ?_, verified⟩
  rw [write_described described fresh reachable archivable.fits, verified]

theorem walk_same {other : SourceTree} {others : List SourceFile}
    (walk : iterRegularFiles tree = .ok files) (walk' : iterRegularFiles other = .ok others)
    (same : SameFiles tree other) :
    others = files ∧ (OrdersAlike tree → OrdersAlike other) := by
  obtain ⟨-, rfl, -⟩ := iterRegularFiles_ok walk
  obtain ⟨-, rfl, -⟩ := iterRegularFiles_ok walk'
  refine ⟨by rw [sortedFiles_congr same], ?_⟩
  rw [ordersAlike_iff, ordersAlike_iff, sortedFiles_congr same]
  exact id

/-- Files whose texts are out of order stop a call without an inventory at its verification:
the archive is there already. -/
theorem write_unordered (inverse : python.zip.Inverse)
    (described : Described python tree finalizedAt expectedInventory inventory timestamp extra
      files) (fresh : Fresh path) (reachable : Reachable path)
    (fits : ∀ file ∈ files, nameFits file.1 = true)
    (classic : python.zip.needsZip64 (files.map (archiveMember timestamp extra)) = false)
    (unordered : ¬ StrictlyLexical (files.map Prod.fst)) :
    writeDeterministicArchive python tree path finalizedAt expectedInventory =
      (raise "archive members must be strictly lexical and unique",
        some (python.zip.archive (files.map (archiveMember timestamp extra)))) := by
  obtain ⟨plain, -, -⟩ := iterRegularFiles_ok described.walked
  have names : (files.map (readMember timestamp extra)).map (fun member => member.1.filename) =
      files.map Prod.fst := by
    rw [List.map_map]
    rfl
  have stops : verifyReadArchive python timestamp extra files
      ⟨[], files.map (readMember timestamp extra), none⟩ =
        raise "archive members must be strictly lexical and unique" := by
    unfold verifyReadArchive
    dsimp only
    rw [names, require, if_neg unordered]
    rfl
  rw [write_described described fresh reachable fits]
  refine Prod.ext ?_ rfl
  unfold verifyDeterministicArchive existingArchivePath
  rw [require_bind _ plain, require_bind _ reachable.direct, described.inventoried,
    described.stamped, described.extended, described.walked]
  simp only [bind, Except.bind, pure, Except.pure]
  rw [open_written inverse described fits classic]
  dsimp only
  rw [stops]
  rfl

end

/-! ## Two small packages -/

section

instance encodableByte : Encodable UInt8 :=
  Encodable.ofLeftInjection UInt8.toNat (fun n => some (UInt8.ofNat n))
    fun _ => congrArg some UInt8.ofNat_toNat

def DosTimestamp.numbers (timestamp : DosTimestamp) : List Nat :=
  [timestamp.year, timestamp.month, timestamp.day, timestamp.hour, timestamp.minute,
    timestamp.second]

instance : Encodable DosTimestamp :=
  Encodable.ofLeftInjection DosTimestamp.numbers
    (fun
      | [year, month, day, hour, minute, second] => some ⟨year, month, day, hour, minute, second⟩
      | _ => none)
    fun _ => rfl

instance : Encodable ZipInfo :=
  Encodable.ofLeftInjection
    (fun info : ZipInfo => (info.filename, info.dateTime, info.extra, info.comment,
      [info.compressType, info.createSystem, info.createVersion, info.extractVersion,
        info.externalAttr, info.internalAttr, info.flagBits]))
    (fun
      | (filename, dateTime, extra, comment, [compressType, createSystem, createVersion,
          extractVersion, externalAttr, internalAttr, flagBits]) =>
        some ⟨filename, dateTime, compressType, createSystem, createVersion, extractVersion,
          externalAttr, internalAttr, flagBits, extra, comment⟩
      | _ => none)
    fun _ => rfl

end

def noteInstant : UtcInstant where
  year := 2026
  month := 1
  day := 2
  hour := 3
  minute := 4
  second := 6
  epochSeconds := 1767323046
  monthInYear := by decide
  dayInMonth := by decide
  timeInDay := by decide

def noteTimestamp : DosTimestamp := ⟨2026, 1, 2, 3, 4, 6⟩

def noteExtra : Bytes := [0x55, 0x54, 5, 0, 1, 166, 53, 87, 105]

def noteContent : Bytes := [0x61, 0x6c, 0x70, 0x68, 0x61, 0x0a]

def noteMembers : List ArchiveMember :=
  [archiveMember noteTimestamp noteExtra (str "a.txt", noteContent)]

/-- The archive of the one note. -/
def noteArchive : Bytes :=
  [80, 75, 3, 4, 20, 0, 0, 0, 8, 0, 131, 24, 34, 92, 236, 110, 96, 159, 8, 0, 0, 0, 6, 0, 0,
    0, 5, 0, 9, 0, 97, 46, 116, 120, 116, 85, 84, 5, 0, 1, 166, 53, 87, 105, 75, 204, 41, 200,
    72, 228, 2, 0, 80, 75, 1, 2, 20, 3, 20, 0, 0, 0, 8, 0, 131, 24, 34, 92, 236, 110, 96, 159,
    8, 0, 0, 0, 6, 0, 0, 0, 5, 0, 9, 0, 0, 0, 0, 0, 0, 0, 0, 0, 164, 129, 0, 0, 0, 0, 97, 46,
    116, 120, 116, 85, 84, 5, 0, 1, 166, 53, 87, 105, 80, 75, 5, 6, 0, 0, 0, 0, 1, 0, 1, 0,
    60, 0, 0, 0, 52, 0, 0, 0, 0, 0]

/-- The one note has its archive, other members have a long row of zeros. -/
def noteZip : ZipLibrary where
  archive members :=
    if members = noteMembers then noteArchive
    else List.replicate (Encodable.encode members) 0
  stopped _ := []
  read content :=
    (if content = noteArchive then some noteMembers else Encodable.decode content.length).map
      fun members => ⟨[], members.map fun member => (writtenInfo member.1, member.2), none⟩
  needsZip64 _ := false

theorem noteZip_inverse : noteZip.Inverse where
  read_archive := by
    intro members _ _ _ _ _ _
    by_cases note : members = noteMembers
    · simp only [noteZip, if_pos note, if_true]
      rw [note]
      rfl
    · have apart : List.replicate (Encodable.encode members) 0 ≠ noteArchive := by
        intro same
        have first : (0x50 : UInt8) ∈ List.replicate (Encodable.encode members) 0 := by
          rw [same]
          exact List.mem_cons_self ..
        exact absurd (List.eq_of_mem_replicate first) (by decide)
      simp only [noteZip, if_neg note, if_neg apart, List.length_replicate, Encodable.encodek]
      rfl
  read_zip64 := fun _ needed => by cases needed

def notePython : Python where
  zip := noteZip
  sha256 content :=
    if content = noteContent then
      ⟨str "b6a98d9ce9a2d9149288fa3df42d377c3e42737afdcdaf714e33c0a100b51060", by decide +kernel⟩
    else ⟨List.replicate 64 (pointOf '0'), by decide +kernel⟩

def noteName : FileName := ⟨str "a.txt", by decide +kernel⟩
def folderName : FileName := ⟨str "a", by decide +kernel⟩
def leafName : FileName := ⟨str "b", by decide +kernel⟩

/-- A tree with one note. -/
def noteTree : SourceTree where
  symlinkRoot := false
  directoryRoot := true
  entries := [([noteName], .file noteContent)]
  distinct := by decide +kernel
  below := by simp

/-- A tree with a directory beside a file whose name goes on where the name of the directory
ends. -/
def forkedTree : SourceTree where
  symlinkRoot := false
  directoryRoot := true
  entries := [([folderName], .directory), ([folderName, leafName], .file noteContent),
    ([noteName], .file noteContent)]
  distinct := by decide +kernel
  below := by simp

def notePath : ArchivePath where
  name := str "notes.zip"
  traversesSymlink := false
  insideRoot := false
  parentUsable := true
  content := none

def noteFiles : List SourceFile := [(str "a.txt", noteContent)]
def forkedFiles : List SourceFile := [(str "a/b", noteContent), (str "a.txt", noteContent)]

theorem noteTree_walk : iterRegularFiles noteTree = .ok noteFiles := by decide +kernel

theorem forkedTree_walk : iterRegularFiles forkedTree = .ok forkedFiles := by decide +kernel

theorem noteInstant_stamped :
    requireUserVisibleTimestamp (some noteInstant) = .ok noteTimestamp := rfl

theorem noteInstant_extended : zipExtendedTimestamp (some noteInstant) = .ok noteExtra := by
  decide +kernel

theorem notePath_fresh : Fresh notePath := ⟨rfl, rfl⟩

theorem notePath_reachable : Reachable notePath := ⟨rfl, rfl⟩

theorem noteTree_ordered : OrdersAlike noteTree := by
  rw [ordersAlike_iff]
  decide +kernel

theorem forkedFiles_unordered : ¬ StrictlyLexical (forkedFiles.map Prod.fst) := by
  decide +kernel

section

variable {python : Python} {tree : SourceTree} {path : ArchivePath}
variable {finalizedAt : Option UtcInstant} {timestamp : DosTimestamp} {extra : Bytes}
variable {files : List SourceFile}

/-- Archives are written and verified alike exactly for the trees that can be archived, at
destinations that can be reached. -/
theorem writesAlike_iff (inverse : python.zip.Inverse) (walk : iterRegularFiles tree = .ok files)
    (stamped : requireUserVisibleTimestamp finalizedAt = .ok timestamp)
    (extended : zipExtendedTimestamp finalizedAt = .ok extra) (fresh : Fresh path) :
    WritesAlike python tree path finalizedAt ↔
      Archivable python tree files (files.map (archiveMember timestamp extra)) ∧
        Reachable path := by
  obtain ⟨-, same, safe⟩ := iterRegularFiles_ok walk
  constructor
  · rintro ⟨⟨inventory, listed, accepted⟩, ⟨inventory', result, archive, -, written, -⟩, -⟩
    obtain ⟨reachable, _, _, _, _, described, fits, verified⟩ := write_returned written
    obtain rfl := Except.ok.inj (stamped.symm.trans described.stamped)
    obtain rfl := Except.ok.inj (extended.symm.trans described.extended)
    obtain rfl := Except.ok.inj (walk.symm.trans described.walked)
    refine ⟨⟨?_, fits, ?_⟩, reachable⟩
    · rw [packageInventory_ok walk] at listed
      obtain rfl := Except.ok.inj listed
      rw [givenInventory, validatedExpectedInventory_given safe] at accepted
      split at accepted
      · rename_i lexical
        rw [same] at lexical
        exact (ordersAlike_iff tree).2 lexical
      · cases accepted
    · exact classic_of_verified inverse (described.finalized fits) rfl verified
  · rintro ⟨archivable, reachable⟩
    refine ⟨⟨_, packageInventory_ok walk, givenInventory_accepted walk archivable.ordered⟩,
      ?_, ?_⟩
    · have described : Described python tree finalizedAt _ _ timestamp extra files :=
        ⟨verifiedSourceInventory_given walk archivable.ordered, stamped, extended, walk⟩
      obtain ⟨result, written, verified⟩ :=
        write_archivable inverse described archivable fresh reachable
      refine ⟨_, result, _, packageInventory_ok walk, written, verified, ?_⟩
      intro other others otherPath walk' alike fresh' reachable'
      obtain ⟨rfl, ordered⟩ := walk_same walk walk' alike
      have described' : Described python other finalizedAt _ _ timestamp extra others :=
        ⟨verifiedSourceInventory_given walk' (ordered archivable.ordered), stamped, extended,
          walk'⟩
      obtain ⟨result', written', -⟩ := write_archivable inverse described'
        ⟨ordered archivable.ordered, archivable.fits, archivable.classic⟩ fresh' reachable'
      exact ⟨result', written'⟩
    · intro expectedInventory failure left raised
      cases prepared : prepareArchive python tree path finalizedAt expectedInventory with
      | error failure' =>
        unfold writeDeterministicArchive at raised
        rw [prepared] at raised
        exact (Prod.mk.inj raised).2.symm.trans fresh.absent
      | ok members =>
        obtain ⟨-, _, _, _, _, described, -⟩ := described_of_prepared prepared
        obtain rfl := Except.ok.inj (stamped.symm.trans described.stamped)
        obtain rfl := Except.ok.inj (extended.symm.trans described.extended)
        obtain rfl := Except.ok.inj (walk.symm.trans described.walked)
        obtain ⟨result, written, -⟩ :=
          write_archivable inverse described archivable fresh reachable
        rw [written] at raised
        cases raised

end

/-- The tree with the one note is written and verified. -/
theorem writesAlike_note : WritesAlike notePython noteTree notePath (some noteInstant) :=
  (writesAlike_iff noteZip_inverse noteTree_walk noteInstant_stamped noteInstant_extended
    notePath_fresh).2
    ⟨⟨noteTree_ordered, by decide +kernel, rfl⟩, notePath_reachable⟩

/-- The walk goes into `a` before it comes to `a.txt`, but `a.txt` is the smaller text: the
inventory is not accepted, and a call without one raises and leaves its archive. -/
theorem forkedTree_not_alike :
    Fresh notePath ∧ Reachable notePath ∧
      requireUserVisibleTimestamp (some noteInstant) = .ok noteTimestamp ∧
      zipExtendedTimestamp (some noteInstant) = .ok noteExtra ∧
      iterRegularFiles forkedTree = .ok forkedFiles ∧
      validatedExpectedInventory
          (givenInventory (forkedFiles.map (inventoryEntry notePython.sha256))) =
        raise "expected_inventory paths must be strictly lexical and unique" ∧
      writeDeterministicArchive notePython forkedTree notePath (some noteInstant) .absent =
        (raise "archive members must be strictly lexical and unique",
          some (noteZip.archive (forkedFiles.map (archiveMember noteTimestamp noteExtra)))) ∧
      ¬ WritesAlike notePython forkedTree notePath (some noteInstant) := by
  have refused : validatedExpectedInventory
      (givenInventory (forkedFiles.map (inventoryEntry notePython.sha256))) =
        raise "expected_inventory paths must be strictly lexical and unique" := by
    obtain ⟨-, -, safe⟩ := iterRegularFiles_ok forkedTree_walk
    rw [givenInventory, validatedExpectedInventory_given safe, if_neg forkedFiles_unordered]
  have described : Described notePython forkedTree (some noteInstant) .absent
      (forkedFiles.map (inventoryEntry notePython.sha256)) noteTimestamp noteExtra forkedFiles := by
    refine ⟨?_, noteInstant_stamped, noteInstant_extended, forkedTree_walk⟩
    unfold verifiedSourceInventory
    rw [packageInventory_ok forkedTree_walk]
    rfl
  refine ⟨notePath_fresh, notePath_reachable, noteInstant_stamped, noteInstant_extended,
    forkedTree_walk, refused, ?_, ?_⟩
  · exact write_unordered noteZip_inverse described notePath_fresh
      notePath_reachable (by decide +kernel) rfl forkedFiles_unordered
  · rintro ⟨⟨inventory, listed, accepted⟩, -, -⟩
    rw [packageInventory_ok forkedTree_walk] at listed
    obtain rfl := Except.ok.inj listed
    rw [refused] at accepted
    cases accepted

end OnePersonLab.Package
