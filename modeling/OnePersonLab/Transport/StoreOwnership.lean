import OnePersonLab.Transport.FileSystem

/-!
# Who may change what

A call owns the temporary files that carry its identity: no other call writes or links
them. What is linked under a digest stays, is synchronised and has that digest.
-/

namespace OnePersonLab.Transport

open Lib

/-- The objects of a store, and what belongs to the calls under way. `stored` is what may
be linked as JSON. -/
structure Disk.Sound (sha256 : Bytes → Digest) (stored : Bytes → Prop) (disk : Disk) : Prop where
  object : ∀ directory digest extension file,
    disk.names (.object directory digest extension) = some file →
      sha256 (disk.files file).bytes = digest ∧ (disk.files file).synced = true ∧
        (extension = .json → stored (disk.files file).bytes)
  known : ∀ path file, disk.names path = some file → file < disk.created
  single : ∀ directory digest id directory' digest' id' file,
    disk.names (.temporary directory digest id) = some file →
    disk.names (.temporary directory' digest' id') = some file → id = id'

/-- What the others leave to a call. -/
structure Disk.Keeps (id : CallId) (disk after : Disk) : Prop where
  object : ∀ directory digest extension file,
    disk.names (.object directory digest extension) = some file →
      after.names (.object directory digest extension) = some file ∧
        (after.files file).bytes = (disk.files file).bytes
  temporary : ∀ directory digest,
    after.names (.temporary directory digest id) = disk.names (.temporary directory digest id)
  content : ∀ directory digest file, disk.names (.temporary directory digest id) = some file →
    (after.files file).bytes = (disk.files file).bytes ∧
      (after.files file).synced = (disk.files file).synced
  unlinked : ∀ directory digest file, disk.names (.temporary directory digest id) = some file →
    ∀ directory' digest' extension, after.names (.object directory' digest' extension) = some file →
      disk.names (.object directory' digest' extension) = some file

theorem Disk.Keeps.refl (id : CallId) (disk : Disk) : disk.Keeps id disk :=
  ⟨fun _ _ _ _ named => ⟨named, rfl⟩, fun _ _ => rfl, fun _ _ _ _ => ⟨rfl, rfl⟩,
    fun _ _ _ _ _ _ _ named => named⟩

theorem Disk.Keeps.trans {id : CallId} {first second third : Disk} (early : first.Keeps id second)
    (late : second.Keeps id third) : first.Keeps id third := by
  refine ⟨?_, ?_, ?_, ?_⟩
  · intro directory digest extension file named
    obtain ⟨still, bytes⟩ := early.object directory digest extension file named
    obtain ⟨later, bytes'⟩ := late.object directory digest extension file still
    exact ⟨later, bytes'.trans bytes⟩
  · intro directory digest
    exact (late.temporary directory digest).trans (early.temporary directory digest)
  · intro directory digest file named
    have still := (early.temporary directory digest).trans named
    obtain ⟨bytes, synced⟩ := early.content directory digest file named
    obtain ⟨bytes', synced'⟩ := late.content directory digest file still
    exact ⟨bytes'.trans bytes, synced'.trans synced⟩
  · intro directory digest file named directory' digest' extension linked
    have still := (early.temporary directory digest).trans named
    exact early.unlinked directory digest file named directory' digest' extension
      (late.unlinked directory digest file still directory' digest' extension linked)

/-- The calls on a store. -/
def storeOwnership (sha256 : Bytes → Digest) (stored : Bytes → Prop) : Ownership CallId Disk where
  invariant := Disk.Sound sha256 stored
  keeps := Disk.Keeps
  refl := Disk.Keeps.refl
  trans := Disk.Keeps.trans

/-! ## Steps -/

theorem object_ne_temporary {directory directory' : String} {digest digest' : Digest}
    {extension : Extension} {id : CallId} :
    Path.object directory digest extension ≠ .temporary directory' digest' id := nofun

namespace Disk

variable {disk : Disk}

@[simp] theorem setFile_names (file : Nat) (content : File) :
    (disk.setFile file content).names = disk.names := rfl

@[simp] theorem setFile_created (file : Nat) (content : File) :
    (disk.setFile file content).created = disk.created := rfl

theorem setFile_self (file : Nat) (content : File) :
    (disk.setFile file content).files file = content := Function.update_self ..

theorem setFile_of_ne {file other : Nat} (content : File) (different : other ≠ file) :
    (disk.setFile file content).files other = disk.files other := Function.update_of_ne different ..

theorem create_names_self (path : Path) (time : Nat) :
    (disk.create path time).names path = some disk.created := Function.update_self ..

theorem create_names_of_ne {path other : Path} (different : other ≠ path) (time : Nat) :
    (disk.create path time).names other = disk.names other := Function.update_of_ne different ..

theorem link_names_self (path : Path) (file time : Nat) :
    (disk.link path file time).names path = some file := Function.update_self ..

theorem link_names_of_ne {path other : Path} (different : other ≠ path) (file time : Nat) :
    (disk.link path file time).names other = disk.names other := Function.update_of_ne different ..

theorem remove_names_of_ne {path other : Path} (different : other ≠ path) (time : Nat) :
    (disk.remove path time).names other = disk.names other := by
  unfold remove
  exact Function.update_of_ne different ..

/-- A step that changes the times of one file. -/
theorem touch_same (file time other : Nat) :
    ((disk.touch file time).files other).bytes = (disk.files other).bytes ∧
      ((disk.touch file time).files other).synced = (disk.files other).synced := by
  unfold touch
  by_cases same : other = file
  · subst same
    rw [setFile_self]
    exact ⟨rfl, rfl⟩
  · rw [setFile_of_ne _ same]
    exact ⟨rfl, rfl⟩

end Disk

section

variable {sha256 : Bytes → Digest} {stored : Bytes → Prop} {disk : Disk} {id : CallId}

/-- Names and contents stay as they are. -/
theorem own_of_same {after : Disk} (sound : disk.Sound sha256 stored)
    (names : after.names = disk.names) (created : after.created = disk.created)
    (files : ∀ file, (after.files file).bytes = (disk.files file).bytes ∧
      (after.files file).synced = (disk.files file).synced) :
    (storeOwnership sha256 stored).Own id disk after := by
  refine ⟨fun other _ => ⟨?_, ?_, ?_, ?_⟩, ⟨?_, ?_, ?_⟩⟩
  · intro directory digest extension file named
    exact ⟨names ▸ named, (files file).1⟩
  · intro directory digest
    rw [names]
  · intro directory digest file _
    exact files file
  · intro directory digest file _ directory' digest' extension linked
    exact names ▸ linked
  · intro directory digest extension file named
    rw [names] at named
    rw [(files file).1, (files file).2]
    exact sound.object directory digest extension file named
  · intro path file named
    rw [created]
    exact sound.known path file (names ▸ named)
  · rw [names]
    exact sound.single

theorem own_touch (sound : disk.Sound sha256 stored) (file time : Nat) :
    (storeOwnership sha256 stored).Own id disk (disk.touch file time) :=
  own_of_same sound rfl rfl (Disk.touch_same file time)

theorem own_create (sound : disk.Sound sha256 stored) (directory : String) (digest : Digest)
    (time : Nat) :
    (storeOwnership sha256 stored).Own id disk
      (disk.create (.temporary directory digest id) time) := by
  have old {path : Path} {file : Nat} (named : disk.names path = some file) :
      (disk.create (.temporary directory digest id) time).files file = disk.files file :=
    Disk.setFile_of_ne _ (sound.known path file named).ne
  have names (path : Path) (other : path ≠ .temporary directory digest id) :=
    @Disk.create_names_of_ne disk _ path other time
  have self := @Disk.create_names_self disk (.temporary directory digest id) time
  -- The new file is named by the new name only.
  have fresh {path : Path} (other : path ≠ .temporary directory digest id) :
      (disk.create (.temporary directory digest id) time).names path ≠ some disk.created := by
    intro named
    rw [names path other] at named
    exact absurd (sound.known path _ named) (lt_irrefl _)
  refine ⟨fun other different => ⟨?_, ?_, ?_, ?_⟩, ⟨?_, ?_, ?_⟩⟩
  · intro directory' digest' extension file named
    refine ⟨(names _ object_ne_temporary).trans named, ?_⟩
    rw [old named]
  · intro directory' digest'
    refine names _ ?_
    rintro ⟨rfl, rfl, rfl⟩
    exact different rfl
  · intro directory' digest' file named
    rw [old named]
    exact ⟨rfl, rfl⟩
  · intro _ _ _ _ directory' digest' extension linked
    rw [names _ object_ne_temporary] at linked
    exact linked
  · intro directory' digest' extension file named
    rw [names _ object_ne_temporary] at named
    rw [old named]
    exact sound.object directory' digest' extension file named
  · intro path file named
    change file < disk.created + 1
    by_cases same : path = .temporary directory digest id
    · rw [same, self] at named
      rw [← Option.some.inj named]
      exact Nat.lt_succ_self _
    · rw [names path same] at named
      exact Nat.lt_succ_of_lt (sound.known path file named)
  · intro first firstDigest firstId second secondDigest secondId file named named'
    by_cases same : Path.temporary first firstDigest firstId = .temporary directory digest id
    · rw [same, self] at named
      obtain rfl := Option.some.inj named
      by_cases same' : Path.temporary second secondDigest secondId = .temporary directory digest id
      · rw [Path.temporary.injEq] at same same'
        rw [same.2.2, same'.2.2]
      · exact absurd named' (fresh same')
    · by_cases same' : Path.temporary second secondDigest secondId = .temporary directory digest id
      · rw [same', self] at named'
        obtain rfl := Option.some.inj named'
        exact absurd named (fresh same)
      · rw [names _ same] at named
        rw [names _ same'] at named'
        exact sound.single _ _ _ _ _ _ _ named named'

/-- The temporary file of a call, with what it has written. -/
structure Holds (id : CallId) (directory : String) (digest : Digest) (file : Nat) (bytes : Bytes)
    (disk : Disk) : Prop where
  named : disk.names (.temporary directory digest id) = some file
  bytes : (disk.files file).bytes = bytes
  unlinked : ∀ directory' digest' extension,
    disk.names (.object directory' digest' extension) ≠ some file

/-- A call changes the file that it holds. -/
theorem own_setFile (sound : disk.Sound sha256 stored) {directory : String} {digest : Digest}
    {file : Nat} {bytes : Bytes} (holds : Holds id directory digest file bytes disk)
    (content : File) : (storeOwnership sha256 stored).Own id disk (disk.setFile file content) := by
  have objects {directory' : String} {digest' : Digest} {extension : Extension} {other : Nat}
      (named : disk.names (.object directory' digest' extension) = some other) :
      (disk.setFile file content).files other = disk.files other := by
    refine Disk.setFile_of_ne content ?_
    rintro rfl
    exact holds.unlinked _ _ _ named
  refine ⟨fun other different => ⟨?_, fun _ _ => rfl, ?_, fun _ _ _ _ _ _ _ linked => linked⟩,
    ⟨?_, sound.known, sound.single⟩⟩
  · intro directory' digest' extension other named
    rw [objects named]
    exact ⟨named, rfl⟩
  · intro directory' digest' theirs named
    rw [Disk.setFile_of_ne]
    · exact ⟨rfl, rfl⟩
    · rintro rfl
      exact different (sound.single _ _ _ _ _ _ _ named holds.named)
  · intro directory' digest' extension other named
    rw [objects named]
    exact sound.object directory' digest' extension other named

/-- A call links the file that it holds under the digest of its content. -/
theorem own_link (sound : disk.Sound sha256 stored) {directory : String} {digest : Digest}
    {file : Nat} {bytes : Bytes} (holds : Holds id directory digest file bytes disk)
    (synced : (disk.files file).synced = true) {target : String} {name : Digest}
    {extension : Extension} (named : sha256 bytes = name)
    (allowed : extension = .json → stored bytes)
    (free : disk.names (.object target name extension) = none) (time : Nat) :
    (storeOwnership sha256 stored).Own id disk
      (disk.link (.object target name extension) file time) := by
  have files (other : Nat) :
      ((disk.link (.object target name extension) file time).files other).bytes =
        (disk.files other).bytes ∧
      ((disk.link (.object target name extension) file time).files other).synced =
        (disk.files other).synced := Disk.touch_same file time other
  have names (path : Path) (other : path ≠ .object target name extension) :=
    @Disk.link_names_of_ne disk _ path other file time
  have self := @Disk.link_names_self disk (.object target name extension) file time
  refine ⟨fun other different => ⟨?_, ?_, ?_, ?_⟩, ⟨?_, ?_, ?_⟩⟩
  · intro directory' digest' extension' theirs linked
    refine ⟨?_, (files theirs).1⟩
    rw [names]
    · exact linked
    · intro same
      rw [same] at linked
      exact absurd (free.symm.trans linked) nofun
  · intro directory' digest'
    exact names _ object_ne_temporary.symm
  · intro directory' digest' theirs _
    exact files theirs
  · intro directory' digest' theirs held target' name' extension' linked
    by_cases same : Path.object target' name' extension' = .object target name extension
    · rw [same, self] at linked
      obtain rfl := Option.some.inj linked
      exact absurd (sound.single _ _ _ _ _ _ _ held holds.named) different
    · rw [names _ same] at linked
      exact linked
  · intro target' name' extension' theirs linked
    rw [(files theirs).1, (files theirs).2]
    by_cases same : Path.object target' name' extension' = .object target name extension
    · rw [same, self] at linked
      obtain rfl := Option.some.inj linked
      rw [Path.object.injEq] at same
      obtain ⟨-, rfl, rfl⟩ := same
      rw [holds.bytes]
      exact ⟨named, synced, allowed⟩
    · rw [names _ same] at linked
      exact sound.object target' name' extension' theirs linked
  · intro path theirs linked
    by_cases same : path = .object target name extension
    · rw [same, self] at linked
      rw [← Option.some.inj linked]
      exact sound.known _ _ holds.named
    · rw [names path same] at linked
      exact sound.known path theirs linked
  · intro first firstDigest firstId second secondDigest secondId theirs held held'
    rw [names _ object_ne_temporary.symm] at held held'
    exact sound.single _ _ _ _ _ _ _ held held'

/-- A call removes a temporary name of its own. -/
theorem own_remove (sound : disk.Sound sha256 stored) (directory : String) (digest : Digest)
    (time : Nat) :
    (storeOwnership sha256 stored).Own id disk
      (disk.remove (.temporary directory digest id) time) := by
  have files (other : Nat) :
      ((disk.remove (.temporary directory digest id) time).files other).bytes =
        (disk.files other).bytes ∧
      ((disk.remove (.temporary directory digest id) time).files other).synced =
        (disk.files other).synced := by
    unfold Disk.remove
    cases disk.names (.temporary directory digest id) with
    | none => exact ⟨rfl, rfl⟩
    | some file => exact Disk.touch_same file time other
  have created : (disk.remove (.temporary directory digest id) time).created = disk.created := by
    unfold Disk.remove
    cases disk.names (.temporary directory digest id) <;> rfl
  have names (path : Path) (other : path ≠ .temporary directory digest id) :=
    @Disk.remove_names_of_ne disk _ path other time
  have within {path : Path} {file : Nat}
      (named : (disk.remove (.temporary directory digest id) time).names path = some file) :
      disk.names path = some file := by
    by_cases same : path = .temporary directory digest id
    · rw [same] at named
      have gone : (disk.remove (.temporary directory digest id) time).names
          (.temporary directory digest id) = none := Function.update_self ..
      exact absurd (gone.symm.trans named) nofun
    · rw [names path same] at named
      exact named
  refine ⟨fun other different => ⟨?_, ?_, ?_, ?_⟩, ⟨?_, ?_, ?_⟩⟩
  · intro directory' digest' extension file linked
    exact ⟨(names _ object_ne_temporary).trans linked, (files file).1⟩
  · intro directory' digest'
    refine names _ ?_
    rintro ⟨rfl, rfl, rfl⟩
    exact different rfl
  · intro directory' digest' file _
    exact files file
  · intro _ _ _ _ directory' digest' extension linked
    exact within linked
  · intro directory' digest' extension file linked
    rw [(files file).1, (files file).2]
    exact sound.object directory' digest' extension file (within linked)
  · intro path file named
    rw [created]
    exact sound.known path file (within named)
  · intro first firstDigest firstId second secondDigest secondId file held held'
    exact sound.single _ _ _ _ _ _ _ (within held) (within held')

end

end OnePersonLab.Transport
