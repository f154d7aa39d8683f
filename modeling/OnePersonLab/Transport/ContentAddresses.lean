import OnePersonLab.Contract.CanonicalForm
import OnePersonLab.Transport.ReviewTransportStore
import OnePersonLab.Transport.StoreOwnership

/-!
# Objects are what their names say

Every part of a call has a triple over the store: what it knows of its own file and of the
objects that are linked, before and behind it. A copy is trusted as far as each of its
writes transfers all of its chunk.
-/

namespace OnePersonLab.Transport

open Contract Lib

/-! ## Careful steps -/

/-- A copy writes each chunk as a whole. -/
def TransfersAll : (request : Request) → fileSystem.Answer request → Prop
  | .write .copy _ bytes, .ok count => bytes.length = count
  | _, _ => True

def Careful : Machine fileSystem Disk := fun disk request after answer =>
  disk.Performs request after answer ∧ TransfersAll request answer

/-- A triple of a part of a call that may fail anywhere. -/
abbrev Does {α : Type} (sha256 : Bytes → Digest) (stored : Bytes → Prop) (id : CallId)
    (pre : Disk → Prop) (program : Call α) (returns : α → Disk → Prop) : Prop :=
  Triple Careful (storeOwnership sha256 stored) id pre program returns fun _ _ => True

abbrev StableFor (sha256 : Bytes → Digest) (stored : Bytes → Prop) (id : CallId)
    (fact : Disk → Prop) : Prop :=
  (storeOwnership sha256 stored).Stable id fact

section

variable {sha256 : Bytes → Digest} {stored : Bytes → Prop} {id : CallId} {α : Type}
  {pre : Disk → Prop}

/-! ## What the others leave alone -/

section

variable {extension : Extension} {program : Call α} {asked : Request} {disk : Disk}
  {target : String} {name : Digest}

theorem stable_true : StableFor sha256 stored id fun _ => True := fun _ _ _ _ => trivial

theorem stable_and {first second : Disk → Prop} (stable : StableFor sha256 stored id first)
    (stable' : StableFor sha256 stored id second) :
    StableFor sha256 stored id fun disk => first disk ∧ second disk :=
  fun disk after elsewhere ⟨holds, holds'⟩ =>
    ⟨stable disk after elsewhere holds, stable' disk after elsewhere holds'⟩

/-- A call that has not begun has no temporary files. -/
def Unused (id : CallId) (disk : Disk) : Prop :=
  ∀ directory digest, disk.names (.temporary directory digest id) = none

theorem stable_unused : StableFor sha256 stored id (Unused id) := by
  intro disk after elsewhere unused directory digest
  rw [elsewhere.keeps.temporary]
  exact unused directory digest

/-- An object with its file and content. -/
def Linked (directory : String) (digest : Digest) (extension : Extension) (file : Nat)
    (bytes : Bytes) (disk : Disk) : Prop :=
  disk.names (.object directory digest extension) = some file ∧ (disk.files file).bytes = bytes

theorem stable_linked {directory : String} {digest : Digest} {extension : Extension} {file : Nat}
    {bytes : Bytes} : StableFor sha256 stored id (Linked directory digest extension file bytes) := by
  rintro disk after elsewhere ⟨named, content⟩
  obtain ⟨still, same⟩ := elsewhere.keeps.object directory digest extension file named
  exact ⟨still, same.trans content⟩

/-- An object that is there. -/
def Present (directory : String) (digest : Digest) (extension : Extension) (disk : Disk) : Prop :=
  ∃ file, disk.names (.object directory digest extension) = some file

theorem stable_present {directory : String} {digest : Digest} :
    StableFor sha256 stored id (Present directory digest extension) := by
  rintro disk after elsewhere ⟨file, named⟩
  exact ⟨file, (elsewhere.keeps.object directory digest extension file named).1⟩

theorem stable_holds {directory : String} {digest : Digest} {file : Nat} {bytes : Bytes} :
    StableFor sha256 stored id (Holds id directory digest file bytes) := by
  intro disk after elsewhere holds
  have keeps := elsewhere.keeps
  refine ⟨(keeps.temporary directory digest).trans holds.named,
    (keeps.content directory digest file holds.named).1.trans holds.bytes, ?_⟩
  intro directory' digest' extension linked
  exact holds.unlinked directory' digest' extension
    (keeps.unlinked directory digest file holds.named directory' digest' extension linked)

/-- A temporary file that is complete. -/
def Complete (id : CallId) (directory : String) (digest : Digest) (file : Nat) (bytes : Bytes)
    (disk : Disk) : Prop :=
  Holds id directory digest file bytes disk ∧ (disk.files file).synced = true

theorem stable_complete {directory : String} {digest : Digest} {file : Nat} {bytes : Bytes} :
    StableFor sha256 stored id (Complete id directory digest file bytes) := by
  rintro disk after elsewhere ⟨holds, synced⟩
  exact ⟨stable_holds disk after elsewhere holds,
    (elsewhere.keeps.content directory digest file holds.named).2.trans synced⟩

/-! ## Parts of a call -/

section

variable {returns : α → Disk → Prop}

theorem Does.weaken {pre' : Disk → Prop} {returns' : α → Disk → Prop}
    (does : Does sha256 stored id pre program returns) (stronger : ∀ disk, pre' disk → pre disk)
    (weaker : ∀ value disk, disk.Sound sha256 stored → returns value disk → returns' value disk) :
    Does sha256 stored id pre' program returns' :=
  Triple.weaken does (fun disk _ => stronger disk) weaker fun _ _ _ => trivial

theorem does_throw {fault : Fault} :
    Does sha256 stored id pre (throw fault) returns := Triple.throw fun _ _ _ => trivial

theorem does_pure {value : α} (holds : ∀ disk, pre disk → returns value disk) :
    Does sha256 stored id pre (pure value) returns := Triple.pure fun disk _ => holds disk

theorem does_require (condition : Bool) (failureCode message : String) :
    Does sha256 stored id pre (require condition failureCode message)
      fun _ disk => pre disk ∧ condition = true := by
  unfold require
  cases condition with
  | true => exact does_pure fun disk holds => ⟨holds, rfl⟩
  | false => exact does_throw

theorem does_wrap {failureCode message : String} (does : Does sha256 stored id pre program returns)
    :
    Does sha256 stored id pre (wrap failureCode message program) returns :=
  Triple.tryCatch does fun _ => does_throw

theorem does_onError {cleanup : Call Unit} (does : Does sha256 stored id pre program returns)
    (cleans : Does sha256 stored id (fun _ => True) cleanup fun _ _ => True) :
    Does sha256 stored id pre (onError program cleanup) returns :=
  Triple.tryCatch does fun _ => Triple.bind cleans fun _ => does_throw

end

/-- The requests that change nothing. -/
def Request.quiet : Request → Bool
  | .create _ | .write _ _ _ | .fsync _ | .link _ _ | .chmod _ | .remove _ => false
  | _ => true

theorem performs_quiet (quiet : asked.quiet = true) {after : Disk}
    {answer : fileSystem.Answer asked} (performed : disk.Performs asked after answer) :
    after = disk := by
  cases asked <;> first
    | exact performed
    | exact performed.1
    | exact absurd quiet Bool.false_ne_true
    | (cases answer <;> first | exact performed | exact performed.1)

theorem does_ask (quiet : asked.quiet = true) (stable : StableFor sha256 stored id pre) :
    Does sha256 stored id pre (ask asked)
      fun answer disk => pre disk ∧ disk.Performs asked disk (.ok answer) := by
  refine Triple.call stable ?_
  intro disk sound holds after answer performed
  obtain rfl := performs_quiet quiet performed.1
  refine ⟨.rfl sound, ?_⟩
  cases answer with
  | ok value => exact ⟨holds, performed.1⟩
  | error fault => trivial

/-- An answer that is not remembered. -/
theorem does_ask_ (quiet : asked.quiet = true) (stable : StableFor sha256 stored id pre) :
    Does sha256 stored id pre (ask asked) fun _ => pre :=
  (does_ask quiet stable).weaken (fun _ holds => holds) fun _ _ _ known => known.1

/-! ## Observing an object -/

theorem does_chainOf (stable : StableFor sha256 stored id pre) (path : Path)
    (anchor : Option String) :
    Does sha256 stored id pre (chainOf path anchor) fun _ => pre := by
  cases anchor with
  | none => exact does_pure fun _ holds => holds
  | some anchor => exact Triple.bind (does_ask_ rfl stable) fun _ => does_pure fun _ holds => holds

theorem does_insideOf (stable : StableFor sha256 stored id pre) (path : Path)
    (root : Option String) :
    Does sha256 stored id pre (insideOf path root) fun _ => pre := by
  cases root with
  | none => exact does_pure fun _ holds => holds
  | some root => exact does_ask_ rfl stable

/-- A check whose result is not remembered. -/
theorem does_require_ {condition : Bool} {failureCode message : String} :
    Does sha256 stored id pre (require condition failureCode message) fun _ => pre :=
  (does_require condition failureCode message).weaken (fun _ holds => holds)
    fun _ _ _ known => known.1

theorem does_openStable (stable : StableFor sha256 stored id pre) {directory : String}
    {digest : Digest} (options : ObservationOptions) :
    Does sha256 stored id pre (openStable (.object directory digest extension) options)
      fun opened disk => pre disk ∧
        disk.names (.object directory digest extension) = some opened.2.2 := by
  unfold openStable
  refine Triple.bind (does_chainOf stable _ _) fun chainBefore => ?_
  refine Triple.bind (does_insideOf stable _ _) fun inside => ?_
  refine Triple.bind does_require_ fun _ => ?_
  refine Triple.bind (does_ask_ rfl stable) fun pathBefore => ?_
  refine Triple.bind does_require_ fun _ => ?_
  refine Triple.bind (does_ask rfl stable) fun file => does_pure ?_
  rintro disk ⟨holds, -, named⟩
  exact ⟨holds, named⟩

/-- The chunks that are read of an object make up its content. -/
theorem does_readChunks (stable : StableFor sha256 stored id pre) {directory : String}
    {digest : Digest} {file : Nat} {content : Bytes} (fuel : Nat) (bytes : Bytes)
    (part : bytes <+: content) :
    Does sha256 stored id
      (fun disk => pre disk ∧ Linked directory digest extension file content disk)
      (readChunks file fuel bytes)
      fun read disk => (pre disk ∧ Linked directory digest extension file content disk) ∧
        read = content := by
  have stableBoth := stable_and stable (@stable_linked sha256 stored id directory digest extension
    file content)
  induction fuel generalizing bytes with
  | zero => exact does_throw
  | succ fuel ih =>
    unfold readChunks
    refine Triple.bind (does_ask rfl stableBoth) fun chunk => ?_
    obtain ⟨rest, rfl⟩ := part
    refine Triple.of_fact (∃ count, 0 < count ∧ chunk = rest.take count) ?_ ?_
    · rintro disk - ⟨⟨-, -, content⟩, -, count, positive, -, same⟩
      rw [content, List.drop_left] at same
      exact ⟨count, positive, same⟩
    · rintro ⟨count, positive, same⟩
      by_cases ended : chunk = []
      · rw [if_pos ended]
        refine does_pure fun disk holds => ⟨holds.1, ?_⟩
        rw [ended] at same
        rcases List.take_eq_nil_iff.1 same.symm with none | none
        · exact absurd none positive.ne'
        · rw [none, List.append_nil]
      · rw [if_neg ended]
        refine (ih (bytes ++ chunk) ?_).weaken (fun _ holds => holds.1) fun _ _ _ known => known
        rw [same]
        exact (List.prefix_append_right_inj bytes).2 (List.take_prefix count rest)

/-- What an observation tells of the object. -/
def Observes (sha256 : Bytes → Digest) (captureBytes : Bool) (directory : String)
    (digest : Digest) (extension : Extension) (observed : Observation) (disk : Disk) : Prop :=
  ∃ file bytes, Linked directory digest extension file bytes disk ∧
    observed = ⟨sha256 bytes, bytes.length, if captureBytes then some bytes else none⟩

theorem does_observeOpened (stable : StableFor sha256 stored id pre) {directory : String}
    {digest : Digest} {file : Nat} {content : Bytes} (fuel : Nat) (options : ObservationOptions)
    (chainBefore : Option (List Stat)) (pathBefore : Stat) :
    Does sha256 stored id
      (fun disk => pre disk ∧ Linked directory digest extension file content disk)
      (observeOpened sha256 fuel (.object directory digest extension) options chainBefore
        pathBefore file)
      fun observed disk => pre disk ∧
        Observes sha256 options.captureBytes directory digest extension observed disk := by
  have stableBoth := stable_and stable (@stable_linked sha256 stored id directory digest extension
    file content)
  unfold observeOpened
  refine Triple.bind (does_ask_ rfl stableBoth) fun before => ?_
  refine Triple.bind does_require_ fun _ => ?_
  refine Triple.bind (does_readChunks stable fuel [] List.nil_prefix) fun bytes => ?_
  refine Triple.of_fact (bytes = content) (fun _ _ known => known.2) ?_
  rintro rfl
  refine Triple.bind ((does_ask_ rfl stableBoth).weaken (fun _ known => known.1)
    fun _ _ _ known => known) fun after => ?_
  refine Triple.bind (does_chainOf stableBoth _ _) fun chainAfter => ?_
  refine Triple.bind (does_wrap (does_ask_ rfl stableBoth)) fun pathAfter => ?_
  refine Triple.bind does_require_ fun _ => ?_
  refine Triple.bind (does_insideOf stableBoth _ _) fun inside => ?_
  refine Triple.bind does_require_ fun _ => does_pure ?_
  rintro disk ⟨holds, linked⟩
  exact ⟨holds, file, bytes, linked, rfl⟩

theorem stable_observes {captureBytes : Bool} {directory : String} {digest : Digest}
    {observed : Observation} : StableFor sha256 stored id
      (Observes sha256 captureBytes directory digest extension observed) := by
  rintro disk after elsewhere ⟨file, bytes, linked, same⟩
  exact ⟨file, bytes, stable_linked disk after elsewhere linked, same⟩

theorem does_stableFileObservation (stable : StableFor sha256 stored id pre) (directory : String)
    (digest : Digest) (extension : Extension) (fuel : Nat) (options : ObservationOptions) :
    Does sha256 stored id pre
      (stableFileObservation sha256 fuel (.object directory digest extension) options)
      fun observed disk => pre disk ∧
        Observes sha256 options.captureBytes directory digest extension observed disk := by
  unfold stableFileObservation
  refine Triple.bind (does_wrap (does_openStable stable options)) ?_
  rintro ⟨chainBefore, pathBefore, file⟩
  have opened : Does sha256 stored id (fun disk => pre disk ∧
      disk.names (.object directory digest extension) = some file)
      (unreadable (observeOpened sha256 fuel (.object directory digest extension) options
        chainBefore pathBefore file))
      fun observed disk => pre disk ∧
        Observes sha256 options.captureBytes directory digest extension observed disk := by
    -- The content is what the object has when it is opened.
    intro disk sound known
    exact does_wrap (does_observeOpened stable fuel options chainBefore pathBefore) disk sound
      ⟨known.1, known.2, rfl⟩
  refine Triple.bind (does_onError opened (does_ask_ rfl stable_true)) fun observed => ?_
  exact Triple.bind (does_ask_ rfl (stable_and stable stable_observes)) fun _ =>
    does_pure fun _ holds => holds

/-- An object that has been verified is there. -/
theorem does_verifyTarget (stable : StableFor sha256 stored id pre) (directory : String)
    (digest : Digest) (extension : Extension) (fuel : Nat) (matches_ : Observation → Bool)
    (failureCode message : String) :
    Does sha256 stored id pre
      (verifyTarget sha256 fuel directory (.object directory digest extension) matches_ failureCode
        message)
      fun _ disk => pre disk ∧ Present directory digest extension disk := by
  unfold verifyTarget
  refine Triple.bind (does_stableFileObservation stable directory digest extension fuel _) ?_
  intro observed
  refine does_require_.weaken (fun _ holds => holds) ?_
  rintro _ disk - ⟨holds, file, bytes, linked, -⟩
  exact ⟨holds, file, linked.1⟩

/-! ## The temporary file -/

section

variable {directory : String} {digest : Digest} {file : Nat} {bytes : Bytes}

theorem does_create (directory : String) (digest : Digest) :
    Does sha256 stored id (Unused id) (ask (.create (.temporary directory digest id)))
      fun file => Holds id directory digest file [] := by
  refine Triple.call stable_unused ?_
  intro disk sound unused after answer performed
  cases answer with
  | error fault =>
    obtain rfl : after = disk := performed.1
    exact ⟨.rfl sound, trivial⟩
  | ok file =>
    obtain ⟨-, rfl, time, rfl⟩ := performed.1
    refine ⟨own_create sound directory digest time, ⟨Function.update_self .., ?_, ?_⟩⟩
    · exact congrArg File.bytes (Disk.setFile_self ..)
    · intro directory' digest' extension named
      rw [Disk.create_names_of_ne object_ne_temporary] at named
      exact absurd (sound.known _ _ named) (lt_irrefl _)

theorem Holds.append (holds : Holds id directory digest file bytes disk) (more : Bytes) (time : Nat)
    :
    Holds id directory digest file (bytes ++ more) (disk.append file more time) := by
  refine ⟨holds.named, ?_, holds.unlinked⟩
  unfold Disk.append
  rw [Disk.setFile_self, holds.bytes]

theorem does_write (loop : WriteLoop) (more : Bytes) :
    Does sha256 stored id (Holds id directory digest file bytes) (ask (.write loop file more))
      fun count disk => Holds id directory digest file (bytes ++ more.take count) disk ∧
        (loop = .copy → more.take count = more) := by
  refine Triple.call stable_holds ?_
  rintro disk sound holds after answer ⟨performed, whole⟩
  cases answer with
  | error fault =>
    obtain ⟨count, time, rfl⟩ := performed
    exact ⟨own_setFile sound holds _, trivial⟩
  | ok count =>
    obtain ⟨-, time, rfl⟩ := performed
    refine ⟨own_setFile sound holds _, holds.append _ time, ?_⟩
    rintro rfl
    exact List.take_of_length_le (Nat.le_of_eq whole)

theorem does_writeFile (fuel : Nat) (written bytes : Bytes) :
    Does sha256 stored id (Holds id directory digest file written) (writeFile file fuel bytes)
      fun _ => Holds id directory digest file (written ++ bytes) := by
  induction fuel generalizing written bytes with
  | zero =>
    cases bytes with
    | nil => exact does_pure fun _ holds => by rw [List.append_nil]; exact holds
    | cons byte rest => exact does_throw
  | succ fuel ih =>
    cases bytes with
    | nil => exact does_pure fun _ holds => by rw [List.append_nil]; exact holds
    | cons byte rest =>
      refine Triple.bind (does_write .writeFile (byte :: rest)) fun (count : Nat) => ?_
      refine (ih (written ++ (byte :: rest).take count) ((byte :: rest).drop count)).weaken
        (fun _ holds => holds.1) ?_
      intro _ disk _ holds
      rw [List.append_assoc, List.take_append_drop] at holds
      exact holds

theorem does_fsync :
    Does sha256 stored id (Holds id directory digest file bytes) (ask (.fsync file))
      fun _ => Complete id directory digest file bytes := by
  refine Triple.call stable_holds ?_
  rintro disk sound holds after answer ⟨performed, -⟩
  cases answer with
  | error fault =>
    obtain rfl : after = disk := performed
    exact ⟨.rfl sound, trivial⟩
  | ok _ =>
    obtain rfl : after = disk.sync file := performed
    refine ⟨own_setFile sound holds _, ⟨holds.named, ?_, holds.unlinked⟩, ?_⟩
    · unfold Disk.sync
      rw [Disk.setFile_self]
      exact holds.bytes
    · unfold Disk.sync
      rw [Disk.setFile_self]

theorem does_remove (stable : StableFor sha256 stored id pre)
    (kept : ∀ disk directory digest time, pre disk →
      pre (disk.remove (.temporary directory digest id) time))
    (directory : String) (digest : Digest) :
    Does sha256 stored id pre (ask (.remove (.temporary directory digest id))) fun _ => pre := by
  refine Triple.call stable ?_
  rintro disk sound holds after answer ⟨performed, -⟩
  cases answer with
  | error fault =>
    obtain rfl : after = disk := performed
    exact ⟨.rfl sound, trivial⟩
  | ok _ =>
    obtain ⟨time, rfl⟩ := performed
    exact ⟨own_remove sound directory digest time, kept disk directory digest time holds⟩

theorem Present.remove (present : Present directory digest extension disk) (directory' : String)
    (digest' : Digest) (time : Nat) :
    Present directory digest extension (disk.remove (.temporary directory' digest' id) time) := by
  obtain ⟨file, named⟩ := present
  refine ⟨file, ?_⟩
  rw [Disk.remove_names_of_ne object_ne_temporary]
  exact named

end

/-! ## Linking -/

theorem does_link {directory : String} {digest : Digest} {file : Nat} {bytes : Bytes}
    (named : sha256 bytes = name) (allowed : extension = .json → stored bytes) :
    Does sha256 stored id (Complete id directory digest file bytes)
      (ask (.link (.temporary directory digest id) (.object target name extension)))
      fun _ => Present target name extension := by
  refine Triple.call stable_complete ?_
  rintro disk sound ⟨holds, synced⟩ after answer ⟨performed, -⟩
  cases answer with
  | error fault =>
    obtain rfl : after = disk := performed.1
    exact ⟨.rfl sound, trivial⟩
  | ok _ =>
    obtain ⟨free, linked, time, same, rfl⟩ := performed
    obtain rfl := Option.some.inj (same.symm.trans holds.named)
    exact ⟨own_link sound holds synced named allowed free time, linked, Disk.link_names_self ..⟩

theorem does_chmod (path : Path) :
    Does sha256 stored id (Present target name extension) (ask (.chmod path))
      fun _ => Present target name extension := by
  refine Triple.call stable_present ?_
  rintro disk sound present after answer ⟨performed, -⟩
  cases answer with
  | error fault =>
    obtain rfl : after = disk := performed
    exact ⟨.rfl sound, trivial⟩
  | ok _ =>
    obtain ⟨file, time, -, rfl⟩ := performed
    exact ⟨own_touch sound file time, present⟩

/-- What a call that persists returns. -/
def Stands (target : String) (name : Digest) (extension : Extension) (persisted : Persisted)
    (disk : Disk) : Prop :=
  persisted.path = .object target name extension ∧ Present target name extension disk

theorem stable_stands {persisted : Persisted} :
    StableFor sha256 stored id (Stands target name extension persisted) := by
  rintro disk after elsewhere ⟨path, present⟩
  exact ⟨path, stable_present disk after elsewhere present⟩

theorem does_linkTemporary {directory : String} {digest : Digest} {file : Nat} {bytes : Bytes}
    {verify : Call Unit} (named : sha256 bytes = name) (allowed : extension = .json → stored bytes)
    (verifies : Does sha256 stored id (fun _ => True) verify
      fun _ => Present target name extension) :
    Does sha256 stored id (Complete id directory digest file bytes)
      (linkTemporary (.temporary directory digest id) (.object target name extension) verify)
      (Stands target name extension) := by
  have links : Does sha256 stored id (Complete id directory digest file bytes)
      (do
        ask (.link (.temporary directory digest id) (.object target name extension))
        ask (.chmod (.object target name extension))
        pure ⟨.object target name extension, true⟩)
      (Stands target name extension) := by
    refine Triple.bind (does_link named allowed) fun _ => ?_
    exact Triple.bind (does_chmod _) fun _ => does_pure fun _ present => ⟨rfl, present⟩
  refine Triple.tryCatch links fun (fault : Fault) => ?_
  by_cases there : fault = .alreadyExists
  · rw [if_pos there]
    exact Triple.bind verifies fun _ => does_pure fun _ present => ⟨rfl, present⟩
  · rw [if_neg there]
    exact does_throw

theorem does_removed {persisted : Persisted} (directory : String) (digest : Digest) :
    Does sha256 stored id (Stands target name extension persisted)
      (ask (.remove (.temporary directory digest id)))
      fun _ => Stands target name extension persisted :=
  does_remove stable_stands (fun _ directory' digest' time stands =>
    ⟨stands.1, stands.2.remove directory' digest' time⟩) directory digest

/-- Removing a temporary file, whatever else is known. -/
theorem does_cleanup (directory : String) (digest : Digest) :
    Does sha256 stored id (fun _ => True) (ask (.remove (.temporary directory digest id)))
      fun _ _ => True :=
  does_remove stable_true (fun _ _ _ _ _ => trivial) directory digest

theorem does_verify (directory : String) (digest : Digest) (extension : Extension) (fuel : Nat)
    (matches_ : Observation → Bool) (failureCode message : String) :
    Does sha256 stored id (fun _ => True)
      (verifyTarget sha256 fuel directory (.object directory digest extension) matches_ failureCode
        message)
      fun _ => Present directory digest extension :=
  (does_verifyTarget stable_true directory digest extension fuel matches_ failureCode message).weaken
    (fun _ holds => holds) fun _ _ _ known => known.2

/-! ## The calls -/

theorem does_persistBytesAtDigest (fuel : Nat) (root : String) (extension : Extension)
    {digest : Digest} {bytes : Bytes} (named : sha256 bytes = digest)
    (allowed : extension = .json → stored bytes) :
    Does sha256 stored id (Unused id)
      (persistBytesAtDigest sha256 id fuel root extension digest bytes)
      (Stands root digest extension) := by
  unfold persistBytesAtDigest
  refine Triple.bind (does_ask_ rfl stable_unused) fun _ => ?_
  refine Triple.bind (does_ask_ rfl stable_unused) fun (present : Bool) => ?_
  cases present with
  | true =>
    rw [if_pos rfl]
    refine Triple.bind ((does_verify root digest extension fuel _ _ _).weaken (fun _ _ => trivial)
      fun _ _ _ known => known) fun _ => ?_
    exact does_pure fun _ present => ⟨rfl, present⟩
  | false =>
    rw [if_neg Bool.false_ne_true]
    refine Triple.bind (does_onError (does_create root digest) (does_cleanup root digest)) ?_
    intro (descriptor : Nat)
    have written : Does sha256 stored id (Holds id root digest descriptor [])
        (do
          writeFile descriptor fuel bytes
          ask (.fsync descriptor)
          ask (.close descriptor))
        fun _ => Complete id root digest descriptor bytes := by
      refine Triple.bind (does_writeFile fuel [] bytes) fun _ => ?_
      exact Triple.bind does_fsync fun _ => does_ask_ rfl stable_complete
    have closes : Does sha256 stored id (fun _ => True)
        (do
          ask (.close descriptor)
          ask (.remove (.temporary root digest id)))
        fun _ _ => True :=
      Triple.bind (does_ask_ rfl stable_true) fun _ => does_cleanup root digest
    refine Triple.bind (does_onError written closes) fun _ => ?_
    refine Triple.bind (does_onError
      (does_linkTemporary named allowed (does_verify root digest extension fuel _ _ _))
      (does_cleanup root digest)) fun persisted => ?_
    exact Triple.bind (does_removed root digest) fun _ => does_pure fun _ stands => stands

end

/-- The exact ref of a value, under whose name its bytes are persisted. -/
def exactRefOf (sha256 : Bytes → Digest) (root kind : String) (bytes : Bytes) : ExactRef :=
  ⟨kind, .object root (sha256 bytes) .json, bytes.length, sha256 bytes⟩

section

variable {ν : Type} [DecidableEq ν] {numbers : NumberText ν}

theorem does_persistCanonicalReviewTransportJson (fuel : Nat) (root kind : String)
    {value : JsValue ν}
    (allowed : ∀ encoded, canonicalJsonBytes numbers value = .ok encoded → stored (bytesOf encoded)) :
    Does sha256 stored id (Unused id)
      (persistCanonicalReviewTransportJson sha256 numbers id fuel root kind value)
      fun persisted disk => ∃ encoded, canonicalJsonBytes numbers value = .ok encoded ∧
        persisted.exactRef = exactRefOf sha256 root kind (bytesOf encoded) ∧
        Present root (sha256 (bytesOf encoded)) .json disk := by
  unfold persistCanonicalReviewTransportJson
  cases written : canonicalJsonBytes numbers value with
  | error failure => exact does_throw
  | ok encoded =>
    refine Triple.bind (does_persistBytesAtDigest fuel root .json rfl
      fun _ => allowed encoded written) fun persisted => ?_
    refine does_pure ?_
    rintro disk ⟨path, present⟩
    exact ⟨encoded, rfl, by rw [path]; rfl, present⟩

end

/-- A careful copy has written what it has read. -/
theorem does_copyChunks {directory : String} {digest : Digest} {destination : Nat} (fuel : Nat)
    (bytes : Bytes) :
    Does sha256 stored id (Holds id directory digest destination bytes)
      (copyChunks destination fuel bytes)
      fun copied => Holds id directory digest destination copied := by
  induction fuel generalizing bytes with
  | zero => exact does_throw
  | succ fuel ih =>
    unfold copyChunks
    refine Triple.bind (does_ask_ rfl stable_holds) fun (chunk : Bytes) => ?_
    by_cases ended : chunk = []
    · rw [if_pos ended]
      exact does_pure fun _ holds => holds
    · rw [if_neg ended]
      refine Triple.bind (does_write .copy chunk) fun (count : Nat) => ?_
      refine (ih (bytes ++ chunk)).weaken ?_ fun _ _ _ holds => holds
      rintro disk ⟨holds, whole⟩
      rw [whole rfl] at holds
      exact holds

theorem does_sourceInsideOf (stable : StableFor sha256 stored id pre) (sourcePath : String)
    (root : Option String) :
    Does sha256 stored id pre (sourceInsideOf sourcePath root) fun _ => pre := by
  cases root with
  | none => exact does_pure fun _ holds => holds
  | some root => exact does_ask_ rfl stable

theorem does_copySource {directory : String} {digest : Digest} {destination : Nat} (fuel : Nat)
    (sourcePath : String) (trustedWorkspaceRoot : Option String) (before : Stat) :
    Does sha256 stored id (Holds id directory digest destination [])
      (copySource sha256 fuel sourcePath trustedWorkspaceRoot digest before destination)
      fun _ disk => ∃ bytes, sha256 bytes = digest ∧
        Complete id directory digest destination bytes disk := by
  unfold copySource
  refine Triple.bind (does_copyChunks fuel []) fun bytes => ?_
  refine Triple.bind (does_ask_ rfl stable_holds) fun after => ?_
  refine Triple.bind (does_wrap (does_ask_ rfl stable_holds)) fun pathAfter => ?_
  refine Triple.bind does_require_ fun _ => ?_
  refine Triple.bind (does_sourceInsideOf stable_holds _ _) fun inside => ?_
  refine Triple.bind does_require_ fun _ => ?_
  refine Triple.bind (does_require _ _ _) fun _ => ?_
  refine Triple.of_fact (sha256 bytes = digest) (fun _ _ known => of_decide_eq_true known.2) ?_
  intro named
  refine Triple.bind (does_fsync.weaken (fun _ known => known.1) fun _ _ _ known => known)
    fun _ => ?_
  exact (does_ask_ rfl stable_complete).weaken (fun _ known => known)
    fun _ _ _ known => ⟨bytes, named, known⟩

theorem does_openSource (sourcePath : String) (trustedWorkspaceRoot : Option String) :
    Does sha256 stored id (Unused id) (openSource sourcePath trustedWorkspaceRoot)
      fun _ => Unused id := by
  unfold openSource
  refine Triple.bind (does_sourceInsideOf stable_unused _ _) fun inside => ?_
  refine Triple.bind does_require_ fun _ => ?_
  refine Triple.bind (does_ask_ rfl stable_unused) fun pathBefore => ?_
  refine Triple.bind does_require_ fun _ => ?_
  exact Triple.bind (does_ask_ rfl stable_unused) fun _ => does_pure fun _ unused => unused

theorem does_openDestination (pathBefore : Stat) (directory : String) (digest : Digest) :
    Does sha256 stored id (Unused id)
      (openDestination pathBefore (.temporary directory digest id))
      fun opened => Holds id directory digest opened.2 [] := by
  unfold openDestination
  refine Triple.bind (does_ask_ rfl stable_unused) fun before => ?_
  refine Triple.bind does_require_ fun _ => ?_
  exact Triple.bind (does_create directory digest) fun _ => does_pure fun _ holds => holds

theorem does_closeSource (directory : String) (digest : Digest) :
    Does sha256 stored id (fun _ => True) (closeSource (.temporary directory digest id))
      fun _ _ => True :=
  Triple.bind (does_ask_ rfl stable_true) fun _ => does_cleanup directory digest

theorem does_closeBoth (destination : Nat) (directory : String) (digest : Digest) :
    Does sha256 stored id (fun _ => True)
      (closeBoth destination (.temporary directory digest id)) fun _ _ => True := by
  refine Triple.bind (does_ask_ rfl stable_true) fun _ => ?_
  exact Triple.bind (does_ask_ rfl stable_true) fun _ => does_cleanup directory digest

theorem does_persistReviewerSnapshotObject (fuel : Nat) (objectRoot : String)
    (input : SnapshotObjectInput) :
    Does sha256 stored id (Unused id)
      (persistReviewerSnapshotObject sha256 id fuel objectRoot input)
      (Stands objectRoot input.expectedSha256 .bin) := by
  unfold persistReviewerSnapshotObject
  refine Triple.bind (does_ask_ rfl stable_unused) fun _ => ?_
  refine Triple.bind (does_ask_ rfl stable_unused) fun (present : Bool) => ?_
  have verifies (failureCode message : String) :=
    @does_verify sha256 stored id objectRoot input.expectedSha256 .bin fuel
      (fun observed => observed.sha256 = input.expectedSha256) failureCode message
  cases present with
  | true =>
    rw [if_pos rfl]
    refine Triple.bind ((verifies _ _).weaken (fun _ _ => trivial)
      fun _ _ _ known => known) fun _ => ?_
    exact does_pure fun _ present => ⟨rfl, present⟩
  | false =>
    rw [if_neg Bool.false_ne_true]
    cases given input.sourcePath with
    | none => exact does_throw
    | some sourcePath =>
      cases given input.sourceRef with
      | none => exact does_throw
      | some sourceRef =>
        have closes := @does_closeSource sha256 stored id objectRoot input.expectedSha256
        refine Triple.bind (does_onError (does_wrap (does_openSource _ _)) (does_cleanup _ _)) ?_
        intro pathBefore
        refine Triple.bind (does_onError (does_wrap (does_openDestination _ _ _)) closes) ?_
        rintro ⟨before, destination⟩
        refine Triple.bind (does_onError (does_wrap (does_copySource fuel _ _ _))
          (does_closeBoth _ _ _)) fun _ => ?_
        have links : Does sha256 stored id
            (fun disk => ∃ bytes, sha256 bytes = input.expectedSha256 ∧
              Complete id objectRoot input.expectedSha256 destination bytes disk)
            (linkTemporary (.temporary objectRoot input.expectedSha256 id)
              (.object objectRoot input.expectedSha256 .bin)
              (verifyTarget sha256 fuel objectRoot (.object objectRoot input.expectedSha256 .bin)
                (fun observed => observed.sha256 = input.expectedSha256)
                "reviewer_input_snapshot_object_tampered"
                "Concurrent reviewer input snapshot object has the wrong byte identity."))
            (Stands objectRoot input.expectedSha256 .bin) := by
          rintro disk sound ⟨bytes, named, complete⟩
          exact does_linkTemporary named nofun (verifies _ _) disk sound complete
        refine Triple.bind (does_onError (does_wrap links) closes) fun persisted => ?_
        refine Triple.bind (Triple.bind (does_ask_ rfl stable_stands)
          fun _ => does_removed objectRoot input.expectedSha256) fun _ => ?_
        exact does_pure fun _ stands => stands

/-! ## Reading back -/

theorem does_readReviewTransportFileExactRefInternal (fuel : Nat) (anchor root kind expectedKind : String)
    (trustedRoot : String) (bytes : Bytes) :
    Does sha256 stored id (Present root (sha256 bytes) .json)
      (readReviewTransportFileExactRefInternal sha256 fuel anchor (exactRefOf sha256 root kind bytes)
        expectedKind trustedRoot true)
      fun verified _ => verified.exactRef = exactRefOf sha256 root kind bytes ∧
        ∃ content, stored content ∧ sha256 content = sha256 bytes ∧
          verified.bytes = some content := by
  unfold readReviewTransportFileExactRefInternal
  refine Triple.bind does_require_ fun _ => ?_
  refine Triple.bind (does_ask_ rfl stable_present) fun canonical => ?_
  refine Triple.bind does_require_ fun _ => ?_
  refine Triple.bind (does_ask_ rfl stable_present) fun inside => ?_
  refine Triple.bind does_require_ fun _ => ?_
  refine Triple.bind (does_stableFileObservation stable_present root (sha256 bytes) .json fuel _) ?_
  intro observed
  refine Triple.bind does_require_ fun _ => ?_
  rintro disk sound ⟨-, file, content, ⟨named, rfl⟩, rfl⟩
  obtain ⟨digest, -, allowed⟩ := Disk.Sound.object sound _ _ _ file named
  exact ⟨rfl, _, allowed rfl, digest, rfl⟩

section

variable {ν : Type} [DecidableEq ν] {numbers : NumberText ν} {decoder : TextDecoder}

theorem ofBytes_bytesOf (encoded : ByteArray) : (⟨(bytesOf encoded).toArray⟩ : ByteArray) = encoded := by
  simp [bytesOf]

/-- The bytes that a value is persisted as read as the value. -/
theorem parseVerified_bytesOf {value : JsValue ν} (distinct : value.Distinct)
    (record : JsValue.isRecord value = true) {encoded : ByteArray}
    (written : canonicalJsonBytes numbers value = .ok encoded) :
    ∃ reread, parseVerified numbers decoder (some (bytesOf encoded)) = .ok reread ∧
      Same numbers reread value := by
  obtain ⟨text, encodes, rfl⟩ := map_eq_ok.1 written
  obtain ⟨reread, parsed, -, same, rewritten⟩ := parseJsonText_canonical distinct encodes
  refine ⟨reread, ?_, same⟩
  have rerecord : JsValue.isRecord reread = true := by
    cases same <;> exact record
  have again : canonicalJsonBytes numbers reread = .ok text.toByteArray :=
    map_eq_ok.2 ⟨text, rewritten, rfl⟩
  simp [parseVerified, ofBytes_bytesOf, decoder.decode_encode, parsed, rerecord, again]

end

end

end OnePersonLab.Transport
