import OnePersonLab.Transport.ContentAddresses

/-!
# Runs of the store

Calls enter in any number, interleave at every request and may be lost at any time, one by
one or all together. What is ever linked has the digest of its name, and what is read back
under an exact ref is what was persisted.
-/

namespace OnePersonLab.Transport

open Contract Lib

variable {ν : Type} [DecidableEq ν]

/-! ## Calls that enter -/

/-- A use of the store. `readBack` reads the exact ref that it has been returned, at any
later time. -/
inductive Session (ν : Type) where
  | persistJson (root kind : String) (value : JsValue ν)
  | persistObject (objectRoot : String) (input : SnapshotObjectInput)
  | readBack (root kind anchor trustedRoot : String) (value : JsValue ν)

inductive Result (ν : Type) where
  | persisted (value : JsValue ν) (json : PersistedJson)
  | object (persisted : Persisted)
  | reread (value : JsValue ν) (json : PersistedJson) (read : ReadJson ν)

def Session.program (sha256 : Bytes → Digest) (numbers : NumberText ν) (decoder : TextDecoder)
    (id : CallId) (fuel : Nat) : Session ν → Call (Result ν)
  | .persistJson root kind value => do
    let json ← persistCanonicalReviewTransportJson sha256 numbers id fuel root kind value
    pure (.persisted value json)
  | .persistObject objectRoot input => do
    let persisted ← persistReviewerSnapshotObject sha256 id fuel objectRoot input
    pure (.object persisted)
  | .readBack root kind anchor trustedRoot value => do
    let json ← persistCanonicalReviewTransportJson sha256 numbers id fuel root kind value
    let read ← readReviewTransportJsonExactRef sha256 numbers decoder fuel anchor json.exactRef kind
      trustedRoot
    pure (.reread value json read)

/-- The JSON value of a session. -/
def Session.value : Session ν → Option (JsValue ν)
  | .persistJson _ _ value | .readBack _ _ _ _ value => some value
  | .persistObject _ _ => none

/-- A record of the source language, among the values that are persisted. -/
structure Persistable (values : JsValue ν → Prop) (value : JsValue ν) : Prop where
  listed : values value
  distinct : value.Distinct
  record : JsValue.isRecord value = true

def MayEnter (sha256 : Bytes → Digest) (numbers : NumberText ν) (decoder : TextDecoder)
    (values : JsValue ν → Prop) (id : CallId) (program : Call (Result ν)) : Prop :=
  ∃ fuel session, (∀ value ∈ Session.value session, Persistable values value) ∧
    program = session.program sha256 numbers decoder id fuel

/-- The bytes of the values that are persisted. -/
def Encodes (numbers : NumberText ν) (values : JsValue ν → Prop) (bytes : Bytes) : Prop :=
  ∃ value, values value ∧ ∃ encoded, canonicalJsonBytes numbers value = .ok encoded ∧
    bytes = bytesOf encoded

/-- No two of the values that are persisted share a digest. -/
def CollisionFree (sha256 : Bytes → Digest) (numbers : NumberText ν) (values : JsValue ν → Prop) :
    Prop :=
  ∀ bytes other, Encodes numbers values bytes → Encodes numbers values other →
    sha256 bytes = sha256 other → bytes = other

/-! ## Results -/

/-- What a session that has returned knows. -/
def Result.Holds (sha256 : Bytes → Digest) (numbers : NumberText ν) (values : JsValue ν → Prop)
    (result : Result ν) (disk : Disk) : Prop :=
  match result with
  | .persisted value json => Persistable values value ∧
      ∃ encoded root kind, canonicalJsonBytes numbers value = .ok encoded ∧
        json.exactRef = exactRefOf sha256 root kind (bytesOf encoded) ∧
        Present root (sha256 (bytesOf encoded)) .json disk
  | .object linked => ∃ directory digest, Stands directory digest .bin linked disk
  | .reread value json read => read.exactRef = json.exactRef ∧ Same numbers read.value value

section

variable {sha256 : Bytes → Digest} {numbers : NumberText ν} {decoder : TextDecoder}
  {values : JsValue ν → Prop} {id : CallId}

theorem stable_holds_result (result : Result ν) :
    StableFor sha256 (Encodes numbers values) id (result.Holds sha256 numbers values) := by
  intro disk after elsewhere holds
  cases result with
  | persisted value json =>
    obtain ⟨persistable, encoded, root, kind, written, ref, present⟩ := holds
    exact ⟨persistable, encoded, root, kind, written, ref,
      stable_present disk after elsewhere present⟩
  | object persisted =>
    obtain ⟨directory, digest, stands⟩ := holds
    exact ⟨directory, digest, stable_stands disk after elsewhere stands⟩
  | reread value json read => exact holds

/-- The exact ref of a persisted value reads as the value. -/
theorem does_readReviewTransportJsonExactRef (free : CollisionFree sha256 numbers values)
    {value : JsValue ν} (persistable : Persistable values value) {encoded : ByteArray}
    (written : canonicalJsonBytes numbers value = .ok encoded) (fuel : Nat)
    (anchor root kind expectedKind trustedRoot : String) :
    Does sha256 (Encodes numbers values) id (Present root (sha256 (bytesOf encoded)) .json)
      (readReviewTransportJsonExactRef sha256 numbers decoder fuel anchor
        (exactRefOf sha256 root kind (bytesOf encoded)) expectedKind trustedRoot)
      fun read _ => read.exactRef = exactRefOf sha256 root kind (bytesOf encoded) ∧
        Same numbers read.value value := by
  unfold readReviewTransportJsonExactRef
  refine Triple.bind (does_readReviewTransportFileExactRefInternal fuel anchor root kind
    expectedKind trustedRoot (bytesOf encoded)) fun verified => ?_
  rintro disk sound ⟨ref, content, stored, same, bytes⟩
  obtain rfl := free content (bytesOf encoded) stored
    ⟨value, persistable.listed, encoded, written, rfl⟩ same
  obtain ⟨reread, parsed, equal⟩ := @parseVerified_bytesOf ν _ numbers decoder value
    persistable.distinct persistable.record encoded written
  rw [bytes, parsed]
  exact ⟨ref, equal⟩

theorem does_session (free : CollisionFree sha256 numbers values) (fuel : Nat)
    (session : Session ν) (allowed : ∀ value ∈ session.value, Persistable values value) :
    Does sha256 (Encodes numbers values) id (Unused id)
      (session.program sha256 numbers decoder id fuel) (Result.Holds sha256 numbers values) := by
  cases session with
  | persistJson root kind value =>
    have persistable := allowed value rfl
    refine Triple.bind (does_persistCanonicalReviewTransportJson fuel root kind
      fun encoded written => ⟨value, persistable.listed, encoded, written, rfl⟩) fun json => ?_
    refine does_pure ?_
    rintro disk ⟨encoded, written, ref, present⟩
    exact ⟨persistable, encoded, root, kind, written, ref, present⟩
  | persistObject objectRoot input =>
    refine Triple.bind (does_persistReviewerSnapshotObject fuel objectRoot input)
      fun persisted => ?_
    exact does_pure fun disk stands => ⟨objectRoot, input.expectedSha256, stands⟩
  | readBack root kind anchor trustedRoot value =>
    have persistable := allowed value rfl
    refine Triple.bind (does_persistCanonicalReviewTransportJson fuel root kind
      fun encoded written => ⟨value, persistable.listed, encoded, written, rfl⟩) fun json => ?_
    have reads : Does sha256 (Encodes numbers values) id
        (fun disk => ∃ encoded, canonicalJsonBytes numbers value = .ok encoded ∧
          json.exactRef = exactRefOf sha256 root kind (bytesOf encoded) ∧
          Present root (sha256 (bytesOf encoded)) .json disk)
        (readReviewTransportJsonExactRef sha256 numbers decoder fuel anchor json.exactRef kind
          trustedRoot)
        fun read _ => read.exactRef = json.exactRef ∧ Same numbers read.value value := by
      rintro disk sound ⟨encoded, written, ref, present⟩
      rw [ref]
      exact does_readReviewTransportJsonExactRef free persistable written fuel anchor root kind kind
        trustedRoot disk sound present
    exact Triple.bind reads fun read => does_pure fun _ known => known

end

/-! ## A read that nothing disturbs -/

/-- Nothing fails, and the directories above the store are in order. -/
def Undisturbed (chains : Path → String → List Stat) : Machine fileSystem Disk :=
  fun disk request after answer => disk.Performs request after answer ∧
    match request, answer with
    | _, .error _ => False
    | .inside _ _, .ok inside => inside = true
    | .isCanonical _, .ok canonical => canonical = true
    | .directoryChain path anchor, .ok chain => chain = chains path anchor
    | _, _ => True

section

variable {sha256 : Bytes → Digest} {numbers : NumberText ν} {decoder : TextDecoder}
  {chains : Path → String → List Stat} {disk : Disk} {α : Type}

/-- A part of a call that ends well on its own. -/
abbrev Yields (chains : Path → String → List Stat) (disk : Disk) (program : Call α)
    (returns : α → Prop) : Prop :=
  Leads (Undisturbed chains) program disk (fun value after => after = disk ∧ returns value)
    fun _ _ => False

variable {program : Call α} {returns : α → Prop} {file : Nat}

theorem yields_bind {β : Type} {f : α → Call β} {returns' : β → Prop}
    (first : Yields chains disk program returns)
    (next : ∀ value, returns value → Yields chains disk (f value) returns') :
    Yields chains disk (program >>= f) returns' := by
  rw [Yields, leads_bind]
  refine first.mono ?_ fun _ _ failed => failed
  rintro value _ ⟨rfl, holds⟩
  exact next value holds

theorem yields_pure {value : α} (holds : returns value) : Yields chains disk (pure value) returns :=
  leads_pure.2 ⟨rfl, holds⟩

theorem yields_require {condition : Bool} {failureCode message : String}
    (holds : condition = true) :
    Yields chains disk (require condition failureCode message) fun _ => True := by
  unfold require
  rw [if_pos holds]
  exact yields_pure trivial

theorem yields_wrap {failureCode message : String} (yields : Yields chains disk program returns) :
    Yields chains disk (wrap failureCode message program) returns :=
  leads_tryCatch.2 (yields.mono (fun _ _ holds => holds) fun _ _ failed => failed.elim)

theorem yields_onError {cleanup : Call Unit} (yields : Yields chains disk program returns) :
    Yields chains disk (onError program cleanup) returns :=
  leads_tryCatch.2 (yields.mono (fun _ _ holds => holds) fun _ _ failed => failed.elim)

theorem yields_ask {asked : Request} {returns : fileSystem.Response asked → Prop}
    (quiet : asked.quiet = true)
    (tells : ∀ answer, Undisturbed chains disk asked disk (.ok answer) → returns answer) :
    Yields chains disk (ask asked) returns := by
  refine leads_call.2 ?_
  rintro after answer performed
  obtain rfl := performs_quiet quiet performed.1
  cases answer with
  | ok answer => exact ⟨rfl, tells answer performed⟩
  | error fault =>
    obtain ⟨-, failed⟩ := performed
    cases asked <;> exact failed

theorem yields_chainOf (path : Path) (anchor : Option String) :
    Yields chains disk (chainOf path anchor) fun chain => chain = anchor.map (chains path) := by
  cases anchor with
  | none => exact yields_pure rfl
  | some anchor =>
    refine yields_bind (yields_ask rfl fun chain performed => performed.2) ?_
    rintro chain rfl
    exact yields_pure rfl

theorem yields_insideOf (path : Path) (root : Option String) :
    Yields chains disk (insideOf path root) fun inside => inside = true := by
  cases root with
  | none => exact yields_pure rfl
  | some root => exact yields_ask rfl fun inside performed => performed.2

theorem sameStableFile_self (stat : Stat) : sameStableFile stat stat = true := by
  simp [sameStableFile, sameFileIdentity]

theorem sameStableDirectoryChain_self (chain : Option (List Stat)) :
    sameStableDirectoryChain chain chain = true := by
  cases chain with
  | none => rfl
  | some chain =>
    simp only [sameStableDirectoryChain, decide_true, Bool.true_and]
    induction chain with
    | nil => rfl
    | cons stat rest ih => rw [List.zip_cons_cons, List.all_cons, sameStableFile_self, ih]; rfl

/-- The chunks of an object come to its end. -/
theorem yields_readChunks {content : Bytes} (content_eq : (disk.files file).bytes = content)
    (fuel : Nat) (bytes : Bytes) (part : bytes <+: content)
    (enough : content.length < bytes.length + fuel) :
    Yields chains disk (readChunks file fuel bytes) fun read => read = content := by
  induction fuel generalizing bytes with
  | zero => exact absurd part.length_le (Nat.not_le.2 enough)
  | succ fuel ih =>
    obtain ⟨rest, rfl⟩ := part
    unfold readChunks
    refine yields_bind (yields_ask rfl fun chunk performed => performed.1.2) ?_
    rintro (chunk : Bytes) ⟨count, positive, -, same⟩
    rw [content_eq, List.drop_left] at same
    by_cases ended : chunk = []
    · rw [if_pos ended]
      rw [ended] at same
      refine yields_pure ?_
      rcases List.take_eq_nil_iff.1 same.symm with none | none
      · exact absurd none positive.ne'
      · rw [none, List.append_nil]
    · rw [if_neg ended]
      refine ih (bytes ++ chunk) ?_ ?_
      · rw [same]
        exact (List.prefix_append_right_inj bytes).2 (List.take_prefix count rest)
      · have longer := List.length_pos_of_ne_nil ended
        simp only [List.length_append] at enough ⊢
        omega

theorem yields_stableFileObservation {path : Path} {content : Bytes}
    (named : disk.names path = some file) (content_eq : (disk.files file).bytes = content)
    (fuel : Nat) (enough : content.length < fuel) (options : ObservationOptions) :
    Yields chains disk (stableFileObservation sha256 fuel path options) fun observed =>
      observed = ⟨sha256 content, content.length,
        if options.captureBytes then some content else none⟩ := by
  have lstat : Yields chains disk (ask (.lstat path)) fun stat => stat = disk.stat file := by
    refine yields_ask rfl ?_
    rintro stat ⟨⟨-, other, found, rfl⟩, -⟩
    rw [Option.some.inj (found.symm.trans named)]
  have fstat : Yields chains disk (ask (.fstat file)) fun stat => stat = disk.stat file :=
    yields_ask rfl fun stat performed => performed.1.2
  unfold stableFileObservation
  have opens : Yields chains disk (openStable path options) fun opened =>
      opened = (options.trustedAnchor.map (chains path), disk.stat file, file) := by
    unfold openStable
    refine yields_bind (yields_chainOf _ _) fun chainBefore chain => ?_
    refine yields_bind (yields_insideOf _ _) fun inside isInside => ?_
    refine yields_bind (yields_require isInside) fun _ _ => ?_
    refine yields_bind lstat ?_
    rintro pathBefore rfl
    refine yields_bind (yields_require rfl) fun _ _ => ?_
    refine yields_bind (yields_ask rfl fun opened performed => performed.1.2) ?_
    rintro (opened : Nat) same
    refine yields_pure ?_
    rw [chain, Option.some.inj (same.symm.trans named)]
  refine yields_bind (yields_wrap opens) ?_
  rintro _ rfl
  have observes : Yields chains disk (observeOpened sha256 fuel path options
      (options.trustedAnchor.map (chains path)) (disk.stat file) file) fun observed =>
      observed = ⟨sha256 content, content.length,
        if options.captureBytes then some content else none⟩ := by
    unfold observeOpened
    refine yields_bind fstat ?_
    rintro before rfl
    refine yields_bind (yields_require (by simp [sameFileIdentity, Disk.stat])) fun _ _ => ?_
    refine yields_bind (yields_readChunks content_eq fuel [] List.nil_prefix
      (by rw [List.length_nil, Nat.zero_add]; exact enough)) ?_
    rintro bytes rfl
    refine yields_bind fstat ?_
    rintro after rfl
    refine yields_bind (yields_chainOf _ _) ?_
    rintro chainAfter rfl
    refine yields_bind (yields_wrap lstat) ?_
    rintro pathAfter rfl
    refine yields_bind (yields_require ?_) fun _ _ => ?_
    · rw [sameStableFile_self, sameStableDirectoryChain_self]
      simp [Disk.stat, content_eq]
    · refine yields_bind (yields_insideOf _ _) fun inside isInside => ?_
      refine yields_bind (yields_require isInside) fun _ _ => yields_pure rfl
  refine yields_bind (yields_onError (yields_wrap observes)) ?_
  rintro observed rfl
  exact yields_bind (yields_ask rfl fun _ _ => trivial) fun _ _ => yields_pure rfl

/-- A persisted value is read back when nothing disturbs the read. -/
theorem yields_readReviewTransportJsonExactRef {root kind : String} {value : JsValue ν}
    {encoded : ByteArray} (distinct : value.Distinct) (record : JsValue.isRecord value = true)
    (written : canonicalJsonBytes numbers value = .ok encoded)
    (linked : Linked root (sha256 (bytesOf encoded)) .json file (bytesOf encoded) disk) (fuel : Nat)
    (enough : (bytesOf encoded).length < fuel) (anchor trustedRoot : String) :
    Yields chains disk
      (readReviewTransportJsonExactRef sha256 numbers decoder fuel anchor
        (exactRefOf sha256 root kind (bytesOf encoded)) kind trustedRoot)
      fun read => read.exactRef = exactRefOf sha256 root kind (bytesOf encoded) ∧
        Same numbers read.value value := by
  obtain ⟨reread, parsed, same⟩ := @parseVerified_bytesOf ν _ numbers decoder value distinct record
    encoded written
  have verifies : Yields chains disk
      (readReviewTransportFileExactRefInternal sha256 fuel anchor
        (exactRefOf sha256 root kind (bytesOf encoded)) kind trustedRoot true)
      fun verified => verified =
        ⟨exactRefOf sha256 root kind (bytesOf encoded), some (bytesOf encoded)⟩ := by
    unfold readReviewTransportFileExactRefInternal
    refine yields_bind (yields_require (by simp [exactRefOf])) fun _ _ => ?_
    refine yields_bind (yields_ask rfl fun _ performed => performed.2) ?_
    intro canonical isCanonical
    refine yields_bind (yields_require isCanonical) fun _ _ => ?_
    refine yields_bind (yields_ask rfl fun _ performed => performed.2) ?_
    intro inside isInside
    refine yields_bind (yields_require isInside) fun _ _ => ?_
    refine yields_bind (yields_stableFileObservation linked.1 linked.2 fuel enough _) ?_
    rintro observed rfl
    refine yields_bind (yields_require (by simp [exactRefOf, Path.filenameDigest])) fun _ _ => ?_
    exact yields_pure rfl
  unfold readReviewTransportJsonExactRef
  refine yields_bind verifies ?_
  rintro verified rfl
  rw [parsed]
  exact yields_pure ⟨rfl, same⟩

end

/-! ## Runs -/

/-- Objects are what their names say, and exact refs give back what was persisted. -/
structure ContentAddressed (sha256 : Bytes → Digest) (numbers : NumberText ν)
    (decoder : TextDecoder) (crew : Crew fileSystem Disk CallId (Result ν)) : Prop where
  /-- Every file that is linked under a digest has it. -/
  named : ∀ directory digest extension file,
    crew.world.names (.object directory digest extension) = some file →
      sha256 (crew.world.files file).bytes = digest
  /-- A read of an exact ref that returns has the persisted value, whatever happened between. -/
  reread : ∀ id value json read, crew.threads id = .present (.done (.ok (.reread value json read))) →
    read.exactRef = json.exactRef ∧ Same numbers read.value value
  /-- A read of an exact ref that nothing disturbs returns the persisted value. -/
  rereads : ∀ id value json, crew.threads id = .present (.done (.ok (.persisted value json))) →
    ∀ chains fuel anchor trustedRoot, json.exactRef.sizeBytes < fuel →
      Yields chains crew.world
        (readReviewTransportJsonExactRef sha256 numbers decoder fuel anchor json.exactRef
          json.exactRef.kind trustedRoot)
        fun read => read.exactRef = json.exactRef ∧ Same numbers read.value value

theorem sound_empty (sha256 : Bytes → Digest) (stored : Bytes → Prop) :
    Disk.empty.Sound sha256 stored := by
  refine ⟨?_, ?_, ?_⟩
  · intro directory digest extension file named
    exact absurd named nofun
  · intro path file named
    exact absurd named nofun
  · intro directory digest id directory' digest' id' file named
    exact absurd named nofun

/-- What is linked has been synchronised: an outage does not reach it. -/
theorem Disk.Sound.outage {sha256 : Bytes → Digest} {stored : Bytes → Prop} {disk after : Disk}
    (sound : disk.Sound sha256 stored) (lost : disk.Outage after) : after.Sound sha256 stored := by
  obtain ⟨names, created, files⟩ := lost
  refine ⟨?_, ?_, ?_⟩
  · intro directory digest extension file named
    rw [names] at named
    have object := sound.object directory digest extension file named
    rw [files file object.2.1]
    exact object
  · intro path file named
    rw [created]
    exact sound.known path file (names ▸ named)
  · rw [names]
    exact sound.single

theorem contentAddressed_of_reached {sha256 : Bytes → Digest} {numbers : NumberText ν}
    {decoder : TextDecoder} {values : JsValue ν → Prop}
    (free : CollisionFree sha256 numbers values)
    {crew : Crew fileSystem Disk CallId (Result ν)}
    (reached : CrewReached Careful (MayEnter sha256 numbers decoder values) Disk.Outage .empty crew) :
    ContentAddressed sha256 numbers decoder crew := by
  obtain ⟨sound, each⟩ := reached.carries
    (sound_empty sha256 (Encodes numbers values)) (fun id directory digest => rfl)
    (fun _ => stable_unused)
    (by
      intro id outcome
      cases outcome with
      | ok result => exact stable_holds_result result
      | error fault => exact stable_true)
    (by
      intro disk after sound lost
      refine ⟨Disk.Sound.outage sound lost, ?_⟩
      intro id unused directory digest
      rw [lost.1]
      exact unused directory digest)
    (by
      rintro id program ⟨fuel, session, allowed, rfl⟩
      exact does_session free fuel session allowed)
  have returned {id : CallId} {result : Result ν}
      (ended : crew.threads id = .present (.done (.ok result))) :
      result.Holds sha256 numbers values crew.world := by
    have carries := each id
    rw [ended] at carries
    exact carries
  refine ⟨?_, ?_, ?_⟩
  · intro directory digest extension file linked
    exact (Disk.Sound.object sound directory digest extension file linked).1
  · intro id value json read ended
    exact returned ended
  · intro id value json ended
    obtain ⟨persistable, encoded, root, kind, written, ref, file, linked⟩ := returned ended
    obtain ⟨digest, -, stored⟩ := Disk.Sound.object sound _ _ _ file linked
    -- Whatever call has linked the file, it has the bytes of the value.
    have content := free _ _ (stored rfl)
      ⟨value, persistable.listed, encoded, written, rfl⟩ digest
    intro chains fuel anchor trustedRoot enough
    rw [ref] at enough ⊢
    exact yields_readReviewTransportJsonExactRef persistable.distinct persistable.record written
      ⟨linked, content⟩ fuel enough anchor trustedRoot

/-! ## Two calls -/

namespace Sample

def digestOfAb : Digest :=
  ⟨"sha256:fb8e20fc2e4c3f248c60c39bd652f3c1347298bb977b8b4d5903b85055620603", by decide +kernel⟩

def digestOfA : Digest :=
  ⟨"sha256:ca978112ca1bbdcafac231b39a23dc4da786eff8147c4e72b9807785afee48bb", by decide +kernel⟩

def digestOfRecord : Digest :=
  ⟨"sha256:44136fa355b3678a1146ad16f7e8649e94fb4fc21fe77e8310c060f61caaff8a", by decide +kernel⟩

def digestOfNothing : Digest :=
  ⟨"sha256:e3b0c44298fc1c149afbf4c8996fb92427ae41e4649b934ca495991b7852b855", by decide +kernel⟩

/-- The digests of `ab`, of `a`, of an empty record and of nothing. -/
def sha256 : Bytes → Digest
  | [97, 98] => digestOfAb
  | [97] => digestOfA
  | [123, 125] => digestOfRecord
  | _ => digestOfNothing

def create (disk : Disk) (path : Path) : Disk × fileSystem.Answer (.create path) :=
  if disk.names path = none then (disk.create path 0, .ok disk.created)
  else (disk, .error .alreadyExists)

/-- A request on the file of a name, if there is one. -/
def onNamed {asked : Request} (disk : Disk) (path : Path)
    (found : Nat → Disk × fileSystem.Answer asked) : Disk × fileSystem.Answer asked :=
  match disk.names path with
  | none => (disk, .error .io)
  | some file => found file

def link (disk : Disk) (existing new : Path) (file : Nat) :
    Disk × fileSystem.Answer (.link existing new) :=
  if disk.names new = none then (disk.link new file 0, .ok ()) else (disk, .error .alreadyExists)

/-- Nothing fails, and the source is `ab`. Of a chunk that is copied as many bytes are written as
`transfers` says. -/
def perform (transfers : Bytes → Nat) (disk : Disk) :
    (request : Request) → Disk × fileSystem.Answer request
  | .ensureDirectory _ | .close _ | .openSource _ | .closeSource => (disk, .ok ())
  | .present path => (disk, .ok (disk.names path).isSome)
  | .create path => create disk path
  | .openRead path => onNamed disk path fun file => (disk, .ok file)
  | .lstat path => onNamed disk path fun file => (disk, .ok (disk.stat file))
  | .fstat file => (disk, .ok (disk.stat file))
  | .read file position =>
    (disk, .ok (((disk.files file).bytes.drop position).take Disk.readChunkBytes))
  | .write .copy file bytes =>
    (disk.append file (bytes.take (transfers bytes)) 0, .ok (transfers bytes))
  | .write .writeFile file bytes => (disk.append file (bytes.take bytes.length) 0, .ok bytes.length)
  | .fsync file => (disk.sync file, .ok ())
  | .link existing new => onNamed disk existing (link disk existing new)
  | .chmod path => onNamed disk path fun file => (disk.touch file 0, .ok ())
  | .remove path => (disk.remove path 0, .ok ())
  | .inside _ _ | .isCanonical _ | .sourceInside _ _ => (disk, .ok true)
  | .directoryChain _ _ => (disk, .ok [])
  | .lstatSource _ | .fstatSource => (disk, .ok ⟨0, 2, 0, 0, true, false⟩)
  | .readSource => (disk, .ok (if (disk.files 0).bytes = [] then [97, 98] else []))

theorem performs_create (disk : Disk) (path : Path) :
    disk.Performs (.create path) (create disk path).1 (create disk path).2 := by
  unfold create
  by_cases free : disk.names path = none
  · rw [if_pos free]
    exact ⟨free, rfl, 0, rfl⟩
  · rw [if_neg free]
    exact rfl

theorem performs_onNamed {asked : Request} {disk : Disk} {path : Path}
    {found : Nat → Disk × fileSystem.Answer asked} (fails : disk.Performs asked disk (.error .io))
    (performs : ∀ file, disk.names path = some file →
      disk.Performs asked (found file).1 (found file).2) :
    disk.Performs asked (onNamed disk path found).1 (onNamed disk path found).2 := by
  unfold onNamed
  cases named : disk.names path with
  | none => exact fails
  | some file => exact performs file named

theorem performs_link {disk : Disk} {existing : Path} {file : Nat}
    (named : disk.names existing = some file) (new : Path) :
    disk.Performs (.link existing new) (link disk existing new file).1
      (link disk existing new file).2 := by
  unfold link
  by_cases free : disk.names new = none
  · rw [if_pos free]
    exact ⟨free, file, 0, named, rfl⟩
  · rw [if_neg free]
    exact ⟨rfl, fun _ => free⟩

theorem performs_perform {transfers : Bytes → Nat}
    (bounded : ∀ bytes, transfers bytes ≤ bytes.length) (disk : Disk) (request : Request) :
    disk.Performs request (perform transfers disk request).1 (perform transfers disk request).2 := by
  cases request with
  | present path =>
    refine ⟨rfl, ?_⟩
    intro present absent
    rw [perform, absent] at present
    exact absurd (Except.ok.inj present) Bool.false_ne_true
  | create path => exact performs_create disk path
  | openRead path => exact performs_onNamed rfl fun file named => ⟨rfl, named⟩
  | lstat path => exact performs_onNamed rfl fun file named => ⟨rfl, file, named, rfl⟩
  | fstat file => exact ⟨rfl, rfl⟩
  | read file position => exact ⟨rfl, Disk.readChunkBytes, by decide, le_rfl, rfl⟩
  | write loop file bytes =>
    cases loop with
    | copy => exact ⟨bounded bytes, 0, rfl⟩
    | writeFile => exact ⟨Nat.le_refl _, 0, rfl⟩
  | link existing new =>
    exact performs_onNamed ⟨rfl, nofun⟩ fun file named => performs_link named new
  | chmod path => exact performs_onNamed rfl fun file named => ⟨file, 0, named, rfl⟩
  | remove path => exact ⟨0, rfl⟩
  | fsync file => exact rfl
  | inside _ _ | isCanonical _ | sourceInside _ _ | directoryChain _ _ | lstatSource _
  | fstatSource | readSource | ensureDirectory _ | close _ | openSource _ | closeSource =>
    exact rfl

theorem careful_perform (disk : Disk) (request : Request) :
    Careful disk request (perform List.length disk request).1
      (perform List.length disk request).2 := by
  refine ⟨performs_perform (fun bytes => le_rfl) disk request, ?_⟩
  cases request with
  | write loop file bytes => cases loop <;> trivial
  | _ => trivial

def record : JsValue (Option Nat) := .object true 0 0 []

def readBack : Session (Option Nat) := .readBack "manifests" "kind" "anchor" "manifests" record

def copy : Session (Option Nat) :=
  .persistObject "objects" ⟨some "source", some "source", some "workspace", digestOfAb⟩

def program (id : CallId) (session : Session (Option Nat)) : Call (Result (Option Nat)) :=
  session.program sha256 naturalText utf8Decoder id 5

def id : CallId := ⟨1, "uuid"⟩

/-- The record is the only value. -/
def values (value : JsValue (Option Nat)) : Prop := value = record

theorem mayEnter (session : Session (Option Nat)) (listed : ∀ value ∈ session.value, value = record) :
    MayEnter sha256 naturalText utf8Decoder values id (program id session) := by
  refine ⟨5, session, ?_, rfl⟩
  rintro value present
  obtain rfl := listed value present
  exact ⟨rfl, ⟨List.nodup_nil, trivial⟩, rfl⟩

theorem collisionFree : CollisionFree sha256 naturalText values := by
  rintro bytes other ⟨_, rfl, encoded, written, rfl⟩ ⟨_, rfl, encoded', written', rfl⟩ -
  rw [Except.ok.inj (written.symm.trans written')]

/-- The crew after a session that has run on its own. -/
def crewAfter (transfers : Bytes → Nat) (session : Session (Option Nat)) :
    Crew fileSystem Disk CallId (Result (Option Nat)) :=
  ⟨((program id session).run (perform transfers) .empty).1,
    Function.update (fun _ => .absent) id
      (.present (.done ((program id session).run (perform transfers) .empty).2))⟩

def isReread : Except Fault (Result (Option Nat)) → Bool
  | .ok (.reread _ _ _) => true
  | _ => false

theorem readBack_rereads :
    isReread ((program id readBack).run (perform List.length) Disk.empty).2 = true := by
  decide +kernel

theorem copy_links : ((program id copy).run (perform fun bytes => min 1 bytes.length) Disk.empty).1.names
      (.object "objects" digestOfAb .bin) = some 0 ∧
    (((program id copy).run (perform fun bytes => min 1 bytes.length) Disk.empty).1.files 0).bytes =
      [97] := by
  decide +kernel

end Sample

open Sample in
theorem contentAddressed_readBack :
    isReread ((program id readBack).run (perform List.length) Disk.empty).2 = true ∧
      ContentAddressed sha256 naturalText utf8Decoder (crewAfter List.length readBack) := by
  have reached : CrewReached Careful (MayEnter sha256 naturalText utf8Decoder values) Disk.Outage
      .empty (crewAfter List.length readBack) := by
    refine CrewReached.run careful_perform .refl rfl (mayEnter readBack ?_)
    rintro value ⟨rfl⟩
    rfl
  exact ⟨readBack_rereads, contentAddressed_of_reached collisionFree reached⟩

open Sample in
/-- A copy that is cut short is linked under the digest of what it should be. -/
theorem shortWrite_linked :
    CrewReached Disk.Performs (MayEnter sha256 naturalText utf8Decoder values) Disk.Outage .empty
        (crewAfter (fun bytes => min 1 bytes.length) copy) ∧
      ¬ContentAddressed sha256 naturalText utf8Decoder
        (crewAfter (fun bytes => min 1 bytes.length) copy) := by
  constructor
  · refine CrewReached.run (performs_perform fun bytes => Nat.min_le_right 1 bytes.length) .refl
      rfl (mayEnter copy ?_)
    intro value present
    exact absurd present nofun
  · intro addressed
    have named := addressed.named "objects" digestOfAb .bin 0 copy_links.1
    change sha256 ((((program id copy).run (perform fun bytes => min 1 bytes.length) Disk.empty).1.files
      0).bytes) = digestOfAb at named
    rw [copy_links.2] at named
    exact absurd named (by decide +kernel)

end OnePersonLab.Transport
