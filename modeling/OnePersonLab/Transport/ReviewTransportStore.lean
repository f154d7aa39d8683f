import OnePersonLab.Contract.CanonicalJson
import OnePersonLab.Transport.FileSystem

/-!
# The review transport store

Objects are written to a temporary file and linked under their digest. A part of a call
is written with what its `finally` does to the variables as they are there: `onError`.
A loop of reads or writes that goes on for too long ends as a failing call does.
-/

namespace OnePersonLab.Transport

open Contract Lib

/-- `reviewTransportError`. -/
def reviewTransportError (failureCode message : String) : Fault :=
  .rejected (some failureCode) message

def require (condition : Bool) (failureCode message : String) : Call Unit :=
  if condition then pure () else throw (reviewTransportError failureCode message)

/-- A contract error goes on as it is, any other becomes the one given. -/
def Fault.wrapped (failureCode message : String) : Fault → Fault
  | .rejected failureCode message => .rejected failureCode message
  | .alreadyExists | .io => reviewTransportError failureCode message

def wrap {α : Type} (failureCode message : String) (program : Call α) : Call α :=
  program.tryCatch fun fault => throw (fault.wrapped failureCode message)

def onError {α : Type} (program : Call α) (cleanup : Call Unit) : Call α :=
  program.tryCatch fun fault => do
    cleanup
    throw fault

def ask (asked : Request) : Call (fileSystem.Response asked) := @Program.call fileSystem asked

/-! ## Observing a file -/

structure Observation where
  sha256 : Digest
  sizeBytes : Nat
  bytes : Option Bytes

/-- Where an observation may look: `trustedRoot`, `trustedAnchor`, `captureBytes`. -/
structure ObservationOptions where
  trustedRoot : Option String
  trustedAnchor : Option String
  captureBytes : Bool

def readChunks (file : Nat) : Nat → Bytes → Call Bytes
  | 0, _ => throw .io
  | fuel + 1, bytes => do
    let chunk : Bytes ← ask (.read file bytes.length)
    if chunk = [] then pure bytes else readChunks file fuel (bytes ++ chunk)

def chainOf (path : Path) : Option String → Call (Option (List Stat))
  | none => pure none
  | some anchor => do
    let chain ← ask (.directoryChain path anchor)
    pure (some chain)

def insideOf (path : Path) : Option String → Call Bool
  | none => pure true
  | some root => ask (.inside path root)

def sameStableDirectoryChain : Option (List Stat) → Option (List Stat) → Bool
  | some left, some right =>
    left.length = right.length && (left.zip right).all fun (left, right) => sameStableFile left right
  | _, _ => true

/-- Up to the opening of the file. -/
def openStable (path : Path) (options : ObservationOptions) :
    Call (Option (List Stat) × Stat × Nat) := do
  let chainBefore ← chainOf path options.trustedAnchor
  let inside ← insideOf path options.trustedRoot
  require inside "review_transport_exact_ref_untrusted_root"
    "Review transport exact ref is outside its trusted root."
  let pathBefore ← ask (.lstat path)
  require (pathBefore.isFile && !pathBefore.isSymbolicLink) "review_transport_ref_not_file"
    "Review transport exact ref must resolve to a regular file."
  let file ← ask (.openRead path)
  pure (chainBefore, pathBefore, file)

variable (sha256 : Bytes → Digest)

/-- While the file is open. -/
def observeOpened (fuel : Nat) (path : Path) (options : ObservationOptions)
    (chainBefore : Option (List Stat)) (pathBefore : Stat) (file : Nat) : Call Observation := do
  let before ← ask (.fstat file)
  require (before.isFile && sameFileIdentity pathBefore before)
    "review_transport_ref_changed_during_read"
    "Review transport exact ref changed identity before it was read."
  let bytes ← readChunks file fuel []
  let after ← ask (.fstat file)
  let chainAfter ← chainOf path options.trustedAnchor
  let pathAfter ← wrap "review_transport_ref_changed_during_read"
    "Review transport exact ref changed identity while it was read." (ask (.lstat path))
  require
    (!pathAfter.isSymbolicLink && bytes.length = before.size && sameStableFile before after &&
      sameStableFile after pathAfter && sameStableDirectoryChain chainBefore chainAfter)
    "review_transport_ref_changed_during_read"
    "Review transport exact ref changed while it was being verified."
  let inside ← insideOf path options.trustedRoot
  require inside "review_transport_ref_changed_during_read"
    "Review transport exact ref changed while it was being verified."
  pure ⟨sha256 bytes, bytes.length, if options.captureBytes then some bytes else none⟩

def unreadable {α : Type} (program : Call α) : Call α :=
  wrap "review_transport_ref_unreadable" "Review transport exact ref is not readable." program

def stableFileObservation (fuel : Nat) (path : Path) (options : ObservationOptions) :
    Call Observation := do
  let (chainBefore, pathBefore, file) ← unreadable (openStable path options)
  let observation ← onError
    (unreadable (observeOpened sha256 fuel path options chainBefore pathBefore file))
    (ask (.close file))
  ask (.close file)
  pure observation

/-! ## Linking an object -/

structure Persisted where
  path : Path
  created : Bool
  deriving DecidableEq

/-- Link the temporary file; an object that is there already is verified. -/
def linkTemporary (temporary target : Path) (verify : Call Unit) : Call Persisted :=
  (do
    ask (.link temporary target)
    ask (.chmod target)
    pure ⟨target, true⟩ : Call Persisted).tryCatch fun (fault : Fault) =>
      if fault = .alreadyExists then do
        verify
        pure ⟨target, false⟩
      else throw fault

/-- What the calls that persist look for at the target. -/
def verifyTarget (fuel : Nat) (root : String) (target : Path) (matches_ : Observation → Bool)
    (failureCode message : String) : Call Unit := do
  let observed ← stableFileObservation sha256 fuel target ⟨some root, none, false⟩
  require (matches_ observed) failureCode message

/-! ## Canonical JSON -/

/-- The loop of `fs.writeFileSync`. -/
def writeFile (file : Nat) : Nat → Bytes → Call Unit
  | _, [] => pure ()
  | 0, _ => throw .io
  | fuel + 1, bytes => do
    let count : Nat ← ask (.write .writeFile file bytes)
    writeFile file fuel (bytes.drop count)

def persistBytesAtDigest (id : CallId) (fuel : Nat) (root : String) (extension : Extension)
    (digest : Digest) (bytes : Bytes) : Call Persisted := do
  ask (.ensureDirectory root)
  let target := Path.object root digest extension
  let verify := verifyTarget sha256 fuel root target
    fun observed => observed.sha256 = digest && observed.sizeBytes = bytes.length
  let present : Bool ← ask (.present target)
  if present then do
    verify "review_transport_persisted_bytes_tampered"
      "Persisted review transport bytes do not match their content-addressed identity."
    pure ⟨target, false⟩
  else do
    let temporary := Path.temporary root digest id
    let descriptor ← onError (ask (.create temporary)) (ask (.remove temporary))
    onError
      (do
        writeFile descriptor fuel bytes
        ask (.fsync descriptor)
        ask (.close descriptor))
      (do
        ask (.close descriptor)
        ask (.remove temporary))
    let persisted ← onError
      (linkTemporary temporary target (verify "review_transport_persisted_bytes_tampered"
        "Concurrent review transport bytes do not match their content-addressed identity."))
      (ask (.remove temporary))
    ask (.remove temporary)
    pure persisted

structure ExactRef where
  kind : String
  ref : Path
  sizeBytes : Nat
  sha256 : Digest
  deriving DecidableEq

structure PersistedJson where
  created : Bool
  exactRef : ExactRef
  deriving DecidableEq

def Fault.ofFailure (failure : Failure) : Fault :=
  if failure.isContract then .rejected none failure.message else .io

def bytesOf (encoded : ByteArray) : Bytes := encoded.data.toList

section

variable {ν : Type} [DecidableEq ν] (numbers : NumberText ν)

def persistCanonicalReviewTransportJson (id : CallId) (fuel : Nat) (root kind : String)
    (value : JsValue ν) : Call PersistedJson :=
  match canonicalJsonBytes numbers value with
  | .error failure => throw (.ofFailure failure)
  | .ok encoded => do
    let bytes := bytesOf encoded
    let digest := sha256 bytes
    let persisted ← persistBytesAtDigest sha256 id fuel root .json digest bytes
    pure ⟨persisted.created, ⟨kind, persisted.path, bytes.length, digest⟩⟩

end

/-! ## Snapshot objects -/

structure SnapshotObjectInput where
  sourcePath : Option String
  sourceRef : Option String
  trustedWorkspaceRoot : Option String
  expectedSha256 : Digest
  deriving DecidableEq

/-- `if (!text)`. -/
def given (text : Option String) : Option String := text.filter fun text => text ≠ ""

/-- The loop that copies a source, with everything that it has read so far. -/
def copyChunks (destination : Nat) : Nat → Bytes → Call Bytes
  | 0, _ => throw .io
  | fuel + 1, bytes => do
    let chunk : Bytes ← ask .readSource
    if chunk = [] then pure bytes
    else do
      -- The number of bytes that have been written is not looked at.
      let _ ← ask (.write .copy destination chunk)
      copyChunks destination fuel (bytes ++ chunk)

def copyFailed {α : Type} (program : Call α) : Call α :=
  wrap "reviewer_input_snapshot_copy_failed"
    "Reviewer input snapshot bytes could not be copied into OPL state." program

def sourceInsideOf (sourcePath : String) : Option String → Call Bool
  | none => pure false
  | some root => ask (.sourceInside sourcePath root)

def openSource (sourcePath : String) (trustedWorkspaceRoot : Option String) : Call Stat := do
  let inside ← sourceInsideOf sourcePath (given trustedWorkspaceRoot)
  require inside "reviewer_input_snapshot_source_path_escape"
    "Reviewer input snapshot source escaped its declared workspace root before copy."
  let pathBefore ← ask (.lstatSource sourcePath)
  require (pathBefore.isFile && !pathBefore.isSymbolicLink)
    "reviewer_input_snapshot_source_not_file"
    "Reviewer input snapshot source must be a regular file."
  ask (.openSource sourcePath)
  pure pathBefore

def openDestination (pathBefore : Stat) (temporary : Path) : Call (Stat × Nat) := do
  let before ← ask .fstatSource
  require (before.isFile && sameFileIdentity pathBefore before)
    "reviewer_input_snapshot_source_changed_during_copy"
    "Reviewer input snapshot source changed identity before copy."
  let destination ← ask (.create temporary)
  pure (before, destination)

def copySource (fuel : Nat) (sourcePath : String) (trustedWorkspaceRoot : Option String)
    (expectedSha256 : Digest) (before : Stat) (destination : Nat) : Call Unit := do
  let bytes ← copyChunks destination fuel []
  let after ← ask .fstatSource
  let pathAfter ← wrap "reviewer_input_snapshot_source_changed_during_copy"
    "Reviewer input snapshot source changed identity during copy." (ask (.lstatSource sourcePath))
  require
    (!pathAfter.isSymbolicLink && bytes.length = before.size && sameStableFile before after &&
      sameStableFile after pathAfter)
    "reviewer_input_snapshot_source_changed_during_copy"
    "Reviewer input snapshot source changed while it was being copied."
  let inside ← sourceInsideOf sourcePath trustedWorkspaceRoot
  require inside "reviewer_input_snapshot_source_changed_during_copy"
    "Reviewer input snapshot source changed while it was being copied."
  require (sha256 bytes = expectedSha256) "reviewer_input_snapshot_member_identity_mismatch"
    "Reviewer input snapshot source bytes do not match the MAS-provided member identity."
  ask (.fsync destination)
  ask (.close destination)

/-- The `finally` of a copy without a destination. -/
def closeSource (temporary : Path) : Call Unit := do
  ask .closeSource
  ask (.remove temporary)

def closeBoth (destination : Nat) (temporary : Path) : Call Unit := do
  ask .closeSource
  ask (.close destination)
  ask (.remove temporary)

def persistReviewerSnapshotObject (id : CallId) (fuel : Nat) (objectRoot : String)
    (input : SnapshotObjectInput) : Call Persisted := do
  ask (.ensureDirectory objectRoot)
  let target := Path.object objectRoot input.expectedSha256 .bin
  let verify := verifyTarget sha256 fuel objectRoot target
    fun observed => observed.sha256 = input.expectedSha256
  let present : Bool ← ask (.present target)
  if present then do
    verify "reviewer_input_snapshot_object_tampered"
      "Persisted reviewer input snapshot object does not match its expected byte identity."
    pure ⟨target, false⟩
  else
    match given input.sourcePath, given input.sourceRef with
    | some sourcePath, some _ => do
      let temporary := Path.temporary objectRoot input.expectedSha256 id
      let pathBefore ← onError
        (copyFailed (openSource sourcePath input.trustedWorkspaceRoot)) (ask (.remove temporary))
      let (before, destination) ← onError
        (copyFailed (openDestination pathBefore temporary)) (closeSource temporary)
      onError
        (copyFailed (copySource sha256 fuel sourcePath input.trustedWorkspaceRoot
          input.expectedSha256 before destination))
        (closeBoth destination temporary)
      let persisted ← onError
        (copyFailed (linkTemporary temporary target
          (verify "reviewer_input_snapshot_object_tampered"
            "Concurrent reviewer input snapshot object has the wrong byte identity.")))
        (closeSource temporary)
      closeSource temporary
      pure persisted
    | _, _ => throw (reviewTransportError "reviewer_input_snapshot_source_required"
        "Reviewer input snapshot source is required to materialize a missing immutable object.")

/-! ## Reading -/

/-- `path.basename(filePath)` without its extension, as a digest. -/
def Path.filenameDigest : Path → Option Digest
  | .temporary _ _ _ => none
  | .object _ digest _ => some digest

/-- The file of an exact ref, with the bytes that have been verified. -/
structure VerifiedFile where
  exactRef : ExactRef
  bytes : Option Bytes

/-- `anchor` is the root of the review transport. -/
def readReviewTransportFileExactRefInternal (fuel : Nat) (anchor : String) (exactRef : ExactRef)
    (expectedKind trustedRoot : String) (captureBytes : Bool) : Call VerifiedFile := do
  require (exactRef.kind = expectedKind) "review_transport_exact_ref_kind_mismatch"
    "Review transport exact ref kind does not match the expected surface."
  let canonical ← ask (.isCanonical exactRef.ref)
  require canonical "review_transport_exact_ref_not_canonical"
    "Review transport exact ref must use the canonical local file URL."
  let inside ← ask (.inside exactRef.ref trustedRoot)
  require inside "review_transport_exact_ref_untrusted_root"
    "Review transport exact ref is outside its OPL-owned state root."
  let observed ← stableFileObservation sha256 fuel exactRef.ref
    ⟨some trustedRoot, some anchor, captureBytes⟩
  require
    (observed.sha256 = exactRef.sha256 && observed.sizeBytes = exactRef.sizeBytes &&
      exactRef.ref.filenameDigest = some exactRef.sha256)
    "review_transport_exact_ref_byte_mismatch"
    "Review transport exact ref does not bind the persisted bytes."
  pure ⟨exactRef, observed.bytes⟩

def JsValue.isRecord {ν : Type} : JsValue ν → Bool
  | .object _ _ _ _ => true
  | _ => false

section

variable {ν : Type} [DecidableEq ν] (numbers : NumberText ν) (decoder : TextDecoder)

def jsonInvalid : Fault :=
  reviewTransportError "review_transport_json_invalid"
    "Review transport exact ref body is not valid JSON."

/-- The value that verified bytes stand for. -/
def parseVerified : Option Bytes → Except Fault (JsValue ν)
  | none => .error jsonInvalid
  | some bytes =>
    match parseJsonText numbers (decoder.decode ⟨bytes.toArray⟩) with
    | .error _ => .error jsonInvalid
    | .ok parsed =>
      if JsValue.isRecord parsed = false then .error jsonInvalid
      else
        match canonicalJsonBytes numbers parsed with
        | .error failure => .error (.ofFailure failure)
        | .ok canonical =>
          if bytes = bytesOf canonical then .ok parsed
          else .error (reviewTransportError "review_transport_json_noncanonical"
            "Review transport exact ref JSON must use canonical bytes.")

structure ReadJson (ν : Type) where
  exactRef : ExactRef
  value : JsValue ν

def readReviewTransportJsonExactRef (fuel : Nat) (anchor : String) (exactRef : ExactRef)
    (expectedKind trustedRoot : String) : Call (ReadJson ν) := do
  let verified ← readReviewTransportFileExactRefInternal sha256 fuel anchor exactRef expectedKind
    trustedRoot true
  let value ← (.done (parseVerified numbers decoder verified.bytes) : Call (JsValue ν))
  pure ⟨verified.exactRef, value⟩

end

end OnePersonLab.Transport
