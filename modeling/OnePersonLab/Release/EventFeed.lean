import Mathlib.Data.Prod.Lex
import Mathlib.Data.String.Basic
import OnePersonLab.Lib.Listing
import OnePersonLab.Release.Events

/-!
# The event feed of a release bundle

Every recorded receipt is a file, and every file is an event. A consumer reads the
events in the order of their times, each call from the last event of the call before.
An event that sorts before that one is never read.
-/

namespace OnePersonLab.Release

open Contract Lib

/-! ## Receipt files -/

/-- A receipt as its file has it. `otherDetails` is the text of the details that no
operation reads again. -/
structure ReceiptFile where
  receipt : OperationReceipt
  bundleDigest : Digest
  attemptId : Option String
  recordedAt : Int
  otherDetails : String
  deriving DecidableEq

inductive NextAction where
  | build
  | verify
  | publish
  | reconcile
  | waitForDistinctOperation
  | consumerReadback
  | none
  deriving DecidableEq, Repr

/-- What the identifier of an event is the digest of. -/
structure EventCore where
  bundleDigest : Digest
  operationId : Option OperationId
  operationKind : Option CanonicalOperation
  operation : ReceiptOperation
  track : Option Track
  checkpointStage : CheckpointStage
  status : ReceiptStatus
  nextAction : NextAction
  deadlineAt : Option Int
  recordedAt : Int
  evidenceRef : String
  evidenceSha256 : Digest
  deriving DecidableEq

structure OperationEvent where
  core : EventCore
  eventId : Digest
  eventIdempotencyKey : Digest
  deriving DecidableEq

/-- The sha256 digests of the two canonical texts. -/
structure Sha256 where
  receipt : ReceiptFile → Digest
  event : EventCore → Digest

def ReceiptOperation.text : ReceiptOperation → String
  | .freeze => "freeze"
  | .operationAdmit => "operation_admit"
  | .build => "build"
  | .verify => "verify"
  | .publish => "publish"
  | .reconcile => "reconcile"
  | .checkpointImport => "checkpoint_import"

def Track.text : Track → String
  | .standard => "standard"
  | .webui => "webui"
  | .full => "full"

/-- The name under which a receipt is written; the digest goes without its `sha256:`. -/
def receiptFileName (sha256 : Sha256) (file : ReceiptFile) : String :=
  file.receipt.operation.text ++ "-" ++ (file.receipt.track.map Track.text).getD "bundle" ++ "-" ++
    String.ofList ((characters (sha256.receipt file).val).drop 7) ++ ".json"

def recordReceiptFile (sha256 : Sha256) (directory : List ReceiptFile) (file : ReceiptFile) :
    Checked (List ReceiptFile) :=
  match directory.find? fun existing =>
      receiptFileName sha256 existing = receiptFileName sha256 file with
  | none => .ok (directory ++ [file])
  | some existing => do
    ensure (existing = file) "Release Bundle immutable target already contains different bytes."
    return directory

/-- The times in the order of their texts, then the digests. -/
def receiptOrder (sha256 : Sha256) (file : ReceiptFile) : Int ×ₗ Digest :=
  toLex (file.recordedAt, sha256.receipt file)

def listReleaseBundleOperationReceipts (sha256 : Sha256) (directory : List ReceiptFile) :
    List ReceiptFile :=
  listing (receiptOrder sha256) directory

/-! ## Events -/

def nextActionForReceipt (receipt : OperationReceipt) : NextAction :=
  match receipt.status with
  | .reconcileOnly => .reconcile
  | .uploadRequired => .publish
  | .lateObservation => .consumerReadback
  | _ =>
    match receipt.operation with
    | .freeze => .waitForDistinctOperation
    | .operationAdmit => .build
    | .build => .verify
    | .verify => .publish
    | .publish => .consumerReadback
    | .checkpointImport => .consumerReadback
    | .reconcile => .none

/-- `operation_control?.operation_kind`, or else the kind of the release operation. -/
def eventOperationKind (receipt : OperationReceipt) : Option CanonicalOperation :=
  (receipt.operationControl.map OperationControl.operationKind).or
    (receipt.releaseOperation.map canonicalReleaseBundleOperation)

def eventFromReceipt (sha256 : Sha256) (file : ReceiptFile) : OperationEvent :=
  let receipt := file.receipt
  let core : EventCore :=
    { bundleDigest := file.bundleDigest
      operationId := receipt.operationControl.map OperationControl.operationId
      operationKind := eventOperationKind receipt
      operation := receipt.operation
      track := receipt.track
      checkpointStage := checkpointStageForReceipt receipt
      status := receipt.status
      nextAction := nextActionForReceipt receipt
      deadlineAt := receipt.operationControl.map OperationControl.operationDeadlineAt
      recordedAt := file.recordedAt
      evidenceRef := "receipts/" ++ receiptFileName sha256 file
      evidenceSha256 := sha256.receipt file }
  let eventId := sha256.event core
  { core := core
    eventId := eventId
    eventIdempotencyKey := eventId }

structure ReleaseBundleEvents where
  consumerCursor : Option Digest
  events : List OperationEvent
  ackBoundary : Option Digest
  eventCount : Nat

/-- Where a call starts to read. -/
def eventStart (events : List OperationEvent) : Option Digest → Checked Nat
  | none => .ok 0
  | some afterEventId =>
    match events.findIdx? fun event => event.eventId = afterEventId with
    | none => fail "Release Bundle event cursor does not belong to this immutable Bundle."
    | some cursorIndex => .ok (cursorIndex + 1)

/-- The events of a bundle that is stored, as every bundle with a receipt is. -/
def readReleaseBundleEvents (sha256 : Sha256) (directory : List ReceiptFile)
    (afterEventId : Option Digest) : Checked ReleaseBundleEvents := do
  let allEvents :=
    (listReleaseBundleOperationReceipts sha256 directory).map (eventFromReceipt sha256)
  let start ← eventStart allEvents afterEventId
  let events := allEvents.drop start
  return {
    consumerCursor := afterEventId
    events := events
    ackBoundary := (events.getLast?.map OperationEvent.eventId).or afterEventId
    eventCount := events.length }

/-! ## The consumer -/

/-- The files and the consumer: the files there were at its last call, the boundary that
the call gave back, and every event it has been given. -/
structure Feed where
  directory : List ReceiptFile
  listed : List ReceiptFile
  boundary : Option Digest
  delivered : List OperationEvent

inductive FeedStep where
  | record (file : ReceiptFile)
  | read

def Feed.empty : Feed := ⟨[], [], none, []⟩

/-- A receipt is recorded, or the consumer calls; what throws leaves things as they are. -/
def Feed.step (sha256 : Sha256) (feed : Feed) : FeedStep → Feed
  | .record file =>
    match recordReceiptFile sha256 feed.directory file with
    | .ok directory => { feed with directory := directory }
    | .error _ => feed
  | .read =>
    match readReleaseBundleEvents sha256 feed.directory feed.boundary with
    | .ok result =>
      { feed with
        listed := feed.directory
        boundary := result.ackBoundary
        delivered := feed.delivered ++ result.events }
    | .error _ => { feed with listed := feed.directory }

def Feed.run (sha256 : Sha256) (feed : Feed) (steps : List FeedStep) : Feed :=
  steps.foldl (Feed.step sha256) feed

/-- Every receipt recorded before the last call was delivered, and only once. -/
def DeliveredOnce (sha256 : Sha256) (feed : Feed) : Prop :=
  ∀ file ∈ feed.listed, feed.delivered.count (eventFromReceipt sha256 file) = 1

instance (sha256 : Sha256) (feed : Feed) : Decidable (DeliveredOnce sha256 feed) :=
  inferInstanceAs (Decidable (∀ file ∈ feed.listed,
    feed.delivered.count (eventFromReceipt sha256 file) = 1))

/-- What was recorded since the last call sorts after all that the call had listed. -/
def InOrder (sha256 : Sha256) (feed : Feed) : Prop :=
  ∀ file ∈ feed.directory, file ∉ feed.listed →
    ∀ earlier ∈ feed.listed, receiptOrder sha256 earlier < receiptOrder sha256 file

/-- Every call of the consumer finds the receipts in order. -/
def CallsInOrder (sha256 : Sha256) : Feed → List FeedStep → Prop
  | _, [] => True
  | feed, .record file :: rest => CallsInOrder sha256 (feed.step sha256 (.record file)) rest
  | feed, .read :: rest =>
    InOrder sha256 feed ∧ CallsInOrder sha256 (feed.step sha256 .read) rest

instance (sha256 : Sha256) (feed : Feed) : Decidable (InOrder sha256 feed) :=
  inferInstanceAs (Decidable (∀ file ∈ feed.directory, file ∉ feed.listed →
    ∀ earlier ∈ feed.listed, receiptOrder sha256 earlier < receiptOrder sha256 file))

instance decidableCallsInOrder (sha256 : Sha256) :
    (feed : Feed) → (steps : List FeedStep) → Decidable (CallsInOrder sha256 feed steps)
  | _, [] => .isTrue trivial
  | feed, .record file :: rest =>
    decidableCallsInOrder sha256 (feed.step sha256 (.record file)) rest
  | feed, .read :: rest =>
    haveI := decidableCallsInOrder sha256 (feed.step sha256 .read) rest
    inferInstanceAs (Decidable (InOrder sha256 feed ∧
      CallsInOrder sha256 (feed.step sha256 .read) rest))

def recordedFiles : List FeedStep → List ReceiptFile
  | [] => []
  | .record file :: rest => file :: recordedFiles rest
  | .read :: rest => recordedFiles rest

/-- No two of the files have one digest, and no two of their events. -/
structure CollisionFree (sha256 : Sha256) (files : List ReceiptFile) : Prop where
  receipt : ∀ left ∈ files, ∀ right ∈ files,
    sha256.receipt left = sha256.receipt right → left = right
  event : ∀ left ∈ files, ∀ right ∈ files,
    (eventFromReceipt sha256 left).eventId = (eventFromReceipt sha256 right).eventId → left = right

/-! ## What a call gives -/

section

variable {sha256 : Sha256} {files : List ReceiptFile}

/-- What holds of the feed after any steps, with the files whose events were given. -/
structure Consumed (sha256 : Sha256) (files : List ReceiptFile) (feed : Feed)
    (given : List ReceiptFile) : Prop where
  once : feed.directory.Nodup
  known : ∀ file ∈ feed.directory, file ∈ files
  listedOnce : feed.listed.Nodup
  listed : ∀ file ∈ feed.listed, file ∈ feed.directory
  boundary : feed.boundary = (listReleaseBundleOperationReceipts sha256 feed.listed).getLast?.map
    fun file => (eventFromReceipt sha256 file).eventId
  delivered : feed.delivered = given.map (eventFromReceipt sha256)
  givenOnce : given.Nodup
  givenListed : ∀ file ∈ given, file ∈ feed.listed

/-- The files that sort after everything the last call had listed. -/
def followingFiles (sha256 : Sha256) (feed : Feed) : List ReceiptFile :=
  (listReleaseBundleOperationReceipts sha256 feed.directory).filter fun file =>
    ∀ earlier ∈ feed.listed, receiptOrder sha256 earlier < receiptOrder sha256 file

variable {feed : Feed} {given : List ReceiptFile}

theorem CollisionFree.listing_increasing (free : CollisionFree sha256 files)
    {directory : List ReceiptFile} (once : directory.Nodup)
    (known : ∀ file ∈ directory, file ∈ files) :
    (listReleaseBundleOperationReceipts sha256 directory).Pairwise fun left right =>
      receiptOrder sha256 left < receiptOrder sha256 right := by
  apply Lib.listing_increasing once
  intro left leftMember right rightMember same
  simp only [receiptOrder, EmbeddingLike.apply_eq_iff_eq, Prod.mk.injEq] at same
  exact free.receipt left (known left leftMember) right (known right rightMember) same.2

/-- The cursor is found at the place of its file. -/
theorem findIdx_eventFromReceipt (free : CollisionFree sha256 files) {entries : List ReceiptFile}
    (known : ∀ file ∈ entries, file ∈ files) {cursor : ReceiptFile} (member : cursor ∈ entries) :
    ∃ index, entries[index]? = some cursor ∧
      ((entries.map (eventFromReceipt sha256)).findIdx? fun event =>
        event.eventId = (eventFromReceipt sha256 cursor).eventId) = some index := by
  have found : ((entries.map (eventFromReceipt sha256)).findIdx? fun event =>
      event.eventId = (eventFromReceipt sha256 cursor).eventId).isSome = true := by
    rw [List.findIdx?_isSome, List.any_eq_true]
    exact ⟨_, List.mem_map_of_mem member, by simp⟩
  obtain ⟨index, found⟩ := Option.isSome_iff_exists.1 found
  refine ⟨index, ?_, found⟩
  obtain ⟨bound, same, -⟩ := List.findIdx?_eq_some_iff_getElem.1 found
  rw [List.length_map] at bound
  rw [List.getElem_map, decide_eq_true_eq] at same
  rw [List.getElem?_eq_getElem bound, free.event _ (known _ (List.getElem_mem bound)) cursor
    (known cursor member) same]

theorem Consumed.read (consumed : Consumed sha256 files feed given)
    (free : CollisionFree sha256 files) :
    ∃ result, readReleaseBundleEvents sha256 feed.directory feed.boundary = .ok result ∧
      result.events = (followingFiles sha256 feed).map (eventFromReceipt sha256) ∧
      result.ackBoundary = (listReleaseBundleOperationReceipts sha256 feed.directory).getLast?.map
        fun file => (eventFromReceipt sha256 file).eventId := by
  have increasing := free.listing_increasing consumed.once consumed.known
  have entriesKnown : ∀ file ∈ listReleaseBundleOperationReceipts sha256 feed.directory,
      file ∈ files := fun file member => consumed.known file (mem_listing.1 member)
  simp only [readReleaseBundleEvents, followingFiles]
  rw [consumed.boundary]
  cases last : (listReleaseBundleOperationReceipts sha256 feed.listed).getLast? with
  | none =>
    -- the first call that finds anything starts at the beginning
    have none : feed.listed = [] := by
      apply List.eq_nil_iff_forall_not_mem.2
      intro file member
      have listed : file ∈ listReleaseBundleOperationReceipts sha256 feed.listed :=
        mem_listing.2 member
      rw [List.getLast?_eq_none_iff.1 last] at listed
      exact List.not_mem_nil listed
    refine ⟨_, rfl, ?_, ?_⟩
    · simp [none]
    · simp [Function.comp_def]
  | some cursor =>
    have cursorListed : cursor ∈ feed.listed := mem_listing.1 (List.mem_of_getLast? last)
    obtain ⟨index, place, found⟩ := findIdx_eventFromReceipt free entriesKnown
      (mem_listing.2 (consumed.listed cursor cursorListed))
    have following : (listReleaseBundleOperationReceipts sha256 feed.directory).drop (index + 1) =
        followingFiles sha256 feed := by
      rw [drop_eq_filter increasing place, followingFiles]
      apply List.filter_congr
      intro file _
      have greatest := free.listing_increasing consumed.listedOnce fun file member =>
        consumed.known file (consumed.listed file member)
      rw [decide_eq_decide]
      constructor
      · intro later earlier member
        exact lt_of_le_of_lt (le_getLast greatest last (mem_listing.2 member)) later
      · intro later
        exact later cursor cursorListed
    refine ⟨_, by simp only [Option.map_some, eventStart, found]; rfl, ?_, ?_⟩
    · rw [← List.map_drop, following, followingFiles]
    · rw [← List.map_drop, List.getLast?_map, List.getLast?_drop]
      obtain ⟨bound, -⟩ := List.getElem?_eq_some_iff.1 place
      split
      case isTrue short =>
        have ends : index = (listReleaseBundleOperationReceipts sha256 feed.directory).length - 1 := by
          omega
        rw [List.getLast?_eq_getElem?, ← ends, place]
        rfl
      case isFalse long =>
        rw [List.getLast?_eq_getElem?, List.getElem?_eq_getElem (by omega)]
        rfl

/-! ## Runs -/

theorem consumed_empty : Consumed sha256 files .empty [] where
  once := List.nodup_nil
  known := by simp [Feed.empty]
  listedOnce := List.nodup_nil
  listed := by simp [Feed.empty]
  boundary := by simp [Feed.empty, listReleaseBundleOperationReceipts]
  delivered := rfl
  givenOnce := List.nodup_nil
  givenListed := by simp

theorem Consumed.record {file : ReceiptFile} (consumed : Consumed sha256 files feed given)
    (known : file ∈ files) :
    Consumed sha256 files (feed.step sha256 (.record file)) given ∧
      (feed.step sha256 (.record file)).listed = feed.listed := by
  cases found : feed.directory.find? fun existing =>
      receiptFileName sha256 existing = receiptFileName sha256 file with
  | some existing =>
    have kept : feed.step sha256 (.record file) = feed := by
      by_cases same : existing = file
      · simp [Feed.step, recordReceiptFile, found, ensure, same]
      · simp [Feed.step, recordReceiptFile, found, ensure, fail, same]
    rw [kept]
    exact ⟨consumed, rfl⟩
  | none =>
    have fresh : file ∉ feed.directory := by
      intro member
      simpa using List.find?_eq_none.1 found file member
    have added : feed.step sha256 (.record file) =
        { feed with directory := feed.directory ++ [file] } := by
      simp [Feed.step, recordReceiptFile, found]
    rw [added]
    refine ⟨{ consumed with once := ?_, known := ?_, listed := ?_ }, rfl⟩
    · refine List.nodup_append.2 ⟨consumed.once, List.nodup_singleton file, ?_⟩
      intro other member new isNew same
      rw [List.mem_singleton.1 isNew] at same
      exact fresh (same ▸ member)
    · intro other member
      rcases List.mem_append.1 member with before | new
      · exact consumed.known other before
      · obtain rfl : other = file := by simpa using new
        exact known
    · intro other member
      exact List.mem_append_left _ (consumed.listed other member)

/-- After a call everything has been given exactly when that was so before, and the
receipts recorded in between came in order. -/
theorem Consumed.call {feed : Feed} {given : List ReceiptFile}
    (consumed : Consumed sha256 files feed given) (free : CollisionFree sha256 files) :
    ∃ given', Consumed sha256 files (feed.step sha256 .read) given' ∧
      ((∀ file ∈ (feed.step sha256 .read).listed, file ∈ given') ↔
        (∀ file ∈ feed.listed, file ∈ given) ∧ InOrder sha256 feed) := by
  obtain ⟨result, read, events, boundary⟩ := consumed.read free
  have follows : ∀ {file}, file ∈ followingFiles sha256 feed ↔ file ∈ feed.directory ∧
      ∀ earlier ∈ feed.listed, receiptOrder sha256 earlier < receiptOrder sha256 file := by
    intro file
    simp [followingFiles, listReleaseBundleOperationReceipts]
  have new : ∀ {file}, file ∈ followingFiles sha256 feed → file ∉ feed.listed :=
    fun member listed => lt_irrefl _ ((follows.1 member).2 _ listed)
  refine ⟨given ++ followingFiles sha256 feed, ?_, ?_⟩
  · simp only [Feed.step, read]
    refine { consumed with listedOnce := consumed.once, listed := fun _ => id, boundary := boundary
                           delivered := ?_, givenOnce := ?_, givenListed := ?_ }
    · rw [consumed.delivered, events, List.map_append]
    · refine List.nodup_append.2 ⟨consumed.givenOnce, ?_, ?_⟩
      · exact ((listing_perm _).nodup_iff.2 consumed.once).filter _
      · rintro file before _ after rfl
        exact new after (consumed.givenListed file before)
    · intro file member
      rcases List.mem_append.1 member with before | after
      · exact consumed.listed file (consumed.givenListed file before)
      · exact (follows.1 after).1
  · simp only [Feed.step, read, List.mem_append]
    constructor
    · intro all
      constructor
      · intro file listed
        exact (all file (consumed.listed file listed)).resolve_right fun after => new after listed
      · intro file member unlisted
        have after := (all file member).resolve_left
          fun before => unlisted (consumed.givenListed file before)
        exact (follows.1 after).2
    · rintro ⟨given, ordered⟩ file member
      by_cases listed : file ∈ feed.listed
      · exact .inl (given file listed)
      · exact .inr (follows.2 ⟨member, ordered file member listed⟩)

theorem Consumed.deliveredOnce_iff (consumed : Consumed sha256 files feed given)
    (free : CollisionFree sha256 files) :
    DeliveredOnce sha256 feed ↔ ∀ file ∈ feed.listed, file ∈ given := by
  have known : ∀ file ∈ feed.listed, file ∈ files :=
    fun file member => consumed.known file (consumed.listed file member)
  have injective : ∀ left ∈ feed.listed, ∀ right ∈ feed.listed,
      eventFromReceipt sha256 left = eventFromReceipt sha256 right → left = right :=
    fun left leftMember right rightMember same => free.event left (known left leftMember) right
      (known right rightMember) (congrArg OperationEvent.eventId same)
  apply forall₂_congr
  intro file member
  rw [consumed.delivered]
  constructor
  · intro once
    have there : eventFromReceipt sha256 file ∈ given.map (eventFromReceipt sha256) := by
      apply List.count_pos_iff.1
      omega
    obtain ⟨same, isGiven, event⟩ := List.mem_map.1 there
    rwa [← injective same (consumed.givenListed same isGiven) file member event]
  · intro isGiven
    apply List.count_eq_one_of_mem
    · apply List.Nodup.map_on _ consumed.givenOnce
      intro left leftGiven right rightGiven
      exact injective left (consumed.givenListed left leftGiven) right
        (consumed.givenListed right rightGiven)
    · exact List.mem_map_of_mem isGiven

theorem Consumed.deliveredOnce_run {steps : List FeedStep}
    (consumed : Consumed sha256 files feed given) (free : CollisionFree sha256 files)
    (known : ∀ file ∈ recordedFiles steps, file ∈ files) :
    DeliveredOnce sha256 (feed.run sha256 steps) ↔
      (∀ file ∈ feed.listed, file ∈ given) ∧ CallsInOrder sha256 feed steps := by
  induction steps generalizing feed given with
  | nil => simpa [Feed.run, CallsInOrder] using consumed.deliveredOnce_iff free
  | cons step rest ih =>
    cases step with
    | record file =>
      obtain ⟨recorded, same⟩ := consumed.record (known file (by simp [recordedFiles]))
      have later := ih recorded fun other member => known other (by simp [recordedFiles, member])
      rwa [same] at later
    | read =>
      obtain ⟨given', called, all⟩ := consumed.call free
      have later := ih called known
      rw [all, and_assoc] at later
      exact later

end

namespace Admissions

def control : OperationControl where
  bundleDigest := ⟨"sha256:0000000000000000000000000000000000000000000000000000000000000000", by decide +kernel⟩
  operationId := ⟨"stable-1", by decide +kernel⟩
  operationKind := .standard
  track := .standard
  operationStartedAt := 0
  operationDeadlineAt := 100

/-- The admission of the operation, or its repetition, recorded in a millisecond. -/
def admission (status : ReceiptStatus) (recordedAt : Int) : ReceiptFile where
  receipt :=
    { operation := .operationAdmit
      status := status
      track := some .standard
      releaseOperation := some .standard
      operationControl := some control }
  bundleDigest := control.bundleDigest
  attemptId := some "stable-1"
  recordedAt := recordedAt
  otherDetails :=
    "\x7b\"append_full_independent_deadline\":false," ++
    "\"control_digest\":\"sha256:8865b52f03c70b67f58cd11d91c738d6dd24c2f74b1bacbe3511d55dd71cdc56\"," ++
    "\"deadline_frozen_once\":true,\"deadline_refresh_allowed\":false," ++
    "\"expired_full_operation_replaced\":false,\"previous_control_digest\":null," ++
    "\"previous_operation_id\":null,\"resume_of\":null,\"resume_window_rotated\":false\x7d"

/-- The digests that these receipts and their events have. -/
def sha256 : Sha256 where
  receipt file :=
    if file.receipt.status = .complete then
      ⟨"sha256:8909d1fd5afd152c104aa493e5258bf9158fd1987fb34aae26c6fdb904aeb176", by decide +kernel⟩
    else if file.recordedAt = 2 then
      ⟨"sha256:2d70c21d3c4318d8125d0d84248e935a68715a29a0801a699cc9f8c49b39851d", by decide +kernel⟩
    else ⟨"sha256:c91dc502b5797420e07c76a31dfcbbdad03e59740c6aaa25d73c07042ce39d3b", by decide +kernel⟩
  event core :=
    if core.status = .complete then
      ⟨"sha256:6fca52a4f908a7bc90fda1d807d665f801d8349554c9f5d8bb52d2b1d0f8cd1d", by decide +kernel⟩
    else if core.recordedAt = 2 then
      ⟨"sha256:642b2b67176348436dd9ecd985d60b5426dbc89b1c820c9d7312fdd947d461e5", by decide +kernel⟩
    else ⟨"sha256:fb3fc40262fad51eb1349d8b7319ff5d7ca83a37d71a23315c1c57daaca174e3", by decide +kernel⟩

/-- The operation is admitted, read, admitted again and read again. -/
def steps (again : Int) : List FeedStep :=
  [.record (admission .complete 2), .read, .record (admission .idempotent again), .read]

theorem collisionFree_same : CollisionFree sha256 (recordedFiles (steps 2)) :=
  ⟨by decide +kernel, by decide +kernel⟩

theorem collisionFree_later : CollisionFree sha256 (recordedFiles (steps 3)) :=
  ⟨by decide +kernel, by decide +kernel⟩

theorem inOrder_later : CallsInOrder sha256 .empty (steps 3) := by
  decide +kernel

end Admissions

end OnePersonLab.Release
