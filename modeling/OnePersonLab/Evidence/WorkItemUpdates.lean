import Mathlib.Logic.Function.Basic
import OnePersonLab.Evidence.WorkItemControl
import OnePersonLab.Lib.Outcome

/-!
# Concurrent updates of the work item control ledger

Several processes call on one file. Each call reads the file in one step and replaces it in
another, and nothing holds the file in between. Updates are kept as long as every call finds
the file as it read it.
-/

namespace OnePersonLab.Evidence

open Lib

/-! ## Calls on one file -/

/-- A call between its read and its replacement of the file. -/
structure Pending where
  request : ControlRequest
  seen : WorkItemControlLedger
  prepared : Prepared

/-- The file, the calls under way and, newest first, the calls that have reported `applied`. -/
structure LedgerWorld where
  file : LedgerFile
  pending : Nat → Option Pending
  applied : List Pending

inductive LedgerStep where
  | read (call : Nat) (request : ControlRequest) (updatedAt uuid : String)
  | replace (call : Nat)

def LedgerWorld.start (file : LedgerFile) : LedgerWorld := ⟨file, fun _ => none, []⟩

/-- One step of one call. A dry run and a call that throws end with their read. -/
def LedgerWorld.step (world : LedgerWorld) : LedgerStep → LedgerWorld
  | .read call request updatedAt uuid =>
    match prepareControl world.file request updatedAt uuid with
    | .error _ => world
    | .ok (seen, prepared) =>
      if request.dryRun then world
      else { world with
             pending := Function.update world.pending call (some ⟨request, seen, prepared⟩) }
  | .replace call =>
    match world.pending call with
    | none => world
    | some ended =>
      { file := .v2 ended.prepared.nextLedger
        pending := Function.update world.pending call none
        applied := ended :: world.applied }

def LedgerWorld.run (world : LedgerWorld) (steps : List LedgerStep) : LedgerWorld :=
  steps.foldl LedgerWorld.step world

/-- A call that replaces the file finds there what it had read. -/
def FindsWhatItRead (world : LedgerWorld) : LedgerStep → Prop
  | .read .. => True
  | .replace call => ∀ ended ∈ world.pending call,
      readWorkItemControlLedger world.file = .ok ended.seen

instance (world : LedgerWorld) (step : LedgerStep) : Decidable (FindsWhatItRead world step) :=
  match step with
  | .read .. => .isTrue trivial
  | .replace call => inferInstanceAs (Decidable (∀ ended ∈ world.pending call,
      readWorkItemControlLedger world.file = .ok ended.seen))

/-- The condition holds at every step. -/
def EachFindsWhatItRead : LedgerWorld → List LedgerStep → Prop
  | _, [] => True
  | world, step :: rest => FindsWhatItRead world step ∧ EachFindsWhatItRead (world.step step) rest

instance decidableEachFindsWhatItRead :
    (world : LedgerWorld) → (steps : List LedgerStep) → Decidable (EachFindsWhatItRead world steps)
  | _, [] => .isTrue trivial
  | world, step :: rest =>
    haveI := decidableEachFindsWhatItRead (world.step step) rest
    inferInstanceAs (Decidable (FindsWhatItRead world step ∧
      EachFindsWhatItRead (world.step step) rest))

/-! ## What is asked of the calls -/

/-- Applied transitions are in the ledger, generations increase, and an expected
generation is met by one applied call at most. -/
structure UpdatesKept (world : LedgerWorld) : Prop where
  kept : ∀ call ∈ world.applied, ∃ ledger, readWorkItemControlLedger world.file = .ok ledger ∧
    call.prepared.transition ∈ ledger.transitions
  increasing : ∀ ledger, readWorkItemControlLedger world.file = .ok ledger →
    ledger.transitions.Pairwise fun newer older => older.entry.generation < newer.entry.generation
  single : world.applied.Pairwise fun later earlier =>
    ∀ expected, later.request.expectedGeneration = some expected →
      earlier.request.expectedGeneration ≠ some expected

/-- The order that the calls themselves leave behind. -/
structure LedgerInOrder (ledger : WorkItemControlLedger) : Prop where
  nonnegative : 0 ≤ ledger.generation
  bounded : ∀ transition ∈ ledger.transitions, transition.entry.generation ≤ ledger.generation
  increasing : ledger.transitions.Pairwise fun newer older =>
    older.entry.generation < newer.entry.generation

theorem ledgerInOrder_of_absent {ledger : WorkItemControlLedger}
    (read : readWorkItemControlLedger .absent = .ok ledger) : LedgerInOrder ledger := by
  simp only [readWorkItemControlLedger, Except.ok.injEq] at read
  subst read
  constructor
  · simp [emptyLedger]
  · simp [emptyLedger]
  · simp [emptyLedger]

/-! ## What a call prepares -/

theorem normalEntry_migrateLegacyEntry {entry : LegacyEntry} (whole : 0 ≤ entry.generation) :
    normalEntry (migrateLegacyEntry entry) = true := by
  unfold migrateLegacyEntry
  cases entry.lifecycleState with
  | user state => simpa [normalEntry] using whole
  | archived => simpa [normalEntry] using whole

/-- Whatever the reader accepts has normal entries only. -/
theorem normal_of_read {file : LedgerFile} {ledger : WorkItemControlLedger}
    (read : readWorkItemControlLedger file = .ok ledger) :
    (∀ entry ∈ ledger.items, normalEntry entry = true) ∧
      ∀ transition ∈ ledger.transitions, normalEntry transition.entry = true := by
  cases file with
  | absent =>
    obtain rfl := Except.ok.inj read
    simp [emptyLedger]
  | invalid message => simp [readWorkItemControlLedger] at read
  | v2 stored =>
    simp only [readWorkItemControlLedger, Bool.and_eq_true, List.all_eq_true] at read
    split at read
    case isTrue normal =>
      obtain rfl := Except.ok.inj read
      exact normal
    case isFalse => simp at read
  | v1 stored =>
    simp only [readWorkItemControlLedger, Bool.and_eq_true, List.all_eq_true,
      decide_eq_true_eq] at read
    split at read
    case isTrue whole =>
      obtain rfl := Except.ok.inj read
      constructor
      · intro entry member
        obtain ⟨old, here, rfl⟩ := List.mem_map.1 member
        exact normalEntry_migrateLegacyEntry (whole.1 old here)
      · intro transition member
        obtain ⟨old, here, rfl⟩ := List.mem_map.1 member
        exact normalEntry_migrateLegacyEntry (whole.2 old here)
    case isFalse => simp at read

theorem normalEntry_set {base : WorkItemControlEntry} {reason : Option String}
    {source updatedAt : String} {generation : Int} (state : ControlState)
    (normal : normalEntry base = true) (whole : 0 ≤ generation) :
    normalEntry (base.set reason source generation updatedAt state) = true := by
  simp only [normalEntry, Bool.and_eq_true, decide_eq_true_eq] at normal
  cases state with
  | lifecycle state => simpa [WorkItemControlEntry.set, normalEntry, whole] using normal.2
  | visibility state =>
    have both := And.intro normal.1.1.2 normal.1.2
    simpa [WorkItemControlEntry.set, normalEntry, whole] using both

/-- What a call works out from the ledger that it read. -/
structure Continues (request : ControlRequest) (seen : WorkItemControlLedger)
    (prepared : Prepared) : Prop where
  expected : ∀ expected, request.expectedGeneration = some expected → expected = seen.generation
  transitions : prepared.nextLedger.transitions = prepared.transition :: seen.transitions
  generation : prepared.nextLedger.generation = seen.generation + 1
  transition : prepared.transition.entry.generation = seen.generation + 1
  readable : 0 ≤ seen.generation →
    readWorkItemControlLedger (.v2 prepared.nextLedger) = .ok prepared.nextLedger

theorem generation_set {base : WorkItemControlEntry} {reason : Option String}
    {source updatedAt : String} {generation : Int} (state : ControlState) :
    (base.set reason source generation updatedAt state).generation = generation := by
  cases state <;> rfl

theorem continues_of_prepare {file : LedgerFile} {request : ControlRequest}
    {updatedAt uuid : String} {seen : WorkItemControlLedger} {prepared : Prepared}
    (ran : prepareControl file request updatedAt uuid = .ok (seen, prepared)) :
    readWorkItemControlLedger file = .ok seen ∧ Continues request seen prepared := by
  simp only [prepareControl, setWorkItemControlAxis, ok_of_bind, ok_of_pure, Prod.mk.injEq] at ran
  obtain ⟨identity, -, state, -, ledger, read, _, ⟨_, checked, rfl⟩, rfl, rfl⟩ := ran
  refine ⟨read, ?_, rfl, rfl, generation_set state, ?_⟩
  · intro expected asked
    simpa [assertExpectedGeneration, asked] using checked
  · intro nonnegative
    obtain ⟨items, transitions⟩ := normal_of_read read
    generalize held : (ledger.items.find? (·.controlKey = workItemControlKey identity)).getD
      (newControlEntry identity (workItemControlKey identity) (ledger.generation + 1)
        updatedAt) = base
    have normal : normalEntry base = true := by
      rw [← held]
      cases found : ledger.items.find? (·.controlKey = workItemControlKey identity) with
      | some previous => exact items previous (List.mem_of_find?_eq_some found)
      | none =>
        have whole : 0 ≤ ledger.generation + 1 := by omega
        simp only [Option.getD_none, normalEntry, Bool.and_eq_true, decide_eq_true_eq]
        exact ⟨⟨⟨whole, rfl⟩, rfl⟩, rfl⟩
    have entry (reason : Option String) (source : String) :
        normalEntry (base.set reason source (ledger.generation + 1) updatedAt state) = true :=
      normalEntry_set state normal (by omega)
    simp only [readWorkItemControlLedger]
    rw [if_pos]
    simp only [List.all_cons, Bool.and_eq_true, List.all_eq_true]
    refine ⟨⟨entry _ _, ?_⟩, entry _ _, transitions⟩
    intro other member
    exact items other (List.mem_of_mem_filter member)

/-! ## Runs -/

/-- What holds between the steps when every call has found what it read. -/
structure Consistent (world : LedgerWorld) : Prop where
  inOrder : ∀ ledger, readWorkItemControlLedger world.file = .ok ledger → LedgerInOrder ledger
  pending : ∀ call ended, world.pending call = some ended →
    Continues ended.request ended.seen ended.prepared ∧ LedgerInOrder ended.seen
  applied : ∀ call ∈ world.applied, Continues call.request call.seen call.prepared ∧
    ∃ ledger, readWorkItemControlLedger world.file = .ok ledger ∧
      call.prepared.transition ∈ ledger.transitions
  increasing : world.applied.Pairwise fun later earlier =>
    earlier.seen.generation < later.seen.generation

section

variable {world : LedgerWorld}

theorem Continues.inOrder {request : ControlRequest} {seen : WorkItemControlLedger}
    {prepared : Prepared} (continues : Continues request seen prepared)
    (ordered : LedgerInOrder seen) : LedgerInOrder prepared.nextLedger where
  nonnegative := by
    have := ordered.nonnegative
    rw [continues.generation]
    omega
  bounded := by
    intro transition member
    rw [continues.transitions] at member
    rw [continues.generation]
    rcases List.mem_cons.1 member with rfl | old
    · exact continues.transition.le
    · have := ordered.bounded transition old
      omega
  increasing := by
    rw [continues.transitions]
    refine List.pairwise_cons.2 ⟨?_, ordered.increasing⟩
    intro transition old
    have := ordered.bounded transition old
    rw [continues.transition]
    omega

theorem consistent_start {file : LedgerFile}
    (inOrder : ∀ ledger, readWorkItemControlLedger file = .ok ledger → LedgerInOrder ledger) :
    Consistent (.start file) where
  inOrder := inOrder
  pending := by simp [LedgerWorld.start]
  applied := by simp [LedgerWorld.start]
  increasing := List.Pairwise.nil

theorem Consistent.read (consistent : Consistent world) (call : Nat) (request : ControlRequest)
    (updatedAt uuid : String) : Consistent (world.step (.read call request updatedAt uuid)) := by
  simp only [LedgerWorld.step]
  cases ran : prepareControl world.file request updatedAt uuid with
  | error failure => exact consistent
  | ok found =>
    obtain ⟨seen, prepared⟩ := found
    obtain ⟨read, continues⟩ := continues_of_prepare ran
    by_cases dry : request.dryRun = true
    · simpa [dry] using consistent
    · simp only [dry, Bool.false_eq_true, if_false]
      refine { consistent with pending := ?_ }
      intro other ended held
      dsimp only at held
      by_cases same : other = call
      · subst same
        rw [Function.update_self, Option.some.injEq] at held
        subst held
        exact ⟨continues, consistent.inOrder seen read⟩
      · rw [Function.update_of_ne same] at held
        exact consistent.pending other ended held

/-- A call that replaces the file as it read it keeps what is there and adds its own. -/
theorem Consistent.replace (consistent : Consistent world) {call : Nat}
    (finds : FindsWhatItRead world (.replace call)) : Consistent (world.step (.replace call)) := by
  simp only [LedgerWorld.step]
  cases held : world.pending call with
  | none => exact consistent
  | some ended =>
    obtain ⟨continues, ordered⟩ := consistent.pending call ended held
    have here := finds ended held
    have written := continues.readable ordered.nonnegative
    refine ⟨?_, ?_, ?_, ?_⟩
    · intro ledger read
      obtain rfl := Except.ok.inj (written.symm.trans read)
      exact continues.inOrder ordered
    · intro other pending stays
      dsimp only at stays
      by_cases same : other = call
      · subst same
        simp at stays
      · rw [Function.update_of_ne same] at stays
        exact consistent.pending other pending stays
    · intro applied member
      rcases List.mem_cons.1 member with rfl | before
      · exact ⟨continues, _, written, by simp [continues.transitions]⟩
      · obtain ⟨earlier, ledger, read, kept⟩ := consistent.applied applied before
        obtain rfl := Except.ok.inj (here.symm.trans read)
        exact ⟨earlier, _, written, by simp [continues.transitions, kept]⟩
    · refine List.pairwise_cons.2 ⟨?_, consistent.increasing⟩
      intro earlier before
      obtain ⟨continued, ledger, read, kept⟩ := consistent.applied earlier before
      obtain rfl := Except.ok.inj (here.symm.trans read)
      have := ordered.bounded _ kept
      rw [continued.transition] at this
      omega

theorem Consistent.run {steps : List LedgerStep} (consistent : Consistent world)
    (each : EachFindsWhatItRead world steps) : Consistent (world.run steps) := by
  induction steps generalizing world with
  | nil => exact consistent
  | cons step rest ih =>
    obtain ⟨finds, others⟩ := each
    cases step with
    | read call request updatedAt uuid =>
      exact ih (consistent.read call request updatedAt uuid) others
    | replace call => exact ih (consistent.replace finds) others

theorem Consistent.updatesKept (consistent : Consistent world) :
    UpdatesKept world where
  kept := fun call member => (consistent.applied call member).2
  increasing := fun ledger read => (consistent.inOrder ledger read).increasing
  single := by
    apply consistent.increasing.imp_of_mem
    intro later earlier laterMember earlierMember increases expected asked again
    have first := (consistent.applied later laterMember).1.expected expected asked
    have second := (consistent.applied earlier earlierMember).1.expected expected again
    omega

end

/-! ## Two calls on a new ledger -/

namespace TwoCalls

/-- The user pauses the item, or archives it, on a ledger that is expected to be new. -/
def request (state : RequestedState) (expectedGeneration : Int) : ControlRequest where
  identity := ⟨"agent", "project", "item"⟩
  state := state
  reason := none
  source := none
  expectedGeneration := some expectedGeneration
  dryRun := false

def pause : LedgerStep :=
  .read 0 (request (.lifecycle "paused") 0) "2026-01-01T00:00:00.000Z" "u0"

def archive (expectedGeneration : Int) : LedgerStep :=
  .read 1 (request (.visibility "archived") expectedGeneration) "2026-01-01T00:00:00.001Z" "u1"

/-- One call after the other. -/
def inTurn : List LedgerStep := [pause, .replace 0, archive 1, .replace 1]

/-- Both calls read before either of them writes. -/
def racing : List LedgerStep := [pause, archive 0, .replace 0, .replace 1]

theorem inTurn_finds : EachFindsWhatItRead (.start .absent) inTurn := by
  decide +kernel

/-- Whether the transition of a call is in the ledger. -/
def recorded (world : LedgerWorld) (call : Pending) : Bool :=
  match readWorkItemControlLedger world.file with
  | .ok ledger => call.prepared.transition ∈ ledger.transitions
  | .error _ => false

theorem racing_lost :
    ∃ call ∈ ((LedgerWorld.start .absent).run racing).applied,
      recorded ((LedgerWorld.start .absent).run racing) call = false := by
  decide +kernel

end TwoCalls

end OnePersonLab.Evidence
