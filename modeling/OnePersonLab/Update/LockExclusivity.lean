import OnePersonLab.Update.ManagedUpdateLock

/-!
# One handle at a time

A file that is judged may be replaced before it is moved aside. As long as a call that moves
a file aside moves one that may be reclaimed at that moment, a handle of a running process
has the lock to itself, and its release removes no lock of another call.
-/

namespace OnePersonLab.Update

open Lib

/-! ## What is claimed -/

def staleAfter : Nat := staleAfterSeconds * 1000

/-- A running process has a handle that has not been released. -/
def Holds (world : World) (id : CallId) : Prop :=
  ∃ call file, world.calls[id]? = some call ∧ isProcessAlive world call.process = true ∧
    call.point.held = some file

structure Exclusive (world : World) : Prop where
  alone : ∀ {id other}, Holds world id → Holds world other → id = other
  removes_own : ∀ {id call file again present lock}, world.calls[id]? = some call →
    isProcessAlive world call.process = true → call.point = .removingLock file again →
    world.lock = some present → world.files[present]? = some lock → lock.creator = id

/-- Every running holder releases its handle in time. -/
def ReleasedInTime (world : World) : Event → Prop
  | .pass duration => ∀ call ∈ world.calls, isProcessAlive world call.process = true →
      ∀ file ∈ call.point.held, ∀ lock ∈ world.files[file]?,
        world.now + duration - lock.modifiedAt ≤ staleAfter
  | _ => True

def Point.isRenamingLock : Point → Bool
  | .renamingLock _ => true
  | _ => false

/-- The file that a call moves aside may be reclaimed at that moment, and no running call has
made it without having written to it yet. -/
def MovesReclaimable (world : World) : Event → Prop
  | .advance id false => ∀ call ∈ world.calls[id]?, call.point.isRenamingLock = true →
      ∀ file ∈ world.lock, isReclaimableLockPayload world (readLockFile world file) file = true ∧
        ∀ other ∈ world.calls, isProcessAlive world other.process = true →
          other.point ≠ .writing file
  | _ => True

instance (world : World) (event : Event) : Decidable (ReleasedInTime world event) := by
  unfold ReleasedInTime
  split <;> infer_instance

instance (world : World) (event : Event) : Decidable (MovesReclaimable world event) := by
  unfold MovesReclaimable
  split <;> infer_instance

/-! ## The invariant -/

/-- The lock is the file of a call; once it is written it is not stale. -/
structure Owns (world : World) (id : CallId) (call : Call) (file : FileId) : Prop where
  lock : world.lock = some file
  made : ∃ lock, world.files[file]? = some lock ∧ lock.creator = id ∧
    (call.point.held = some file →
      lock.payload = some call.receipt ∧ world.now - lock.modifiedAt ≤ staleAfter)

/-- The files that running calls go by are theirs. -/
def Orderly (world : World) : Prop :=
  ∀ id call file, world.calls[id]? = some call → isProcessAlive world call.process = true →
    call.point.own = some file → Owns world id call file

/-- No running call goes by a file. -/
def Unowned (world : World) : Prop :=
  ∀ (id : CallId) call, world.calls[id]? = some call →
    isProcessAlive world call.process = true → call.point.own = none

/-- No other running call goes by a file. -/
def OthersUnowned (world : World) (id : CallId) : Prop :=
  ∀ other call, other ≠ id → world.calls[other]? = some call →
    isProcessAlive world call.process = true → call.point.own = none

theorem Point.own_of_held {point : Point} {file : FileId} (held : point.held = some file) :
    point.own = some file := by
  cases point <;> first | exact held | cases held

theorem Point.writing_of_own {point : Point} {file : FileId} (goes_by : point.own = some file)
    (unheld : point.held = none) : point = .writing file := by
  cases point with
  | writing made => exact congrArg Point.writing (Option.some.inj goes_by)
  | _ => exact absurd (unheld.symm.trans goes_by) nofun

section

variable {world : World} {id other : CallId} {call called : Call} {point : Point}
  {file : FileId}

theorem proceed_calls (found : world.calls[id]? = some call) :
    (world.proceed id call point).calls[other]? = some called ↔
      other = id ∧ called = { call with point } ∨
        other ≠ id ∧ world.calls[other]? = some called := by
  have inside : id < world.calls.length := (List.getElem?_eq_some_iff.1 found).1
  show (world.calls.set id _)[other]? = some called ↔ _
  rw [List.getElem?_set]
  by_cases same : id = other
  · rw [if_pos same, if_pos (same ▸ inside)]
    subst same
    simp [eq_comm]
  · rw [if_neg same]
    simp [Ne.symm same]

/-- A call goes on; what the others go by stays. -/
theorem Orderly.proceed (orderly : Orderly world) (found : world.calls[id]? = some call)
    (own : ∀ file, point.own = some file → Owns world id { call with point } file) :
    Orderly (world.proceed id call point) := by
  intro other called file found' alive goes_by
  rcases (proceed_calls found).1 found' with ⟨rfl, rfl⟩ | ⟨different, found'⟩
  · obtain ⟨lock, made⟩ := own file goes_by
    exact ⟨lock, made⟩
  · obtain ⟨lock, made⟩ := orderly other called file found' alive goes_by
    exact ⟨lock, made⟩

theorem Orderly.proceed_none (orderly : Orderly world) (found : world.calls[id]? = some call)
    (nothing : point.own = none) : Orderly (world.proceed id call point) := by
  apply orderly.proceed found
  intro file goes_by
  rw [nothing] at goes_by
  cases goes_by

/-- When no other call goes by a file, the call may do with the lock what it does. -/
theorem OthersUnowned.proceed (unowned : OthersUnowned world id)
    (found : world.calls[id]? = some call)
    (own : ∀ file, point.own = some file → Owns world id { call with point } file) :
    Orderly (world.proceed id call point) := by
  intro other called file found' alive goes_by
  rcases (proceed_calls found).1 found' with ⟨rfl, rfl⟩ | ⟨different, found'⟩
  · obtain ⟨lock, made⟩ := own file goes_by
    exact ⟨lock, made⟩
  · rw [unowned other called different found' alive] at goes_by
    cases goes_by

/-- A file at the path belongs to one running call at most. -/
theorem Orderly.othersUnowned (orderly : Orderly world) (owns : Owns world id call file) :
    OthersUnowned world id := by
  intro other called different found alive
  cases goes_by : called.point.own with
  | none => rfl
  | some file' =>
    obtain ⟨lock, there, mine, -⟩ := owns.made
    obtain ⟨leads, lock', there', theirs, -⟩ := orderly other called file' found alive goes_by
    rw [owns.lock] at leads
    obtain rfl := Option.some.inj leads
    rw [there] at there'
    obtain rfl := Option.some.inj there'
    exact absurd (theirs.symm.trans mine) different

theorem Orderly.unowned_of_free (orderly : Orderly world) (free : world.lock = none) :
    Unowned world := by
  intro id call found alive
  cases goes_by : call.point.own with
  | none => rfl
  | some file =>
    have leads := (orderly id call file found alive goes_by).lock
    rw [free] at leads
    cases leads

theorem Unowned.others (unowned : Unowned world) : OthersUnowned world id :=
  fun other call _ found alive => unowned other call found alive

/-- A running call with a handle has a file that may not be reclaimed. -/
theorem Owns.not_reclaimable (owns : Owns world id call file)
    (alive : isProcessAlive world call.process = true) (held : call.point.held = some file) :
    isReclaimableLockPayload world (readLockFile world file) file = false := by
  obtain ⟨lock, there, -, written⟩ := owns.made
  obtain ⟨payload, fresh⟩ := written held
  have read : readLockFile world file = some call.receipt := by
    unfold readLockFile
    rw [there]
    exact payload
  have young : isStaleLock world file = false := by
    unfold isStaleLock
    rw [there]
    exact decide_eq_false (Nat.not_lt.2 fresh)
  unfold isReclaimableLockPayload
  rw [read, young]
  simp [Call.receipt, alive]

/-- A file that may be moved aside is the file of no running call. -/
theorem Orderly.unowned_of_reclaimable (orderly : Orderly world) (leads : world.lock = some file)
    (reclaimable : isReclaimableLockPayload world (readLockFile world file) file = true)
    (written : ∀ other ∈ world.calls, isProcessAlive world other.process = true →
      other.point ≠ .writing file) : Unowned world := by
  intro id call found alive
  cases goes_by : call.point.own with
  | none => rfl
  | some file' =>
    have owns := orderly id call file' found alive goes_by
    have same : file = file' := Option.some.inj (leads.symm.trans owns.lock)
    subst same
    cases held : call.point.held with
    | some file' =>
      have same := Point.own_of_held held
      rw [goes_by] at same
      obtain rfl := Option.some.inj same
      rw [owns.not_reclaimable alive held] at reclaimable
      cases reclaimable
    | none =>
      exact absurd (Point.writing_of_own goes_by held)
        (written call (List.mem_of_getElem? found) alive)

/-! ## The steps -/

theorem judged_cases {payload : Option Receipt} {reclaims stats : Point}
    (fact : Point → Prop) (reclaiming : fact reclaims) (stating : fact stats) :
    fact (judged world payload reclaims stats) := by
  unfold judged
  split
  · exact reclaiming
  · exact stating

theorem nextAttempt_own (attempt : Nat) : (nextAttempt attempt).own = none := by
  unfold nextAttempt
  split <;> rfl

theorem Orderly.creating (orderly : Orderly world) (found : world.calls[id]? = some call)
    (free : world.lock = none) :
    Orderly (((world.make ⟨none, world.now, id⟩).lead (some world.files.length)).proceed id call
      (.writing world.files.length)) := by
  have unowned : OthersUnowned
      ((world.make ⟨none, world.now, id⟩).lead (some world.files.length)) id :=
    (orderly.unowned_of_free free).others
  apply unowned.proceed found
  intro file goes_by
  obtain rfl := Option.some.inj goes_by
  refine ⟨rfl, ⟨none, world.now, id⟩, ?_, rfl, nofun⟩
  show (world.files ++ [_])[world.files.length]? = _
  rw [List.getElem?_concat_length]

theorem Orderly.writing (orderly : Orderly world) (found : world.calls[id]? = some call)
    (alive : isProcessAlive world call.process = true) (point : call.point = .writing file) :
    Orderly ((world.write file ⟨some call.receipt, world.now, id⟩).proceed id call
      (.holding file)) := by
  have owns : Owns world id call file := orderly id call file found alive (by rw [point]; rfl)
  have unowned : OthersUnowned (world.write file ⟨some call.receipt, world.now, id⟩) id :=
    orderly.othersUnowned owns
  apply unowned.proceed found
  intro other goes_by
  obtain rfl := Option.some.inj goes_by
  obtain ⟨lock, there, -⟩ := owns.made
  have inside : file < world.files.length := (List.getElem?_eq_some_iff.1 there).1
  refine ⟨owns.lock, ⟨some call.receipt, world.now, id⟩, ?_, rfl, fun _ => ⟨rfl, ?_⟩⟩
  · show (world.files.set file _)[file]? = _
    rw [List.getElem?_set_self inside]
  · show world.now - world.now ≤ staleAfter
    rw [Nat.sub_self]
    exact Nat.zero_le staleAfter

theorem Orderly.renamingLock {attempt : Nat} (orderly : Orderly world)
    (found : world.calls[id]? = some call) (point : call.point = .renamingLock attempt)
    (leads : world.lock = some file)
    (moves : MovesReclaimable world (.advance id false)) :
    Orderly ((world.lead none).proceed id call (.readingGuard attempt file)) := by
  have renamingLock : call.point.isRenamingLock = true := by
    rw [point]
    rfl
  obtain ⟨reclaimable, written⟩ := moves call found renamingLock file leads
  have unowned : OthersUnowned (world.lead none) id :=
    (orderly.unowned_of_reclaimable leads reclaimable written).others
  exact unowned.proceed found nofun

theorem Orderly.linking (orderly : Orderly world) (found : world.calls[id]? = some call) :
    Orderly ((world.lead (world.lock.or (some file))).proceed id call (.droppingGuard file)) := by
  cases leads : world.lock with
  | some present =>
    have same : world.lead (some present) = world := by
      rw [← leads]
      rfl
    show Orderly ((world.lead (some present)).proceed id call _)
    rw [same]
    exact orderly.proceed_none found rfl
  | none =>
    have unowned : OthersUnowned (world.lead (some file)) id :=
      (orderly.unowned_of_free leads).others
    exact unowned.proceed found nofun

/-- The call goes on with its own file. -/
theorem Orderly.keeping (orderly : Orderly world) (found : world.calls[id]? = some call)
    (alive : isProcessAlive world call.process = true) (held : call.point.held = some file)
    (own : point.own = some file) : Orderly (world.proceed id call point) := by
  have owns := orderly id call file found alive (Point.own_of_held held)
  obtain ⟨lock, there, mine, written⟩ := owns.made
  apply orderly.proceed found
  intro other goes_by
  rw [own] at goes_by
  obtain rfl := Option.some.inj goes_by
  exact ⟨owns.lock, lock, there, mine, fun _ => written held⟩

theorem Orderly.removing {again : Bool} (orderly : Orderly world)
    (found : world.calls[id]? = some call) (alive : isProcessAlive world call.process = true)
    (point : call.point = .removingLock file again) :
    Orderly ((world.lead none).proceed id call .ended) := by
  have owns : Owns world id call file := orderly id call file found alive (by rw [point]; rfl)
  have unowned : OthersUnowned (world.lead none) id := orderly.othersUnowned owns
  exact unowned.proceed found nofun

theorem Orderly.advance {fails : Bool} (orderly : Orderly world)
    (found : world.calls[id]? = some call) (alive : isProcessAlive world call.process = true)
    (moves : MovesReclaimable world (.advance id fails)) :
    Orderly (advance world id call fails) := by
  have stays : ∀ {point : Point}, point.own = none → Orderly (world.proceed id call point) :=
    fun nothing => orderly.proceed_none found nothing
  unfold Update.advance
  cases point : call.point with
  | creating attempt =>
    dsimp only
    split
    · exact stays rfl
    · split
      · exact stays rfl
      · rename_i free
        exact orderly.creating found free
  | writing file =>
    dsimp only
    split
    · exact stays rfl
    · exact orderly.writing found alive point
  | readingLock attempt => exact stays rfl
  | judgingLock attempt payload =>
    exact judged_cases (fun point => Orderly (world.proceed id call point)) (stays rfl)
      (stays rfl)
  | statingLock attempt =>
    dsimp only
    split <;> exact stays rfl
  | renamingLock attempt =>
    dsimp only
    split
    · rename_i file leads
      exact orderly.renamingLock found point leads moves
    · exact stays rfl
  | readingGuard attempt guard => exact stays rfl
  | judgingGuard attempt guard payload =>
    exact judged_cases (fun point => Orderly (world.proceed id call point)) (stays rfl)
      (stays rfl)
  | statingGuard attempt guard =>
    dsimp only
    split <;> exact stays rfl
  | removingGuard attempt guard =>
    dsimp only
    split
    · exact stays rfl
    · exact stays (nextAttempt_own attempt)
  | linking guard =>
    dsimp only
    split
    · exact stays rfl
    · exact orderly.linking found
  | droppingGuard guard => exact stays rfl
  | readingLast => exact stays rfl
  | readingRelease file =>
    have keeps : ∀ point : Point, point.own = some file → Orderly (world.proceed id call point) :=
      fun next own => orderly.keeping found alive (by rw [point]; rfl) own
    dsimp only
    generalize (if fails then none else world.lock.bind (readLockFile world)) = lock
    split
    · exact keeps _ rfl
    · exact stays rfl
  | removingLock file again =>
    dsimp only
    split
    · split
      · exact stays rfl
      · exact orderly.keeping found alive (by rw [point]; rfl) rfl
    · exact orderly.removing found alive point
  | holding file => exact orderly
  | ended => exact orderly

/-- One step keeps the files with their calls. -/
theorem Orderly.step {event : Event} {next : World} (orderly : Orderly world)
    (timely : ReleasedInTime world event) (moves : MovesReclaimable world event)
    (steps : managedUpdateLock world event = .ok next) : Orderly next := by
  unfold managedUpdateLock Update.step at steps
  cases event with
  | acquire process =>
    dsimp only at steps
    split at steps
    · obtain rfl := Except.ok.inj steps
      intro id call file found alive goes_by
      dsimp only at found
      rw [List.getElem?_append] at found
      split at found
      · obtain ⟨lock, made⟩ := orderly id call file found alive goes_by
        exact ⟨lock, made⟩
      · obtain rfl := List.mem_singleton.1 (List.mem_of_getElem? found)
        cases goes_by
    · cases steps
  | advance id fails =>
    dsimp only at steps
    split at steps
    · rename_i call found
      split at steps
      · rename_i alive
        obtain rfl := Except.ok.inj steps
        exact orderly.advance found alive moves
      · cases steps
    · cases steps
  | release id =>
    dsimp only at steps
    split at steps
    · rename_i call found
      split at steps
      · rename_i file alive point
        obtain rfl := Except.ok.inj steps
        exact orderly.keeping found alive (by rw [point]; rfl) rfl
      · cases steps
    · cases steps
  | crash process =>
    obtain rfl := Except.ok.inj steps
    intro id call file found alive goes_by
    have before : isProcessAlive world call.process = true := by
      simp only [isProcessAlive, decide_eq_true_eq, List.mem_cons, not_or] at alive ⊢
      exact alive.2
    obtain ⟨lock, made⟩ := orderly id call file found before goes_by
    exact ⟨lock, made⟩
  | pass duration =>
    obtain rfl := Except.ok.inj steps
    intro id call file found alive goes_by
    obtain ⟨leads, lock, there, mine, written⟩ := orderly id call file found alive goes_by
    refine ⟨leads, lock, there, mine, fun held => ⟨(written held).1, ?_⟩⟩
    exact timely call (List.mem_of_getElem? found) alive file held lock there

theorem Orderly.exclusive (orderly : Orderly world) : Exclusive world where
  alone := by
    rintro id other ⟨call, file, found, alive, held⟩ ⟨called, file', found', alive', held'⟩
    by_contra different
    have owns := orderly id call file found alive (Point.own_of_held held)
    have nothing := orderly.othersUnowned owns other called (Ne.symm different) found' alive'
    rw [Point.own_of_held held'] at nothing
    cases nothing
  removes_own := by
    intro id call file again present lock found alive point leads there
    have owns : Owns world id call file := orderly id call file found alive (by rw [point]; rfl)
    obtain ⟨lock', there', mine, -⟩ := owns.made
    obtain rfl := Option.some.inj (leads.symm.trans owns.lock)
    obtain rfl := Option.some.inj (there.symm.trans there')
    exact mine

end

/-! ## Runs -/

def emptyWorld : World where
  now := 0
  crashed := []
  lock := none
  files := []
  calls := []

def processOf (number : Nat) : ProcessIdentity := ⟨number, number⟩

/-- A call takes some steps. -/
def goesOn (id : CallId) (steps : Nat) : List Event := List.replicate steps (.advance id false)

/-- A process stops with the lock; another reclaims it and releases its own. -/
def reclaimed : List Event :=
  [.acquire (processOf 1)] ++ goesOn 0 2 ++ [.crash (processOf 1), .acquire (processOf 2)] ++
    goesOn 1 9 ++ [.pass 60000, .release 1] ++ goesOn 1 2

/-- Two processes judge the lock of a process that has stopped. The second one is done with it
before the first one moves the lock aside, which is another one by then. -/
def overtaken : List Event :=
  [.acquire (processOf 1)] ++ goesOn 0 2 ++ [.crash (processOf 1), .acquire (processOf 2)] ++
    goesOn 1 3 ++ [.acquire (processOf 3)] ++ goesOn 2 9 ++ goesOn 1 1 ++
    [.acquire (processOf 4)] ++ goesOn 3 2

theorem reclaimed_meets : managedUpdateLock.MeetsEach ReleasedInTime emptyWorld reclaimed ∧
    managedUpdateLock.MeetsEach MovesReclaimable emptyWorld reclaimed := by
  decide +kernel

theorem overtaken_meets : managedUpdateLock.MeetsEach ReleasedInTime emptyWorld overtaken := by
  decide +kernel

/-- Where the overtaken run ends. -/
theorem overtaken_ends :
    (managedUpdateLock.history emptyWorld overtaken).state.calls[2]? =
      some ⟨processOf 3, 0, .holding 1⟩ ∧
    (managedUpdateLock.history emptyWorld overtaken).state.calls[3]? =
      some ⟨processOf 4, 0, .holding 2⟩ ∧
    (managedUpdateLock.history emptyWorld overtaken).state.crashed = [processOf 1] := by
  decide +kernel

theorem overtaken_alive (number : Nat) (later : number ≠ 1) :
    isProcessAlive (managedUpdateLock.history emptyWorld overtaken).state (processOf number) =
      true := by
  unfold isProcessAlive
  rw [overtaken_ends.2.2]
  simpa [processOf] using later

/-! ## Exclusivity -/

/-- In every run whose holders release in time and whose calls move reclaimable files aside
only, the lock is exclusive. -/
theorem lock_exclusive {start : World} {events : List Event} (opening : start.calls = [])
    (timely : managedUpdateLock.Meets start ReleasedInTime events)
    (moves : managedUpdateLock.Meets start MovesReclaimable events) :
    Exclusive (managedUpdateLock.history start events).state := by
  have meets : managedUpdateLock.Meets start
      (fun world event => ReleasedInTime world event ∧ MovesReclaimable world event) events :=
    fun before event within => ⟨timely before event within, moves before event within⟩
  have orderly : Orderly (managedUpdateLock.history start events).state := by
    refine managedUpdateLock.history_induction start
      (motive := fun history => Orderly history.state) ?_ ?_ meets
    · intro id call file found
      rw [opening] at found
      cases found
    · intro history event next conditions steps orderly
      exact orderly.step conditions.1 conditions.2 steps
  exact orderly.exclusive

theorem lock_exclusive_reclaimed :
    Exclusive (managedUpdateLock.history emptyWorld reclaimed).state :=
  lock_exclusive rfl (reclaimed_meets.1.meets _) (reclaimed_meets.2.meets _)

/-- Two running processes hold the lock after a live lock was moved aside. -/
theorem overtaken_not_exclusive :
    ¬ ∀ (start : World) (events : List Event), start.calls = [] →
      managedUpdateLock.Meets start ReleasedInTime events →
      Exclusive (managedUpdateLock.history start events).state := by
  intro claim
  have exclusive := claim emptyWorld overtaken rfl (overtaken_meets.meets _)
  have second : Holds (managedUpdateLock.history emptyWorld overtaken).state 2 :=
    ⟨_, 1, overtaken_ends.1, overtaken_alive 3 (by decide), rfl⟩
  have third : Holds (managedUpdateLock.history emptyWorld overtaken).state 3 :=
    ⟨_, 2, overtaken_ends.2.1, overtaken_alive 4 (by decide), rfl⟩
  exact absurd (exclusive.alone second third) (by decide)

end OnePersonLab.Update
