import OnePersonLab.Lib.Reducer

/-!
# The lock of the managed updater

A call makes the lock file exclusively and writes its receipt into it. A call that finds a
file there judges it, moves it aside when it may be reclaimed, judges it again and removes it
or puts it back. Every file-system call is one step; processes stop at any time.
-/

namespace OnePersonLab.Update

open Lib

/-! ## Receipts and files -/

/-- A process; an operating system gives its number to another process later. -/
structure ProcessIdentity where
  pid : Nat
  procStartTime : Nat
  deriving DecidableEq, Repr

/-- Milliseconds. -/
abbrev Instant := Nat

/-- `ManagedUpdateLockReceipt`, as far as it is read again. -/
structure Receipt where
  processIdentity : ProcessIdentity
  acquiredAt : Instant
  deriving DecidableEq, Repr

def staleAfterSeconds : Nat := 1800

abbrev FileId := Nat
abbrev CallId := Nat

/-- A lock file, with the call that has made it. No payload: nothing that can be read yet. -/
structure LockFile where
  payload : Option Receipt
  modifiedAt : Instant
  creator : CallId
  deriving DecidableEq, Repr

/-! ## Calls -/

/-- The next file-system call of a call of `acquireManagedUpdateLock` or of its handle. The file
that a call has made is kept with its points, the guard that it has moved aside too. -/
inductive Point where
  | creating (attempt : Nat)
  | writing (file : FileId)
  | readingLock (attempt : Nat)
  | judgingLock (attempt : Nat) (payload : Option Receipt)
  | statingLock (attempt : Nat)
  | renamingLock (attempt : Nat)
  | readingGuard (attempt : Nat) (guard : FileId)
  | judgingGuard (attempt : Nat) (guard : FileId) (payload : Option Receipt)
  | statingGuard (attempt : Nat) (guard : FileId)
  | removingGuard (attempt : Nat) (guard : FileId)
  | linking (guard : FileId)
  | droppingGuard (guard : FileId)
  | readingLast
  | holding (file : FileId)
  | readingRelease (file : FileId)
  | removingLock (file : FileId) (again : Bool)
  | ended
  deriving DecidableEq, Repr

/-- The file of a handle that has not been released. -/
def Point.held : Point → Option FileId
  | .holding file | .readingRelease file | .removingLock file _ => some file
  | _ => none

/-- The file that a call has made and still goes by. -/
def Point.own : Point → Option FileId
  | .writing file => some file
  | point => point.held

structure Call where
  process : ProcessIdentity
  acquiredAt : Instant
  point : Point
  deriving DecidableEq, Repr

def Call.receipt (call : Call) : Receipt where
  processIdentity := call.process
  acquiredAt := call.acquiredAt

/-! ## The world -/

structure World where
  now : Instant
  crashed : List ProcessIdentity
  lock : Option FileId
  files : List LockFile
  calls : List Call
  deriving DecidableEq, Repr

inductive Event where
  | acquire (process : ProcessIdentity)
  | advance (id : CallId) (fails : Bool)
  | release (id : CallId)
  | crash (process : ProcessIdentity)
  | pass (duration : Nat)
  deriving DecidableEq, Repr

section

variable (world : World)

/-- `isProcessAlive`: the process of the identity runs. -/
def isProcessAlive (identity : ProcessIdentity) : Bool := identity ∉ world.crashed

/-- `isStaleLock`. -/
def isStaleLock (file : FileId) : Bool :=
  match world.files[file]? with
  | some lock => world.now - lock.modifiedAt > staleAfterSeconds * 1000
  | none => false

/-- `readLockFile`. -/
def readLockFile (file : FileId) : Option Receipt :=
  world.files[file]?.bind LockFile.payload

def isReclaimableLockPayload (lock : Option Receipt) (file : FileId) : Bool :=
  lock.any (fun receipt => !isProcessAlive world receipt.processIdentity) || isStaleLock world file

/-- The path of the lock leads elsewhere. -/
def World.lead (lock : Option FileId) : World := { world with lock }

def World.write (file : FileId) (written : LockFile) : World :=
  { world with files := world.files.set file written }

/-- A new file, without a path that leads to it yet. -/
def World.make (made : LockFile) : World := { world with files := world.files ++ [made] }

/-- The call goes on at another point. -/
def World.proceed (id : CallId) (call : Call) (point : Point) : World :=
  { world with calls := world.calls.set id { call with point } }

/-- The call after a reclaimed lock: three attempts at most. -/
def nextAttempt (attempt : Nat) : Point :=
  if attempt + 1 < 3 then .creating (attempt + 1) else .readingLast

/-- The point after a payload was judged without a look at the file. -/
def judged (payload : Option Receipt) (reclaims stats : Point) : Point :=
  if payload.any fun receipt => !isProcessAlive world receipt.processIdentity then reclaims
  else stats

/-- The next file-system call of a call. A read or a stat that fails finds nothing; another
call that fails throws. -/
def advance (id : CallId) (call : Call) (fails : Bool) : World :=
  match call.point with
  | .creating attempt =>
    if fails then world.proceed id call .ended
    else match world.lock with
      | some _ => world.proceed id call (.readingLock attempt)
      | none =>
        ((world.make ⟨none, world.now, id⟩).lead (some world.files.length)).proceed id call
          (.writing world.files.length)
  | .writing file =>
    if fails then world.proceed id call .ended
    else
      (world.write file ⟨some call.receipt, world.now, id⟩).proceed id call (.holding file)
  | .readingLock attempt =>
    world.proceed id call
      (.judgingLock attempt (if fails then none else world.lock.bind (readLockFile world)))
  | .judgingLock attempt payload =>
    world.proceed id call (judged world payload (.renamingLock attempt) (.statingLock attempt))
  | .statingLock attempt =>
    world.proceed id call
      (if !fails && world.lock.any (isStaleLock world) then .renamingLock attempt else .ended)
  | .renamingLock attempt =>
    match world.lock, fails with
    | some guard, false =>
      (world.lead none).proceed id call (.readingGuard attempt guard)
    | _, _ => world.proceed id call .ended
  | .readingGuard attempt guard =>
    world.proceed id call
      (.judgingGuard attempt guard (if fails then none else readLockFile world guard))
  | .judgingGuard attempt guard payload =>
    world.proceed id call
      (judged world payload (.removingGuard attempt guard) (.statingGuard attempt guard))
  | .statingGuard attempt guard =>
    world.proceed id call
      (if !fails && isStaleLock world guard then .removingGuard attempt guard else .linking guard)
  | .removingGuard attempt _ => world.proceed id call (if fails then .ended else nextAttempt attempt)
  | .linking guard =>
    if fails then world.proceed id call .ended
    else (world.lead (world.lock.or (some guard))).proceed id call (.droppingGuard guard)
  | .droppingGuard _ | .readingLast => world.proceed id call .ended
  | .readingRelease file =>
    let lock := if fails then none else world.lock.bind (readLockFile world)
    world.proceed id call
      (if lock.any fun receipt => receipt.processIdentity.pid = call.process.pid &&
          receipt.acquiredAt = call.acquiredAt
        then .removingLock file false else .ended)
  | .removingLock file again =>
    if fails then world.proceed id call (if again then .ended else .removingLock file true)
    else (world.lead none).proceed id call .ended
  | .holding _ | .ended => world

/-- What may happen next: only processes that run do anything. -/
def step : Event → Except Unit World
  | .acquire process =>
    if isProcessAlive world process then
      .ok { world with calls := world.calls ++ [⟨process, world.now, .creating 0⟩] }
    else .error ()
  | .advance id fails =>
    match world.calls[id]? with
    | some call =>
      if isProcessAlive world call.process then .ok (advance world id call fails) else .error ()
    | none => .error ()
  | .release id =>
    match world.calls[id]? with
    | some call =>
      match isProcessAlive world call.process, call.point with
      | true, .holding file => .ok (world.proceed id call (.readingRelease file))
      | _, _ => .error ()
    | none => .error ()
  | .crash process => .ok { world with crashed := process :: world.crashed }
  | .pass duration => .ok { world with now := world.now + duration }

end

/-- The lock with all its users. -/
def managedUpdateLock : Reducer World Event Unit := step

end OnePersonLab.Update
