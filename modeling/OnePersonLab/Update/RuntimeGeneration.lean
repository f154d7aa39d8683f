import Mathlib.Logic.Function.Basic
import OnePersonLab.Lib.NamedEntries
import OnePersonLab.Lib.Stops

/-!
# Generations of the Codex runtime

A pending generation is laid over the current `bin` directory in a directory of its own; then
the directories change places by renames. A rename happens at once; a copy or a removal is
many steps, so that a stop may leave any part of it.
-/

namespace OnePersonLab.Update

open Lib

/-! ## Directories -/

/-- The entries of a `bin` directory. -/
structure Bin (Tree : Type) where
  entries : List (String × Tree)
  distinct : (entries.map Prod.fst).Nodup

namespace Bin

variable {Tree : Type}

def empty : Bin Tree := ⟨[], List.nodup_nil⟩

def lookup (bin : Bin Tree) (name : String) : Option Tree :=
  (lookupNamed Prod.fst bin.entries name).map Prod.snd

def without (bin : Bin Tree) (name : String) : Bin Tree where
  entries := bin.entries.filter (·.1 ≠ name)
  distinct := bin.distinct.sublist (List.filter_sublist.map _)

/-- The entry instead of the one of its name. -/
def place (bin : Bin Tree) (entry : String × Tree) : Bin Tree where
  entries := (bin.without entry.1).entries ++ [entry]
  distinct := by
    rw [List.map_append, List.nodup_append]
    refine ⟨(bin.without entry.1).distinct, List.nodup_singleton _, ?_⟩
    intro name listed other last same
    obtain ⟨kept, among, rfl⟩ := List.mem_map.1 listed
    obtain rfl := List.mem_singleton.1 last
    simp [without, same] at among

/-- All entries of another directory, one after another. -/
def overlay (bin : Bin Tree) (entries : List (String × Tree)) : Bin Tree :=
  entries.foldl place bin

end Bin

/-- The places of `bin` directories. The name of the retired one and that of the swap have the
process and the time in them: no other call uses them. -/
inductive BinPlace where
  | current
  | previous
  | retired
  | swap
  | generation
  | activation
  deriving DecidableEq, Repr

/-- The metadata of a pending generation: what its checks find. -/
structure PendingGeneration where
  pathsAllowed : Bool
  stagingProcessInstanceId : Option String
  protocolVerified : Bool
  codexSha256 : Option String
  deriving DecidableEq, Repr

/-- What is below the runtime root; no payload of the metadata: it cannot be parsed. One
rename may fail while `mayFail` says so. -/
structure RuntimeLayout (Tree : Type) where
  pending : Option (Option PendingGeneration)
  generationRoot : Bool
  bins : BinPlace → Option (Bin Tree)
  mayFail : Bool

namespace RuntimeLayout

variable {Tree : Type} (layout : RuntimeLayout Tree)

def put (place : BinPlace) (bin : Option (Bin Tree)) : RuntimeLayout Tree :=
  { layout with bins := Function.update layout.bins place bin }

/-- A generation root without its directories. -/
def removeGeneration : RuntimeLayout Tree :=
  { (layout.put .generation none).put .activation none with generationRoot := false }

/-- The names that a new call makes up are not there yet. -/
def newNames : RuntimeLayout Tree := (layout.put .retired none).put .swap none

end RuntimeLayout

/-! ## Requests -/

inductive RuntimeRequest where
  | pendingExists
  | readPending
  | removePending
  | generationExists
  | removeGeneration
  | binExists (place : BinPlace)
  | listBin (place : BinPlace)
  | readCodex (place : BinPlace)
  | remove (place : BinPlace)
  | makeActivation
  | removeEntry (name : String)
  | copyEntry (source : BinPlace) (name : String)
  | rename (source target : BinPlace)
  deriving DecidableEq, Repr

inductive RuntimeFailure where
  | fileSystem
  deriving DecidableEq, Repr

def RuntimeFiles (Tree : Type) : Interface where
  Request := RuntimeRequest
  Response
    | .pendingExists | .generationExists | .binExists _ => Bool
    | .readPending => Option PendingGeneration
    | .listBin _ => List String
    | .readCodex _ => Option Tree
    | _ => Unit
  Failure := RuntimeFailure

section

variable {Tree : Type}

/-- A request that is performed, or that cannot be for what is there. -/
def performRuntime (layout : RuntimeLayout Tree) :
    (request : RuntimeRequest) → RuntimeLayout Tree × (RuntimeFiles Tree).Answer request
  | .pendingExists => (layout, .ok layout.pending.isSome)
  | .readPending => (layout, .ok layout.pending.join)
  | .removePending => ({ layout with pending := none }, .ok ())
  | .generationExists => (layout, .ok layout.generationRoot)
  | .removeGeneration => (layout.removeGeneration, .ok ())
  | .binExists place => (layout, .ok (layout.bins place).isSome)
  | .listBin place =>
    match layout.bins place with
    | some bin => (layout, .ok (bin.entries.map Prod.fst))
    | none => (layout, .error .fileSystem)
  | .readCodex place => (layout, .ok ((layout.bins place).bind (·.lookup "codex")))
  | .remove place => (layout.put place none, .ok ())
  | .makeActivation => (layout.put .activation (some .empty), .ok ())
  | .removeEntry name =>
    (layout.put .activation ((layout.bins .activation).map (·.without name)), .ok ())
  | .copyEntry source name =>
    match (layout.bins source).bind (·.lookup name), layout.bins .activation with
    | some tree, some bin => (layout.put .activation (some (bin.place (name, tree))), .ok ())
    | _, _ => (layout, .error .fileSystem)
  | .rename source target =>
    match layout.bins source, layout.bins target with
    | some bin, none => ((layout.put source none).put target (some bin), .ok ())
    | _, _ => (layout, .error .fileSystem)

/-- A request is performed; or a rename fails, where it may. -/
inductive RuntimePerforms (spares : BinPlace → Prop) :
    Machine (RuntimeFiles Tree) (RuntimeLayout Tree) where
  | done {layout : RuntimeLayout Tree} {request : RuntimeRequest} :
      RuntimePerforms spares layout request (performRuntime layout request).1
        (performRuntime layout request).2
  | fails {layout : RuntimeLayout Tree} {source target : BinPlace} : layout.mayFail = true →
      ¬ spares source →
      RuntimePerforms spares layout (.rename source target) { layout with mayFail := false }
        (.error .fileSystem)

/-- A stop in the middle of a copy or a removal leaves any part of it. -/
inductive RuntimeTorn : RuntimeLayout Tree → RuntimeRequest → RuntimeLayout Tree → Prop where
  | remove {layout place rest} : RuntimeTorn layout (.remove place) (layout.put place rest)
  | removeEntry {layout name rest} :
      RuntimeTorn layout (.removeEntry name) (layout.put .activation rest)
  | copyEntry {layout source name rest} :
      RuntimeTorn layout (.copyEntry source name) (layout.put .activation rest)
  | removeGeneration {layout rest rest'} : RuntimeTorn layout .removeGeneration
      ((layout.put .generation rest).put .activation rest')

/-- The file system; renames from the spared places do not fail. -/
def runtimeDevice (spares : BinPlace → Prop) :
    Device (RuntimeFiles Tree) (RuntimeLayout Tree) where
  performs := RuntimePerforms spares
  torn := RuntimeTorn

/-! ## Activation -/

/-- `verifyCodexExecutable` and the digest of a file. -/
structure CodexPlatform (Tree : Type) where
  verifyCodexExecutable : Tree → Bool
  sha256 : Tree → String

inductive ActivationStatus where
  | noPendingGeneration
  | manualRequired (reason : String)
  | deferredSameAppInstance
  | activated
  deriving DecidableEq, Repr

abbrev RuntimeProgram (Tree α : Type) := Program (RuntimeFiles Tree) α

def ask (request : RuntimeRequest) : RuntimeProgram Tree ((RuntimeFiles Tree).Response request) :=
  Program.call (I := RuntimeFiles Tree) request

def binExists (place : BinPlace) : RuntimeProgram Tree Bool := ask (.binExists place)

def renameBin (source target : BinPlace) : RuntimeProgram Tree Unit := ask (.rename source target)

/-- A statement of an `if` without `else`. -/
def provided (condition : Bool) (program : RuntimeProgram Tree Unit) : RuntimeProgram Tree Unit :=
  if condition then program else pure ()

/-- One turn of the loop over the entries of a source root. -/
def copyEntry (source : BinPlace) (name : String) : RuntimeProgram Tree Unit := do
  ask (.removeEntry name)
  ask (.copyEntry source name)

def copyEntries (source : BinPlace) : List String → RuntimeProgram Tree Unit
  | [] => pure ()
  | name :: rest => do
    copyEntry source name
    copyEntries source rest

/-- One turn of the loop over the source roots. -/
def overlaySource (source : BinPlace) : RuntimeProgram Tree Unit := do
  let there ← binExists source
  provided there do
    let names ← ask (.listBin source)
    copyEntries source names

/-- The current directory goes back when it was moved and is not there. -/
def restoreCurrent (movedCurrentToolchain : Bool) : RuntimeProgram Tree Unit := do
  let current ← binExists .current
  let previous ← binExists .previous
  provided (!current && movedCurrentToolchain && previous) (renameBin .previous .current)

/-- The retired directory goes back when the previous one is not there. -/
def restorePrevious : RuntimeProgram Tree Unit := do
  let previous ← binExists .previous
  let retired ← binExists .retired
  provided (!previous && retired) (renameBin .retired .previous)

/-- The handler of the renames. -/
def restoreBins (movedCurrentToolchain : Bool) (failure : RuntimeFailure) :
    RuntimeProgram Tree Unit := do
  restoreCurrent movedCurrentToolchain
  restorePrevious
  throw failure

/-- The guarded renames; whether the current directory was moved. -/
def moveBins : RuntimeProgram Tree Bool := do
  let current ← binExists .current
  if current then
    tryCatch (renameBin .current .previous) (restoreBins false)
    tryCatch (renameBin .activation .current) (restoreBins true)
    return true
  else
    tryCatch (renameBin .activation .current) (restoreBins false)
    return false

/-- The overlay of the generation over the current directory. -/
def buildActivation : RuntimeProgram Tree Unit := do
  ask (.remove .activation)
  ask .makeActivation
  overlaySource .current
  overlaySource .generation

/-- The retired directory goes, or goes back where there was no current one. -/
def settleRetired (movedCurrentToolchain : Bool) : RuntimeProgram Tree Unit := do
  let retired ← binExists .retired
  provided retired
    (if movedCurrentToolchain then ask (.remove .retired) else renameBin .retired .previous)

/-- The generation goes, and then its metadata. -/
def dropGeneration : RuntimeProgram Tree ActivationStatus := do
  ask .removeGeneration
  ask .removePending
  return .activated

/-- The change of places, once the previous directory is out of the way. -/
def changePlaces : RuntimeProgram Tree ActivationStatus := do
  let movedCurrentToolchain ← moveBins
  settleRetired movedCurrentToolchain
  dropGeneration

/-- The overlay of a verified generation and the change of places. -/
def switchToolchain : RuntimeProgram Tree ActivationStatus := do
  buildActivation
  let previous ← binExists .previous
  provided previous (renameBin .previous .retired)
  changePlaces

/-- The staged executable is the verified one. -/
def CodexPlatform.accepts (platform : CodexPlatform Tree) (pending : PendingGeneration)
    (codex : Option Tree) : Bool :=
  codex.any fun tree =>
    platform.verifyCodexExecutable tree && some (platform.sha256 tree) = pending.codexSha256

def activatePendingCodexRuntimeGenerationAtPaths (platform : CodexPlatform Tree)
    (processInstanceId : String) : RuntimeProgram Tree ActivationStatus := do
  let there ← ask .pendingExists
  if !there then return .noPendingGeneration
  else
    let payload ← ask .readPending
    match payload with
    | none => return .manualRequired "pending_generation_metadata_invalid"
    | some pending =>
      let generation ← ask .generationExists
      if !(pending.pathsAllowed && generation) then
        return .manualRequired "pending_generation_path_invalid"
      else
        let current ← ask (.readCodex .current)
        if current.isSome && pending.stagingProcessInstanceId = some processInstanceId then
          return .deferredSameAppInstance
        else if !pending.protocolVerified then
          return .manualRequired "pending_generation_protocol_unverified"
        else
          let staged ← ask (.readCodex .generation)
          if !platform.accepts pending staged then
            return .manualRequired "pending_generation_verification_failed"
          else switchToolchain

/-! ## Rollback -/

inductive RollbackStatus where
  | manualRequired (reason : String)
  | completed
  deriving DecidableEq, Repr

/-- The handler of the second and of the third rename. -/
def restoreSwap (completedRenameCount : Nat) (failure : RuntimeFailure) :
    RuntimeProgram Tree Unit := do
  let current ← binExists .current
  let swap ← binExists .swap
  provided (completedRenameCount = 2) do
    renameBin .current .previous
    renameBin .swap .current
  provided (completedRenameCount = 1 && !current && swap) (renameBin .swap .current)
  throw failure

def rollbackCodexRuntimeGeneration : RuntimeProgram Tree RollbackStatus := do
  let previous ← binExists .previous
  if !previous then return .manualRequired "previous_generation_missing"
  else
    let current ← binExists .current
    if !current then return .manualRequired "current_toolchain_missing"
    else
      tryCatch (renameBin .current .swap) (restoreSwap 0)
      tryCatch (renameBin .previous .current) (restoreSwap 1)
      tryCatch (renameBin .swap .previous) (restoreSwap 2)
      ask .removePending
      return .completed

end

end OnePersonLab.Update
