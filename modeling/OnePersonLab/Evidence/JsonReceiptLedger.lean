import Mathlib.Data.List.Count
import OnePersonLab.Contract.Json
import OnePersonLab.Contract.Text

/-!
# Receipt ledgers in JSON files

The evidence ledgers of the framework are one adapter with different receipts. A ledger file is
read leniently: what is no ledger has no receipts, and what is no receipt is skipped. Every write
replaces the whole file.
-/

namespace OnePersonLab.Evidence.JsonReceipts

open Contract

/-! ## The adapter -/

inductive ReceiptStatus where
  | recorded
  | verified
  deriving DecidableEq, Repr

/-- `JsonReceipt`: what every ledger reads of its receipts. -/
structure JsonReceipt where
  receiptRef : String
  receiptStatus : ReceiptStatus
  deriving DecidableEq, Repr

def JsonReceipt.verify (receipt : JsonReceipt) : JsonReceipt :=
  { receipt with receiptStatus := .verified }

/-- What makes a ledger: its receipts, and how they are read, made and written. Times are the
clock readings that `recorded_at` falls back to. -/
structure JsonReceiptLedgerAdapterOptions (Receipt Input : Type) where
  emptyLedger : JsonRecord
  isEligible : Input → Bool
  normalizeReceipt : String → Json → Option Receipt
  normalizeInput : String → { input : Input // isEligible input = true } → Receipt
  toJson : Receipt → Json
  toReceipt : Receipt → JsonReceipt
  verified : Receipt → Receipt

/-- A ledger that knows its own receipts again. -/
structure ReceiptLedger (Receipt Input : Type) extends
    JsonReceiptLedgerAdapterOptions Receipt Input where
  headed : field? emptyLedger "receipts" = none
  verifies : ∀ receipt, toReceipt (verified receipt) = (toReceipt receipt).verify
  timeless : ∀ now now' value,
    (normalizeReceipt now value).map toReceipt = (normalizeReceipt now' value).map toReceipt
  readsBack : ∀ now receipt,
    (normalizeReceipt now (toJson receipt)).map toReceipt = some (toReceipt receipt)

/-- What `JSON.parse` makes of the file; nothing when it is missing or unreadable. -/
abbrev LedgerFile := Option Json

section

variable {Receipt Input : Type} (ledger : ReceiptLedger Receipt Input)

/-! ## Reading and writing -/

/-- The entries of the file, when it holds a ledger. -/
def ledgerEntries (file : LedgerFile) : List Json :=
  match file with
  | some (.object fields) =>
    match field? fields "receipts" with
    | some (.array entries) => entries
    | _ => []
  | _ => []

/-- `readJsonReceiptLedger`. -/
def read (now : String) (file : LedgerFile) : List Receipt :=
  (ledgerEntries file).filterMap (ledger.normalizeReceipt now)

/-- `writeJsonReceiptLedger`. -/
def write (receipts : List Receipt) : LedgerFile :=
  some (.object (ledger.emptyLedger ++ [("receipts", .array (receipts.map ledger.toJson))]))

/-- One turn of `upsertJsonReceipts`. -/
def upsertOne {α : Type} (matching : α → α → Bool) (receipts : List α) (next : α) : List α :=
  match receipts.findIdx? fun current => matching current next with
  | some existingIndex => receipts.set existingIndex next
  | none => next :: receipts

def upsertJsonReceipts {α : Type} (matching : α → α → Bool) (receipts nextReceipts : List α) :
    List α :=
  nextReceipts.foldl (upsertOne matching) receipts

def sameRef (current next : JsonReceipt) : Bool := current.receiptRef == next.receiptRef

/-! ## Operations -/

/-- The receipts of the eligible inputs. -/
def receiptsOf (now : String) (inputs : List Input) : List Receipt :=
  inputs.filterMap fun input =>
    if eligible : ledger.isEligible input = true then
      some (ledger.normalizeInput now ⟨input, eligible⟩)
    else none

/-- `record`: the receipts it reports, and the file afterwards. -/
def record (now : String) (inputs : List Input) (file : LedgerFile) : List Receipt × LedgerFile :=
  let receipts := receiptsOf ledger now inputs
  if receipts.isEmpty then ([], file)
  else (receipts, write ledger (upsertJsonReceipts
    (fun current next => sameRef (ledger.toReceipt current) (ledger.toReceipt next))
    (read ledger now file) receipts))

/-- The receipt that `verify` chooses. -/
def selectedIndex (receipts : List JsonReceipt) : Option String → Option Nat
  | some requested => receipts.findIdx? fun receipt => receipt.receiptRef = requested
  | none =>
    (receipts.findIdx? fun receipt => receipt.receiptStatus = .recorded).or
      (receipts.findIdx? fun _ => true)

/-- `verify`: the verified receipt with whether its status changed, and the file afterwards. -/
def verify (now : String) (receiptRef : Option String) (file : LedgerFile) :
    Option (Receipt × Bool) × LedgerFile :=
  let receipts := read ledger now file
  match selectedIndex (receipts.map ledger.toReceipt) (trimmedText receiptRef) with
  | none => (none, file)
  | some index =>
    match receipts[index]? with
    | none => (none, file)
    | some current =>
      (some (ledger.verified current,
          decide ((ledger.toReceipt current).receiptStatus ≠ .verified)),
        write ledger (receipts.set index (ledger.verified current)))

inductive Operation (Input : Type) where
  | record (now : String) (inputs : List Input)
  | verify (now : String) (receiptRef : Option String)

/-- The file after the operation. -/
def step (file : LedgerFile) : Operation Input → LedgerFile
  | .record now inputs => (record ledger now inputs file).2
  | .verify now receiptRef => (verify ledger now receiptRef file).2

/-- The file after the operations. -/
def after (file : LedgerFile) (operations : List (Operation Input)) : LedgerFile :=
  operations.foldl (step ledger) file

/-- The receipts that the file holds. -/
def held (file : LedgerFile) : List JsonReceipt := (read ledger "" file).map ledger.toReceipt

/-- The references that the operation records. -/
def recordedRefs : Operation Input → List String
  | .record now inputs =>
    (receiptsOf ledger now inputs).map fun receipt => (ledger.toReceipt receipt).receiptRef
  | .verify _ _ => []

end

end OnePersonLab.Evidence.JsonReceipts
