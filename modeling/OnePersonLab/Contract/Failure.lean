import Mathlib.Data.List.Forall2
import Mathlib.Logic.Unique
import OnePersonLab.Contract.Text

/-!
# Contract failures

`FrameworkContractError` is what the validators throw. The kernel tells it
apart from a transient activity failure, a missing journaled result and any
other runtime error. The code of a contract failure is always
`contract_shape_invalid` here, and the `details` record of an error is read by
nothing and left out.
-/

namespace OnePersonLab.Contract

inductive Failure where
  | contract (message : String)
  | transientActivity (message : String)
  | operationResultUnavailable (operationKey : String)
  | runtime (message : String)
  deriving DecidableEq, Repr

namespace Failure

def message : Failure → String
  | .contract text => text
  | .transientActivity text => text
  | .operationResultUnavailable operationKey =>
    s!"Foundry operation result {operationKey} is not durably journaled."
  | .runtime text => text

/-- `isContractFailure`. -/
def isContract : Failure → Bool
  | .contract _ => true
  | _ => false

/-- `isTransientActivityFailure`. -/
def isTransient : Failure → Bool
  | .transientActivity _ => true
  | _ => false

/-- `error.code` of a contract failure, and the kernel's code for anything else. -/
def code : Failure → String
  | .contract _ => "contract_shape_invalid"
  | _ => "foundry_runtime_failed"

end Failure

abbrev Checked := Except Failure

def fail {α : Type} (message : String) : Checked α := .error (.contract message)

/-- Throw the message unless the condition holds. -/
def ensure (condition : Prop) [Decidable condition] (message : String) : Checked Unit :=
  if condition then .ok () else fail message

@[simp] theorem ensure_eq_ok {condition : Prop} [Decidable condition] {message : String}
    {result : Unit} : ensure condition message = .ok result ↔ condition := by
  by_cases holds : condition <;> simp [ensure, fail, holds]

theorem ensure_true {condition : Prop} [Decidable condition] (holds : condition)
    (message : String) : ensure condition message = .ok () := if_pos holds

@[simp] theorem fail_ne_ok {α : Type} {message : String} {value : α} :
    (fail message : Checked α) ≠ .ok value := by simp [fail]

@[simp] theorem pure_eq_ok {α : Type} {value result : α} :
    (pure value : Checked α) = .ok result ↔ value = result := by
  simp [pure, Except.pure]

@[simp] theorem bind_eq_ok {α β : Type} {first : Checked α} {next : α → Checked β} {result : β} :
    (first >>= next) = .ok result ↔ ∃ value, first = .ok value ∧ next value = .ok result := by
  cases first <;> simp [bind, Except.bind]

@[simp] theorem map_eq_ok {α β : Type} {first : Checked α} {f : α → β} {result : β} :
    (f <$> first) = .ok result ↔ ∃ value, first = .ok value ∧ f value = result := by
  cases first <;> simp [Functor.map, Except.map]

/-- A check that hands on a value that is known beforehand. -/
def Returns {α : Type} (value : α) (checked : Checked α) : Prop :=
  ∀ result, checked = .ok result → result = value

theorem Returns.pure {α : Type} (value : α) : Returns value (pure value) :=
  fun _ returned => (pure_eq_ok.1 returned).symm

theorem Returns.bind {α β : Type} {value : β} {first : Checked α} {next : α → Checked β}
    (each : ∀ passed, Returns value (next passed)) : Returns value (first >>= next) := by
  intro result returned
  obtain ⟨passed, -, last⟩ := bind_eq_ok.1 returned
  exact each passed result last

/-- `forEach`: run the check on every element, in order. -/
def checkEach {α : Type} (check : α → Checked Unit) : List α → Checked Unit
  | [] => .ok ()
  | item :: rest => do
    check item
    checkEach check rest

@[simp] theorem checkEach_eq_ok {α : Type} {check : α → Checked Unit} {items : List α}
    {result : Unit} :
    checkEach check items = .ok result ↔ ∀ item ∈ items, check item = .ok () := by
  induction items with
  | nil => simp [checkEach]
  | cons item rest ih => simp [checkEach, ih, Unique.exists_iff]

/-- `map` with a check that returns a value. -/
def mapEach {α β : Type} (check : α → Checked β) : List α → Checked (List β)
  | [] => .ok []
  | item :: rest => do
    let value ← check item
    let values ← mapEach check rest
    return value :: values

theorem mapEach_eq_ok {α β : Type} {check : α → Checked β} {items : List α} {values : List β} :
    mapEach check items = .ok values ↔
      List.Forall₂ (fun item value => check item = .ok value) items values := by
  induction items generalizing values with
  | nil => cases values <;> simp [mapEach, List.forall₂_nil_left_iff]
  | cons item rest ih =>
    cases values with
    | nil => simp [mapEach, List.forall₂_nil_right_iff]
    | cons value others => simp [mapEach, ih]

theorem exists_mapEach_eq_ok {α β : Type} {check : α → Checked β} {items : List α}
    (each : ∀ item ∈ items, ∃ value, check item = .ok value) :
    ∃ values, mapEach check items = .ok values := by
  induction items with
  | nil => exact ⟨[], rfl⟩
  | cons item rest ih =>
    simp only [List.forall_mem_cons] at each
    obtain ⟨⟨value, checked⟩, others⟩ := each
    obtain ⟨values, done⟩ := ih others
    exact ⟨value :: values, by simp [mapEach, checked, done]⟩

theorem mapEach_mem {α β : Type} {check : α → Checked β} {items : List α} {values : List β}
    (checked : mapEach check items = .ok values) {item : α} (listed : item ∈ items) :
    ∃ value ∈ values, check item = .ok value := by
  induction items generalizing values with
  | nil => simp at listed
  | cons first rest ih =>
    simp only [mapEach, bind_eq_ok, pure_eq_ok] at checked
    obtain ⟨value, here, others, there, rfl⟩ := checked
    rcases List.mem_cons.1 listed with rfl | later
    · exact ⟨value, by simp, here⟩
    · obtain ⟨found, member, same⟩ := ih there later
      exact ⟨found, List.mem_cons_of_mem _ member, same⟩

theorem exists_of_mem_mapEach {α β : Type} {check : α → Checked β} {items : List α}
    {values : List β} (checked : mapEach check items = .ok values) {value : β}
    (listed : value ∈ values) : ∃ item ∈ items, check item = .ok value := by
  induction items generalizing values with
  | nil => simp_all [mapEach]
  | cons first rest ih =>
    simp only [mapEach, bind_eq_ok, pure_eq_ok] at checked
    obtain ⟨head, here, others, there, rfl⟩ := checked
    rcases List.mem_cons.1 listed with rfl | later
    · exact ⟨first, by simp, here⟩
    · obtain ⟨item, member, same⟩ := ih there later
      exact ⟨item, List.mem_cons_of_mem _ member, same⟩

/-- What every value of the list keeps of its item, the list keeps. -/
theorem mapEach_map_eq {α β γ : Type} {check : α → Checked β} {items : List α} {values : List β}
    {f : α → γ} {g : β → γ} (checked : mapEach check items = .ok values)
    (kept : ∀ item value, check item = .ok value → g value = f item) :
    values.map g = items.map f := by
  induction items generalizing values with
  | nil => simp_all [mapEach]
  | cons item rest ih =>
    simp only [mapEach, bind_eq_ok, pure_eq_ok] at checked
    obtain ⟨value, here, others, there, rfl⟩ := checked
    simp [kept item value here, ih there]

/-! ## String fields -/

def requiredString (value field : String) : Checked String := do
  ensure (trim value ≠ "") s!"{field} must be a non-empty string."
  return trim value

@[simp] theorem requiredString_eq_ok {value field result : String} :
    requiredString value field = .ok result ↔ trim value ≠ "" ∧ trim value = result := by
  simp [requiredString]

def requiredStringList (values : List String) (field : String) : Checked (List String) :=
  mapEach (fun entry => requiredString entry.1 s!"{field}[{entry.2}]") values.zipIdx

def requiredUniqueStringList (values : List String) (field : String) (minimumItems : Nat) :
    Checked (List String) := do
  let entries ← requiredStringList values field
  ensure (minimumItems ≤ entries.length) s!"{field} must contain at least {minimumItems} item(s)."
  ensure entries.Nodup s!"{field} must contain unique values."
  return entries

def requiredDigest (value field : String) : Checked String := do
  let digest ← requiredString value field
  ensure (isSha256Digest digest = true) s!"{field} must be a SHA-256 content digest."
  return digest

@[simp] theorem requiredDigest_eq_ok {value field result : String} :
    requiredDigest value field = .ok result ↔
      trim value ≠ "" ∧ isSha256Digest (trim value) = true ∧ trim value = result := by
  simp [requiredDigest, and_assoc]

end OnePersonLab.Contract
