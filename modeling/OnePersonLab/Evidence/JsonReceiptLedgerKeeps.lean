import OnePersonLab.Evidence.JsonReceiptLedger

/-!
# What a receipt ledger keeps

An operation loses no receipt that the ledger reads, and adds an entry for a new reference only. A
verified receipt is recorded again by a record operation that names it, and by nothing else.
-/

namespace OnePersonLab.Evidence.JsonReceipts

open Contract

/-! ## Upserts -/

section

variable {receipts : List JsonReceipt} {next receipt : JsonReceipt} {ref : String}

def refsOf (receipts : List JsonReceipt) : List String := receipts.map JsonReceipt.receiptRef

/-- An upsert replaces the first receipt of its reference, or stands in front. -/
theorem upsertOne_cases (receipts : List JsonReceipt) (next : JsonReceipt) :
    (∃ index current, receipts[index]? = some current ∧ current.receiptRef = next.receiptRef ∧
        upsertOne sameRef receipts next = receipts.set index next) ∨
      next.receiptRef ∉ refsOf receipts ∧ upsertOne sameRef receipts next = next :: receipts := by
  unfold upsertOne
  cases found : receipts.findIdx? fun current => sameRef current next with
  | some index =>
    obtain ⟨bound, same, _⟩ := List.findIdx?_eq_some_iff_getElem.1 found
    exact .inl ⟨index, receipts[index], List.getElem?_eq_getElem bound, beq_iff_eq.1 same, rfl⟩
  | none =>
    refine .inr ⟨?_, rfl⟩
    intro listed
    obtain ⟨current, there, same⟩ := List.mem_map.1 listed
    have refused := List.findIdx?_eq_none_iff.1 found current there
    rw [sameRef, same, beq_self_eq_true] at refused
    cases refused

theorem refsOf_set {index : Nat} {current : JsonReceipt} (there : receipts[index]? = some current)
    (same : current.receiptRef = next.receiptRef) :
    refsOf (receipts.set index next) = refsOf receipts := by
  rw [refsOf, List.map_set, ← same]
  refine List.ext_getElem? fun other => ?_
  by_cases here : index = other
  · subst here
    have bound := (List.getElem?_eq_some_iff.1 there).1
    rw [List.getElem?_set_self (by simpa using bound), refsOf, List.getElem?_map, there]
    rfl
  · rw [List.getElem?_set_ne here]
    rfl

theorem refsOf_upsertOne (receipts : List JsonReceipt) (next : JsonReceipt) :
    refsOf (upsertOne sameRef receipts next) =
      if next.receiptRef ∈ refsOf receipts then refsOf receipts
      else next.receiptRef :: refsOf receipts := by
  obtain ⟨index, current, there, same, upserted⟩ | ⟨absent, upserted⟩ := upsertOne_cases receipts next
  · have listed : next.receiptRef ∈ refsOf receipts :=
      same ▸ List.mem_map_of_mem (List.mem_of_getElem? there)
    rw [upserted, refsOf_set there same, if_pos listed]
  · rw [upserted, if_neg absent]
    rfl

theorem mem_upsertOne (listed : receipt ∈ receipts) (apart : receipt.receiptRef ≠ next.receiptRef) :
    receipt ∈ upsertOne sameRef receipts next := by
  obtain ⟨index, current, there, same, upserted⟩ | ⟨_, upserted⟩ := upsertOne_cases receipts next
  · rw [upserted]
    obtain ⟨place, found⟩ := List.mem_iff_getElem?.1 listed
    have elsewhere : index ≠ place := by
      rintro rfl
      rw [there] at found
      exact apart (Option.some.inj found ▸ same)
    exact List.mem_iff_getElem?.2 ⟨place, by rw [List.getElem?_set_ne elsewhere, found]⟩
  · rw [upserted]
    exact List.mem_cons_of_mem _ listed

/-- No reference is lost, and none comes a second time. -/
theorem refsOf_upserts (nextReceipts : List JsonReceipt) :
    ∀ receipts, refsOf receipts ⊆ refsOf (upsertJsonReceipts sameRef receipts nextReceipts) ∧
      ∀ ref, (refsOf (upsertJsonReceipts sameRef receipts nextReceipts)).count ref ≤
        max 1 ((refsOf receipts).count ref) := by
  induction nextReceipts with
  | nil => exact fun receipts => ⟨List.Subset.refl _, fun ref => le_max_right _ _⟩
  | cons next rest ih =>
    intro receipts
    obtain ⟨kept, bound⟩ := ih (upsertOne sameRef receipts next)
    rw [refsOf_upsertOne] at kept bound
    split_ifs at kept bound with listed
    · exact ⟨kept, bound⟩
    · refine ⟨List.Subset.trans (List.subset_cons_self _ _) kept, fun ref => ?_⟩
      refine (bound ref).trans ?_
      rw [List.count_cons]
      by_cases same : next.receiptRef = ref
      · have none : (refsOf receipts).count ref = 0 := List.count_eq_zero.2 (same ▸ listed)
        rw [none, if_pos (beq_iff_eq.2 same)]
        exact le_of_eq rfl
      · rw [if_neg (by simpa using same)]
        exact le_of_eq rfl

theorem mem_upserts {nextReceipts : List JsonReceipt} (apart : receipt.receiptRef ∉ refsOf nextReceipts) :
    ∀ receipts, receipt ∈ receipts → receipt ∈ upsertJsonReceipts sameRef receipts nextReceipts := by
  induction nextReceipts with
  | nil => exact fun receipts listed => listed
  | cons next rest ih =>
    intro receipts listed
    obtain ⟨here, later⟩ := not_or.1 (mt List.mem_cons.2 apart)
    exact ih later _ (mem_upsertOne listed here)

end

/-! ## One operation -/

section

variable {Receipt Input : Type} (ledger : ReceiptLedger Receipt Input)

theorem map_upsertJsonReceipts (nextReceipts : List Receipt) :
    ∀ receipts, (upsertJsonReceipts
        (fun current next => sameRef (ledger.toReceipt current) (ledger.toReceipt next))
        receipts nextReceipts).map ledger.toReceipt =
      upsertJsonReceipts sameRef (receipts.map ledger.toReceipt)
        (nextReceipts.map ledger.toReceipt) := by
  induction nextReceipts with
  | nil => exact fun receipts => rfl
  | cons next rest ih =>
    intro receipts
    refine (ih _).trans (congrArg (upsertJsonReceipts sameRef · (rest.map ledger.toReceipt)) ?_)
    unfold upsertOne
    rw [List.findIdx?_map]
    cases found : receipts.findIdx? fun current =>
        sameRef (ledger.toReceipt current) (ledger.toReceipt next) with
    | some index =>
      have same : receipts.findIdx? ((fun current => sameRef current (ledger.toReceipt next)) ∘
          ledger.toReceipt) = some index := found
      rw [same]
      exact List.map_set
    | none =>
      have same : receipts.findIdx? ((fun current => sameRef current (ledger.toReceipt next)) ∘
          ledger.toReceipt) = none := found
      rw [same]
      rfl

theorem map_read (now : String) (file : LedgerFile) :
    (read ledger now file).map ledger.toReceipt = held ledger file := by
  unfold held read
  rw [List.map_filterMap, List.map_filterMap]
  exact List.filterMap_congr fun value _ => ledger.timeless now "" value

theorem ledgerEntries_write (receipts : List Receipt) :
    ledgerEntries (write ledger receipts) = receipts.map ledger.toJson := by
  have written : field? (ledger.emptyLedger ++ [("receipts", .array (receipts.map ledger.toJson))])
      "receipts" = some (.array (receipts.map ledger.toJson)) := by
    rw [field?, List.lookup_append]
    exact congrArg (Option.or · _) ledger.headed
  rw [write, ledgerEntries, written]

theorem held_write (receipts : List Receipt) :
    held ledger (write ledger receipts) = receipts.map ledger.toReceipt := by
  unfold held read
  rw [ledgerEntries_write, List.map_filterMap, List.filterMap_map]
  rw [← List.filterMap_eq_map]
  exact List.filterMap_congr fun receipt _ => ledger.readsBack "" receipt

/-! ## What an operation does to the receipts -/

theorem held_record (now : String) (inputs : List Input) (file : LedgerFile) :
    held ledger (record ledger now inputs file).2 =
      upsertJsonReceipts sameRef (held ledger file)
        ((receiptsOf ledger now inputs).map ledger.toReceipt) := by
  unfold record
  dsimp only
  cases receipts : receiptsOf ledger now inputs with
  | nil => rfl
  | cons first rest =>
    rw [if_neg (by simp), held_write, map_upsertJsonReceipts, map_read]

/-- A verification sets one receipt to verified, or changes nothing. -/
theorem held_verify (now : String) (receiptRef : Option String) (file : LedgerFile) :
    held ledger (verify ledger now receiptRef file).2 = held ledger file ∨
      ∃ index current, (held ledger file)[index]? = some current ∧
        held ledger (verify ledger now receiptRef file).2 =
          (held ledger file).set index current.verify := by
  unfold verify
  dsimp only
  split
  · exact .inl rfl
  · rename_i index _
    split
    · exact .inl rfl
    · rename_i current there
      refine .inr ⟨index, ledger.toReceipt current, ?_, ?_⟩
      · rw [← map_read ledger now, List.getElem?_map, there]
        rfl
      · rw [held_write, List.map_set, map_read, ledger.verifies]

theorem refsOf_step (file : LedgerFile) (operation : Operation Input) :
    refsOf (held ledger file) ⊆ refsOf (held ledger (step ledger file operation)) ∧
      ∀ ref, (refsOf (held ledger (step ledger file operation))).count ref ≤
        max 1 ((refsOf (held ledger file)).count ref) := by
  cases operation with
  | record now inputs =>
    have recorded := held_record ledger now inputs file
    rw [step, recorded]
    exact refsOf_upserts _ _
  | verify now receiptRef =>
    have same : refsOf (held ledger (step ledger file (.verify now receiptRef))) =
        refsOf (held ledger file) := by
      obtain unchanged | ⟨index, current, there, changed⟩ := held_verify ledger now receiptRef file
      · exact congrArg refsOf unchanged
      · exact (congrArg refsOf changed).trans (refsOf_set there rfl)
    rw [same]
    exact ⟨List.Subset.refl _, fun ref => le_max_right _ _⟩

/-- A receipt that is not recorded again keeps its verification. -/
theorem verified_step {receipt : JsonReceipt} {file : LedgerFile} {operation : Operation Input}
    (listed : receipt ∈ held ledger file) (verified : receipt.receiptStatus = .verified) :
    receipt ∈ held ledger (step ledger file operation) ∨
      receipt.receiptRef ∈ recordedRefs ledger operation := by
  cases operation with
  | record now inputs =>
    by_cases again : receipt.receiptRef ∈ recordedRefs ledger (.record now inputs)
    · exact .inr again
    · left
      have recorded := held_record ledger now inputs file
      rw [step, recorded]
      refine mem_upserts ?_ _ listed
      rw [refsOf, List.map_map]
      exact again
  | verify now receiptRef =>
    left
    obtain unchanged | ⟨index, current, there, changed⟩ := held_verify ledger now receiptRef file
    · rw [step, unchanged]
      exact listed
    · rw [step, changed]
      obtain ⟨place, found⟩ := List.mem_iff_getElem?.1 listed
      refine List.mem_iff_getElem?.2 ⟨place, ?_⟩
      by_cases here : index = place
      · subst here
        have bound := (List.getElem?_eq_some_iff.1 found).1
        obtain rfl := Option.some.inj (there.symm.trans found)
        rw [List.getElem?_set_self bound, JsonReceipt.verify, ← verified]
      · rw [List.getElem?_set_ne here, found]

/-! ## Every sequence of operations -/

theorem count_after (operations : List (Operation Input)) :
    ∀ start ref, (refsOf (held ledger (after ledger start operations))).count ref ≤
      max 1 ((refsOf (held ledger start)).count ref) := by
  induction operations with
  | nil => exact fun start ref => le_max_right _ _
  | cons operation rest ih =>
    intro start ref
    refine (ih (step ledger start operation) ref).trans ?_
    exact max_le (le_max_left _ _) ((refsOf_step ledger start operation).2 ref)

/-- Whatever the file holds at first: no reference comes to have a second entry, no receipt is
lost, and only a recorded receipt loses its verification. -/
theorem ledger_keeps (start : LedgerFile) (operations : List (Operation Input))
    (operation : Operation Input) :
    (∀ ref, (refsOf (held ledger (after ledger start operations))).count ref ≤
        max 1 ((refsOf (held ledger start)).count ref)) ∧
      refsOf (held ledger (after ledger start operations)) ⊆
        refsOf (held ledger (after ledger start (operations ++ [operation]))) ∧
      ∀ ref, ⟨ref, .verified⟩ ∈ held ledger (after ledger start operations) →
        ⟨ref, .verified⟩ ∈ held ledger (after ledger start (operations ++ [operation])) ∨
          ref ∈ recordedRefs ledger operation := by
  have next : after ledger start (operations ++ [operation]) =
      step ledger (after ledger start operations) operation := by
    rw [after, List.foldl_append]
    rfl
  rw [next]
  refine ⟨count_after ledger operations start, (refsOf_step ledger _ operation).1, ?_⟩
  intro ref listed
  exact verified_step ledger listed rfl

end

end OnePersonLab.Evidence.JsonReceipts
