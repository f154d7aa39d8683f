import OnePersonLab.Evolution.Stores

/-!
# The history of a target

The transactions of a target are contiguous, the activation pointer is what
they fold to, and a rollback goes back to a version that was active before.
Registration and activation keep this.
-/

namespace OnePersonLab.Evolution

open Contract

/-- The version that a history leaves active. -/
def activeAfter (history : List CommittedTransaction) : Option String :=
  history.getLast?.map fun entry => entry.toVersionDigest

/-- A transaction that may follow a history. -/
structure EntryFollows (versions : List AgentVersion) (earlier : List CommittedTransaction)
    (entry : CommittedTransaction) : Prop where
  transactionId :
    entry.transactionId = s!"activation:{entry.targetAgentId}:{earlier.length + 1}"
  previousRevision : entry.previousRevision = earlier.length
  nextRevision : entry.nextRevision = earlier.length + 1
  fromVersion : entry.fromVersionDigest = activeAfter earlier
  registered : ∃ version ∈ versions, version.versionDigest = entry.toVersionDigest
  rollback : entry.transactionKind = .rollback →
    activeAfter earlier ≠ some entry.toVersionDigest ∧
      ∃ prior ∈ earlier, prior.toVersionDigest = entry.toVersionDigest

structure RegistryState.Coherent (state : RegistryState) : Prop where
  history : ∀ earlier entry, earlier ++ [entry] <+: state.transactions →
    EntryFollows state.versions earlier entry
  revision : state.activation.revision = state.transactions.length
  active : state.activation.activeVersionDigest = activeAfter state.transactions

theorem coherent_initial (targetAgentId targetDomainId : String) :
    (RegistryState.initial targetAgentId targetDomainId).Coherent where
  history := by simp [RegistryState.initial]
  revision := rfl
  active := rfl

section Coherent

variable {state changed : RegistryState}

variable {entry : CommittedTransaction}

/-- The place of an entry is its revision. -/
theorem RegistryState.Coherent.getElem?_previousRevision (coherent : state.Coherent)
    (listed : entry ∈ state.transactions) :
    state.transactions[entry.previousRevision]? = some entry := by
  obtain ⟨earlier, rest, whole⟩ := List.append_of_mem listed
  have follows := coherent.history earlier entry ⟨rest, by simp [whole]⟩
  rw [follows.previousRevision, whole]
  simp

theorem RegistryState.Coherent.previousRevision_of_getElem? (coherent : state.Coherent)
    {index : Nat} (found : state.transactions[index]? = some entry) :
    entry.previousRevision = index := by
  obtain ⟨inside, rfl⟩ := List.getElem?_eq_some_iff.1 found
  have within : state.transactions.take index ++ [state.transactions[index]] <+:
      state.transactions := by
    rw [← List.take_succ_eq_append_getElem inside]
    exact List.take_prefix _ _
  rw [(coherent.history _ _ within).previousRevision, List.length_take]
  omega

/-- One transaction for each revision. -/
theorem RegistryState.Coherent.unique (coherent : state.Coherent) {other : CommittedTransaction}
    (listed : entry ∈ state.transactions) (listed' : other ∈ state.transactions)
    (same : entry.previousRevision = other.previousRevision) : entry = other := by
  have here := coherent.getElem?_previousRevision listed
  rw [same, coherent.getElem?_previousRevision listed'] at here
  exact (Option.some.inj here).symm

theorem RegistryState.Coherent.transactionId (coherent : state.Coherent)
    (listed : entry ∈ state.transactions) :
    entry.transactionId =
      s!"activation:{entry.targetAgentId}:{entry.previousRevision + 1}" := by
  obtain ⟨earlier, rest, whole⟩ := List.append_of_mem listed
  have follows := coherent.history earlier entry ⟨rest, by simp [whole]⟩
  rw [follows.transactionId, follows.previousRevision]

/-- An id ends with the number of its transaction. -/
theorem transactionId_inj {targetAgentId otherAgentId : String} {revision otherRevision : Nat}
    (same : s!"activation:{targetAgentId}:{revision}" =
      s!"activation:{otherAgentId}:{otherRevision}") : revision = otherRevision := by
  have numeral : ∀ n, ':' ∉ (toString n : String).toList := fun n listed => by
    have digit := isDigit_of_mem_toString listed
    revert digit
    decide
  have spelled : ∀ (agent : String) (n : Nat), s!"activation:{agent}:{n}".toList =
      ("activation:" ++ agent).toList ++ ':' :: (toString n).toList := fun agent n => by
    change ("activation:" ++ agent ++ ":" ++ toString n).toList = _
    simp
  have texts := congrArg String.toList same
  rw [spelled, spelled] at texts
  have digits := (append_cons_inj_of_last (numeral _) (numeral _) texts).2
  exact toString_inj (String.toList_injective digits)

theorem RegistryState.Coherent.find_transactionId (coherent : state.Coherent)
    (listed : entry ∈ state.transactions) :
    state.transactions.find? (fun other => other.transactionId = entry.transactionId) =
      some entry := by
  have found : (state.transactions.find?
      fun other => other.transactionId = entry.transactionId).isSome = true :=
    List.find?_isSome.2 ⟨entry, listed, by simp⟩
  obtain ⟨other, found⟩ := Option.isSome_iff_exists.1 found
  have listed' := List.mem_of_find?_eq_some found
  have same : other.transactionId = entry.transactionId := by simpa using List.find?_some found
  rw [coherent.transactionId listed, coherent.transactionId listed'] at same
  have revision := transactionId_inj same
  rw [found, coherent.unique listed' listed (by omega)]

theorem RegistryState.Coherent.find_history (coherent : state.Coherent)
    (listed : entry ∈ state.transactions) :
    (state.transactions.map CommittedTransaction.toActivationTransaction).find?
        (fun other => other.transactionId = entry.transactionId) =
      some entry.toActivationTransaction := by
  rw [List.find?_map]
  exact congrArg (Option.map CommittedTransaction.toActivationTransaction)
    (coherent.find_transactionId listed)

theorem RegistryState.Coherent.trim_transactionId (coherent : state.Coherent)
    (listed : entry ∈ state.transactions) :
    trim entry.transactionId = entry.transactionId ∧ entry.transactionId ≠ "" := by
  have opens : ("activation:" ++ entry.targetAgentId ++ ":").toList =
      'a' :: ("ctivation:" ++ entry.targetAgentId ++ ":").toList := by simp
  have whole : entry.transactionId = "activation:" ++ entry.targetAgentId ++ ":" ++
      toString (entry.previousRevision + 1) := coherent.transactionId listed
  rw [whole]
  exact ⟨trim_append opens (by decide) (trim_toString _) (toString_ne_empty _),
    by simp⟩

/-- Growing the versions keeps a history. -/
theorem RegistryState.Coherent.of_versions (coherent : state.Coherent)
    (versions : state.versions <+: changed.versions)
    (transactions : changed.transactions = state.transactions)
    (activation : changed.activation = state.activation) : changed.Coherent where
  history := by
    intro earlier entry within
    rw [transactions] at within
    have follows := coherent.history earlier entry within
    obtain ⟨version, listed, named⟩ := follows.registered
    exact { follows with registered := ⟨version, versions.subset listed, named⟩ }
  revision := by rw [transactions, activation, coherent.revision]
  active := by rw [transactions, activation, coherent.active]

theorem RegistryState.Coherent.register {platform : Platform} {input : RegisterInput}
    {registered : RegisteredVersion} (coherent : state.Coherent)
    (done : state.register platform input = .ok (changed, registered)) : changed.Coherent := by
  unfold RegistryState.register at done
  split at done
  · split at done
    · cases done
    · simp only [bind_eq_ok, ensure_eq_ok, pure_eq_ok, Prod.mk.injEq] at done
      obtain ⟨_, -, rfl, -⟩ := done
      exact coherent
  · simp only [pure_eq_ok, Prod.mk.injEq] at done
    obtain ⟨rfl, -⟩ := done
    exact coherent.of_versions (List.prefix_append _ _) rfl rfl

theorem RegistryState.assertRollback_eq_ok {input : ActivationInput}
    (asserted : state.assertRollback input = .ok ()) (kind : input.transactionKind = .rollback) :
    state.activation.activeVersionDigest ≠ some input.versionDigest ∧
      ∃ entry ∈ state.transactions, entry.toVersionDigest = input.versionDigest := by
  simp only [RegistryState.assertRollback, bind_eq_ok, ensure_eq_ok] at asserted
  obtain ⟨_, inactive, known⟩ := asserted
  exact ⟨inactive kind, known kind⟩

theorem RegistryState.Coherent.activate {input : ActivationInput} {madeBy : Option String}
    {transaction : ActivationTransaction} (coherent : state.Coherent)
    (done : state.activate input madeBy = .ok (changed, transaction)) : changed.Coherent := by
  unfold RegistryState.activate at done
  split at done
  · cases done
  · rename_i version found
    simp only [bind_eq_ok] at done
    obtain ⟨_, -, done⟩ := done
    split at done
    · simp only [bind_eq_ok, ensure_eq_ok, pure_eq_ok, Prod.mk.injEq] at done
      obtain ⟨_, -, rfl, -⟩ := done
      exact coherent
    · simp only [bind_eq_ok, ensure_eq_ok, pure_eq_ok, Prod.mk.injEq] at done
      obtain ⟨_, -, _, rollback, rfl, -⟩ := done
      refine ⟨fun earlier entry within => ?_, ?_, ?_⟩
      · rcases List.prefix_concat_iff.1 within with whole | shorter
        · obtain ⟨rfl, same⟩ := List.append_inj' whole rfl
          obtain rfl := List.singleton_inj.1 same
          refine ⟨rfl, coherent.revision, by simp [RegistryState.transaction, coherent.revision],
            coherent.active, ⟨version, List.mem_of_find?_eq_some found, ?_⟩, fun kind => ?_⟩
          · simpa [RegistryState.transaction] using List.find?_some found
          · rw [← coherent.active]
            exact assertRollback_eq_ok rollback kind
        · exact coherent.history earlier entry shorter
      · simp [RegistryState.transaction, coherent.revision]
      · simp [activeAfter, RegistryState.transaction]

end Coherent

/-- A coherent state whose transactions belong to its key and whose versions
carry the digests of their contents. -/
structure RegistryState.Sound (platform : Platform) (key : String) (state : RegistryState) :
    Prop extends state.Coherent where
  keyed : ∀ entry ∈ state.transactions,
    targetKey entry.targetAgentId entry.targetDomainId = key
  sealed : ∀ version ∈ state.versions,
    version.versionDigest = platform.digest (.object version.base)

section Sound

variable {platform : Platform} {key : String} {state changed : RegistryState}

theorem sound_initial (targetAgentId targetDomainId : String) :
    (RegistryState.initial targetAgentId targetDomainId).Sound platform key where
  toCoherent := coherent_initial targetAgentId targetDomainId
  keyed := by simp [RegistryState.initial]
  sealed := by simp [RegistryState.initial]

theorem RegistryState.Sound.register {input : RegisterInput} {registered : RegisteredVersion}
    (sound : state.Sound platform key)
    (done : state.register platform input = .ok (changed, registered)) :
    changed.Sound platform key := by
  refine ⟨sound.toCoherent.register done, ?_, ?_⟩ <;> unfold RegistryState.register at done <;>
    split at done
  · split at done
    · cases done
    · simp only [bind_eq_ok, ensure_eq_ok, pure_eq_ok, Prod.mk.injEq] at done
      obtain ⟨_, -, rfl, -⟩ := done
      exact sound.keyed
  · simp only [pure_eq_ok, Prod.mk.injEq] at done
    obtain ⟨rfl, -⟩ := done
    exact sound.keyed
  · split at done
    · cases done
    · simp only [bind_eq_ok, ensure_eq_ok, pure_eq_ok, Prod.mk.injEq] at done
      obtain ⟨_, -, rfl, -⟩ := done
      exact sound.sealed
  · simp only [pure_eq_ok, Prod.mk.injEq] at done
    obtain ⟨rfl, -⟩ := done
    intro version listed
    rcases List.mem_append.1 listed with known | new
    · exact sound.sealed version known
    · obtain rfl := List.mem_singleton.1 new
      rfl

theorem RegistryState.Sound.activate {input : ActivationInput} {madeBy : Option String}
    {transaction : ActivationTransaction} (sound : state.Sound platform key)
    (named : targetKey input.targetAgentId input.targetDomainId = key)
    (done : state.activate input madeBy = .ok (changed, transaction)) :
    changed.Sound platform key := by
  have coherent := sound.toCoherent.activate done
  unfold RegistryState.activate at done
  split at done
  · cases done
  · simp only [bind_eq_ok] at done
    obtain ⟨_, -, done⟩ := done
    split at done
    · simp only [bind_eq_ok, ensure_eq_ok, pure_eq_ok, Prod.mk.injEq] at done
      obtain ⟨_, -, rfl, -⟩ := done
      exact sound
    · simp only [bind_eq_ok, ensure_eq_ok, pure_eq_ok, Prod.mk.injEq] at done
      obtain ⟨_, -, _, -, rfl, -⟩ := done
      refine ⟨coherent, fun entry listed => ?_, sound.sealed⟩
      rcases List.mem_append.1 listed with known | new
      · exact sound.keyed entry known
      · obtain rfl := List.mem_singleton.1 new
        exact named

end Sound

end OnePersonLab.Evolution
