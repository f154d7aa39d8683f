import OnePersonLab.Evidence.WorkItemUpdates

/-!
# The work item control ledger as the fold of its transitions

A call sets one axis of an item and leaves the other. A transition of the first version stands
for both axes once it is migrated, since `archived` took the place of a lifecycle there. With
that the items are at every time what the transitions say, whatever ledger came first.
-/

namespace OnePersonLab.Evidence

open Lib

/-! ## Calls in turn -/

structure ControlCall where
  request : ControlRequest
  updatedAt : String
  uuid : String

/-- The file after a call that nothing comes between. -/
def LedgerFile.after (file : LedgerFile) (call : ControlCall) : LedgerFile :=
  match prepareControl file call.request call.updatedAt call.uuid with
  | .error _ => file
  | .ok (_, prepared) => if call.request.dryRun then file else .v2 prepared.nextLedger

def LedgerFile.afterCalls (file : LedgerFile) (calls : List ControlCall) : LedgerFile :=
  calls.foldl LedgerFile.after file

/-! ## Ledgers of the first version -/

/-- The last transition of an item. -/
def lastLegacy (transitions : List LegacyTransition) (key : String) : Option LegacyTransition :=
  transitions.find? fun transition => transition.entry.controlKey = key

/-- Every transition names the state that the one before it left. -/
def NamesPrevious : List LegacyTransition → Prop
  | [] => True
  | transition :: older =>
    transition.previousState =
      (lastLegacy older transition.entry.controlKey).map (·.entry.lifecycleState) ∧
    NamesPrevious older

/-- A ledger that transitions of the first version led to: the transitions newest first, and of
each item the last state. -/
structure LegacyHistory (ledger : LegacyLedger) : Prop where
  counted : 0 ≤ ledger.generation
  generations : ∀ transition ∈ ledger.transitions, 0 ≤ transition.entry.generation
  previous : NamesPrevious ledger.transitions
  once : (ledger.items.map (·.controlKey)).Nodup
  last : ∀ entry, entry ∈ ledger.items ↔
    (lastLegacy ledger.transitions entry.controlKey).map (·.entry) = some entry

/-- The transitions of the first version, as they are read. -/
def LedgerFile.migrated : LedgerFile → List WorkItemControlTransition
  | .v1 legacy => legacy.transitions.map migrateLegacyTransition
  | _ => []

/-! ## What the transitions say -/

/-- The last transition of an item on one axis. -/
def lastOn (axis : ControlAxis) (transitions : List WorkItemControlTransition) (key : String) :
    Option WorkItemControlTransition :=
  transitions.find? fun transition =>
    transition.entry.controlKey = key && transition.controlAxis = axis

/-- The last lifecycle that was set, or the one there was before. -/
def lifecycleAfter (transitions : List WorkItemControlTransition) (key : String)
    (opening : Option LifecycleState) : Option LifecycleState :=
  ((lastOn .lifecycle transitions key).map (·.entry.lifecycleState)).getD opening

/-- The last visibility that was set, or the one there was before. -/
def visibilityAfter (transitions : List WorkItemControlTransition) (key : String)
    (opening : VisibilityState) : VisibilityState :=
  ((lastOn .visibility transitions key).map (·.entry.visibilityState)).getD opening

/-- The states that the last transition of an item left. -/
def lastEntry (transitions : List WorkItemControlTransition) (key : String) :
    Option WorkItemControlEntry :=
  (transitions.find? fun transition => transition.entry.controlKey = key).map (·.entry)

/-- Every item once, with what its transitions on each axis set last. -/
structure AxisFold (ledger : WorkItemControlLedger) : Prop where
  once : (ledger.items.map (·.controlKey)).Nodup
  values : ∀ entry ∈ ledger.items,
    entry.lifecycleState = lifecycleAfter ledger.transitions entry.controlKey none ∧
    entry.visibilityState = visibilityAfter ledger.transitions entry.controlKey .visible

/-- An entry has what the recorded transitions set on each axis, after the states that the
last migrated transition left. -/
def ValuesAfter (recorded migrated : List WorkItemControlTransition)
    (entry : WorkItemControlEntry) : Prop :=
  entry.lifecycleState = lifecycleAfter recorded entry.controlKey
      ((lastEntry migrated entry.controlKey).bind (·.lifecycleState)) ∧
    entry.visibilityState = visibilityAfter recorded entry.controlKey
      (((lastEntry migrated entry.controlKey).map (·.visibilityState)).getD .visible)

/-- Every item with a transition once, with what its transitions say. -/
structure FoldOf (migrated : List WorkItemControlTransition) (ledger : WorkItemControlLedger) :
    Prop where
  once : (ledger.items.map (·.controlKey)).Nodup
  keys : ∀ key, (∃ entry ∈ ledger.items, entry.controlKey = key) ↔
    ∃ transition ∈ ledger.transitions, transition.entry.controlKey = key
  values : ∃ recorded, ledger.transitions = recorded ++ migrated ∧
    ∀ entry ∈ ledger.items, ValuesAfter recorded migrated entry

/-! ## One call -/

/-- What a call does to the items of the ledger that it read. -/
structure Sets (seen : WorkItemControlLedger) (prepared : Prepared) : Prop where
  items : prepared.nextLedger.items = prepared.transition.entry ::
    seen.items.filter (·.controlKey ≠ prepared.transition.entry.controlKey)
  lifecycle : prepared.transition.controlAxis = .visibility →
    prepared.transition.entry.lifecycleState =
      (seen.items.find? (·.controlKey = prepared.transition.entry.controlKey)).bind
        (·.lifecycleState)
  visibility : prepared.transition.controlAxis = .lifecycle →
    prepared.transition.entry.visibilityState =
      ((seen.items.find? (·.controlKey = prepared.transition.entry.controlKey)).map
        (·.visibilityState)).getD .visible

section

variable {file : LedgerFile} {seen : WorkItemControlLedger} {prepared : Prepared}
  {recorded migrated : List WorkItemControlTransition}

theorem controlKey_set {base : WorkItemControlEntry} {reason : Option String}
    {source updatedAt : String} {generation : Int} (state : ControlState) :
    (base.set reason source generation updatedAt state).controlKey = base.controlKey := by
  cases state <;> rfl

theorem controlKey_base (items : List WorkItemControlEntry) (identity : WorkItemControlIdentity)
    (generation : Int) (updatedAt key : String) :
    ((items.find? (·.controlKey = key)).getD
      (newControlEntry identity key generation updatedAt)).controlKey = key := by
  cases found : items.find? fun entry => decide (entry.controlKey = key) with
  | none => rfl
  | some previous =>
    have same := List.find?_some found
    exact of_decide_eq_true same

theorem sets_of_prepare {request : ControlRequest} {updatedAt uuid : String}
    (ran : prepareControl file request updatedAt uuid = .ok (seen, prepared)) :
    Sets seen prepared := by
  simp only [prepareControl, setWorkItemControlAxis, ok_of_bind, ok_of_pure, Prod.mk.injEq] at ran
  obtain ⟨identity, -, state, -, ledger, read, _, ⟨_, checked, rfl⟩, rfl, rfl⟩ := ran
  have key : ∀ (reason : Option String) (source : String),
      (((ledger.items.find? (·.controlKey = workItemControlKey identity)).getD
        (newControlEntry identity (workItemControlKey identity) (ledger.generation + 1)
          updatedAt)).set reason source (ledger.generation + 1) updatedAt state).controlKey =
        workItemControlKey identity := by
    intro reason source
    rw [controlKey_set, controlKey_base]
  constructor
  · dsimp only
    rw [key]
  · intro axis
    dsimp only
    rw [key]
    cases state with
    | lifecycle state => cases axis
    | visibility state =>
      cases ledger.items.find? fun entry => decide (entry.controlKey = workItemControlKey identity)
      · rfl
      · rfl
  · intro axis
    dsimp only
    rw [key]
    cases state with
    | visibility state => cases axis
    | lifecycle state =>
      cases ledger.items.find? fun entry => decide (entry.controlKey = workItemControlKey identity)
      · rfl
      · rfl

theorem lastOn_cons (axis : ControlAxis) (transition : WorkItemControlTransition)
    (older : List WorkItemControlTransition) (key : String) :
    lastOn axis (transition :: older) key =
      if transition.entry.controlKey = key ∧ transition.controlAxis = axis then some transition
      else lastOn axis older key := by
  rw [lastOn, List.find?_cons, ← Bool.decide_and]
  split_ifs with here
  · rw [decide_eq_true here]
  · rw [decide_eq_false here]
    rfl

/-- A transition of another item changes nothing. -/
theorem ValuesAfter.cons_other {transition : WorkItemControlTransition}
    {entry : WorkItemControlEntry} (values : ValuesAfter recorded migrated entry)
    (other : entry.controlKey ≠ transition.entry.controlKey) :
    ValuesAfter (transition :: recorded) migrated entry := by
  have skipped : ∀ axis, lastOn axis (transition :: recorded) entry.controlKey =
      lastOn axis recorded entry.controlKey := by
    intro axis
    rw [lastOn_cons, if_neg]
    rintro ⟨same, _⟩
    exact other same.symm
  rw [ValuesAfter, lifecycleAfter, visibilityAfter, skipped, skipped]
  exact values

theorem lastOn_eq_none {axis : ControlAxis} {transitions : List WorkItemControlTransition}
    {key : String} (absent : ∀ transition ∈ transitions, transition.entry.controlKey ≠ key) :
    lastOn axis transitions key = none := by
  rw [lastOn, List.find?_eq_none]
  intro transition listed found
  rw [Bool.and_eq_true] at found
  exact absent transition listed (of_decide_eq_true found.1)

theorem lastEntry_eq_none {transitions : List WorkItemControlTransition} {key : String}
    (absent : ∀ transition ∈ transitions, transition.entry.controlKey ≠ key) :
    lastEntry transitions key = none := by
  rw [lastEntry, Option.map_eq_none_iff, List.find?_eq_none]
  intro transition listed found
  exact absent transition listed (of_decide_eq_true found)

/-- What a call finds of an item is what the transitions say of it. -/
theorem found_values {ledger : WorkItemControlLedger} (fold : FoldOf migrated ledger)
    (split : ledger.transitions = recorded ++ migrated)
    (values : ∀ entry ∈ ledger.items, ValuesAfter recorded migrated entry) (key : String) :
    (ledger.items.find? (·.controlKey = key)).bind (·.lifecycleState) =
        lifecycleAfter recorded key ((lastEntry migrated key).bind (·.lifecycleState)) ∧
      ((ledger.items.find? (·.controlKey = key)).map (·.visibilityState)).getD .visible =
        visibilityAfter recorded key
          (((lastEntry migrated key).map (·.visibilityState)).getD .visible) := by
  cases found : ledger.items.find? fun entry => decide (entry.controlKey = key) with
  | some entry =>
    have same := List.find?_some found
    obtain rfl := of_decide_eq_true same
    exact values entry (List.mem_of_find?_eq_some found)
  | none =>
    have absent : ∀ transition ∈ ledger.transitions, transition.entry.controlKey ≠ key := by
      intro transition listed same
      obtain ⟨entry, here, named⟩ := (fold.keys key).2 ⟨transition, listed, same⟩
      exact List.find?_eq_none.1 found entry here (decide_eq_true named)
    rw [split, List.forall_mem_append] at absent
    rw [lifecycleAfter, visibilityAfter, lastOn_eq_none absent.1, lastOn_eq_none absent.1,
      lastEntry_eq_none absent.2]
    exact ⟨rfl, rfl⟩

/-- The set entry has what its transition and the earlier ones say. -/
theorem Sets.values (sets : Sets seen prepared) (fold : FoldOf migrated seen)
    (split : seen.transitions = recorded ++ migrated)
    (values : ∀ entry ∈ seen.items, ValuesAfter recorded migrated entry) :
    ValuesAfter (prepared.transition :: recorded) migrated prepared.transition.entry := by
  obtain ⟨lifecycle, visibility⟩ := found_values fold split values
    prepared.transition.entry.controlKey
  rw [ValuesAfter, lifecycleAfter, visibilityAfter, lastOn_cons, lastOn_cons]
  cases axis : prepared.transition.controlAxis with
  | lifecycle =>
    rw [if_pos ⟨rfl, rfl⟩, if_neg (by rintro ⟨_, ⟨⟩⟩)]
    exact ⟨rfl, (sets.visibility axis).trans visibility⟩
  | visibility =>
    rw [if_neg (by rintro ⟨_, ⟨⟩⟩), if_pos ⟨rfl, rfl⟩]
    exact ⟨(sets.lifecycle axis).trans lifecycle, rfl⟩

/-- A call keeps the items the fold of the transitions. -/
theorem FoldOf.set {request : ControlRequest} (fold : FoldOf migrated seen)
    (sets : Sets seen prepared) (continues : Continues request seen prepared) :
    FoldOf migrated prepared.nextLedger := by
  refine ⟨?_, ?_, ?_⟩
  · rw [sets.items, List.map_cons, List.nodup_cons]
    refine ⟨?_, (List.filter_sublist.map _).nodup fold.once⟩
    intro repeated
    obtain ⟨entry, listed, same⟩ := List.mem_map.1 repeated
    exact of_decide_eq_true (List.mem_filter.1 listed).2 same
  · intro key
    rw [sets.items, continues.transitions]
    by_cases own : prepared.transition.entry.controlKey = key
    · exact iff_of_true ⟨_, List.mem_cons_self, own⟩ ⟨_, List.mem_cons_self, own⟩
    · constructor
      · rintro ⟨entry, listed, same⟩
        obtain rfl | earlier := List.mem_cons.1 listed
        · exact absurd same own
        · obtain ⟨transition, here, named⟩ :=
            (fold.keys key).1 ⟨entry, List.mem_of_mem_filter earlier, same⟩
          exact ⟨transition, List.mem_cons_of_mem _ here, named⟩
      · rintro ⟨transition, listed, same⟩
        obtain rfl | earlier := List.mem_cons.1 listed
        · exact absurd same own
        · obtain ⟨entry, here, named⟩ := (fold.keys key).2 ⟨transition, earlier, same⟩
          refine ⟨entry, List.mem_cons_of_mem _ (List.mem_filter.2 ⟨here, ?_⟩), named⟩
          rw [named]
          exact decide_eq_true (Ne.symm own)
  · obtain ⟨recorded, split, values⟩ := fold.values
    refine ⟨prepared.transition :: recorded, ?_, ?_⟩
    · rw [continues.transitions, split, List.cons_append]
    · intro entry listed
      rw [sets.items] at listed
      obtain rfl | earlier := List.mem_cons.1 listed
      · exact sets.values fold split values
      · obtain ⟨here, other⟩ := List.mem_filter.1 earlier
        exact (values entry here).cons_other (of_decide_eq_true other)

/-! ## Runs -/

/-- The ledger can be read, and its items are the fold of its transitions. -/
def Folded (migrated : List WorkItemControlTransition) (file : LedgerFile) : Prop :=
  ∃ ledger, readWorkItemControlLedger file = .ok ledger ∧ 0 ≤ ledger.generation ∧
    FoldOf migrated ledger

theorem Folded.after (folded : Folded migrated file) (call : ControlCall) :
    Folded migrated (file.after call) := by
  rw [LedgerFile.after]
  cases ran : prepareControl file call.request call.updatedAt call.uuid with
  | error failure => exact folded
  | ok outcome =>
    obtain ⟨seen, prepared⟩ := outcome
    dsimp only
    split_ifs with dry
    · exact folded
    · obtain ⟨ledger, read, counted, fold⟩ := folded
      obtain ⟨found, continues⟩ := continues_of_prepare ran
      obtain rfl := Except.ok.inj (found.symm.trans read)
      refine ⟨prepared.nextLedger, continues.readable counted, ?_,
        fold.set (sets_of_prepare ran) continues⟩
      rw [continues.generation]
      omega

theorem Folded.afterCalls (folded : Folded migrated file) (calls : List ControlCall) :
    Folded migrated (file.afterCalls calls) := by
  induction calls generalizing file with
  | nil => exact folded
  | cons call rest ih => exact ih (folded.after call)

theorem folded_absent : Folded [] .absent := by
  refine ⟨emptyLedger, rfl, le_refl 0, List.nodup_nil, fun key => ?_, [], rfl, List.forall_mem_nil _⟩
  refine iff_of_false ?_ ?_
  · rintro ⟨entry, listed, _⟩
    cases listed
  · rintro ⟨transition, listed, _⟩
    cases listed

theorem controlKey_migrateLegacyEntry (entry : LegacyEntry) :
    (migrateLegacyEntry entry).controlKey = entry.controlKey := by
  unfold migrateLegacyEntry
  cases entry.lifecycleState <;> rfl

theorem lastEntry_migrated (transitions : List LegacyTransition) (key : String) :
    lastEntry (transitions.map migrateLegacyTransition) key =
      ((lastLegacy transitions key).map (·.entry)).map migrateLegacyEntry := by
  have keys : ((fun transition : WorkItemControlTransition =>
      decide (transition.entry.controlKey = key)) ∘ migrateLegacyTransition) =
        fun transition => decide (transition.entry.controlKey = key) := by
    funext transition
    show decide ((migrateLegacyEntry transition.entry).controlKey = key) = _
    rw [controlKey_migrateLegacyEntry]
  rw [lastEntry, List.find?_map, keys, Option.map_map, lastLegacy, Option.map_map]
  rfl

/-- An entry of the items is that of a transition. -/
theorem LegacyHistory.exists_transition {ledger : LegacyLedger} (history : LegacyHistory ledger)
    {entry : LegacyEntry} (listed : entry ∈ ledger.items) :
    ∃ transition ∈ ledger.transitions, transition.entry = entry := by
  obtain ⟨transition, found, same⟩ := Option.map_eq_some_iff.1 ((history.last entry).1 listed)
  exact ⟨transition, List.mem_of_find?_eq_some found, same⟩

/-- A transition has an item. -/
theorem LegacyHistory.exists_item {ledger : LegacyLedger} (history : LegacyHistory ledger)
    {transition : LegacyTransition} (listed : transition ∈ ledger.transitions) :
    ∃ entry ∈ ledger.items, entry.controlKey = transition.entry.controlKey := by
  cases found : lastLegacy ledger.transitions transition.entry.controlKey with
  | none => exact absurd (decide_eq_true rfl) (List.find?_eq_none.1 found transition listed)
  | some last =>
    have named := List.find?_some found
    have same : last.entry.controlKey = transition.entry.controlKey := of_decide_eq_true named
    refine ⟨last.entry, (history.last last.entry).2 ?_, same⟩
    rw [same, found, Option.map_some]

theorem folded_v1 {legacy : LegacyLedger} (history : LegacyHistory legacy) :
    Folded (LedgerFile.v1 legacy).migrated (.v1 legacy) := by
  have readable : (legacy.items.all (0 ≤ ·.generation) &&
      legacy.transitions.all (0 ≤ ·.entry.generation)) = true := by
    simp only [Bool.and_eq_true, List.all_eq_true, decide_eq_true_eq]
    refine ⟨?_, history.generations⟩
    intro entry listed
    obtain ⟨transition, here, rfl⟩ := history.exists_transition listed
    exact history.generations transition here
  refine ⟨_, if_pos readable, history.counted, ?_, ?_, [], rfl, ?_⟩
  · dsimp only
    rw [List.map_map]
    refine (List.map_congr_left fun entry _ => ?_) ▸ history.once
    exact (controlKey_migrateLegacyEntry entry).symm
  · intro key
    dsimp only
    constructor
    · rintro ⟨_, listed, rfl⟩
      obtain ⟨entry, here, rfl⟩ := List.mem_map.1 listed
      obtain ⟨transition, made, rfl⟩ := history.exists_transition here
      exact ⟨migrateLegacyTransition transition, List.mem_map_of_mem made, rfl⟩
    · rintro ⟨_, listed, rfl⟩
      obtain ⟨transition, here, rfl⟩ := List.mem_map.1 listed
      obtain ⟨entry, kept, same⟩ := history.exists_item here
      refine ⟨migrateLegacyEntry entry, List.mem_map_of_mem kept, ?_⟩
      show _ = (migrateLegacyEntry transition.entry).controlKey
      rw [controlKey_migrateLegacyEntry, controlKey_migrateLegacyEntry, same]
  · dsimp only
    intro migratedEntry listed
    obtain ⟨entry, here, rfl⟩ := List.mem_map.1 listed
    have last : lastEntry (LedgerFile.v1 legacy).migrated entry.controlKey =
        some (migrateLegacyEntry entry) := by
      rw [LedgerFile.migrated, lastEntry_migrated, (history.last entry).1 here, Option.map_some]
    rw [ValuesAfter, controlKey_migrateLegacyEntry, last]
    exact ⟨rfl, rfl⟩

/-- The files that a run starts from: none yet, or one of the first version. -/
def OpeningFile (file : LedgerFile) : Prop :=
  file = .absent ∨ ∃ legacy, file = .v1 legacy ∧ LegacyHistory legacy

/-- After any calls the items are the fold of the transitions, where a migrated transition sets
both axes. -/
theorem items_fold (file : LedgerFile) (opening : OpeningFile file) (calls : List ControlCall) :
    ∃ ledger, readWorkItemControlLedger (file.afterCalls calls) = .ok ledger ∧
      FoldOf file.migrated ledger := by
  have start : Folded file.migrated file := by
    obtain rfl | ⟨legacy, rfl, history⟩ := opening
    · exact folded_absent
    · exact folded_v1 history
  obtain ⟨ledger, read, _, fold⟩ := start.afterCalls calls
  exact ⟨ledger, read, fold⟩

end

/-! ## An item that was active and then archived -/

namespace ArchivedItem

def entryOf (state : LegacyLifecycleState) (generation : Int) : LegacyEntry where
  identity := ⟨"mas", "diabetes", "dm-004"⟩
  controlKey := "mas/diabetes/dm-004"
  lifecycleState := state
  reason := none
  source := "opl_app"
  generation := generation
  updatedAt := "2026-07-13T10:00:00.000Z"

def legacy : LegacyLedger where
  generation := 2
  updatedAt := some "2026-07-13T10:00:00.000Z"
  items := [entryOf .archived 2]
  transitions := [⟨entryOf .archived 2, "t2", some (.user .active)⟩,
    ⟨entryOf (.user .active) 1, "t1", none⟩]

theorem legacy_history : LegacyHistory legacy where
  counted := by decide
  generations := by decide
  previous := ⟨by decide +kernel, by decide +kernel, trivial⟩
  once := by decide
  last := by
    intro entry
    rw [show legacy.items = [entryOf .archived 2] from rfl, List.mem_singleton]
    constructor
    · rintro rfl
      decide +kernel
    · intro last
      by_cases own : entry.controlKey = "mas/diabetes/dm-004"
      · rw [own] at last
        exact (Option.some.inj last).symm
      · have absent : lastLegacy legacy.transitions entry.controlKey = none := by
          rw [lastLegacy, List.find?_eq_none]
          intro transition listed same
          simp only [legacy, List.mem_cons, List.not_mem_nil, or_false] at listed
          obtain rfl | rfl := listed <;> exact own (of_decide_eq_true same).symm
        rw [absent] at last
        cases last

/-- The item is active again after it was archived. -/
def activate : ControlCall where
  request :=
    { identity := ⟨"mas", "diabetes", "dm-004"⟩
      state := .lifecycle "active"
      reason := none
      source := none
      expectedGeneration := none
      dryRun := false }
  updatedAt := "2026-07-14T10:00:00.000Z"
  uuid := "u1"

theorem items_fold_archived :
    (∃ ledger, readWorkItemControlLedger ((LedgerFile.v1 legacy).afterCalls [activate]) =
      .ok ledger ∧ FoldOf (LedgerFile.v1 legacy).migrated ledger) :=
  items_fold (.v1 legacy) (.inr ⟨legacy, rfl, legacy_history⟩) [activate]

/-- The lifecycles of the items and those that the lifecycle axis says. -/
def lifecycles (file : LedgerFile) : List (Option LifecycleState × Option LifecycleState) :=
  match readWorkItemControlLedger file with
  | .ok ledger => ledger.items.map fun entry =>
      (entry.lifecycleState, lifecycleAfter ledger.transitions entry.controlKey none)
  | .error _ => []

theorem lifecycles_legacy : lifecycles (.v1 legacy) = [(none, some .active)] := by
  decide +kernel

/-- The archived item has no lifecycle, though its last transition on that axis set one. -/
theorem archived_not_axisFold : LegacyHistory legacy ∧
    ¬∀ ledger, readWorkItemControlLedger (.v1 legacy) = .ok ledger → AxisFold ledger := by
  refine ⟨legacy_history, ?_⟩
  intro claimed
  obtain ⟨ledger, read, _⟩ := folded_v1 legacy_history
  have observed := lifecycles_legacy
  rw [lifecycles, read] at observed
  obtain ⟨entry, rest, items, same, -⟩ := List.map_eq_cons_iff.1 observed
  have values := (claimed ledger read).values entry (items ▸ List.mem_cons_self)
  rw [Prod.mk.injEq] at same
  rw [same.1, same.2] at values
  cases values.1

end ArchivedItem

end OnePersonLab.Evidence
