import OnePersonLab.Stage.ReadModel
import OnePersonLab.Lib.Outcome

/-!
# Independence of the delivery order

The events of a StageRun are sorted before they are read, and an event that stands twice in
succession says nothing new. So the read model depends on the set of the events alone.
-/

namespace OnePersonLab.StageRunKernel

open Contract
open Lib
open StageRunEvent

/-! ## An event that comes twice -/

section

variable (front back : List StageRunEvent) (event : StageRunEvent)

theorem statusStep_again (status : Option StageRunStatus) :
    statusStep (statusStep status event) event = statusStep status event := by
  unfold statusStep
  split_ifs
  · rfl
  · rfl

theorem statusAfterEvents_again :
    statusAfterEvents (front ++ event :: event :: back) =
      statusAfterEvents (front ++ event :: back) := by
  simp only [statusAfterEvents, List.foldl_append, List.foldl_cons, statusStep_again]

/-- What an event adds once more is known. -/
theorem eraseDups_filterMap_again {α : Type} [BEq α] [LawfulBEq α]
    (read : StageRunEvent → Option α) :
    ((front ++ event :: event :: back).filterMap read).eraseDups =
      ((front ++ event :: back).filterMap read).eraseDups := by
  have known : (List.filterMap read [event]) ⊆ front.filterMap read ++ [event].filterMap read :=
    List.subset_append_right _ _
  have again := eraseDups_append_again known (back.filterMap read)
  simp only [← List.filterMap_append] at again
  simpa only [List.append_assoc, List.singleton_append] using again

theorem refsNamed_again (name : String) :
    refsNamed name (front ++ event :: event :: back) = refsNamed name (front ++ event :: back) :=
  eraseDups_filterMap_again front back event _

theorem acceptedRefs_again (kind : StageRunEventKind) (name : String) :
    acceptedRefs kind name (front ++ event :: event :: back) =
      acceptedRefs kind name (front ++ event :: back) := by
  simp only [acceptedRefs, List.filter_append, List.filter_cons]
  split_ifs
  · exact refsNamed_again _ _ event name
  · rfl

theorem consumedRefs_again :
    consumedRefs (front ++ event :: event :: back) = consumedRefs (front ++ event :: back) := by
  let artifacts := fun events : List StageRunEvent =>
    events.filterMap fun event => event.ref "artifact_ref"
  have inputs : event.inputRefs ⊆ front.flatMap inputRefs ++ event.inputRefs :=
    List.subset_append_right _ _
  have artifact : artifacts [event] ⊆
      (front ++ event :: back).flatMap inputRefs ++ artifacts (front ++ [event]) := by
    have parts : artifacts (front ++ [event]) = artifacts front ++ artifacts [event] :=
      List.filterMap_append
    rw [parts]
    exact List.Subset.trans (List.subset_append_right _ _) (List.subset_append_right _ _)
  have split : artifacts (front ++ event :: event :: back) =
      artifacts (front ++ [event]) ++ (artifacts [event] ++ artifacts back) := by
    simp only [artifacts, ← List.filterMap_append, List.append_assoc, List.singleton_append]
  have join : artifacts (front ++ [event]) ++ artifacts back = artifacts (front ++ event :: back) := by
    simp only [artifacts, ← List.filterMap_append, List.append_assoc, List.singleton_append]
  calc consumedRefs (front ++ event :: event :: back)
      = ((front.flatMap inputRefs ++ event.inputRefs) ++ (event.inputRefs ++
          (back.flatMap inputRefs ++ artifacts (front ++ event :: event :: back)))).eraseDups := by
        simp only [consumedRefs, List.flatMap_append, List.flatMap_cons, List.append_assoc,
          artifacts]
    _ = ((front ++ event :: back).flatMap inputRefs ++
          artifacts (front ++ event :: event :: back)).eraseDups := by
        rw [eraseDups_append_again inputs]
        simp only [List.flatMap_append, List.flatMap_cons, List.append_assoc]
    _ = ((front ++ event :: back).flatMap inputRefs ++ artifacts (front ++ [event]) ++
          (artifacts [event] ++ artifacts back)).eraseDups := by
        rw [split, List.append_assoc]
    _ = consumedRefs (front ++ event :: back) := by
        rw [eraseDups_append_again artifact, List.append_assoc, join, consumedRefs]

theorem head?_filterMap_again {α : Type} (read : StageRunEvent → Option α) :
    ((front ++ event :: event :: back).filterMap read).head? =
      ((front ++ event :: back).filterMap read).head? := by
  simp only [List.filterMap_append, List.filterMap_cons, List.head?_append]
  cases read event with
  | none => rfl
  | some value => rfl

theorem getLast?_filterMap_again {α : Type} (read : StageRunEvent → Option α) :
    ((front ++ event :: event :: back).filterMap read).getLast? =
      ((front ++ event :: back).filterMap read).getLast? := by
  simp only [List.filterMap_append, List.filterMap_cons, List.getLast?_append]
  cases read event with
  | none => rfl
  | some value => rw [List.getLast?_cons_cons]

theorem projectionOf_again (stageRunId : String) (generation : Nat) :
    projectionOf stageRunId generation (front ++ event :: event :: back) =
      projectionOf stageRunId generation (front ++ event :: back) := by
  have last : (front ++ event :: event :: back).getLast? = (front ++ event :: back).getLast? := by
    simp only [List.getLast?_append, List.getLast?_cons_cons]
  simp only [projectionOf, last, statusAfterEvents_again, consumedRefs_again, acceptedRefs_again,
    refsNamed_again, head?_filterMap_again, lastPresent, getLast?_filterMap_again]

end

/-! ## Lists of the same events -/

section

variable {before : String → String → Bool} {events others : List StageRunEvent}

/-- The comparison is a total order. -/
structure TotalOrder (before : String → String → Bool) : Prop where
  preorder : TotalPreorder before
  antisymm : ∀ left right, before left right = true → before right left = true → left = right

/-- Different events have different ids. -/
def DistinctIds (events : List StageRunEvent) : Prop :=
  ∀ event ∈ events, ∀ other ∈ events, event.eventId = other.eventId → event = other

theorem observedGeneration_le {bound : Nat} (events : List StageRunEvent) :
    observedGeneration events ≤ bound ↔ ∀ event ∈ events, event.generation ≤ bound := by
  induction events with
  | nil => exact iff_of_true (Nat.zero_le _) (List.forall_mem_nil _)
  | cons event rest ih =>
    rw [List.forall_mem_cons, ← ih]
    exact max_le_iff

theorem observedGeneration_congr (same : ∀ event, event ∈ events ↔ event ∈ others) :
    observedGeneration events = observedGeneration others := by
  apply le_antisymm
  · rw [observedGeneration_le]
    intro event listed
    exact (observedGeneration_le others).1 (le_refl _) event ((same event).1 listed)
  · rw [observedGeneration_le]
    intro event listed
    exact (observedGeneration_le events).1 (le_refl _) event ((same event).2 listed)

theorem mem_currentEvents {event : StageRunEvent} : event ∈ currentEvents before events ↔
    event ∈ events ∧ event.generation = observedGeneration events := by
  rw [currentEvents, mem_stableSort, List.mem_filter, decide_eq_true_iff]

/-- The order of the current events. -/
def eventBefore (before : String → String → Bool) (event other : StageRunEvent) : Bool :=
  lexBefore before before (event.observedAt, event.eventId) (other.observedAt, other.eventId)

theorem currentEvents_sorted (order : TotalPreorder before) (events : List StageRunEvent) :
    (currentEvents before events).Pairwise fun event other =>
      eventBefore before event other = true :=
  stableSort_pairwise (lexBefore_order order order) _

theorem eventBefore_antisymm (order : TotalOrder before) (distinct : DistinctIds events) :
    ∀ event ∈ currentEvents before events, ∀ other ∈ currentEvents before events,
      eventBefore before event other = true → eventBefore before other event = true →
        event = other := by
  intro event listed other listed' forward backward
  have same := lexBefore_antisymm order.antisymm order.antisymm _ _ forward backward
  exact distinct event (mem_currentEvents.1 listed).1 other (mem_currentEvents.1 listed').1
    (Prod.ext_iff.1 same).2

theorem DistinctIds.congr (distinct : DistinctIds events)
    (same : ∀ event, event ∈ events ↔ event ∈ others) : DistinctIds others :=
  fun event listed other listed' =>
    distinct event ((same event).2 listed) other ((same other).2 listed')

/-- The projection reads the current events without their repetitions. -/
theorem collectProjection_eraseDups (order : TotalOrder before) (distinct : DistinctIds events)
    (stageRunId : String) : collectProjection before stageRunId events =
      projectionOf stageRunId (observedGeneration events)
        (currentEvents before events).eraseDups := by
  have absorbs : ∀ front event back,
      projectionOf stageRunId (observedGeneration events) (front ++ event :: event :: back) =
        projectionOf stageRunId (observedGeneration events) (front ++ event :: back) :=
    fun front event back => projectionOf_again front back event stageRunId _
  exact eq_eraseDups_of_sorted absorbs (eventBefore_antisymm order distinct)
    (currentEvents_sorted order.preorder events) []

theorem collectProjection_congr (order : TotalOrder before) (distinct : DistinctIds events)
    (same : ∀ event, event ∈ events ↔ event ∈ others) (stageRunId : String) :
    collectProjection before stageRunId events = collectProjection before stageRunId others := by
  have generation := observedGeneration_congr same
  have current : ∀ event, event ∈ currentEvents before events ↔
      event ∈ currentEvents before others := by
    intro event
    rw [mem_currentEvents, mem_currentEvents, same, generation]
  rw [collectProjection_eraseDups order distinct,
    collectProjection_eraseDups order (distinct.congr same), generation,
    eraseDups_eq_of_sorted current (eventBefore_antisymm order distinct)
      (currentEvents_sorted order.preorder events) (currentEvents_sorted order.preorder others)]

theorem mem_eventsOf {stageRunId : String} {event : StageRunEvent} :
    event ∈ eventsOf stageRunId events ↔ event ∈ events ∧ event.stageRunId = stageRunId := by
  rw [eventsOf, List.mem_filter, decide_eq_true_iff]

theorem stageRunIds_congr (order : TotalOrder before)
    (same : ∀ event, event ∈ events ↔ event ∈ others) :
    stageRunIds before events = stageRunIds before others := by
  have ids : (events.map (·.stageRunId)).eraseDups.Perm
      (others.map (·.stageRunId)).eraseDups := by
    rw [List.perm_ext_iff_of_nodup (nodup_eraseDups _) (nodup_eraseDups _)]
    intro stageRunId
    simp only [List.mem_eraseDups, List.mem_map, same]
  apply stableSort_eq_of_perm order.preorder ids
  intro stageRunId _ other _ tie
  exact order.antisymm stageRunId other tie.1 tie.2

theorem projectStageRuns_congr (order : TotalOrder before) (distinct : DistinctIds events)
    (same : ∀ event, event ∈ events ↔ event ∈ others) :
    projectStageRuns before events = projectStageRuns before others := by
  rw [projectStageRuns, projectStageRuns, stageRunIds_congr order same]
  congr 1
  funext stageRunId
  apply collectProjection_congr order
  · intro event listed other listed'
    exact distinct event (mem_eventsOf.1 listed).1 other (mem_eventsOf.1 listed').1
  · intro event
    rw [mem_eventsOf, mem_eventsOf, same]

end

/-! ## The read model -/

section

variable {before : String → String → Bool}

variable {events : List StageRunEvent}

theorem exists_greatest (filled : events ≠ []) :
    ∃ event ∈ events, event.generation = observedGeneration events := by
  induction events with
  | nil => exact absurd rfl filled
  | cons event rest ih =>
    have whole : observedGeneration (event :: rest) =
        max event.generation (observedGeneration rest) := rfl
    by_cases only : rest = []
    · rw [whole, only]
      exact ⟨event, List.mem_cons_self, (max_eq_left (Nat.zero_le _)).symm⟩
    · obtain ⟨greatest, listed, same⟩ := ih only
      obtain first | later := max_choice event.generation (observedGeneration rest)
      · exact ⟨event, List.mem_cons_self, (whole.trans first).symm⟩
      · exact ⟨greatest, List.mem_cons_of_mem _ listed, same.trans (whole.trans later).symm⟩

theorem currentEvents_ne_nil (filled : events ≠ []) : currentEvents before events ≠ [] := by
  obtain ⟨event, listed, greatest⟩ := exists_greatest filled
  exact List.ne_nil_of_mem (mem_currentEvents.2 ⟨listed, greatest⟩)

theorem exists_collectProjection (filled : events ≠ []) (stageRunId : String) :
    ∃ projection, collectProjection before stageRunId events = .ok projection := by
  have nonempty : currentEvents before events ≠ [] := currentEvents_ne_nil filled
  have current := List.getLast?_eq_some_getLast nonempty
  rw [collectProjection, projectionOf, current]
  exact ⟨_, rfl⟩

theorem mem_stageRunIds {stageRunId : String} :
    stageRunId ∈ stageRunIds before events ↔ ∃ event ∈ events, event.stageRunId = stageRunId := by
  rw [stageRunIds, mem_stableSort, List.mem_eraseDups, List.mem_map]

theorem exists_projectStageRuns (before : String → String → Bool) (events : List StageRunEvent) :
    ∃ projections, projectStageRuns before events = .ok projections := by
  apply exists_mapEach_eq_ok
  intro stageRunId listed
  obtain ⟨event, here, same⟩ := mem_stageRunIds.1 listed
  exact exists_collectProjection (List.ne_nil_of_mem (mem_eventsOf.2 ⟨here, same⟩)) stageRunId

/-- The kernel accepts every one of them. -/
def StageRunEvents (raws : List Json) : Prop := ∀ raw ∈ raws, ∃ event, stageRunEvent raw = .ok event

/-- The event ids that the kernel reads are pairwise distinct. -/
def DistinctEventIds (raws : List Json) : Prop :=
  ∀ raw ∈ raws, ∀ other ∈ raws, ∀ event event', stageRunEvent raw = .ok event →
    stageRunEvent other = .ok event' → event.eventId = event'.eventId → raw = other

theorem mem_of_mapEach {raws : List Json} (read : mapEach stageRunEvent raws = .ok events)
    {event : StageRunEvent} : event ∈ events ↔ ∃ raw ∈ raws, stageRunEvent raw = .ok event := by
  constructor
  · exact exists_of_mem_mapEach read
  · rintro ⟨raw, listed, given⟩
    obtain ⟨found, here, same⟩ := mapEach_mem read listed
    obtain rfl := Except.ok.inj (same.symm.trans given)
    exact here

/-- Events in any order, each once or more often, lead to the same read model. -/
theorem readModel_of_same_events (order : TotalOrder before) (events others : List Json)
    (valid : StageRunEvents events) (distinct : DistinctEventIds events)
    (same : ∀ raw, raw ∈ events ↔ raw ∈ others) :
    ∃ readModel, rebuildStageRunReadModel before events = .ok readModel ∧
      rebuildStageRunReadModel before others = .ok readModel := by
  have validOthers : StageRunEvents others := fun raw listed => valid raw ((same raw).2 listed)
  obtain ⟨values, read⟩ := exists_mapEach_eq_ok valid
  obtain ⟨values', read'⟩ := exists_mapEach_eq_ok validOthers
  have sameValues : ∀ event, event ∈ values ↔ event ∈ values' := by
    intro event
    rw [mem_of_mapEach read, mem_of_mapEach read']
    simp only [same]
  have distinctValues : DistinctIds values := by
    intro event listed other listed' equal
    obtain ⟨raw, here, given⟩ := (mem_of_mapEach read).1 listed
    obtain ⟨raw', here', given'⟩ := (mem_of_mapEach read).1 listed'
    obtain rfl := distinct raw here raw' here' event other given given' equal
    exact Except.ok.inj (given.symm.trans given')
  obtain ⟨readModel, projected⟩ := exists_projectStageRuns before values
  refine ⟨readModel, ?_, ?_⟩
  · rw [rebuildStageRunReadModel, read]
    exact projected
  · rw [rebuildStageRunReadModel, read']
    exact (projectStageRuns_congr order distinctValues sameValues).symm.trans projected

end

/-! ## Two events, the second delivered twice -/

theorem distinctEventIds_of_nodup {raws : List Json}
    (distinct : (raws.map fun raw => (stageRunEvent raw).toOption.map (·.eventId)).Nodup) :
    DistinctEventIds raws := by
  intro raw listed other listed' event event' given given' same
  apply List.inj_on_of_nodup_map distinct listed listed'
  rw [given, given']
  exact congrArg some same

theorem textOrder : TotalOrder fun left right : String => decide (left ≤ right) where
  preorder :=
    { total := fun left right => by
        simpa only [decide_eq_true_eq] using String.le_total left right
      trans := fun left mid right => by
        simpa only [decide_eq_true_eq] using String.le_trans }
  antisymm := fun left right => by
    simpa only [decide_eq_true_eq] using String.le_antisymm

/-- An event of one StageRun. -/
def deliveredEvent (eventId eventKind observedAt : String) (generation : Nat)
    (rest : JsonRecord) : Json :=
  .object ([("event_id", .string eventId), ("event_kind", .string eventKind),
    ("stage_run_id", .string "stage-run-1"), ("generation", .ofNat generation),
    ("observed_at", .string observedAt)] ++ rest)

def declaredEvent : Json :=
  deliveredEvent "event-1" "stage_run_declared" "2026-06-05T00:00:00.000Z" 1 []

def runningEvent : Json :=
  deliveredEvent "event-2" "provider_running" "2026-06-05T00:05:00.000Z" 1
    [("provider_attempt_ref", .string "temporal://attempt/1")]

theorem declaredThenRunning_read :
    (∀ raw ∈ [declaredEvent, runningEvent], (stageRunEvent raw).toOption.isSome = true) ∧
      ([declaredEvent, runningEvent].map fun raw =>
        (stageRunEvent raw).toOption.map (·.eventId)).Nodup := by
  decide +kernel

theorem stageRunEvents_of_isSome {raws : List Json}
    (each : ∀ raw ∈ raws, (stageRunEvent raw).toOption.isSome = true) : StageRunEvents raws := by
  intro raw listed
  obtain ⟨event, found⟩ := Option.isSome_iff_exists.1 (each raw listed)
  exact ⟨event, mem_toOption.1 found⟩

theorem readModel_declaredThenRunning :
    ∃ readModel,
      rebuildStageRunReadModel (fun left right => decide (left ≤ right))
        [declaredEvent, runningEvent] = .ok readModel ∧
      rebuildStageRunReadModel (fun left right => decide (left ≤ right))
        [runningEvent, declaredEvent, runningEvent] = .ok readModel := by
  refine readModel_of_same_events textOrder _ _
    (stageRunEvents_of_isSome declaredThenRunning_read.1)
    (distinctEventIds_of_nodup declaredThenRunning_read.2) ?_
  intro raw
  simp only [List.mem_cons, List.not_mem_nil, or_false]
  constructor
  · rintro (rfl | rfl)
    · exact .inr (.inl rfl)
    · exact .inl rfl
  · rintro (rfl | rfl | rfl)
    · exact .inr rfl
    · exact .inl rfl
    · exact .inr rfl

end OnePersonLab.StageRunKernel
