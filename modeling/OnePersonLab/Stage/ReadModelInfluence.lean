import OnePersonLab.Stage.ReadModelOrder

/-!
# Events that may not project

An event whose source may not project StageRun state gives no status and no receipt. It still
counts for the generation of its StageRun and for the references that the run consumes, so it
leaves the accepted state alone exactly if it is no newer than the other events of its run and,
in their generation, carries nothing new.
-/

namespace OnePersonLab.StageRunKernel

open Contract
open Lib
open StageRunEvent

/-! ## What a projection reads -/

/-- The references that an event adds to what its StageRun consumes. -/
def StageRunEvent.consumed (event : StageRunEvent) : List String :=
  event.inputRefs ++ (event.ref "artifact_ref").toList

def StageRunEvent.attempts (event : StageRunEvent) : List String :=
  (event.ref "provider_attempt_ref").toList

theorem mem_consumedRefs {events : List StageRunEvent} {ref : String} :
    ref ∈ consumedRefs events ↔ ∃ event ∈ events, ref ∈ event.consumed := by
  simp only [consumedRefs, consumed, List.mem_eraseDups, List.mem_append, List.mem_flatMap,
    List.mem_filterMap, Option.mem_toList]
  constructor
  · rintro (⟨event, listed, carried⟩ | ⟨event, listed, carried⟩)
    · exact ⟨event, listed, .inl carried⟩
    · exact ⟨event, listed, .inr carried⟩
  · rintro ⟨event, listed, carried | carried⟩
    · exact .inl ⟨event, listed, carried⟩
    · exact .inr ⟨event, listed, carried⟩

theorem mem_attemptRefs {events : List StageRunEvent} {ref : String} :
    ref ∈ refsNamed "provider_attempt_ref" events ↔ ∃ event ∈ events, ref ∈ event.attempts := by
  simp only [refsNamed, attempts, List.mem_eraseDups, List.mem_filterMap, Option.mem_toList]

/-- Only projectable events give a status. -/
theorem statusAfterEvents_filter (events : List StageRunEvent) :
    statusAfterEvents (events.filter eventIdentityIsProjectable) = statusAfterEvents events := by
  rw [statusAfterEvents, statusAfterEvents, List.foldl_filter]
  congr 1
  funext status event
  unfold statusStep
  cases event.eventIdentityIsProjectable with
  | true => rfl
  | false => exact (if_pos (.inr rfl)).symm

/-- Only projectable events give receipts. -/
theorem acceptedRefs_filter (kind : StageRunEventKind) (name : String)
    (events : List StageRunEvent) :
    acceptedRefs kind name (events.filter eventIdentityIsProjectable) =
      acceptedRefs kind name events := by
  rw [acceptedRefs, acceptedRefs, List.filter_filter]
  congr 1
  refine List.filter_congr fun event _ => ?_
  rw [Bool.and_assoc, Bool.and_self]

/-! ## The accepted state -/

/-- The accepted state of two projections is the same. -/
structure SameAccepted (projection other : StageRunProjection) : Prop where
  stageRunId : projection.stageRunId = other.stageRunId
  status : projection.status = other.status
  observedGeneration : projection.observedGeneration = other.observedGeneration
  ownerReceiptRefs : projection.ownerReceiptRefs = other.ownerReceiptRefs
  typedBlockerRefs : projection.typedBlockerRefs = other.typedBlockerRefs
  consumedRefs : ∀ ref, ref ∈ projection.consumedRefs ↔ ref ∈ other.consumedRefs
  providerAttemptRefs : ∀ ref, ref ∈ projection.providerAttemptRefs ↔ ref ∈ other.providerAttemptRefs

/-- The StageRuns and their accepted states are the same. -/
def SameAcceptedState (readModel other : List StageRunProjection) : Prop :=
  (∀ projection ∈ readModel, ∃ projection' ∈ other, SameAccepted projection projection') ∧
    ∀ projection' ∈ other, ∃ projection ∈ readModel, SameAccepted projection projection'

/-- Another event of the same StageRun. -/
def SameRun (event other : StageRunEvent) : Prop := other.stageRunId = event.stageRunId

/-- The event is no newer than the others of its StageRun, and if it is as new as the newest of
them it carries no reference that none of those carries. -/
structure Harmless (others : List StageRunEvent) (event : StageRunEvent) : Prop where
  known : ∃ other ∈ others, SameRun event other ∧ event.generation ≤ other.generation
  carried : (∃ newer ∈ others, SameRun event newer ∧ event.generation < newer.generation) ∨
    (∀ ref ∈ event.consumed, ∃ other ∈ others, SameRun event other ∧
      other.generation = event.generation ∧ ref ∈ other.consumed) ∧
    ∀ ref ∈ event.attempts, ∃ other ∈ others, SameRun event other ∧
      other.generation = event.generation ∧ ref ∈ other.attempts

section

variable {before : String → String → Bool} {events : List StageRunEvent} {stageRunId : String}
  {projection : StageRunProjection}

/-- What a projection of events is read off. -/
structure ProjectionOf (before : String → String → Bool) (stageRunId : String)
    (events : List StageRunEvent) (projection : StageRunProjection) : Prop where
  stageRunId : projection.stageRunId = stageRunId
  status : projection.status =
    statusAfterEvents ((currentEvents before events).filter eventIdentityIsProjectable)
  observedGeneration : projection.observedGeneration = observedGeneration events
  ownerReceiptRefs : projection.ownerReceiptRefs = acceptedRefs .ownerReceiptObserved
    "owner_receipt_ref" ((currentEvents before events).filter eventIdentityIsProjectable)
  typedBlockerRefs : projection.typedBlockerRefs = acceptedRefs .typedBlockerObserved
    "typed_blocker_ref" ((currentEvents before events).filter eventIdentityIsProjectable)
  consumedRefs : ∀ ref, ref ∈ projection.consumedRefs ↔
    ∃ event ∈ currentEvents before events, ref ∈ event.consumed
  providerAttemptRefs : ∀ ref, ref ∈ projection.providerAttemptRefs ↔
    ∃ event ∈ currentEvents before events, ref ∈ event.attempts

theorem projectionOf_collectProjection
    (collected : collectProjection before stageRunId events = .ok projection) :
    ProjectionOf before stageRunId events projection := by
  rw [collectProjection, projectionOf] at collected
  cases last : (currentEvents before events).getLast? with
  | none =>
    rw [last] at collected
    cases collected
  | some lastEvent =>
    rw [last] at collected
    obtain rfl := Except.ok.inj collected
    exact {
      stageRunId := rfl
      status := (statusAfterEvents_filter _).symm
      observedGeneration := rfl
      ownerReceiptRefs := (acceptedRefs_filter _ _ _).symm
      typedBlockerRefs := (acceptedRefs_filter _ _ _).symm
      consumedRefs := fun ref => mem_consumedRefs
      providerAttemptRefs := fun ref => mem_attemptRefs }

end

/-! ## One event more -/

section

variable {before : String → String → Bool} {front back : List StageRunEvent}
  {event : StageRunEvent}

variable {stageRunId : String} {projection : StageRunProjection} {events : List StageRunEvent}
  {readModel : List StageRunProjection}

theorem observedGeneration_insert : observedGeneration (front ++ event :: back) =
    max event.generation (observedGeneration (front ++ back)) := by
  have same : ∀ other, other ∈ front ++ event :: back ↔ other ∈ event :: (front ++ back) := by
    intro other
    rw [List.perm_middle.mem_iff]
  exact observedGeneration_congr same

/-- An event that may not project is not among the projectable ones. -/
theorem projectable_insert (order : TotalPreorder before)
    (unprojectable : event.eventIdentityIsProjectable = false)
    (older : event.generation ≤ observedGeneration (front ++ back)) :
    (currentEvents before (front ++ event :: back)).filter eventIdentityIsProjectable =
      (currentEvents before (front ++ back)).filter eventIdentityIsProjectable := by
  have generation : observedGeneration (front ++ event :: back) =
      observedGeneration (front ++ back) := observedGeneration_insert.trans (max_eq_right older)
  rw [currentEvents, currentEvents, filter_stableSort (lexBefore_order order order),
    filter_stableSort (lexBefore_order order order), generation]
  congr 1
  rw [List.filter_filter, List.filter_filter, List.filter_append, List.filter_append,
    List.filter_cons_of_neg]
  rw [unprojectable]
  exact Bool.false_ne_true

theorem mem_currentEvents_insert
    (older : event.generation ≤ observedGeneration (front ++ back)) {other : StageRunEvent} :
    other ∈ currentEvents before (front ++ event :: back) ↔
      other ∈ currentEvents before (front ++ back) ∨
        other = event ∧ event.generation = observedGeneration (front ++ back) := by
  rw [mem_currentEvents, mem_currentEvents, observedGeneration_insert, max_eq_right older]
  simp only [List.mem_append, List.mem_cons]
  constructor
  · rintro ⟨listed | rfl | listed, generation⟩
    · exact .inl ⟨.inl listed, generation⟩
    · exact .inr ⟨rfl, generation⟩
    · exact .inl ⟨.inr listed, generation⟩
  · rintro (⟨listed | listed, generation⟩ | ⟨rfl, generation⟩)
    · exact ⟨.inl listed, generation⟩
    · exact ⟨.inr (.inr listed), generation⟩
    · exact ⟨.inr (.inl rfl), generation⟩

/-- What the event carries is carried by another event of its generation. -/
def Carried (others : List StageRunEvent) (event : StageRunEvent)
    (carries : StageRunEvent → List String) : Prop :=
  ∀ ref ∈ carries event, ∃ other ∈ others, other.generation = event.generation ∧ ref ∈ carries other

theorem refs_insert (older : event.generation ≤ observedGeneration (front ++ back))
    (carries : StageRunEvent → List String) :
    (∀ ref, (∃ other ∈ currentEvents before (front ++ back), ref ∈ carries other) ↔
      ∃ other ∈ currentEvents before (front ++ event :: back), ref ∈ carries other) ↔
    event.generation < observedGeneration (front ++ back) ∨
      Carried (front ++ back) event carries := by
  obtain less | newest := Nat.lt_or_eq_of_le older
  · refine iff_of_true ?_ (.inl less)
    intro ref
    simp only [mem_currentEvents_insert older, less.ne, and_false, or_false]
  · rw [or_iff_right (newest ▸ lt_irrefl _)]
    constructor
    · intro same ref carried
      obtain ⟨other, listed, here⟩ :=
        (same ref).2 ⟨event, (mem_currentEvents_insert older).2 (.inr ⟨rfl, newest⟩), carried⟩
      obtain ⟨known, generation⟩ := mem_currentEvents.1 listed
      exact ⟨other, known, generation.trans newest.symm, here⟩
    · intro carried ref
      constructor
      · rintro ⟨other, listed, here⟩
        exact ⟨other, (mem_currentEvents_insert older).2 (.inl listed), here⟩
      · rintro ⟨other, listed, here⟩
        obtain known | ⟨rfl, _⟩ := (mem_currentEvents_insert older).1 listed
        · exact ⟨other, known, here⟩
        · obtain ⟨another, known, generation, there⟩ := carried ref here
          exact ⟨another, mem_currentEvents.2 ⟨known, generation.trans newest⟩, there⟩

/-- The accepted state of a StageRun with one unprojectable event more. -/
theorem sameAccepted_insert_iff (order : TotalPreorder before)
    (unprojectable : event.eventIdentityIsProjectable = false) {projection' : StageRunProjection}
    (known : ProjectionOf before stageRunId (front ++ back) projection)
    (inserted : ProjectionOf before stageRunId (front ++ event :: back) projection') :
    SameAccepted projection projection' ↔
      event.generation ≤ observedGeneration (front ++ back) ∧
      (event.generation < observedGeneration (front ++ back) ∨
        Carried (front ++ back) event consumed ∧ Carried (front ++ back) event attempts) := by
  constructor
  · intro same
    have older : event.generation ≤ observedGeneration (front ++ back) := by
      rw [← known.observedGeneration, same.observedGeneration, inserted.observedGeneration,
        observedGeneration_insert]
      exact le_max_left _ _
    have consumedSame := (@refs_insert before _ _ _ older consumed).1 fun ref =>
      (known.consumedRefs ref).symm.trans ((same.consumedRefs ref).trans (inserted.consumedRefs ref))
    have attemptsSame := (@refs_insert before _ _ _ older attempts).1 fun ref =>
      (known.providerAttemptRefs ref).symm.trans
        ((same.providerAttemptRefs ref).trans (inserted.providerAttemptRefs ref))
    rw [or_and_left]
    exact ⟨older, consumedSame, attemptsSame⟩
  · rintro ⟨older, carried⟩
    rw [or_and_left] at carried
    have consumedSame := (@refs_insert before _ _ _ older consumed).2 carried.1
    have attemptsSame := (@refs_insert before _ _ _ older attempts).2 carried.2
    exact {
      stageRunId := known.stageRunId.trans inserted.stageRunId.symm
      status := by
        rw [known.status, inserted.status, projectable_insert order unprojectable older]
      observedGeneration := by
        rw [known.observedGeneration, inserted.observedGeneration, observedGeneration_insert,
          max_eq_right older]
      ownerReceiptRefs := by
        rw [known.ownerReceiptRefs, inserted.ownerReceiptRefs,
          projectable_insert order unprojectable older]
      typedBlockerRefs := by
        rw [known.typedBlockerRefs, inserted.typedBlockerRefs,
          projectable_insert order unprojectable older]
      consumedRefs := fun ref =>
        (known.consumedRefs ref).trans ((consumedSame ref).trans (inserted.consumedRefs ref).symm)
      providerAttemptRefs := fun ref => (known.providerAttemptRefs ref).trans
        ((attemptsSame ref).trans (inserted.providerAttemptRefs ref).symm) }

/-! ## The read model with one event more -/

theorem eventsOf_insert_own : eventsOf event.stageRunId (front ++ event :: back) =
    eventsOf event.stageRunId front ++ event :: eventsOf event.stageRunId back := by
  have own : decide (event.stageRunId = event.stageRunId) = true := decide_eq_true rfl
  rw [eventsOf, List.filter_append]
  exact congrArg _ (List.filter_cons_of_pos own)

theorem eventsOf_insert_other (other : event.stageRunId ≠ stageRunId) :
    eventsOf stageRunId (front ++ event :: back) = eventsOf stageRunId (front ++ back) := by
  rw [eventsOf, eventsOf, List.filter_append, List.filter_append, List.filter_cons_of_neg]
  exact fun same => other (of_decide_eq_true same)

theorem eventsOf_append (front back : List StageRunEvent) :
    eventsOf stageRunId (front ++ back) = eventsOf stageRunId front ++ eventsOf stageRunId back :=
  List.filter_append _ _

theorem mem_projectStageRuns (projected : projectStageRuns before events = .ok readModel)
    (listed : projection ∈ readModel) :
    (∃ other ∈ events, other.stageRunId = projection.stageRunId) ∧
      collectProjection before projection.stageRunId
        (eventsOf projection.stageRunId events) = .ok projection := by
  obtain ⟨stageRunId, known, collected⟩ := exists_of_mem_mapEach projected listed
  obtain rfl := (projectionOf_collectProjection collected).stageRunId
  exact ⟨mem_stageRunIds.1 known, collected⟩

theorem exists_mem_projectStageRuns (projected : projectStageRuns before events = .ok readModel)
    {other : StageRunEvent} (listed : other ∈ events) :
    ∃ projection ∈ readModel, collectProjection before other.stageRunId
      (eventsOf other.stageRunId events) = .ok projection :=
  mapEach_mem projected (mem_stageRunIds.2 ⟨other, listed, rfl⟩)

theorem SameAccepted.refl (projection : StageRunProjection) : SameAccepted projection projection where
  stageRunId := rfl
  status := rfl
  observedGeneration := rfl
  ownerReceiptRefs := rfl
  typedBlockerRefs := rfl
  consumedRefs := fun _ => Iff.rfl
  providerAttemptRefs := fun _ => Iff.rfl

theorem lt_observedGeneration {generation : Nat} :
    generation < observedGeneration events ↔ ∃ other ∈ events, generation < other.generation := by
  rw [← not_le, observedGeneration_le]
  simp only [not_forall, not_le, exists_prop]

theorem harmless_iff {others : List StageRunEvent} :
    Harmless others event ↔ eventsOf event.stageRunId others ≠ [] ∧
      event.generation ≤ observedGeneration (eventsOf event.stageRunId others) ∧
      (event.generation < observedGeneration (eventsOf event.stageRunId others) ∨
        Carried (eventsOf event.stageRunId others) event consumed ∧
          Carried (eventsOf event.stageRunId others) event attempts) := by
  have newer : (∃ newer ∈ others, SameRun event newer ∧ event.generation < newer.generation) ↔
      event.generation < observedGeneration (eventsOf event.stageRunId others) := by
    simp only [lt_observedGeneration, mem_eventsOf, and_assoc]
    rfl
  have carried : ∀ carries : StageRunEvent → List String,
      (∀ ref ∈ carries event, ∃ other ∈ others, SameRun event other ∧
        other.generation = event.generation ∧ ref ∈ carries other) ↔
      Carried (eventsOf event.stageRunId others) event carries := by
    intro carries
    simp only [Carried, mem_eventsOf, and_assoc]
    rfl
  have known : (∃ other ∈ others, SameRun event other ∧ event.generation ≤ other.generation) ↔
      eventsOf event.stageRunId others ≠ [] ∧
        event.generation ≤ observedGeneration (eventsOf event.stageRunId others) := by
    constructor
    · rintro ⟨other, listed, same, older⟩
      have own := mem_eventsOf.2 ⟨listed, same⟩
      exact ⟨List.ne_nil_of_mem own,
        older.trans ((observedGeneration_le _).1 (le_refl _) other own)⟩
    · rintro ⟨filled, older⟩
      obtain ⟨greatest, own, generation⟩ := exists_greatest filled
      obtain ⟨listed, same⟩ := mem_eventsOf.1 own
      exact ⟨greatest, listed, same, older.trans generation.ge⟩
  constructor
  · intro harmless
    exact ⟨(known.1 harmless.known).1, (known.1 harmless.known).2,
      harmless.carried.imp newer.1 fun both => ⟨(carried consumed).1 both.1,
        (carried attempts).1 both.2⟩⟩
  · rintro ⟨filled, older, rest⟩
    exact ⟨known.2 ⟨filled, older⟩, rest.imp newer.2 fun both => ⟨(carried consumed).2 both.1,
      (carried attempts).2 both.2⟩⟩

/-- The projections of the event's own StageRun, with and without it. -/
theorem own_sameAccepted_iff (order : TotalPreorder before)
    (unprojectable : event.eventIdentityIsProjectable = false) {projection' : StageRunProjection}
    (known : collectProjection before event.stageRunId
      (eventsOf event.stageRunId (front ++ back)) = .ok projection)
    (inserted : collectProjection before event.stageRunId
      (eventsOf event.stageRunId (front ++ event :: back)) = .ok projection')
    (filled : eventsOf event.stageRunId (front ++ back) ≠ []) :
    SameAccepted projection projection' ↔ Harmless (front ++ back) event := by
  have knownOf := projectionOf_collectProjection known
  have insertedOf := projectionOf_collectProjection inserted
  rw [eventsOf_append] at knownOf
  rw [eventsOf_insert_own] at insertedOf
  rw [sameAccepted_insert_iff order unprojectable knownOf insertedOf, harmless_iff,
    ← eventsOf_append]
  exact (and_iff_right filled).symm

/-- The accepted state with one unprojectable event more is the same exactly if it is harmless. -/
theorem sameAcceptedState_iff (order : TotalPreorder before)
    (unprojectable : event.eventIdentityIsProjectable = false)
    {readModel' : List StageRunProjection}
    (known : projectStageRuns before (front ++ back) = .ok readModel)
    (inserted : projectStageRuns before (front ++ event :: back) = .ok readModel') :
    SameAcceptedState readModel readModel' ↔ Harmless (front ++ back) event := by
  have placed : event ∈ front ++ event :: back := List.mem_append_right _ List.mem_cons_self
  constructor
  · intro same
    obtain ⟨projection', listed', collected'⟩ := exists_mem_projectStageRuns inserted placed
    obtain ⟨projection, listed, accepted⟩ := same.2 projection' listed'
    have run : projection.stageRunId = event.stageRunId :=
      accepted.stageRunId.trans (projectionOf_collectProjection collected').stageRunId
    obtain ⟨⟨other, here, own⟩, collected⟩ := mem_projectStageRuns known listed
    rw [run] at collected own
    exact (own_sameAccepted_iff order unprojectable collected collected'
      (List.ne_nil_of_mem (mem_eventsOf.2 ⟨here, own⟩))).1 accepted
  · intro harmless
    have filled := (harmless_iff.1 harmless).1
    constructor
    · intro projection listed
      obtain ⟨⟨other, here, own⟩, collected⟩ := mem_projectStageRuns known listed
      have there : other ∈ front ++ event :: back :=
        List.perm_middle.mem_iff.2 (List.mem_cons_of_mem _ here)
      obtain ⟨projection', listed', collected'⟩ := exists_mem_projectStageRuns inserted there
      rw [own] at collected'
      refine ⟨projection', listed', ?_⟩
      by_cases run : event.stageRunId = projection.stageRunId
      · rw [← run] at collected collected'
        exact (own_sameAccepted_iff order unprojectable collected collected' filled).2 harmless
      · rw [eventsOf_insert_other run, collected] at collected'
        obtain rfl := Except.ok.inj collected'
        exact .refl _
    · intro projection' listed'
      obtain ⟨⟨other, here, own⟩, collected'⟩ := mem_projectStageRuns inserted listed'
      by_cases run : event.stageRunId = projection'.stageRunId
      · obtain ⟨another, ownListed⟩ := List.exists_mem_of_ne_nil _ filled
        obtain ⟨listed, same⟩ := mem_eventsOf.1 ownListed
        obtain ⟨projection, kept, collected⟩ := exists_mem_projectStageRuns known listed
        rw [same] at collected
        rw [← run] at collected'
        exact ⟨projection, kept,
          (own_sameAccepted_iff order unprojectable collected collected' filled).2 harmless⟩
      · have there : other ∈ front ++ back := by
          obtain rfl | kept := List.mem_cons.1 (List.perm_middle.mem_iff.1 here)
          · exact absurd own run
          · exact kept
        obtain ⟨projection, kept, collected⟩ := exists_mem_projectStageRuns known there
        rw [own] at collected
        rw [eventsOf_insert_other run, collected] at collected'
        obtain rfl := Except.ok.inj collected'
        exact ⟨projection, kept, .refl _⟩

end

theorem mapEach_append {raws others : List Json} {events events' : List StageRunEvent}
    (read : mapEach stageRunEvent raws = .ok events)
    (read' : mapEach stageRunEvent others = .ok events') :
    mapEach stageRunEvent (raws ++ others) = .ok (events ++ events') :=
  mapEach_eq_ok.2 (List.rel_append (mapEach_eq_ok.1 read) (mapEach_eq_ok.1 read'))

/-- An event that may not project leaves the accepted state of the read model alone exactly if
it is harmless among the other events. -/
theorem unprojectable_event_iff {before : String → String → Bool} (order : TotalPreorder before)
    (front back : List Json) (raw : Json) (event : StageRunEvent)
    (valid : StageRunEvents (front ++ back)) (given : stageRunEvent raw = .ok event)
    (unprojectable : event.eventIdentityIsProjectable = false) :
    ∃ others readModel readModel', mapEach stageRunEvent (front ++ back) = .ok others ∧
      rebuildStageRunReadModel before (front ++ back) = .ok readModel ∧
      rebuildStageRunReadModel before (front ++ raw :: back) = .ok readModel' ∧
      (SameAcceptedState readModel readModel' ↔ Harmless others event) := by
  obtain ⟨frontEvents, readFront⟩ := exists_mapEach_eq_ok fun item (listed : item ∈ front) =>
    valid item (List.mem_append_left _ listed)
  obtain ⟨backEvents, readBack⟩ := exists_mapEach_eq_ok fun item (listed : item ∈ back) =>
    valid item (List.mem_append_right _ listed)
  have read := mapEach_append readFront readBack
  have readRest : mapEach stageRunEvent (raw :: back) = .ok (event :: backEvents) :=
    mapEach_eq_ok.2 (.cons given (mapEach_eq_ok.1 readBack))
  have readMore := mapEach_append readFront readRest
  obtain ⟨readModel, known⟩ := exists_projectStageRuns before (frontEvents ++ backEvents)
  obtain ⟨readModel', inserted⟩ := exists_projectStageRuns before (frontEvents ++ event :: backEvents)
  refine ⟨frontEvents ++ backEvents, readModel, readModel', read, ?_, ?_,
    sameAcceptedState_iff order unprojectable known inserted⟩
  · rw [rebuildStageRunReadModel, read]
    exact known
  · rw [rebuildStageRunReadModel, readMore]
    exact inserted

/-! ## A stray event of a later generation -/

def acceptedEvent : Json :=
  deliveredEvent "event-2" "owner_receipt_observed" "2026-06-05T00:05:00.000Z" 1
    [("owner_receipt_ref", .string "mas://owner-receipts/1"),
      ("producer_role", .string "domain_owner")]

/-- A receipt that a read model claims to have observed. -/
def strayEvent (generation : Nat) : Json :=
  deliveredEvent "event-3" "owner_receipt_observed" "2026-06-05T00:06:00.000Z" generation
    [("owner_receipt_ref", .string "opl://read-model/2"), ("producer_role", .string "read_model")]

theorem strayEvents_read :
    (∀ raw ∈ [declaredEvent, acceptedEvent], (stageRunEvent raw).toOption.isSome = true) ∧
      (stageRunEvent (strayEvent 1)).toOption.any (fun event =>
        !event.eventIdentityIsProjectable) = true ∧
      (stageRunEvent (strayEvent 2)).toOption.any (fun event =>
        !event.eventIdentityIsProjectable) = true := by
  decide +kernel

theorem exists_unprojectable {raw : Json} (read : (stageRunEvent raw).toOption.any (fun event =>
    !event.eventIdentityIsProjectable) = true) :
    ∃ event, stageRunEvent raw = .ok event ∧ event.eventIdentityIsProjectable = false := by
  obtain ⟨event, found, unprojectable⟩ := (Option.any_eq_true _ _).1 read
  refine ⟨event, mem_toOption.1 found, ?_⟩
  simpa using unprojectable

theorem textBefore_order : TotalPreorder fun left right : String => decide (left ≤ right) :=
  textOrder.preorder

/-- A stray receipt among a declaration and an accepted receipt. -/
theorem stray_of_same_generation :
    ∃ event others readModel readModel',
      mapEach stageRunEvent [declaredEvent, acceptedEvent] = .ok others ∧
      rebuildStageRunReadModel (fun left right => decide (left ≤ right))
        [declaredEvent, acceptedEvent] = .ok readModel ∧
      rebuildStageRunReadModel (fun left right => decide (left ≤ right))
        [declaredEvent, acceptedEvent, strayEvent 1] = .ok readModel' ∧
      (SameAcceptedState readModel readModel' ↔ Harmless others event) := by
  obtain ⟨event, given, unprojectable⟩ := exists_unprojectable strayEvents_read.2.1
  have valid : StageRunEvents ([declaredEvent, acceptedEvent] ++ []) :=
    stageRunEvents_of_isSome strayEvents_read.1
  exact ⟨event, unprojectable_event_iff textBefore_order [declaredEvent, acceptedEvent] []
    (strayEvent 1) event valid given unprojectable⟩

/-- The owner receipts of the runs. -/
def ownerReceipts (raws : List Json) : Option (List (List String)) :=
  (rebuildStageRunReadModel (fun left right => decide (left ≤ right)) raws).toOption.map
    fun readModel => readModel.map (·.ownerReceiptRefs)

theorem ownerReceipts_stray :
    ownerReceipts [declaredEvent, acceptedEvent] = some [["mas://owner-receipts/1"]] ∧
      ownerReceipts [declaredEvent, acceptedEvent, strayEvent 2] = some [[]] := by
  decide +kernel

/-- A stray receipt of a later generation hides the accepted one. -/
theorem stray_hides_accepted :
    ∃ event readModel readModel', stageRunEvent (strayEvent 2) = .ok event ∧
      event.eventIdentityIsProjectable = false ∧
      rebuildStageRunReadModel (fun left right => decide (left ≤ right))
        [declaredEvent, acceptedEvent] = .ok readModel ∧
      rebuildStageRunReadModel (fun left right => decide (left ≤ right))
        [declaredEvent, acceptedEvent, strayEvent 2] = .ok readModel' ∧
      ¬SameAcceptedState readModel readModel' := by
  obtain ⟨event, given, unprojectable⟩ := exists_unprojectable strayEvents_read.2.2
  obtain ⟨receipts, hidden⟩ := ownerReceipts_stray
  obtain ⟨readModel, known, kept⟩ := Option.map_eq_some_iff.1 receipts
  obtain ⟨readModel', inserted, lost⟩ := Option.map_eq_some_iff.1 hidden
  refine ⟨event, readModel, readModel', given, unprojectable, mem_toOption.1 known,
    mem_toOption.1 inserted, ?_⟩
  intro same
  obtain ⟨projection, rest, rfl, refs, -⟩ := List.map_eq_cons_iff.1 kept
  obtain ⟨projection', listed, accepted⟩ := same.1 projection List.mem_cons_self
  have empty : projection'.ownerReceiptRefs ∈ [[]] := lost ▸ List.mem_map_of_mem listed
  rw [← accepted.ownerReceiptRefs, refs] at empty
  cases List.mem_singleton.1 empty

end OnePersonLab.StageRunKernel
