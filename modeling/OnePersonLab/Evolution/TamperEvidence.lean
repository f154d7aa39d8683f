import OnePersonLab.Contract.HashedJson
import OnePersonLab.Evolution.RunLog

/-!
# Tamper evidence

The hash of an event covers its other fields and the hash of the event before it.
Where the hash does not collide, the last hash of a verified log therefore
determines the whole log.
-/

namespace OnePersonLab.Evolution

open Contract

variable {ν : Type} [DecidableEq ν]

/-- `sha256` over the canonical text, as lower-case hex. -/
def Platform.DigestsBy (platform : Platform) (doubles : Doubles ν) (sha256 : String → String) : Prop :=
  ∀ value : Json, value.Representable doubles.IsDouble → ∀ text,
    canonicalJsonText doubles.toNumberText (value.toJsValue doubles.double) = .ok text →
    platform.digest value = "sha256:" ++ sha256 text

/-- The text that the hash of an event is taken over. -/
def FoundryRunEvent.HashedText (doubles : Doubles ν) (event : FoundryRunEvent) (text : String) : Prop :=
  canonicalJsonText doubles.toNumberText ((Json.object event.base).toJsValue doubles.double) = .ok text

/-- The hash tells the texts of the events apart. -/
def CollisionFree (doubles : Doubles ν) (sha256 : String → String) (events : List FoundryRunEvent) :
    Prop :=
  ∀ event ∈ events, ∀ other ∈ events, ∀ text text', event.HashedText doubles text →
    other.HashedText doubles text' → sha256 text = sha256 text' → text = text'

/-- Equal in every field, the payload up to the order of its keys. -/
structure SameEvent (event other : FoundryRunEvent) : Prop where
  fields : { event with payload := other.payload } = other
  payload : SameJson (.object event.payload) (.object other.payload)

/-! ## What the hash covers -/

theorem FoundryRunState.text_injective : Function.Injective text := by
  intro state other same
  cases state <;> cases other <;> first | rfl | exact absurd same (by decide)

theorem FoundryRunEvent.base_keys (event : FoundryRunEvent) : (event.base.map Prod.fst).Nodup := by
  simp [base]

/-- Events whose bases are equal up to the order of keys differ in their hashes at most. -/
theorem sameEvent_of_base {event other : FoundryRunEvent}
    (same : SameJson (.object event.base) (.object other.base))
    (hashed : event.eventHash = other.eventHash) : SameEvent event other := by
  have held (key : String) {value value' : Json} (listed : field? event.base key = some value)
      (listed' : field? other.base key = some value') : SameJson value value' := by
    have field := same.field other.base_keys key
    rwa [listed, listed', Option.rel_some_some] at field
  have eventId := (held "event_id" rfl rfl).string_inj
  have runId := (held "run_id" rfl rfl).string_inj
  have revision := (held "revision" rfl rfl).number_inj
  have eventType := (held "event_type" rfl rfl).string_inj
  have fromState := (held "from_state" rfl rfl).optionalString_inj
  have toState := (held "to_state" rfl rfl).string_inj
  have occurredAt := (held "occurred_at" rfl rfl).string_inj
  have idempotencyKey := (held "idempotency_key" rfl rfl).string_inj
  have previous := (held "previous_event_hash" rfl rfl).optionalString_inj
  refine ⟨?_, held "payload" rfl rfl⟩
  cases event
  cases other
  simp only [FoundryRunEvent.mk.injEq, true_and]
  exact ⟨eventId, runId, by exact_mod_cast revision, eventType,
    Option.map_injective FoundryRunState.text_injective fromState,
    FoundryRunState.text_injective toState, occurredAt, idempotencyKey, previous, hashed⟩

/-! ## Verified logs -/

variable {platform : Platform} {doubles : Doubles ν} {sha256 : String → String}

theorem representable_base {event : FoundryRunEvent} (safe : event.revision ≤ maxSafeInteger)
    (payload : (Json.object event.payload).Representable doubles.IsDouble) :
    (Json.object event.base).Representable doubles.IsDouble := by
  have revision : doubles.IsDouble event.revision :=
    doubles.safe event.revision (lt_of_le_of_lt safe (by decide))
  have optional (text : Option String) :
      (Json.ofOptionalString text).Representable doubles.IsDouble := by
    cases text <;> trivial
  exact ⟨event.base_keys, trivial, trivial, trivial, trivial, revision, trivial, optional _,
    trivial, trivial, trivial, optional _, payload, trivial⟩

/-- Events that the chain check accepts with one hash are equal. -/
theorem EventFollows.sameEvent (digests : platform.DigestsBy doubles sha256)
    {earlier earlier' : List FoundryRunEvent} {event other : FoundryRunEvent}
    (follows : EventFollows platform earlier event) (follows' : EventFollows platform earlier' other)
    (payload : (Json.object event.payload).Representable doubles.IsDouble)
    (payload' : (Json.object other.payload).Representable doubles.IsDouble)
    (collisionFree : ∀ text text', event.HashedText doubles text → other.HashedText doubles text' →
      sha256 text = sha256 text' → text = text')
    (same : event.eventHash = other.eventHash) : SameEvent event other := by
  have representable := representable_base follows.safeRevision payload
  have representable' := representable_base follows'.safeRevision payload'
  obtain ⟨text, written⟩ := exists_canonicalJsonText doubles (.object event.base)
  obtain ⟨text', written'⟩ := exists_canonicalJsonText doubles (.object other.base)
  have hashes : "sha256:" ++ sha256 text = "sha256:" ++ sha256 text' := by
    rw [← digests _ representable text written, ← digests _ representable' text' written']
    exact follows.hashed.trans (same.trans follows'.hashed.symm)
  obtain rfl := collisionFree text text' written written' ((String.append_right_inj _).1 hashes)
  exact sameEvent_of_base ((sameJson_iff_text representable representable' written written').1 rfl) same

/-- The last hash of a log determines it. -/
theorem forall₂_sameEvent (digests : platform.DigestsBy doubles sha256)
    {events others : List FoundryRunEvent} (verified : events ≠ [] → Verified platform events)
    (verified' : others ≠ [] → Verified platform others)
    (representable : ∀ event ∈ events ++ others,
      (Json.object event.payload).Representable doubles.IsDouble)
    (collisionFree : CollisionFree doubles sha256 (events ++ others))
    (same : events.getLast?.map FoundryRunEvent.eventHash =
      others.getLast?.map FoundryRunEvent.eventHash) : List.Forall₂ SameEvent events others := by
  induction events using List.reverseRecOn generalizing others with
  | nil =>
    have empty : others = [] := by simpa using same.symm
    rw [empty]
    exact .nil
  | append_singleton events event ih =>
    obtain rfl | ⟨others, other, rfl⟩ := others.eq_nil_or_concat'
    · simp at same
    obtain ⟨earlier, follows⟩ := verified_append.1 (verified (by simp))
    obtain ⟨earlier', follows'⟩ := verified_append.1 (verified' (by simp))
    have last : SameEvent event other :=
      follows.sameEvent digests follows' (representable event (by simp))
        (representable other (by simp)) (collisionFree event (by simp) other (by simp))
        (by simpa using same)
    have previous : events.getLast?.map FoundryRunEvent.eventHash =
        others.getLast?.map FoundryRunEvent.eventHash := by
      rw [← follows.linked, ← follows'.linked, ← last.fields]
    have within : events ++ others ⊆ (events ++ [event]) ++ (others ++ [other]) := by
      intro listed
      simp only [List.mem_append]
      tauto
    have before : List.Forall₂ SameEvent events others :=
      ih earlier earlier' (fun entry listed => representable entry (within listed))
        (fun entry listed entry' listed' =>
          collisionFree entry (within listed) entry' (within listed')) previous
    exact List.rel_append before (.cons last .nil)

/-- The natural numbers among the doubles. -/
def naturalDoubles : Doubles (Option Nat) where
  toNumberText := naturalText
  IsDouble value := (value.num.toNat : ℚ) = value
  double value := some value.num.toNat
  safe value _ := by simp
  unsignedDouble _ _ := by simp [naturalText]
  double_inj value other exact exact' same := by
    rw [← exact, ← exact', Option.some.inj same]

def zeroDigest : String := "sha256:0000000000000000000000000000000000000000000000000000000000000000"

def acceptanceEvent (payload : JsonRecord) : FoundryRunEvent where
  eventId := "run:1"
  runId := "run"
  revision := 1
  eventType := "foundry_run_accepted"
  fromState := none
  toState := .accepted
  occurredAt := "1970-01-01T00:00:00.000Z"
  idempotencyKey := "run/0/accepted/" ++ zeroDigest
  previousEventHash := none
  payload := payload
  eventHash := "sha256:2c8344ee88207f6ad0b48439c055b13e77dc740f763551def605c09e168604e8"

def acceptanceEntries : JsonRecord := [
  ("target_agent_id", .string "agent"),
  ("target_domain_id", .string "domain"),
  ("request_digest", .string zeroDigest),
  ("activation_revision_at_start", .ofNat 0),
  ("generation", .ofNat 0)]

/-- The hash of the one text that the log needs. -/
def acceptanceSha256 (_ : String) : String :=
  "2c8344ee88207f6ad0b48439c055b13e77dc740f763551def605c09e168604e8"

def acceptancePlatform : Platform where
  digest value :=
    "sha256:" ++ acceptanceSha256 ((canonicalJsonText naturalDoubles.toNumberText
      (value.toJsValue naturalDoubles.double)).toOption.getD "")
  digest_wellFormed _ :=
    show isSha256Digest ("sha256:" ++ acceptanceSha256 "") = true by decide +kernel
  localeAtMost _ _ := true
  dateParse _ := some 0
  toISOString _ := "1970-01-01T00:00:00.000Z"

theorem acceptance_representable : ∀ event ∈ [acceptanceEvent acceptanceEntries] ++
    [acceptanceEvent acceptanceEntries.reverse],
      (Json.object event.payload).Representable naturalDoubles.IsDouble := by
  have zero : naturalDoubles.IsDouble (0 : Nat) := naturalDoubles.safe 0 (by decide)
  refine List.forall_mem_cons.2 ⟨⟨by decide +kernel, ?_⟩,
    List.forall_mem_singleton.2 ⟨by decide +kernel, ?_⟩⟩
  · exact ⟨trivial, trivial, trivial, zero, zero, trivial⟩
  · exact ⟨zero, zero, trivial, trivial, trivial, trivial⟩

/-- The order of the payload does not reach the hashed text. -/
theorem acceptance_text {text text' : String}
    (written : (acceptanceEvent acceptanceEntries).HashedText naturalDoubles text) :
    ∀ event ∈ [acceptanceEvent acceptanceEntries] ++ [acceptanceEvent acceptanceEntries.reverse],
      event.HashedText naturalDoubles text' → text = text' := by
  have base : (Json.object (acceptanceEvent acceptanceEntries).base).Representable
      naturalDoubles.IsDouble := (representable_base (by decide) (acceptance_representable _ (by simp)))
  refine List.forall_mem_cons.2 ⟨fun written' => Except.ok.inj (written.symm.trans written'),
    List.forall_mem_singleton.2 fun written' => ?_⟩
  refine (sameJson_iff_text base (representable_base (by decide)
    (acceptance_representable _ (by simp))) written written').2 ?_
  have payload : SameJson (.object acceptanceEntries) (.object acceptanceEntries.reverse) :=
    .object (List.reverse_perm acceptanceEntries) (.refl acceptanceEntries)
  exact .object (.refl _) (.cons (.refl _) (.cons (.refl _) (.cons (.refl _) (.cons (.refl _)
    (.cons (.refl _) (.cons (.refl _) (.cons (.refl _) (.cons (.refl _) (.cons (.refl _)
    (.cons (.refl _) (.cons (.refl _) (.cons payload .nil))))))))))))

theorem verified_acceptance : ∀ payload ∈ [acceptanceEntries, acceptanceEntries.reverse],
    verifyFoundryEventChain acceptancePlatform [acceptanceEvent payload] = .ok () := by
  decide +kernel

end OnePersonLab.Evolution
