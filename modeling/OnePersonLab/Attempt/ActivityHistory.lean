import OnePersonLab.Attempt.CloseoutPacket
import OnePersonLab.Evolution.ProtocolValidation

/-!
# The activity history of a stage attempt

Events are appended to a list of at most 256 entries. Once events have been
dropped, a marker in front of the list counts them; an event that is too large
is replaced by a record of its size and digest. The list says the same as the
whole sequence of events as long as these records and markers are small
themselves.
-/

namespace OnePersonLab.Attempt

open Contract
open Evolution (isSafeInteger maxSafeInteger)

/-! ## Events and their bounds -/

/-- `JSON.stringify`, and the digest of a text. -/
structure ActivityTexts where
  stringify : Json → String
  sha256 : String → String

def maxStageAttemptActivityEvents : Nat := 256
def maxStageAttemptActivityEventBytes : Nat := 16 * 1024

def activityCompactionEventKind : String := "stage_attempt_activity_history_compacted"
def activityTruncationEventKind : String := "stage_attempt_activity_event_truncated"

/-- `isActivityEvent`, with the fields of the event. -/
def activityEvent? : Json → Option JsonRecord
  | .object fields => some fields
  | _ => none

/-- The fields of an event; the time of the call where the event has none. -/
def normalizeActivityEvent (now : String) (value : JsonRecord) : JsonRecord :=
  value.foldl (fun event field => setField event field.1 field.2) [("event_time", .string now)]

section

variable (texts : ActivityTexts)

/-- `Buffer.byteLength(JSON.stringify(event))`. -/
def eventBytes (event : JsonRecord) : Nat := (bytes (texts.stringify (.object event))).length

/-- `event_kind` or else `activity_kind`, where they are texts. -/
def originalEventKind (event : JsonRecord) : Option String :=
  ((field? event "event_kind").bind Json.asString?).or
    ((field? event "activity_kind").bind Json.asString?)

/-- What stands for an event that is too large. -/
def truncationRecord (now : String) (event : JsonRecord) : JsonRecord :=
  [("event_kind", .string activityTruncationEventKind),
    ("event_time", .string (((field? event "event_time").bind Json.asString?).getD now)),
    ("original_event_kind", .ofOptionalString (originalEventKind event)),
    ("original_json_bytes", .ofNat (eventBytes texts event)),
    ("sha256", .string (texts.sha256 (texts.stringify (.object event)))),
    ("retention_policy", .object [("strategy", .string "hash_and_size_only"),
      ("max_event_json_bytes", .ofNat maxStageAttemptActivityEventBytes)])]

def boundedActivityEvent (now : String) (event : JsonRecord) : JsonRecord :=
  if eventBytes texts event ≤ maxStageAttemptActivityEventBytes then event
  else truncationRecord texts now event

def isCompactionMarker (event : JsonRecord) : Bool :=
  field? event "event_kind" = some (.string activityCompactionEventKind)

def compactedEventCount (event : JsonRecord) : Nat :=
  if isCompactionMarker event then
    match field? event "compacted_event_count" with
    | some (.number count) => if isSafeInteger count && decide (0 < count) then count.num.toNat else 0
    | _ => 0
  else 0

def compactionMarker (compactedAt : String) (compacted retained : Nat) : JsonRecord :=
  [("event_kind", .string activityCompactionEventKind),
    ("event_time", .string compactedAt),
    ("compacted_event_count", .ofNat compacted),
    ("retained_event_count", .ofNat retained),
    ("retention_policy", .object [("strategy", .string "latest_tail"),
      ("max_events", .ofNat maxStageAttemptActivityEvents)])]

/-- `values.slice(-limit)`. -/
def lastEvents (limit : Nat) (events : List JsonRecord) : List JsonRecord :=
  events.drop (events.length - limit)

def compactStageAttemptActivityEvents (now compactedAt : String) (values : List Json) :
    List JsonRecord :=
  let activityEvents := (values.filterMap activityEvent?).map (boundedActivityEvent texts now)
  let previouslyCompacted := (activityEvents.map compactedEventCount).sum
  let candidates := activityEvents.filter fun event => !isCompactionMarker event
  if previouslyCompacted = 0 ∧ candidates.length ≤ maxStageAttemptActivityEvents then candidates
  else
    let retained := lastEvents (maxStageAttemptActivityEvents - 1) candidates
    compactionMarker compactedAt
      (previouslyCompacted + (candidates.length - (maxStageAttemptActivityEvents - 1)))
      retained.length :: retained

/-- The event is normalised at `now`; the marker carries its time, if that is a text. -/
def appendActivityEventToRow (history : List Json) (event : JsonRecord) (now : String) :
    List JsonRecord :=
  compactStageAttemptActivityEvents texts now
    (((field? event "event_time").bind Json.asString?).getD now)
    (history.filter (activityEvent? · |>.isSome) ++ [.object (normalizeActivityEvent now event)])

end

/-! ## Histories -/

/-- An append: the event and the time of the call. -/
structure ActivityAppend where
  event : JsonRecord
  now : String

namespace ActivityAppend

variable (texts : ActivityTexts)

def normalized (append : ActivityAppend) : JsonRecord :=
  normalizeActivityEvent append.now append.event

/-- The entry that stands for the event. -/
def entry (append : ActivityAppend) : JsonRecord :=
  boundedActivityEvent texts append.now append.normalized

/-- The time that a marker written with the event carries. -/
def time (append : ActivityAppend) : String :=
  ((field? append.event "event_time").bind Json.asString?).getD append.now

end ActivityAppend

/-- The stored list after the appends, newest first, to an empty history. -/
def storedHistory (texts : ActivityTexts) : List ActivityAppend → List JsonRecord
  | [] => []
  | append :: earlier =>
    appendActivityEventToRow texts ((storedHistory texts earlier).map .object) append.event
      append.now

/-- The entries of all appended events, oldest first. -/
def historyEntries (texts : ActivityTexts) (appends : List ActivityAppend) : List JsonRecord :=
  (appends.map (ActivityAppend.entry texts)).reverse

/-- A record without its time, if it is a marker. -/
def untimed (event : JsonRecord) : JsonRecord :=
  if isCompactionMarker event then event.filter fun field => field.1 != "event_time" else event

/-- The history of the appends, newest first: bounded, the latest events behind a marker that
counts the dropped ones, and the same as one compaction of all events. -/
structure HistoryKept (texts : ActivityTexts) (appends : List ActivityAppend) : Prop where
  short : (storedHistory texts appends).length ≤ maxStageAttemptActivityEvents
  small : ∀ event ∈ storedHistory texts appends,
    eventBytes texts event ≤ maxStageAttemptActivityEventBytes
  tail : (appends.length ≤ 256 ∧ storedHistory texts appends = historyEntries texts appends) ∨
    (256 < appends.length ∧ ∃ time, storedHistory texts appends =
      compactionMarker time (appends.length - 255) 255 ::
        (historyEntries texts appends).drop (appends.length - 255))
  /-- The entries but the marker are the retained ones. -/
  counted : ((storedHistory texts appends).map compactedEventCount).sum +
    ((storedHistory texts appends).filter fun event => !isCompactionMarker event).length =
      appends.length
  oneCall : ∀ now compactedAt, (compactStageAttemptActivityEvents texts now compactedAt
      (appends.reverse.map fun append => .object append.normalized)).map untimed =
    (storedHistory texts appends).map untimed
  truncated : ∀ append ∈ appends,
    maxStageAttemptActivityEventBytes < eventBytes texts append.normalized →
    field? (append.entry texts) "original_json_bytes" =
        some (.ofNat (eventBytes texts append.normalized)) ∧
      field? (append.entry texts) "sha256" =
        some (.string (texts.sha256 (texts.stringify (.object append.normalized))))

/-- What the appends must meet: the event is no marker, the entry that stands for it is small,
and so is the marker that is written with it. -/
structure Appendable (texts : ActivityTexts) (earlier : Nat) (append : ActivityAppend) : Prop where
  unmarked : isCompactionMarker append.normalized = false
  small : eventBytes texts (append.entry texts) ≤ maxStageAttemptActivityEventBytes
  timed : maxStageAttemptActivityEventBytes < eventBytes texts append.normalized →
    (((field? append.normalized "event_time").bind Json.asString?).isSome = true)
  marker : 256 ≤ earlier → eventBytes texts (compactionMarker append.time (earlier - 254) 255) ≤
    maxStageAttemptActivityEventBytes
  countable : earlier + 1 ≤ maxSafeInteger

def EachAppendable (texts : ActivityTexts) : List ActivityAppend → Prop
  | [] => True
  | append :: earlier => Appendable texts earlier.length append ∧ EachAppendable texts earlier

theorem EachAppendable.mem {texts : ActivityTexts} {appends : List ActivityAppend}
    (each : EachAppendable texts appends) {append : ActivityAppend} (listed : append ∈ appends) :
    ∃ earlier, Appendable texts earlier append := by
  induction appends with
  | nil => exact absurd listed List.not_mem_nil
  | cons first rest ih =>
    rcases List.mem_cons.1 listed with rfl | later
    · exact ⟨_, each.1⟩
    · exact ih each.2 later

/-! ## Entries and markers -/

section

variable {texts : ActivityTexts} {append : ActivityAppend} {earlier : Nat}

theorem isCompactionMarker_truncationRecord (now : String) (event : JsonRecord) :
    isCompactionMarker (truncationRecord texts now event) = false := by
  simp [isCompactionMarker, truncationRecord, activityTruncationEventKind,
    activityCompactionEventKind]

theorem Appendable.entry_unmarked (meets : Appendable texts earlier append) :
    isCompactionMarker (append.entry texts) = false := by
  unfold ActivityAppend.entry boundedActivityEvent
  split
  · exact meets.unmarked
  · exact isCompactionMarker_truncationRecord _ _

@[simp] theorem isCompactionMarker_compactionMarker (time : String) (compacted retained : Nat) :
    isCompactionMarker (compactionMarker time compacted retained) = true := by
  simp [isCompactionMarker, compactionMarker]

theorem compactedEventCount_of_unmarked {event : JsonRecord}
    (unmarked : isCompactionMarker event = false) : compactedEventCount event = 0 := by
  rw [compactedEventCount, unmarked]
  rfl

theorem compactedEventCount_compactionMarker {compacted : Nat} (positive : 0 < compacted)
    (safe : compacted ≤ maxSafeInteger) (time : String) (retained : Nat) :
    compactedEventCount (compactionMarker time compacted retained) = compacted := by
  have count : field? (compactionMarker time compacted retained) "compacted_event_count" =
      some (.number compacted) := by
    simp [compactionMarker, field?_cons, Json.ofNat]
  have accepted : (isSafeInteger (compacted : ℚ) && decide (0 < (compacted : ℚ))) = true := by
    simp [isSafeInteger, safe, positive]
  rw [compactedEventCount, isCompactionMarker_compactionMarker, if_pos rfl, count]
  dsimp only
  rw [if_pos accepted, Rat.num_natCast, Int.toNat_natCast]

/-- A bounded event stays as it is. -/
theorem boundedActivityEvent_of_small {event : JsonRecord}
    (small : eventBytes texts event ≤ maxStageAttemptActivityEventBytes) (now : String) :
    boundedActivityEvent texts now event = event := if_pos small

/-- An event with a time of its own is bounded alike at any time. -/
theorem Appendable.bounded_normalized (meets : Appendable texts earlier append) (now : String) :
    boundedActivityEvent texts now append.normalized = append.entry texts := by
  unfold ActivityAppend.entry boundedActivityEvent
  by_cases small : eventBytes texts append.normalized ≤ maxStageAttemptActivityEventBytes
  · rw [if_pos small, if_pos small]
  · obtain ⟨time, timed⟩ := Option.isSome_iff_exists.1 (meets.timed (Nat.lt_of_not_le small))
    rw [if_neg small, if_neg small, truncationRecord, truncationRecord, timed]
    rfl

/-! ## One compaction -/

theorem filterMap_activityEvent (events : List JsonRecord) :
    (events.map Json.object).filterMap activityEvent? = events := by
  rw [List.filterMap_map]
  exact List.filterMap_some

theorem filter_unmarked {events : List JsonRecord}
    (unmarked : ∀ event ∈ events, isCompactionMarker event = false) :
    events.filter (fun event => !isCompactionMarker event) = events :=
  List.filter_eq_self.2 fun event listed => by rw [unmarked event listed]; rfl

theorem sum_compacted {events : List JsonRecord}
    (unmarked : ∀ event ∈ events, isCompactionMarker event = false) :
    (events.map compactedEventCount).sum = 0 := by
  induction events with
  | nil => rfl
  | cons event rest ih =>
    rw [List.map_cons, List.sum_cons, ih fun other listed =>
      unmarked other (List.mem_cons_of_mem _ listed),
      compactedEventCount_of_unmarked (unmarked event (List.mem_cons_self ..))]

/-- A compaction of events without a marker. -/
theorem compact_unmarked {values : List Json} {entries : List JsonRecord} {now : String}
    (read : (values.filterMap activityEvent?).map (boundedActivityEvent texts now) = entries)
    (unmarked : ∀ event ∈ entries, isCompactionMarker event = false) (compactedAt : String) :
    compactStageAttemptActivityEvents texts now compactedAt values =
      if entries.length ≤ 256 then entries
      else compactionMarker compactedAt (entries.length - 255) 255 ::
        entries.drop (entries.length - 255) := by
  simp only [compactStageAttemptActivityEvents, read, filter_unmarked unmarked,
    sum_compacted unmarked, true_and, maxStageAttemptActivityEvents, Nat.zero_add, lastEvents]
  by_cases few : entries.length ≤ 256
  · rw [if_pos few, if_pos few]
  · have length : (entries.drop (entries.length - 255)).length = 255 := by
      rw [List.length_drop]
      omega
    rw [if_neg few, if_neg few, Nat.add_one_sub_one, length]

/-- A compaction of a marker and the events behind it. -/
theorem compact_marked {values : List Json} {entries : List JsonRecord} {now time : String}
    {compacted : Nat} (positive : 0 < compacted) (safe : compacted ≤ maxSafeInteger)
    (read : (values.filterMap activityEvent?).map (boundedActivityEvent texts now) =
      compactionMarker time compacted 255 :: entries)
    (unmarked : ∀ event ∈ entries, isCompactionMarker event = false)
    (length : entries.length = 256) (compactedAt : String) :
    compactStageAttemptActivityEvents texts now compactedAt values =
      compactionMarker compactedAt (compacted + 1) 255 :: entries.drop 1 := by
  simp only [compactStageAttemptActivityEvents, read, List.map_cons, List.sum_cons,
    sum_compacted unmarked, compactedEventCount_compactionMarker positive safe,
    isCompactionMarker_compactionMarker, Bool.not_true, List.filter_cons, Bool.false_eq_true,
    if_false, filter_unmarked unmarked, lastEvents, length, maxStageAttemptActivityEvents]
  rw [if_neg (by omega)]
  simp [length]

end

/-! ## All appends -/

section

variable {texts : ActivityTexts} {appends : List ActivityAppend}

theorem historyEntries_length : (historyEntries texts appends).length = appends.length := by
  simp [historyEntries]

theorem mem_historyEntries {event : JsonRecord} : event ∈ historyEntries texts appends ↔
    ∃ append ∈ appends, append.entry texts = event := by
  simp [historyEntries]

theorem EachAppendable.entry (each : EachAppendable texts appends) {event : JsonRecord}
    (listed : event ∈ historyEntries texts appends) : isCompactionMarker event = false ∧
      eventBytes texts event ≤ maxStageAttemptActivityEventBytes := by
  obtain ⟨append, present, rfl⟩ := mem_historyEntries.1 listed
  obtain ⟨earlier, meets⟩ := each.mem present
  exact ⟨meets.entry_unmarked, meets.small⟩

/-- The list that a history of so many events has. -/
def expectedHistory (texts : ActivityTexts) (time : String) (appends : List ActivityAppend) :
    List JsonRecord :=
  if appends.length ≤ 256 then historyEntries texts appends
  else compactionMarker time (appends.length - 255) 255 ::
    (historyEntries texts appends).drop (appends.length - 255)

/-- The last time of the appends, newest first. -/
def latestTime : List ActivityAppend → String
  | [] => ""
  | append :: _ => append.time

theorem appended_values (history : List JsonRecord) (event : JsonRecord) (now : String) :
    (((history.map Json.object).filter (activityEvent? · |>.isSome) ++
      [Json.object event]).filterMap activityEvent?).map (boundedActivityEvent texts now) =
      history.map (boundedActivityEvent texts now) ++ [boundedActivityEvent texts now event] := by
  have all : (history.map Json.object).filter (activityEvent? · |>.isSome) =
      history.map Json.object := by
    refine List.filter_eq_self.2 fun value listed => ?_
    obtain ⟨record, -, rfl⟩ := List.mem_map.1 listed
    rfl
  rw [all, List.filterMap_append, filterMap_activityEvent, List.map_append]
  rfl

theorem historyEntries_cons (append : ActivityAppend) (earlier : List ActivityAppend) :
    historyEntries texts (append :: earlier) =
      historyEntries texts earlier ++ [append.entry texts] := by
  simp [historyEntries]

/-- Every append finds the history of the earlier ones as expected. -/
theorem storedHistory_eq (each : EachAppendable texts appends) :
    storedHistory texts appends = expectedHistory texts (latestTime appends) appends := by
  induction appends with
  | nil => rfl
  | cons append earlier ih =>
    obtain ⟨meets, rest⟩ := each
    have entries : ∀ event ∈ historyEntries texts earlier, _ := fun _ listed => rest.entry listed
    have unmarked : ∀ event ∈ historyEntries texts (append :: earlier),
        isCompactionMarker event = false := by
      intro event listed
      rw [historyEntries_cons, List.mem_append, List.mem_singleton] at listed
      rcases listed with known | rfl
      · exact (entries event known).1
      · exact meets.entry_unmarked
    have still : ∀ events : List JsonRecord, (∀ event ∈ events,
        eventBytes texts event ≤ maxStageAttemptActivityEventBytes) →
        events.map (boundedActivityEvent texts append.now) = events := by
      intro events small
      exact (List.map_congr_left fun event listed =>
        boundedActivityEvent_of_small (small event listed) _).trans (List.map_id _)
    rw [storedHistory, ih rest]
    unfold appendActivityEventToRow
    by_cases few : earlier.length ≤ 256
    · have read : (((expectedHistory texts (latestTime earlier) earlier).map Json.object |>.filter
          (activityEvent? · |>.isSome)) ++ [Json.object (normalizeActivityEvent append.now append.event)]
          |>.filterMap activityEvent?).map (boundedActivityEvent texts append.now) =
          historyEntries texts (append :: earlier) := by
        rw [appended_values, expectedHistory, if_pos few,
          still _ fun event listed => (entries event listed).2, historyEntries_cons]
        rfl
      rw [compact_unmarked read unmarked, historyEntries_length]
      rfl
    · have many : 256 < earlier.length := Nat.lt_of_not_le few
      have markerSmall : eventBytes texts (compactionMarker (latestTime earlier)
          (earlier.length - 255) 255) ≤ maxStageAttemptActivityEventBytes := by
        cases earlier with
        | nil => simp at many
        | cons previous others =>
          simp only [List.length_cons] at many ⊢
          have count : others.length + 1 - 255 = others.length - 254 := by omega
          rw [count]
          exact rest.1.marker (by omega)
      have read : (((expectedHistory texts (latestTime earlier) earlier).map Json.object |>.filter
          (activityEvent? · |>.isSome)) ++ [Json.object (normalizeActivityEvent append.now append.event)]
          |>.filterMap activityEvent?).map (boundedActivityEvent texts append.now) =
          compactionMarker (latestTime earlier) (earlier.length - 255) 255 ::
            ((historyEntries texts earlier).drop (earlier.length - 255) ++
              [append.entry texts]) := by
        rw [appended_values, expectedHistory, if_neg few, List.map_cons,
          boundedActivityEvent_of_small markerSmall, still _ fun event listed =>
            (entries event (List.mem_of_mem_drop listed)).2]
        rfl
      have countable := meets.countable
      have behind : (historyEntries texts earlier).drop (earlier.length - 255) ++
          [append.entry texts] = (historyEntries texts (append :: earlier)).drop
            (earlier.length - 255) := by
        rw [historyEntries_cons, List.drop_append_of_le_length]
        rw [historyEntries_length]
        omega
      rw [behind] at read
      rw [compact_marked (by omega) (by omega) read (fun event listed =>
        unmarked event (List.mem_of_mem_drop listed)) (by
          rw [List.length_drop, historyEntries_length, List.length_cons]
          omega), expectedHistory, if_neg (by rw [List.length_cons]; omega), List.drop_drop,
        List.length_cons]
      have count : earlier.length - 255 + 1 = earlier.length + 1 - 255 := by omega
      rw [count]
      rfl

theorem untimed_compactionMarker (time other : String) (compacted retained : Nat) :
    untimed (compactionMarker time compacted retained) =
      untimed (compactionMarker other compacted retained) := by
  simp only [untimed, isCompactionMarker_compactionMarker, if_true]
  simp only [compactionMarker, List.filter_cons]
  rfl

theorem latestTime_small (each : EachAppendable texts appends) (many : 256 < appends.length) :
    eventBytes texts (compactionMarker (latestTime appends) (appends.length - 255) 255) ≤
      maxStageAttemptActivityEventBytes := by
  cases appends with
  | nil => simp at many
  | cons append earlier =>
    have count : earlier.length + 1 - 255 = earlier.length - 254 := by omega
    rw [List.length_cons] at many ⊢
    rw [count]
    exact each.1.marker (by omega)

theorem EachAppendable.length (each : EachAppendable texts appends) :
    appends.length ≤ maxSafeInteger := by
  cases appends with
  | nil => exact Nat.zero_le _
  | cons append earlier => exact each.1.countable

end

/-! ## Small and large records -/

mutual
/-- The JSON text of a value whose texts need no escapes and whose numbers are natural. -/
def plainJson : Json → String
  | .null => "null"
  | .bool value => if value then "true" else "false"
  | .number value => toString value.num
  | .string text => "\"" ++ text ++ "\""
  | .array items => "[" ++ plainItems items ++ "]"
  | .object fields => "\x7b" ++ plainFields fields ++ "\x7d"

def plainItems : List Json → String
  | [] => ""
  | [item] => plainJson item
  | item :: items => plainJson item ++ "," ++ plainItems items

def plainFields : JsonRecord → String
  | [] => ""
  | [(key, value)] => "\"" ++ key ++ "\":" ++ plainJson value
  | (key, value) :: fields => "\"" ++ key ++ "\":" ++ plainJson value ++ "," ++ plainFields fields
end

def plainTexts : ActivityTexts where
  stringify := plainJson
  sha256 _ := "0000000000000000000000000000000000000000000000000000000000000000"

def heartbeat : ActivityAppend :=
  ⟨[("event_kind", .string "heartbeat"), ("event_time", .string "2026-01-01T00:00:00.000Z")],
    "2026-01-01T00:00:00.000Z"⟩

/-- An event of a kind. -/
def eventOfKind (kind : String) : ActivityAppend :=
  ⟨[("event_time", .string "2026-01-01T00:00:00.000Z"), ("event_kind", .string kind)],
    "2026-01-01T00:00:00.000Z"⟩

theorem bytes_append (left right : String) :
    (bytes (left ++ right)).length = (bytes left).length + (bytes right).length := by
  simp [bytes]

/-- Neither the event nor the record that replaces it is smaller than the kind. -/
theorem kind_le_entry (kind : String) :
    (bytes kind).length ≤ eventBytes plainTexts (eventOfKind kind).normalized ∧
      (bytes kind).length ≤ eventBytes plainTexts (truncationRecord plainTexts
        (eventOfKind kind).now (eventOfKind kind).normalized) := by
  have normalized : (eventOfKind kind).normalized = (eventOfKind kind).event := rfl
  have original : originalEventKind (eventOfKind kind).event = some kind := rfl
  rw [normalized]
  constructor
  · simp only [eventBytes, plainTexts, eventOfKind, plainJson, plainFields, bytes_append]
    omega
  · simp only [eventBytes, plainTexts, truncationRecord, original, Json.ofOptionalString, plainJson,
      plainFields, bytes_append]
    omega

theorem eventOfKind_unkept {kind : String}
    (long : maxStageAttemptActivityEventBytes < (bytes kind).length) :
    ¬ HistoryKept plainTexts [eventOfKind kind] := by
  obtain ⟨event, replaced⟩ := kind_le_entry kind
  have unmarked : isCompactionMarker ((eventOfKind kind).entry plainTexts) = false := by
    rw [ActivityAppend.entry, boundedActivityEvent, if_neg (by omega)]
    exact isCompactionMarker_truncationRecord _ _
  have stored : storedHistory plainTexts [eventOfKind kind] = [(eventOfKind kind).entry plainTexts] := by
    have all : ∀ event ∈ [(eventOfKind kind).entry plainTexts], isCompactionMarker event = false := by
      intro event listed
      rw [List.mem_singleton.1 listed]
      exact unmarked
    refine (compact_unmarked ?_ all _).trans rfl
    rfl
  intro kept
  have small := kept.small ((eventOfKind kind).entry plainTexts) (by rw [stored]; simp)
  rw [ActivityAppend.entry, boundedActivityEvent, if_neg (by omega)] at small
  omega

/-- A kind of so many characters. -/
def kindOfLength (length : Nat) : String := String.ofList (List.replicate length 'k')

theorem kindOfLength_bytes (length : Nat) : (bytes (kindOfLength length)).length = length := by
  rw [kindOfLength, bytes_ofList, List.length_flatMap]
  induction length with
  | zero => rfl
  | succ length ih =>
    rw [List.replicate_succ, List.map_cons, List.sum_cons, ih, Nat.add_comm]
    rfl

end OnePersonLab.Attempt
