import OnePersonLab.Attempt.Creation

/-!
# Concurrent creations of stage attempts

The look-up and the insertion of a call are apart, and the key of a row is not unique. A
call with an explicit boundary recovers from what came in between. Every other call is
right exactly when nothing did.
-/

namespace OnePersonLab.Attempt

open Contract

/-! ## Keys and ids of prepared rows -/

/-- The row that a call inserts. -/
def Prepared (input : StageAttemptCreateInput) (row : StageAttemptRow) : Prop :=
  ∃ rows createdAt, lookupStageAttempt rows input createdAt = .ok (.insert row)

/-- A call without `newAttempt` has this key. -/
def HasKey (input : StageAttemptCreateInput) (key : IdempotencyKey) : Prop :=
  (stageAttemptBaseIdempotencyKey input).map .base = .ok key

instance (input : StageAttemptCreateInput) (key : IdempotencyKey) : Decidable (HasKey input key) :=
  inferInstanceAs (Decidable (_ = _))

def IdempotencyKey.isNewAttempt : IdempotencyKey → Bool
  | .base _ => false
  | .newAttempt _ _ => true

section

variable {input : StageAttemptCreateInput} {row : StageAttemptRow}

theorem stageAttemptBaseIdempotencyKey_explicit {key : BaseKey}
    (keyed : stageAttemptBaseIdempotencyKey input = .ok key) :
    input.idempotencyBoundaryId.isSome = true ↔
      ∃ domainId stageId providerKind boundaryId,
        key = .explicit domainId stageId providerKind boundaryId := by
  unfold stageAttemptBaseIdempotencyKey at keyed
  cases bound : input.idempotencyBoundaryId with
  | none =>
    simp only [bound, Except.ok.injEq] at keyed
    subst keyed
    simp
  | some boundaryId =>
    simp only [bound] at keyed
    by_cases blank : trim boundaryId = ""
    · rw [if_pos blank] at keyed
      exact absurd keyed nofun
    · rw [if_neg blank, Except.ok.injEq] at keyed
      subst keyed
      simp

/-- What a look-up says of the row that it leaves to insert. -/
theorem lookupStageAttempt_insert {rows : List StageAttemptRow} {createdAt : Int}
    (looked : lookupStageAttempt rows input createdAt = .ok (.insert row)) :
    (input.newAttempt = true ∧ row.idempotencyKey.isNewAttempt = true ∧
      ∃ parts ordinal, row.stageAttemptId = .numbered parts ordinal) ∨
    (input.newAttempt = false ∧ HasKey input row.idempotencyKey ∧
      row.idempotencyKey.isNewAttempt = false ∧
      if recovers input then row.stageAttemptId = .explicit row.idempotencyKey
      else ∃ parts, row.stageAttemptId = .created parts createdAt) := by
  unfold lookupStageAttempt at looked
  cases keyed : stageAttemptBaseIdempotencyKey input with
  | error failure =>
    rw [keyed] at looked
    exact absurd looked nofun
  | ok key =>
    simp only [keyed, bind, Except.bind] at looked
    by_cases new : input.newAttempt = true
    · rw [if_pos new] at looked
      simp only [pure, Except.pure, Except.ok.injEq, Lookup.insert.injEq] at looked
      subst looked
      exact .inl ⟨new, rfl, _, _, rfl⟩
    · rw [if_neg new] at looked
      refine .inr ⟨by simpa using new, ?_⟩
      cases found : findByIdempotencyKey rows (.base key) with
      | some existing =>
        simp only [found, pure, Except.pure] at looked
        cases answered : existingResult existing input with
        | error failure => simp [answered] at looked
        | ok result => simp [answered] at looked
      | none =>
        simp only [found, pure, Except.pure, Except.ok.injEq, Lookup.insert.injEq] at looked
        subst looked
        refine ⟨by simp [HasKey, keyed, newRow, Except.map], rfl, ?_⟩
        by_cases explicit : recovers input = true
        · rw [if_pos explicit]
          simp [newRow, explicit]
        · rw [if_neg explicit]
          exact ⟨idParts input, by simp [newRow, explicit]⟩

theorem recovers_newAttempt (explicit : recovers input = true) : input.newAttempt = false := by
  simp only [recovers, Bool.and_eq_true, Bool.not_eq_true'] at explicit
  exact explicit.2

theorem Prepared.hasKey (prepared : Prepared input row) (old : input.newAttempt = false) :
    HasKey input row.idempotencyKey := by
  obtain ⟨rows, createdAt, looked⟩ := prepared
  rcases lookupStageAttempt_insert looked with ⟨new, -⟩ | ⟨-, keyed, -⟩
  · simp [old] at new
  · exact keyed

theorem Prepared.isNewAttempt (prepared : Prepared input row) :
    row.idempotencyKey.isNewAttempt = input.newAttempt := by
  obtain ⟨rows, createdAt, looked⟩ := prepared
  rcases lookupStageAttempt_insert looked with ⟨new, isNew, -⟩ | ⟨old, -, isOld, -⟩
  · rw [new, isNew]
  · rw [old, isOld]

theorem Prepared.id_of_recovers (prepared : Prepared input row) (explicit : recovers input = true) :
    row.stageAttemptId = .explicit row.idempotencyKey := by
  obtain ⟨rows, createdAt, looked⟩ := prepared
  rcases lookupStageAttempt_insert looked with ⟨new, -⟩ | ⟨-, -, -, named⟩
  · simp [recovers_newAttempt explicit] at new
  · rwa [if_pos explicit] at named

/-- An explicit id is the id of its key. -/
theorem Prepared.key_of_explicit (prepared : Prepared input row) {key : IdempotencyKey}
    (explicit : row.stageAttemptId = .explicit key) : row.idempotencyKey = key := by
  obtain ⟨rows, createdAt, looked⟩ := prepared
  rcases lookupStageAttempt_insert looked with ⟨-, -, parts, ordinal, numbered⟩ | ⟨-, -, -, named⟩
  · simp [explicit] at numbered
  · by_cases recovering : recovers input = true
    · rw [if_pos recovering, explicit, StageAttemptId.explicit.injEq] at named
      exact named.symm
    · rw [if_neg recovering] at named
      obtain ⟨parts, created⟩ := named
      simp [explicit] at created

/-- Two calls under one key both recover or neither does. -/
theorem HasKey.recovers_eq {first second : StageAttemptCreateInput} {key : IdempotencyKey}
    (firstKey : HasKey first key) (secondKey : HasKey second key)
    (firstOld : first.newAttempt = false) (secondOld : second.newAttempt = false) :
    recovers first = recovers second := by
  unfold HasKey at firstKey secondKey
  cases keyed : stageAttemptBaseIdempotencyKey first with
  | error failure => simp [keyed, Except.map] at firstKey
  | ok firstBase =>
    cases keyed' : stageAttemptBaseIdempotencyKey second with
    | error failure => simp [keyed', Except.map] at secondKey
    | ok secondBase =>
      simp only [keyed, keyed', Except.map, Except.ok.injEq] at firstKey secondKey
      have same : firstBase = secondBase := by
        rw [← secondKey, IdempotencyKey.base.injEq] at firstKey
        exact firstKey
      subst same
      have one := stageAttemptBaseIdempotencyKey_explicit keyed
      have two := stageAttemptBaseIdempotencyKey_explicit keyed'
      simp only [recovers, firstOld, secondOld, Bool.not_false, Bool.and_true]
      exact Bool.eq_iff_iff.2 (one.trans two.symm)

end

/-! ## The property -/

/-- No two rows have the key of a call without `newAttempt`. -/
def SingleRows (rows : List StageAttemptRow) : Prop :=
  rows.Pairwise fun older newer =>
    older.idempotencyKey.isNewAttempt = false → older.idempotencyKey ≠ newer.idempotencyKey

instance (rows : List StageAttemptRow) : Decidable (SingleRows rows) :=
  inferInstanceAs (Decidable (List.Pairwise _ rows))

/-- A call has the id of the row under its key, or the id of a row that it has created. -/
def Ended.Served (rows : List StageAttemptRow) (call : Ended) : Prop :=
  ∃ row ∈ rows,
    if call.input.newAttempt then
      call.outcome = .ok ⟨true, row.stageAttemptId⟩ ∧ row.idempotencyKey.isNewAttempt = true
    else
      call.outcome.map CreateResult.stageAttemptId = .ok row.stageAttemptId ∧
        HasKey call.input row.idempotencyKey

instance (rows : List StageAttemptRow) (call : Ended) : Decidable (call.Served rows) :=
  inferInstanceAs (Decidable (∃ row ∈ rows, ite _ _ _))

structure CreatesOnce (world : AttemptWorld) : Prop where
  single : SingleRows world.rows
  served : ∀ call ∈ world.ended, call.Served world.rows
  /-- Calls with `newAttempt` create rows of their own. -/
  apart : world.ended.Pairwise fun later earlier =>
    later.input.newAttempt = true → earlier.input.newAttempt = true →
      later.outcome ≠ earlier.outcome

theorem createsOnce_iff (world : AttemptWorld) : CreatesOnce world ↔
    SingleRows world.rows ∧ (∀ call ∈ world.ended, call.Served world.rows) ∧
    world.ended.Pairwise fun later earlier =>
      later.input.newAttempt = true → earlier.input.newAttempt = true →
        later.outcome ≠ earlier.outcome :=
  ⟨fun once => ⟨once.single, once.served, once.apart⟩, fun ⟨single, served, apart⟩ =>
    ⟨single, served, apart⟩⟩

instance (world : AttemptWorld) : Decidable (CreatesOnce world) :=
  decidable_of_iff _ (createsOnce_iff world).symm

/-- Since the look-up, no other call has taken the id of the row, nor its key when it is to
be the only row under it. -/
def InsertsAlone (world : AttemptWorld) : CreateStep → Prop
  | .insert call =>
    match world.calls call with
    | some (.inserting input row) =>
      recovers input = true ∨ ∀ existing ∈ world.rows,
        existing.stageAttemptId ≠ row.stageAttemptId ∧
          (input.newAttempt = false → existing.idempotencyKey ≠ row.idempotencyKey)
    | _ => True
  | _ => True

def EachInsertsAlone (world : AttemptWorld) : List CreateStep → Prop
  | [] => True
  | step :: steps => InsertsAlone world step ∧ EachInsertsAlone (world.step step) steps

/-! ## What every interleaving keeps -/

structure Sound (world : AttemptWorld) : Prop where
  ids : world.rows.Pairwise fun older newer => older.stageAttemptId ≠ newer.stageAttemptId
  rows : ∀ row ∈ world.rows, ∃ input, Prepared input row
  inserting : ∀ call input row, world.calls call = some (.inserting input row) → Prepared input row
  recovering : ∀ call input row, world.calls call = some (.recovering input row) →
    Prepared input row ∧ recovers input = true ∧
      ∃ existing ∈ world.rows, existing.stageAttemptId = row.stageAttemptId
  ended : ∀ call ∈ world.ended, ∀ result, call.outcome = .ok result → call.Served world.rows
  apart : world.ended.Pairwise fun later earlier => ∀ result,
    later.input.newAttempt = true → later.outcome = .ok result → earlier.outcome ≠ .ok result

section

variable {rows : List StageAttemptRow} {result : CreateResult} {world : AttemptWorld}
  {row : StageAttemptRow} {input : StageAttemptCreateInput}

theorem Sound.empty : Sound AttemptWorld.empty where
  ids := .nil
  rows := by simp [AttemptWorld.empty]
  inserting := by simp [AttemptWorld.empty]
  recovering := by simp [AttemptWorld.empty]
  ended := by simp [AttemptWorld.empty]
  apart := .nil

theorem Ended.Served.append {call : Ended} (served : call.Served rows)
    (added : List StageAttemptRow) : call.Served (rows ++ added) := by
  obtain ⟨row, present, own⟩ := served
  exact ⟨row, List.mem_append_left _ present, own⟩

/-- A served call has the id of a row. -/
theorem Ended.Served.present {call : Ended} (served : call.Served rows)
    (returned : call.outcome = .ok result) :
    ∃ row ∈ rows, row.stageAttemptId = result.stageAttemptId := by
  obtain ⟨row, present, own⟩ := served
  refine ⟨row, present, ?_⟩
  by_cases new : call.input.newAttempt = true
  · rw [if_pos new] at own
    rw [returned, Except.ok.injEq] at own
    rw [own.1]
  · rw [if_neg new] at own
    rw [returned, Except.map, Except.ok.injEq] at own
    exact own.1.symm

theorem AttemptWorld.enter_calls (world : AttemptWorld) (call : Nat) (phase : CallPhase) :
    (world.enter call phase).calls = Function.update world.calls call (some phase) := rfl

theorem AttemptWorld.drop_calls (world : AttemptWorld) (call : Nat) :
    (world.drop call).calls = Function.update world.calls call none := rfl

/-- A world in which a call has entered a phase. -/
theorem Sound.enter (sound : Sound world) (call : Nat) (phase : CallPhase)
    (inserting : ∀ input row, phase = .inserting input row → Prepared input row)
    (recovering : ∀ input row, phase = .recovering input row →
      Prepared input row ∧ recovers input = true ∧
        ∃ existing ∈ world.rows, existing.stageAttemptId = row.stageAttemptId) :
    Sound (world.enter call phase) where
  ids := sound.ids
  rows := sound.rows
  inserting := by
    intro other input row pending
    by_cases same : other = call
    · subst same
      simp only [AttemptWorld.enter_calls, Function.update_self, Option.some.injEq] at pending
      exact inserting input row pending
    · rw [AttemptWorld.enter_calls, Function.update_of_ne same] at pending
      exact sound.inserting other input row pending
  recovering := by
    intro other input row pending
    by_cases same : other = call
    · subst same
      simp only [AttemptWorld.enter_calls, Function.update_self, Option.some.injEq] at pending
      exact recovering input row pending
    · rw [AttemptWorld.enter_calls, Function.update_of_ne same] at pending
      exact sound.recovering other input row pending
  ended := sound.ended
  apart := sound.apart

theorem Sound.drop (sound : Sound world) (call : Nat) :
    Sound (world.drop call) where
  ids := sound.ids
  rows := sound.rows
  inserting := by
    intro other input row pending
    by_cases same : other = call
    · subst same
      simp [AttemptWorld.drop_calls] at pending
    · rw [AttemptWorld.drop_calls, Function.update_of_ne same] at pending
      exact sound.inserting other input row pending
  recovering := by
    intro other input row pending
    by_cases same : other = call
    · subst same
      simp [AttemptWorld.drop_calls] at pending
    · rw [AttemptWorld.drop_calls, Function.update_of_ne same] at pending
      exact sound.recovering other input row pending
  ended := sound.ended
  apart := sound.apart

/-- A call that ends keeps the world sound when its result is right and new. -/
theorem Sound.leave (sound : Sound world) (call : Nat) (input : StageAttemptCreateInput)
    (outcome : Except CreateFailure CreateResult)
    (served : ∀ result, outcome = .ok result → Ended.Served world.rows ⟨input, outcome⟩)
    (fresh : ∀ result, input.newAttempt = true → outcome = .ok result →
      ∀ earlier ∈ world.ended, earlier.outcome ≠ .ok result) :
    Sound (world.leave call input outcome) where
  ids := sound.ids
  rows := sound.rows
  inserting := (sound.drop call).inserting
  recovering := (sound.drop call).recovering
  ended := by
    intro ended present result returned
    rcases List.mem_cons.1 present with rfl | earlier
    · exact served result returned
    · exact sound.ended ended earlier result returned
  apart := List.Pairwise.cons (fun earlier present result new returned =>
    fresh result new returned earlier present) sound.apart

theorem findByIdempotencyKey_some {key : IdempotencyKey}
    (found : findByIdempotencyKey rows key = some row) : row ∈ rows ∧ row.idempotencyKey = key := by
  have listed : row ∈ rows.filter (·.idempotencyKey = key) := List.argmin_mem found
  simpa using listed

theorem existingResult_ok (answered : existingResult row input = .ok result) :
    result = ⟨false, row.stageAttemptId⟩ := by
  unfold existingResult at answered
  cases checked : assertRuntimeRowScopeMatchesWrite row input with
  | error failure =>
    rw [checked] at answered
    exact absurd answered nofun
  | ok checked' =>
    simp only [checked, bind, Except.bind, pure, Except.pure, Except.ok.injEq] at answered
    exact answered.symm

theorem existingResult_error {failure : CreateFailure}
    (refused : existingResult row input = .error failure) : failure = .scopeConflict := by
  unfold existingResult assertRuntimeRowScopeMatchesWrite at refused
  by_cases conflict : scopeDeclared input = true ∧ row.scope ≠ scopeColumns input
  · rw [if_pos conflict] at refused
    exact (Except.error.inj refused).symm
  · rw [if_neg conflict] at refused
    exact absurd refused nofun

/-- A look-up that finds a row answers with it. -/
theorem lookupStageAttempt_found {createdAt : Int}
    (looked : lookupStageAttempt rows input createdAt = .ok (.found result)) :
    input.newAttempt = false ∧ Ended.Served rows ⟨input, .ok result⟩ := by
  unfold lookupStageAttempt at looked
  cases keyed : stageAttemptBaseIdempotencyKey input with
  | error failure =>
    rw [keyed] at looked
    exact absurd looked nofun
  | ok key =>
    simp only [keyed, bind, Except.bind] at looked
    by_cases new : input.newAttempt = true
    · rw [if_pos new] at looked
      exact absurd looked nofun
    · rw [if_neg new] at looked
      refine ⟨by simpa using new, ?_⟩
      cases found : findByIdempotencyKey rows (.base key) with
      | none => simp [found, pure, Except.pure] at looked
      | some existing =>
        simp only [found, pure, Except.pure] at looked
        cases answered : existingResult existing input with
        | error failure => simp [answered] at looked
        | ok answer =>
          simp only [answered, Except.ok.injEq, Lookup.found.injEq] at looked
          subst looked
          obtain ⟨present, sameKey⟩ := findByIdempotencyKey_some found
          refine ⟨existing, present, ?_⟩
          rw [if_neg new, existingResult_ok answered]
          exact ⟨rfl, by simp [HasKey, keyed, Except.map, sameKey]⟩

/-- After a conflict the row with the id is there, and it has the key. -/
theorem Sound.recovered (sound : Sound world) (prepared : Prepared input row)
    (explicit : recovers input = true)
    (taken : ∃ existing ∈ world.rows, existing.stageAttemptId = row.stageAttemptId) :
    ∃ existing ∈ world.rows, existing.idempotencyKey = row.idempotencyKey ∧
      recoverStageAttempt world.rows input row = existingResult existing input := by
  unfold recoverStageAttempt
  cases found : world.rows.find? fun existing =>
      existing.stageAttemptId = row.stageAttemptId &&
        existing.idempotencyKey = row.idempotencyKey with
  | some existing =>
    have own := List.find?_some found
    simp only [Bool.and_eq_true, decide_eq_true_eq] at own
    exact ⟨existing, List.mem_of_find?_eq_some found, own.2, rfl⟩
  | none =>
    exfalso
    obtain ⟨existing, present, sameId⟩ := taken
    obtain ⟨creator, made⟩ := sound.rows existing present
    have sameKey : existing.idempotencyKey = row.idempotencyKey :=
      made.key_of_explicit (sameId.trans (prepared.id_of_recovers explicit))
    simpa [sameId, sameKey] using List.find?_eq_none.1 found existing present

theorem insertStageAttempt_some {inserted : List StageAttemptRow}
    (done : insertStageAttempt rows row = some inserted) :
    inserted = rows ++ [row] ∧
      ∀ existing ∈ rows, existing.stageAttemptId ≠ row.stageAttemptId := by
  unfold insertStageAttempt at done
  by_cases taken : rows.any (·.stageAttemptId = row.stageAttemptId) = true
  · simp [taken] at done
  · rw [if_neg taken, Option.some.injEq] at done
    refine ⟨done.symm, fun existing present same => taken ?_⟩
    exact List.any_eq_true.2 ⟨existing, present, by simpa using same⟩

theorem insertStageAttempt_none (refused : insertStageAttempt rows row = none) :
    ∃ existing ∈ rows, existing.stageAttemptId = row.stageAttemptId := by
  unfold insertStageAttempt at refused
  by_cases taken : rows.any (·.stageAttemptId = row.stageAttemptId) = true
  · obtain ⟨existing, present, same⟩ := List.any_eq_true.1 taken
    exact ⟨existing, present, by simpa using same⟩
  · simp [taken] at refused

theorem Sound.added (sound : Sound world) (prepared : Prepared input row)
    (free : ∀ existing ∈ world.rows, existing.stageAttemptId ≠ row.stageAttemptId) :
    Sound { world with rows := world.rows ++ [row] } where
  ids := List.pairwise_append.2 ⟨sound.ids, List.pairwise_singleton _ _, by
    intro existing present added new
    rw [List.mem_singleton.1 new]
    exact free existing present⟩
  rows := by
    intro existing present
    rcases List.mem_append.1 present with old | new
    · exact sound.rows existing old
    · rw [List.mem_singleton.1 new]
      exact ⟨input, prepared⟩
  inserting := sound.inserting
  recovering := by
    intro call input row pending
    obtain ⟨prepared, explicit, existing, present, same⟩ := sound.recovering call input row pending
    exact ⟨prepared, explicit, existing, List.mem_append_left _ present, same⟩
  ended := fun call present result returned =>
    (sound.ended call present result returned).append _
  apart := sound.apart

/-- The row that a call has inserted serves it. -/
theorem Prepared.served (prepared : Prepared input row) (rows : List StageAttemptRow) :
    Ended.Served (rows ++ [row]) ⟨input, .ok ⟨true, row.stageAttemptId⟩⟩ := by
  refine ⟨row, by simp, ?_⟩
  by_cases new : input.newAttempt = true
  · rw [if_pos new]
    exact ⟨rfl, prepared.isNewAttempt.trans new⟩
  · rw [if_neg new]
    exact ⟨rfl, prepared.hasKey (by simpa using new)⟩

theorem Sound.step (sound : Sound world) (step : CreateStep) : Sound (world.step step) := by
  cases step with
  | lookup call input createdAt =>
    simp only [AttemptWorld.step]
    cases looked : lookupStageAttempt world.rows input createdAt with
    | error failure => exact sound.drop call
    | ok answer =>
      cases answer with
      | found result =>
        obtain ⟨old, served⟩ := lookupStageAttempt_found looked
        refine sound.leave call input _ (fun _ _ => served) ?_
        intro _ new
        simp [old] at new
      | insert row =>
        refine sound.enter call _ ?_ (by simp)
        intro other found same
        simp only [CallPhase.inserting.injEq] at same
        obtain ⟨rfl, rfl⟩ := same
        exact ⟨world.rows, createdAt, looked⟩
  | insert call =>
    simp only [AttemptWorld.step]
    cases pending : world.calls call with
    | none => exact sound
    | some phase =>
      cases phase with
      | recovering input row => exact sound
      | inserting input row =>
        have prepared := sound.inserting call input row pending
        dsimp only
        cases done : insertStageAttempt world.rows row with
        | some inserted =>
          obtain ⟨rfl, free⟩ := insertStageAttempt_some done
          refine (sound.added prepared free).leave call input _
            (fun _ _ => prepared.served world.rows) ?_
          intro result _ returned earlier present same
          rw [Except.ok.injEq] at returned
          subst returned
          obtain ⟨existing, stored, sameId⟩ := (sound.ended earlier present _ same).present same
          exact free existing stored sameId
        | none =>
          dsimp only
          by_cases explicit : recovers input = true
          · rw [if_pos explicit]
            refine sound.enter call _ (by simp) ?_
            intro other found same
            simp only [CallPhase.recovering.injEq] at same
            obtain ⟨rfl, rfl⟩ := same
            exact ⟨prepared, explicit, insertStageAttempt_none done⟩
          · rw [if_neg explicit]
            exact sound.leave call input _ (by simp) (by simp)
  | recover call =>
    simp only [AttemptWorld.step]
    cases pending : world.calls call with
    | none => exact sound
    | some phase =>
      cases phase with
      | inserting input row => exact sound
      | recovering input row =>
        obtain ⟨prepared, explicit, taken⟩ := sound.recovering call input row pending
        obtain ⟨existing, present, sameKey, answered⟩ := sound.recovered prepared explicit taken
        have old := recovers_newAttempt explicit
        dsimp only
        rw [answered]
        cases returned : existingResult existing input with
        | ok result =>
          refine sound.leave call input _ (fun _ _ => ⟨existing, present, ?_⟩) ?_
          · rw [existingResult_ok returned, if_neg (by simp [old])]
            refine ⟨rfl, ?_⟩
            rw [sameKey]
            exact prepared.hasKey old
          · intro _ new
            simp [old] at new
        | error failure =>
          cases failure with
          | scopeConflict => exact sound.drop call
          | emptyBoundary => exact sound.leave call input _ (by simp) (by simp)
          | uniqueConstraint => exact sound.leave call input _ (by simp) (by simp)
  | abandon call => exact sound.drop call

end

/-! ## When every call creates once -/

section

variable {world : AttemptWorld}

/-- In a sound world it is enough that no two rows share a key and no call has failed. -/
theorem Sound.createsOnce_iff (sound : Sound world) :
    CreatesOnce world ↔
      SingleRows world.rows ∧ ∀ call ∈ world.ended, ∃ result, call.outcome = .ok result := by
  constructor
  · intro once
    refine ⟨once.single, fun call present => ?_⟩
    obtain ⟨row, -, own⟩ := once.served call present
    by_cases new : call.input.newAttempt = true
    · rw [if_pos new] at own
      exact ⟨_, own.1⟩
    · rw [if_neg new] at own
      cases returned : call.outcome with
      | ok result => exact ⟨result, rfl⟩
      | error failure => simp [returned, Except.map] at own
  · rintro ⟨single, succeeded⟩
    refine ⟨single, fun call present => ?_, ?_⟩
    · obtain ⟨result, returned⟩ := succeeded call present
      exact sound.ended call present result returned
    · refine sound.apart.imp_of_mem ?_
      intro later earlier present _ apart new _ same
      obtain ⟨result, returned⟩ := succeeded later present
      exact apart result new returned (same.symm.trans returned)

theorem singleRows_append {rows : List StageAttemptRow} {row : StageAttemptRow} :
    SingleRows (rows ++ [row]) ↔ SingleRows rows ∧
      (row.idempotencyKey.isNewAttempt = false →
        ∀ existing ∈ rows, existing.idempotencyKey ≠ row.idempotencyKey) := by
  unfold SingleRows
  rw [List.pairwise_append]
  constructor
  · rintro ⟨single, -, apart⟩
    refine ⟨single, fun old existing present same => ?_⟩
    exact apart existing present row (List.mem_singleton_self row) (same ▸ old) same
  · rintro ⟨single, apart⟩
    refine ⟨single, List.pairwise_singleton _ _, ?_⟩
    intro existing present added new old same
    rw [List.mem_singleton.1 new] at same
    exact apart (same ▸ old) existing present same

/-- Under a free id, a row is alone with its key exactly when its call inserts alone. -/
theorem Sound.free_key_iff (sound : Sound world) {input : StageAttemptCreateInput}
    {row : StageAttemptRow} (prepared : Prepared input row)
    (free : ∀ existing ∈ world.rows, existing.stageAttemptId ≠ row.stageAttemptId) :
    (row.idempotencyKey.isNewAttempt = false →
        ∀ existing ∈ world.rows, existing.idempotencyKey ≠ row.idempotencyKey) ↔
      (recovers input = true ∨ ∀ existing ∈ world.rows,
        existing.stageAttemptId ≠ row.stageAttemptId ∧
          (input.newAttempt = false → existing.idempotencyKey ≠ row.idempotencyKey)) := by
  rw [prepared.isNewAttempt]
  constructor
  · intro alone
    exact .inr fun existing present =>
      ⟨free existing present, fun old => alone old existing present⟩
  · rintro (explicit | alone) old existing present same
    · -- A row under an explicit key has the explicit id.
      obtain ⟨creator, made⟩ := sound.rows existing present
      have creatorOld : creator.newAttempt = false := by
        rw [← made.isNewAttempt, same, prepared.isNewAttempt, old]
      have creatorKey := made.hasKey creatorOld
      rw [same] at creatorKey
      have creatorExplicit : recovers creator = true :=
        (creatorKey.recovers_eq (prepared.hasKey old) creatorOld old).trans explicit
      apply free existing present
      rw [made.id_of_recovers creatorExplicit, prepared.id_of_recovers explicit, same]
    · exact (alone existing present).2 old same

theorem Sound.leave_ok_iff (call : Nat) (input : StageAttemptCreateInput) (result : CreateResult) :
    (∀ ended ∈ (world.leave call input (.ok result)).ended, ∃ result, ended.outcome = .ok result) ↔
      ∀ ended ∈ world.ended, ∃ result, ended.outcome = .ok result := by
  simp [AttemptWorld.leave]

/-- One step keeps the property exactly when it inserts alone. -/
theorem Sound.createsOnce_step_iff (sound : Sound world) (step : CreateStep) :
    CreatesOnce (world.step step) ↔ CreatesOnce world ∧ InsertsAlone world step := by
  rw [(sound.step step).createsOnce_iff, sound.createsOnce_iff]
  cases step with
  | lookup call input createdAt =>
    simp only [AttemptWorld.step, InsertsAlone, and_true]
    cases looked : lookupStageAttempt world.rows input createdAt with
    | error failure => exact Iff.rfl
    | ok answer =>
      cases answer with
      | found result => exact and_congr Iff.rfl (Sound.leave_ok_iff call input result)
      | insert row => exact Iff.rfl
  | insert call =>
    simp only [AttemptWorld.step, InsertsAlone]
    cases pending : world.calls call with
    | none => simp
    | some phase =>
      cases phase with
      | recovering input row => simp
      | inserting input row =>
        have prepared := sound.inserting call input row pending
        dsimp only
        cases done : insertStageAttempt world.rows row with
        | some inserted =>
          obtain ⟨rfl, free⟩ := insertStageAttempt_some done
          dsimp only
          rw [Sound.leave_ok_iff, ← sound.free_key_iff prepared free]
          exact (and_congr singleRows_append Iff.rfl).trans and_right_comm
        | none =>
          obtain ⟨existing, present, taken⟩ := insertStageAttempt_none done
          dsimp only
          by_cases explicit : recovers input = true
          · rw [if_pos explicit]
            exact (and_iff_left (Or.inl explicit)).symm
          · rw [if_neg explicit]
            constructor
            · rintro ⟨-, succeeded⟩
              obtain ⟨result, returned⟩ := succeeded _ (List.mem_cons_self ..)
              exact absurd returned (by simp)
            · rintro ⟨-, recovering | alone⟩
              · exact absurd recovering explicit
              · exact absurd taken (alone existing present).1
  | recover call =>
    simp only [AttemptWorld.step, InsertsAlone, and_true]
    cases pending : world.calls call with
    | none => exact Iff.rfl
    | some phase =>
      cases phase with
      | inserting input row => exact Iff.rfl
      | recovering input row =>
        obtain ⟨prepared, explicit, taken⟩ := sound.recovering call input row pending
        obtain ⟨existing, -, -, answered⟩ := sound.recovered prepared explicit taken
        dsimp only
        rw [answered]
        cases returned : existingResult existing input with
        | ok result => exact and_congr Iff.rfl (Sound.leave_ok_iff call input result)
        | error failure =>
          rw [existingResult_error returned]
          exact Iff.rfl
  | abandon call =>
    simp only [InsertsAlone, and_true]
    exact Iff.rfl

theorem AttemptWorld.createsOnce_run_iff (sound : Sound world) (steps : List CreateStep) :
    CreatesOnce (world.run steps) ↔ CreatesOnce world ∧ EachInsertsAlone world steps := by
  induction steps generalizing world with
  | nil => simp [AttemptWorld.run, EachInsertsAlone]
  | cons step steps inductionHypothesis =>
    have rest := inductionHypothesis (sound.step step)
    rw [sound.createsOnce_step_iff step, and_assoc] at rest
    exact rest

theorem CreatesOnce.empty : CreatesOnce AttemptWorld.empty where
  single := .nil
  served := by simp [AttemptWorld.empty]
  apart := .nil

/-- Creation is idempotent in an interleaving exactly when every insertion of it is alone. -/
theorem creation_idempotent_iff_inserts_alone (steps : List CreateStep) :
    CreatesOnce (AttemptWorld.empty.run steps) ↔ EachInsertsAlone .empty steps := by
  rw [AttemptWorld.createsOnce_run_iff Sound.empty]
  exact and_iff_right CreatesOnce.empty

end

/-! ## Two calls that overlap -/

def launchInput (newAttempt : Bool) : StageAttemptCreateInput where
  domainId := "medautoscience"
  stageId := "review"
  actionId := none
  providerKind := "temporal"
  idempotencyBoundaryId := none
  workspaceLocator := "\x7b\"workspace_root\":\"/work\"\x7d"
  idempotencyWorkspaceLocator := none
  sourceFingerprint := none
  stageAttemptExecutorPolicy := none
  scopeKind := some .domain
  executionScope := none
  taskId := some "task_1"
  stageRunId := none
  qualityCycleId := none
  attemptRole := none
  qualityRoundIndex := none
  parentAttemptRef := none
  qualityParts := []
  newAttempt := newAttempt

/-- Both calls read the table before either inserts. -/
def overlapping (newAttempt : Bool) (secondCreatedAt : Int) : List CreateStep :=
  [.lookup 0 (launchInput newAttempt) 1, .lookup 1 (launchInput newAttempt) secondCreatedAt,
    .insert 0, .insert 1]

/-- Two calls with one derived key make two rows, and of two calls with `newAttempt` the
second fails. -/
theorem overlapping_creations_not_idempotent :
    ¬ CreatesOnce (AttemptWorld.empty.run (overlapping false 2)) ∧
      (AttemptWorld.empty.run (overlapping false 2)).rows.length = 2 ∧
    ¬ CreatesOnce (AttemptWorld.empty.run (overlapping true 2)) ∧
      (AttemptWorld.empty.run (overlapping true 2)).ended.map Ended.outcome =
        [.error .uniqueConstraint,
          .ok ⟨true, .numbered (idParts (launchInput true)) 1⟩] := by
  decide +kernel

end OnePersonLab.Attempt
