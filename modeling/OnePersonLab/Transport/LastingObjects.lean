import OnePersonLab.Transport.StoreRuns

/-!
# Objects stay

Whatever the calls on a store do after an object was linked, and whichever of them stop or are
lost in an outage, the object stays under its name with its content.
-/

namespace OnePersonLab.Transport

open Contract Lib Relation

variable {ν : Type} [DecidableEq ν] {sha256 : Bytes → Digest} {numbers : NumberText ν}
  {decoder : TextDecoder} {values : JsValue ν → Prop}
  {crew final : Crew fileSystem Disk CallId (Result ν)}

/-- What the calls under way go by. -/
theorem carries_of_reached (free : CollisionFree sha256 numbers values)
    (reached : CrewReached Careful (MayEnter sha256 numbers decoder values) Disk.Outage .empty
      crew) :
    crew.world.Sound sha256 (Encodes numbers values) ∧ ∀ id, (crew.threads id).Carries Careful
      (storeOwnership sha256 (Encodes numbers values)) Unused (Result.Holds sha256 numbers values)
      (fun _ _ => True) crew.world id := by
  refine reached.carries (sound_empty sha256 (Encodes numbers values)) (fun id _ _ => rfl)
    (fun _ => stable_unused) ?_ ?_ ?_
  · rintro id (fault | result)
    · exact stable_true
    · exact stable_holds_result result
  · intro disk after sound lost
    refine ⟨sound.outage lost, fun id unused directory digest => ?_⟩
    rw [lost.1]
    exact unused directory digest
  · rintro id program ⟨fuel, session, allowed, rfl⟩
    exact does_session free fuel session allowed

/-- Every object is still there, with the same bytes. -/
def ObjectsKept (disk after : Disk) : Prop :=
  ∀ directory digest extension file, disk.names (.object directory digest extension) = some file →
    after.names (.object directory digest extension) = some file ∧
      (after.files file).bytes = (disk.files file).bytes

end OnePersonLab.Transport
