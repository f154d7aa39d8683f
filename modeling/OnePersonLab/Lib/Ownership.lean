import Mathlib.Logic.Function.Basic
import OnePersonLab.Lib.Leads

/-!
# Interleaved programs that own what they work on

Every program enters under an identity of its own. An `Ownership` says what the steps
of all others leave to an identity, a preorder for each, and what every step keeps. A
`Triple` is proved of one program: it relies on what the others leave to it, and its own
steps leave to every other what that one relies on. Programs with triples keep them in any
company, until they stop or an outage takes them all.
-/

namespace OnePersonLab.Lib

universe u

variable {I : Interface} {World : Type u} {Id : Type} {α β : Type}

/-! ## Ownership -/

structure Ownership (Id : Type) (World : Type u) where
  invariant : World → Prop
  keeps : Id → World → World → Prop
  refl : ∀ id world, keeps id world world
  trans : ∀ {id first second third}, keeps id first second → keeps id second third →
    keeps id first third

/-- What steps of others may make of a world, as `id` sees it. -/
structure Ownership.Elsewhere (ownership : Ownership Id World) (id : Id) (world after : World) :
    Prop where
  keeps : ownership.keeps id world after
  invariant : ownership.invariant after

/-- What a step of `id` may make of a world. -/
structure Ownership.Own (ownership : Ownership Id World) (id : Id) (world after : World) :
    Prop where
  others : ∀ other, other ≠ id → ownership.keeps other world after
  invariant : ownership.invariant after

def Ownership.Stable (ownership : Ownership Id World) (id : Id) (fact : World → Prop) : Prop :=
  ∀ world after, ownership.Elsewhere id world after → fact world → fact after

section

variable {ownership : Ownership Id World} {id : Id}

theorem Ownership.Elsewhere.trans {first second third : World}
    (early : ownership.Elsewhere id first second) (late : ownership.Elsewhere id second third) :
    ownership.Elsewhere id first third :=
  ⟨ownership.trans early.keeps late.keeps, late.invariant⟩

/-- A step of one is a step of others to everyone else. -/
theorem Ownership.Own.elsewhere {other : Id} {world after : World}
    (own : ownership.Own id world after) (different : other ≠ id) :
    ownership.Elsewhere other world after :=
  ⟨own.others other different, own.invariant⟩

/-- A step that changes nothing. -/
theorem Ownership.Own.rfl {world : World} (holds : ownership.invariant world) :
    ownership.Own id world world :=
  ⟨fun other _ => ownership.refl other world, holds⟩

end

/-! ## Triples -/

/-- Every request of the program is a step that `id` may take, whatever the others do in
between, and the program ends as said. -/
def Carries (machine : Machine I World) (ownership : Ownership Id World) (id : Id)
    (returns : α → World → Prop) (fails : I.Failure → World → Prop) :
    Program I α → World → Prop
  | .done outcome, world => Ends returns fails outcome world
  | .request request next, world =>
    ∀ current, ownership.Elsewhere id world current → ∀ after answer,
      machine current request after answer →
      ownership.Own id current after ∧
        Carries machine ownership id returns fails (next answer) after

def Triple (machine : Machine I World) (ownership : Ownership Id World) (id : Id)
    (pre : World → Prop) (program : Program I α) (returns : α → World → Prop)
    (fails : I.Failure → World → Prop) : Prop :=
  ∀ world, ownership.invariant world → pre world →
    Carries machine ownership id returns fails program world

section

variable {machine : Machine I World} {ownership : Ownership Id World} {id : Id}
  {returns : α → World → Prop} {fails : I.Failure → World → Prop} {pre : World → Prop}

section

variable {program : Program I α} {world : World}

theorem Carries.later {after : World}
    (stable : ∀ outcome, ownership.Stable id (Ends returns fails outcome))
    (carries : Carries machine ownership id returns fails program world)
    (moved : ownership.Elsewhere id world after) :
    Carries machine ownership id returns fails program after := by
  cases program with
  | done outcome => exact stable outcome world after moved carries
  | request request next => exact fun current seen => carries current (moved.trans seen)

theorem Carries.bind {f : α → Program I β} {returns' : β → World → Prop}
    (initial : ownership.invariant world)
    (first : Carries machine ownership id returns fails program world)
    (next : ∀ value, Triple machine ownership id (returns value) (f value) returns' fails) :
    Carries machine ownership id returns' fails (program >>= f) world := by
  induction program generalizing world with
  | done outcome =>
    cases outcome with
    | ok value => exact next value world initial first
    | error failure => exact first
  | request request rest ih =>
    intro current seen after answer performed
    obtain ⟨own, carries⟩ := first current seen after answer performed
    exact ⟨own, ih answer own.invariant carries⟩

theorem Carries.tryCatch {handler : I.Failure → Program I α} {fails' : I.Failure → World → Prop}
    (initial : ownership.invariant world)
    (first : Carries machine ownership id returns fails' program world)
    (caught : ∀ failure, Triple machine ownership id (fails' failure) (handler failure)
      returns fails) :
    Carries machine ownership id returns fails (program.tryCatch handler) world := by
  induction program generalizing world with
  | done outcome =>
    cases outcome with
    | ok value => exact first
    | error failure => exact caught failure world initial first
  | request request rest ih =>
    intro current seen after answer performed
    obtain ⟨own, carries⟩ := first current seen after answer performed
    exact ⟨own, ih answer own.invariant carries⟩

theorem Carries.weaken {returns' : α → World → Prop} {fails' : I.Failure → World → Prop}
    (initial : ownership.invariant world)
    (carries : Carries machine ownership id returns fails program world)
    (weaker : ∀ value after, ownership.invariant after → returns value after →
      returns' value after) (weaker' : ∀ failure after, fails failure after → fails' failure after)
    :
    Carries machine ownership id returns' fails' program world := by
  induction program generalizing world with
  | done outcome =>
    cases outcome with
    | ok value => exact weaker value world initial carries
    | error failure => exact weaker' failure world carries
  | request request rest ih =>
    intro current seen after answer performed
    obtain ⟨own, later⟩ := carries current seen after answer performed
    exact ⟨own, ih answer own.invariant later⟩

end

namespace Triple

variable {program : Program I α}

theorem pure {value : α}
    (holds : ∀ world, ownership.invariant world → pre world → returns value world) :
    Triple machine ownership id pre (pure value : Program I α) returns fails := holds

theorem throw {failure : I.Failure}
    (holds : ∀ world, ownership.invariant world → pre world → fails failure world) :
    Triple machine ownership id pre (throw failure : Program I α) returns fails := holds

theorem bind {f : α → Program I β} {returns' : β → World → Prop}
    (first : Triple machine ownership id pre program returns fails)
    (next : ∀ value, Triple machine ownership id (returns value) (f value) returns' fails) :
    Triple machine ownership id pre (program >>= f) returns' fails :=
  fun world initial holds => (first world initial holds).bind initial next

theorem tryCatch {handler : I.Failure → Program I α} {fails' : I.Failure → World → Prop}
    (first : Triple machine ownership id pre program returns fails')
    (caught : ∀ failure, Triple machine ownership id (fails' failure) (handler failure)
      returns fails) : Triple machine ownership id pre (program.tryCatch handler) returns fails :=
  fun world initial holds => (first world initial holds).tryCatch initial caught

theorem weaken {pre' : World → Prop} {returns' : α → World → Prop}
    {fails' : I.Failure → World → Prop}
    (triple : Triple machine ownership id pre program returns fails)
    (stronger : ∀ world, ownership.invariant world → pre' world → pre world)
    (weaker : ∀ value after, ownership.invariant after → returns value after →
      returns' value after) (weaker' : ∀ failure after, fails failure after → fails' failure after)
    :
    Triple machine ownership id pre' program returns' fails' :=
  fun world initial holds =>
    (triple world initial (stronger world initial holds)).weaken initial weaker weaker'

/-- One request, whatever the others do before it. -/
theorem call {asked : I.Request} {returns : I.Response asked → World → Prop}
    (stable : ownership.Stable id pre)
    (performed : ∀ current, ownership.invariant current → pre current → ∀ after answer,
      machine current asked after answer →
      ownership.Own id current after ∧ Ends returns fails answer after) :
    Triple machine ownership id pre (Program.call asked) returns fails :=
  fun world _ holds current seen after answer made =>
    performed current seen.invariant (stable world current seen holds) after answer made

/-- What the precondition says apart from the world. -/
theorem of_fact (fact : Prop) (known : ∀ world, ownership.invariant world → pre world → fact)
    (triple : fact → Triple machine ownership id pre program returns fails) :
    Triple machine ownership id pre program returns fails :=
  fun world initial holds => triple (known world initial holds) world initial holds

end Triple

end

/-! ## Crews -/

/-- What has become of an identity. -/
inductive Standing (I : Interface) (α : Type) where
  | absent
  | present (program : Program I α)
  | gone

def Standing.lost : Standing I α → Standing I α
  | .absent => .absent
  | .present _ | .gone => .gone

structure Crew (I : Interface) (World : Type u) (Id α : Type) where
  world : World
  threads : Id → Standing I α

def Crew.initial (world : World) : Crew I World Id α := ⟨world, fun _ => .absent⟩

inductive CrewStep [DecidableEq Id] (machine : Machine I World)
    (mayEnter : Id → Program I α → Prop) (outage : World → World → Prop) :
    Crew I World Id α → Crew I World Id α → Prop where
  | enter {crew id program} : crew.threads id = .absent → mayEnter id program →
      CrewStep machine mayEnter outage crew
        ⟨crew.world, Function.update crew.threads id (.present program)⟩
  | perform {crew id request next after answer} :
      crew.threads id = .present (.request request next) →
      machine crew.world request after answer →
      CrewStep machine mayEnter outage crew
        ⟨after, Function.update crew.threads id (.present (next answer))⟩
  | stop {crew id} : CrewStep machine mayEnter outage crew
      ⟨crew.world, Function.update crew.threads id (crew.threads id).lost⟩
  | outage {crew after} : outage crew.world after →
      CrewStep machine mayEnter outage crew ⟨after, fun id => (crew.threads id).lost⟩

/-- The crews that any interleaving can reach from a world where nobody has entered. -/
def CrewReached [DecidableEq Id] (machine : Machine I World) (mayEnter : Id → Program I α → Prop)
    (outage : World → World → Prop) (start : World) : Crew I World Id α → Prop :=
  Relation.ReflTransGen (CrewStep machine mayEnter outage) (.initial start)

/-- A program that may enter can run to its end before anything else happens. -/
theorem CrewReached.run [DecidableEq Id] {machine : Machine I World}
    {mayEnter : Id → Program I α → Prop} {outage : World → World → Prop}
    {perform : World → (request : I.Request) → World × I.Answer request}
    (contained : ∀ world request,
      machine world request (perform world request).1 (perform world request).2)
    {start : World} {crew : Crew I World Id α}
    (reached : CrewReached machine mayEnter outage start crew) {id : Id} {program : Program I α}
    (absent : crew.threads id = .absent) (allowed : mayEnter id program) :
    CrewReached machine mayEnter outage start ⟨(program.run perform crew.world).1,
      Function.update crew.threads id (.present (.done (program.run perform crew.world).2))⟩ := by
  obtain ⟨world, threads⟩ := crew
  have entered : CrewReached machine mayEnter outage start
      ⟨world, Function.update threads id (.present program)⟩ := reached.tail (.enter absent allowed)
  clear reached absent allowed
  induction program generalizing world with
  | done outcome => exact entered
  | request asked next ih =>
    have performed := entered.tail
      (.perform (Function.update_self id (Standing.present (.request asked next)) threads)
        (contained world asked))
    dsimp only at performed
    rw [Function.update_idem] at performed
    exact ih _ _ performed

/-- What holds of an identity: it may still enter, or it carries its program on. -/
def Standing.Carries (machine : Machine I World) (ownership : Ownership Id World)
    (pre : Id → World → Prop) (returns : α → World → Prop) (fails : I.Failure → World → Prop)
    (world : World) (id : Id) : Standing I α → Prop
  | .absent => pre id world
  | .present program => Lib.Carries machine ownership id returns fails program world
  | .gone => True

theorem CrewReached.carries [DecidableEq Id] {machine : Machine I World}
    {mayEnter : Id → Program I α → Prop} {outage : World → World → Prop}
    {ownership : Ownership Id World} {pre : Id → World → Prop} {returns : α → World → Prop}
    {fails : I.Failure → World → Prop} {start : World} {crew : Crew I World Id α}
    (reached : CrewReached machine mayEnter outage start crew)
    (initial : ownership.invariant start) (ready : ∀ id, pre id start)
    (stable : ∀ id, ownership.Stable id (pre id))
    (stableEnd : ∀ id outcome, ownership.Stable id (Ends returns fails outcome))
    (survives : ∀ world after, ownership.invariant world → outage world after →
      ownership.invariant after ∧ ∀ id, pre id world → pre id after)
    (entering : ∀ id program, mayEnter id program →
      Triple machine ownership id (pre id) program returns fails) :
    ownership.invariant crew.world ∧ ∀ id, (crew.threads id).Carries machine ownership pre
      returns fails crew.world id := by
  -- What the others see of a step of one.
  have elsewhere {world after : World} {threads : Id → Standing I α} {id : Id}
      (own : ownership.Own id world after)
      (before : ∀ id, (threads id).Carries machine ownership pre returns fails world id)
      {standing : Standing I α}
      (now : standing.Carries machine ownership pre returns fails after id) (other : Id) :
      (Function.update threads id standing other).Carries machine ownership pre returns fails
        after other := by
    by_cases same : other = id
    · subst same
      rw [Function.update_self]
      exact now
    · rw [Function.update_of_ne same]
      have kept := before other
      cases standing : threads other with
      | absent =>
        rw [standing] at kept
        exact stable other _ _ (own.elsewhere same) kept
      | present program =>
        rw [standing] at kept
        exact Carries.later (stableEnd other) kept (own.elsewhere same)
      | gone => trivial
  induction reached with
  | refl => exact ⟨initial, ready⟩
  | tail _ step ih =>
    obtain ⟨holds, each⟩ := ih
    cases step with
    | enter absent allowed =>
      rename_i id program
      refine ⟨holds, elsewhere (.rfl holds) each ?_⟩
      have may := each id
      rw [absent] at may
      exact entering id program allowed _ holds may
    | perform present performed =>
      rename_i id request next after answer
      have carries := each id
      rw [present] at carries
      obtain ⟨own, rest⟩ := carries _ ⟨ownership.refl id _, holds⟩ _ _ performed
      exact ⟨own.invariant, elsewhere own each rest⟩
    | stop =>
      rename_i id
      refine ⟨holds, elsewhere (.rfl holds) each ?_⟩
      have kept := each id
      revert kept
      cases Crew.threads _ id with
      | absent => exact fun kept => kept
      | present program => exact fun _ => trivial
      | gone => exact fun _ => trivial
    | outage lost =>
      obtain ⟨survived, fresh⟩ := survives _ _ holds lost
      refine ⟨survived, fun id => ?_⟩
      have kept := each id
      revert kept
      dsimp only
      cases Crew.threads _ id with
      | absent => exact fresh id
      | present program => exact fun _ => trivial
      | gone => exact fun _ => trivial

end OnePersonLab.Lib
