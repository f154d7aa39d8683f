import Mathlib.Logic.Relation
import Mathlib.Data.List.Basic
import OnePersonLab.Lib.Program

/-!
# Interleaved programs over one world

A pool holds the programs under way. Between any two requests of one program
the others may perform theirs, new programs may enter, and a program may stop
for good.

A `Discipline` is a preorder on worlds and an invariant. A program is `Safe`
when each of its requests, performed in any invariant world above the last one
it saw, climbs the preorder and keeps the invariant. Programs that are safe on
their own are safe together: the preorder is both what a program guarantees and
all it relies on.
-/

namespace OnePersonLab.Lib

universe u

/-- How requests are performed; a request may be performed in more than one way. -/
abbrev Machine (I : Interface) (World : Type u) :=
  World → (request : I.Request) → World → I.Answer request → Prop

variable {I : Interface} {World : Type u} {α β : Type}

/-! ## Pools -/

structure Pool (I : Interface) (World : Type u) (α : Type) where
  world : World
  threads : List (Program I α)

inductive PoolStep (machine : Machine I World) (mayEnter : Program I α → Prop) :
    Pool I World α → Pool I World α → Prop where
  | enter {world threads program} : mayEnter program →
      PoolStep machine mayEnter ⟨world, threads⟩ ⟨world, program :: threads⟩
  | perform {world after before rest request next answer} :
      machine world request after answer →
      PoolStep machine mayEnter ⟨world, before ++ .request request next :: rest⟩
        ⟨after, before ++ next answer :: rest⟩
  | stop {world before program rest} :
      PoolStep machine mayEnter ⟨world, before ++ program :: rest⟩ ⟨world, before ++ rest⟩

/-- The pools that any interleaving can reach from a world with nothing under way. -/
def Reachable (machine : Machine I World) (mayEnter : Program I α → Prop) (start : World) :
    Pool I World α → Prop :=
  Relation.ReflTransGen (PoolStep machine mayEnter) ⟨start, []⟩

/-- A program that may enter can run to its end before anything else happens. -/
theorem Reachable.run {machine : Machine I World} {mayEnter : Program I α → Prop}
    {perform : World → (request : I.Request) → World × I.Answer request}
    (contained : ∀ world request,
      machine world request (perform world request).1 (perform world request).2)
    {start world : World} {threads : List (Program I α)}
    (reached : Reachable machine mayEnter start ⟨world, threads⟩) {program : Program I α}
    (allowed : mayEnter program) :
    Reachable machine mayEnter start ⟨(program.run perform world).1, threads⟩ := by
  have entered : Reachable machine mayEnter start ⟨world, program :: threads⟩ :=
    reached.tail (.enter allowed)
  clear reached allowed
  induction program generalizing world with
  | done outcome =>
    have stopped : PoolStep machine mayEnter ⟨world, [] ++ .done outcome :: threads⟩
      ⟨world, [] ++ threads⟩ := .stop
    exact entered.tail stopped
  | request asked next ih =>
    have performed : PoolStep machine mayEnter ⟨world, [] ++ .request asked next :: threads⟩
      ⟨(perform world asked).1, [] ++ next (perform world asked).2 :: threads⟩ :=
      .perform (contained world asked)
    exact ih _ (entered.tail performed)

/-! ## Disciplines -/

/-- A preorder that the worlds climb and an invariant that they keep. -/
structure Discipline (World : Type u) where
  extends_ : World → World → Prop
  invariant : World → Prop
  refl : ∀ world, extends_ world world
  trans : ∀ {first second third}, extends_ first second → extends_ second third →
    extends_ first third

/-- A world above `world` that keeps the invariant. -/
structure Discipline.Later (discipline : Discipline World) (world after : World) : Prop where
  extends_ : discipline.extends_ world after
  invariant : discipline.invariant after

theorem Discipline.Later.trans {discipline : Discipline World} {first second third : World}
    (early : discipline.Later first second) (late : discipline.Later second third) :
    discipline.Later first third :=
  ⟨discipline.trans early.extends_ late.extends_, late.invariant⟩

/-- Every request climbs the preorder and keeps the invariant, whatever happens
in between, and the outcome satisfies `post` where the program ends. -/
def Safe (machine : Machine I World) (discipline : Discipline World)
    (post : Except I.Failure α → World → Prop) : Program I α → World → Prop
  | .done outcome, world => post outcome world
  | .request request next, world =>
    ∀ current, discipline.Later world current → ∀ after answer,
      machine current request after answer →
      discipline.Later current after ∧ Safe machine discipline post (next answer) after

/-- What may be known of an outcome does not get lost as the world moves on. -/
def Stable (discipline : Discipline World) (post : Except I.Failure α → World → Prop) : Prop :=
  ∀ outcome world after, discipline.Later world after → post outcome world → post outcome after

namespace Safe

variable {machine : Machine I World} {discipline : Discipline World} {world : World}
  {post : Except I.Failure α → World → Prop} {post' : Except I.Failure β → World → Prop}

variable {program : Program I α}

theorem later {after : World} (stable : Stable discipline post)
    (safe : Safe machine discipline post program world) (moved : discipline.Later world after) :
    Safe machine discipline post program after := by
  cases program with
  | done outcome => exact stable _ _ _ moved safe
  | request asked next => exact fun current seen => safe current (moved.trans seen)

theorem weaken {weaker : Except I.Failure α → World → Prop} (initial : discipline.invariant world)
    (safe : Safe machine discipline post program world)
    (implied : ∀ outcome after, discipline.Later world after → post outcome after →
      weaker outcome after) : Safe machine discipline weaker program world := by
  induction program generalizing world with
  | done outcome => exact implied outcome world ⟨discipline.refl world, initial⟩ safe
  | request asked next ih =>
    intro current seen after answer performed
    obtain ⟨moved, rest⟩ := safe current seen after answer performed
    exact ⟨moved, ih answer moved.invariant rest fun outcome final later =>
      implied outcome final ((seen.trans moved).trans later)⟩

theorem bind {f : α → Program I β} (initial : discipline.invariant world)
    (safe : Safe machine discipline post program world)
    (returned : ∀ value after, discipline.Later world after → post (.ok value) after →
      Safe machine discipline post' (f value) after)
    (failed : ∀ failure after, discipline.Later world after → post (.error failure) after →
      post' (.error failure) after) : Safe machine discipline post' (program >>= f) world := by
  induction program generalizing world with
  | done outcome =>
    cases outcome with
    | ok value => exact returned value world ⟨discipline.refl world, initial⟩ safe
    | error failure => exact failed failure world ⟨discipline.refl world, initial⟩ safe
  | request asked next ih =>
    intro current seen after answer performed
    obtain ⟨moved, rest⟩ := safe current seen after answer performed
    exact ⟨moved, ih answer moved.invariant rest
      (fun value final later => returned value final ((seen.trans moved).trans later))
      (fun failure final later => failed failure final ((seen.trans moved).trans later))⟩

theorem tryCatch {handler : I.Failure → Program I α} {post' : Except I.Failure α → World → Prop}
    (initial : discipline.invariant world) (safe : Safe machine discipline post program world)
    (returned : ∀ value after, discipline.Later world after → post (.ok value) after →
      post' (.ok value) after)
    (failed : ∀ failure after, discipline.Later world after → post (.error failure) after →
      Safe machine discipline post' (handler failure) after) :
    Safe machine discipline post' (program.tryCatch handler) world := by
  induction program generalizing world with
  | done outcome =>
    cases outcome with
    | ok value => exact returned value world ⟨discipline.refl world, initial⟩ safe
    | error failure => exact failed failure world ⟨discipline.refl world, initial⟩ safe
  | request asked next ih =>
    intro current seen after answer performed
    obtain ⟨moved, rest⟩ := safe current seen after answer performed
    exact ⟨moved, ih answer moved.invariant rest
      (fun value final later => returned value final ((seen.trans moved).trans later))
      (fun failure final later => failed failure final ((seen.trans moved).trans later))⟩

theorem call {asked : I.Request} {post : I.Answer asked → World → Prop}
    (performed : ∀ current, discipline.Later world current → ∀ after answer,
      machine current asked after answer → discipline.Later current after ∧ post answer after) :
    Safe machine discipline post (Program.call asked) world := performed

end Safe

/-- A safe program whose returned value satisfies `facts` in the world it returns in. -/
structure Ensures (machine : Machine I World) (discipline : Discipline World)
    (facts : α → World → Prop) (program : Program I α) (world : World) : Prop where
  safe : discipline.invariant world →
    Safe machine discipline (fun outcome after => ∀ value, outcome = .ok value → facts value after)
      program world

namespace Ensures

variable {machine : Machine I World} {discipline : Discipline World} {world : World}
  {facts : α → World → Prop} {facts' : β → World → Prop}

variable {program : Program I α}

theorem pure {value : α} (holds : discipline.invariant world → facts value world) :
    Ensures machine discipline facts (.done (.ok value)) world := by
  refine ⟨?_⟩
  rintro initial _ ⟨⟩
  exact holds initial

theorem fail (failure : I.Failure) :
    Ensures machine discipline facts (.done (.error failure)) world := by
  refine ⟨?_⟩
  rintro initial _ ⟨⟩

theorem lift {outcome : Except I.Failure α}
    (holds : ∀ value, outcome = .ok value → facts value world) :
    Ensures machine discipline facts (.done outcome) world := ⟨fun _ => holds⟩

theorem bind {f : α → Program I β} (first : Ensures machine discipline facts program world)
    (next : ∀ value after, discipline.Later world after → facts value after →
      Ensures machine discipline facts' (f value) after) :
    Ensures machine discipline facts' (program >>= f) world where
  safe initial := (first.safe initial).bind initial
    (fun value after later known => (next value after later (known value rfl)).safe later.invariant)
    (fun _ _ _ _ _ impossible => by cases impossible)

/-- Behind a check, the check has passed. -/
theorem lift_bind {outcome : Except I.Failure α} {f : α → Program I β}
    (next : ∀ value, outcome = .ok value → Ensures machine discipline facts' (f value) world) :
    Ensures machine discipline facts' (Program.done outcome >>= f) world := by
  cases outcome with
  | ok value => exact next value rfl
  | error failure => exact fail failure

theorem weaken {weaker : α → World → Prop}
    (ensured : Ensures machine discipline facts program world)
    (implied : ∀ value after, discipline.Later world after → facts value after →
      weaker value after) : Ensures machine discipline weaker program world where
  safe initial := (ensured.safe initial).weaken initial fun _ after later known value same =>
    implied value after later (known value same)

theorem map {f : α → β} (ensured : Ensures machine discipline facts program world)
    (implied : ∀ value after, discipline.Later world after → facts value after →
      facts' (f value) after) : Ensures machine discipline facts' (f <$> program) world :=
  ensured.bind fun value after later known => pure fun _ => implied value after later known

theorem tryCatch {handler : I.Failure → Program I α}
    (tried : Ensures machine discipline facts program world)
    (caught : ∀ failure after, discipline.Later world after →
      Ensures machine discipline facts (handler failure) after) :
    Ensures machine discipline facts (program.tryCatch handler) world where
  safe initial := (tried.safe initial).tryCatch initial (fun _ _ _ known => known)
    (fun failure after later _ => (caught failure after later).safe later.invariant)

theorem call {asked : I.Request} {facts : I.Response asked → World → Prop}
    (performed : ∀ current, discipline.Later world current → ∀ after answer,
      machine current asked after answer → discipline.Later current after ∧
        ∀ response, answer = .ok response → facts response after) :
    Ensures machine discipline facts (Program.call asked) world :=
  ⟨fun _ => Safe.call performed⟩

/-- What needs the invariant may be proved with it. -/
theorem of_invariant
    (ensured : discipline.invariant world → Ensures machine discipline facts program world) :
    Ensures machine discipline facts program world := ⟨fun initial => (ensured initial).safe initial⟩

end Ensures

/-- A safe program that does not fail, whatever moves the world on in between; its
value satisfies `facts`. -/
structure Returns (machine : Machine I World) (discipline : Discipline World)
    (facts : α → World → Prop) (program : Program I α) (world : World) : Prop where
  safe : discipline.invariant world →
    Safe machine discipline
      (fun outcome after => ∃ value, outcome = .ok value ∧ facts value after) program world

namespace Returns

variable {machine : Machine I World} {discipline : Discipline World} {world : World}
  {facts : α → World → Prop} {facts' : β → World → Prop}

variable {program : Program I α}

theorem pure {value : α} (holds : discipline.invariant world → facts value world) :
    Returns machine discipline facts (.done (.ok value)) world :=
  ⟨fun initial => ⟨value, rfl, holds initial⟩⟩

theorem bind {f : α → Program I β} (first : Returns machine discipline facts program world)
    (next : ∀ value after, discipline.Later world after → facts value after →
      Returns machine discipline facts' (f value) after) :
    Returns machine discipline facts' (program >>= f) world where
  safe initial := by
    refine (first.safe initial).bind initial ?_ fun _ _ _ impossible => by simp at impossible
    rintro value after later ⟨_, ⟨⟩, known⟩
    exact (next value after later known).safe later.invariant

theorem weaken {weaker : α → World → Prop}
    (returned : Returns machine discipline facts program world)
    (implied : ∀ value after, discipline.Later world after → facts value after →
      weaker value after) : Returns machine discipline weaker program world where
  safe initial := (returned.safe initial).weaken initial fun _ after later ⟨value, same, known⟩ =>
    ⟨value, same, implied value after later known⟩

theorem of_invariant
    (returned : discipline.invariant world → Returns machine discipline facts program world) :
    Returns machine discipline facts program world :=
  ⟨fun initial => (returned initial).safe initial⟩

end Returns

variable {machine : Machine I World} {mayEnter : Program I α → Prop} {discipline : Discipline World}
  {pool : Pool I World α}

/-- Programs that are safe together stay so, with whatever enters beside them. -/
theorem Pool.safe_later
    (entering : ∀ program, mayEnter program → ∀ world,
      Ensures machine discipline (fun _ _ => True) program world) {later : Pool I World α}
    (initial : discipline.invariant pool.world)
    (safe : ∀ program ∈ pool.threads,
      Safe machine discipline (fun _ _ => True) program pool.world)
    (steps : Relation.ReflTransGen (PoolStep machine mayEnter) pool later) :
    discipline.Later pool.world later.world ∧
      ∀ program ∈ later.threads,
        Safe machine discipline (fun _ _ => True) program later.world := by
  have stable : Stable (α := α) (I := I) discipline fun _ _ => True :=
    fun _ _ _ _ _ => trivial
  induction steps with
  | refl => exact ⟨⟨discipline.refl _, initial⟩, safe⟩
  | tail _ step ih =>
    obtain ⟨climbed, threads⟩ := ih
    cases step with
    | enter allowed =>
      have safe := ((entering _ allowed _).safe climbed.invariant).weaken climbed.invariant
        fun _ _ _ _ => trivial
      exact ⟨climbed, List.forall_mem_cons.2 ⟨safe, threads⟩⟩
    | perform performed =>
      simp only [List.forall_mem_append, List.forall_mem_cons] at threads ⊢
      obtain ⟨before, acting, rest⟩ := threads
      obtain ⟨moved, acted⟩ := acting _ ⟨discipline.refl _, climbed.invariant⟩ _ _ performed
      exact ⟨climbed.trans moved, fun program listed => (before program listed).later stable moved,
        acted, fun program listed => (rest program listed).later stable moved⟩
    | stop =>
      simp only [List.forall_mem_append, List.forall_mem_cons] at threads ⊢
      exact ⟨climbed, threads.1, threads.2.2⟩

/-- Programs that are safe when they enter are safe together. -/
theorem Reachable.safe {start : World} (initial : discipline.invariant start)
    (entering : ∀ program, mayEnter program → ∀ world,
      Ensures machine discipline (fun _ _ => True) program world)
    (reached : Reachable machine mayEnter start pool) :
    discipline.Later start pool.world ∧
      ∀ program ∈ pool.threads,
        Safe machine discipline (fun _ _ => True) program pool.world :=
  Pool.safe_later entering initial (by simp) reached

/-- From one reachable pool to a later one the world climbs. -/
theorem Reachable.climbs {start : World} (initial : discipline.invariant start)
    (entering : ∀ program, mayEnter program → ∀ world,
      Ensures machine discipline (fun _ _ => True) program world) {later : Pool I World α}
    (reached : Reachable machine mayEnter start pool)
    (steps : Relation.ReflTransGen (PoolStep machine mayEnter) pool later) :
    discipline.Later pool.world later.world := by
  obtain ⟨known, threads⟩ := reached.safe initial entering
  exact (Pool.safe_later entering known.invariant threads steps).1

end OnePersonLab.Lib
