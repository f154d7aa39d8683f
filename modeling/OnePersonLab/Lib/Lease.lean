import Mathlib.Data.List.Basic

/-!
# Leases with fencing tokens

A resource is free, held under a lease that runs out, or retired. Calls that
never grant it before the lease has run out keep it with one holder at a time,
and nothing but the token of the last grant gives it back.
-/

namespace OnePersonLab.Lib

structure Lease (Token : Type*) where
  token : Token
  expiresAt : Int

inductive Holding (Token : Type*) where
  | free
  | held (lease : Lease Token)
  | retired

/-- What a call does to a holding. -/
inductive LeaseEvent (Token : Type*) where
  | granted (lease : Lease Token)
  | released (token : Token)
  | retired
  | kept

variable {Token : Type*} {now : Int} {before after : Holding Token} {event : LeaseEvent Token}

/-- The holdings that a call at some time may lead to. -/
inductive LeaseStep (now : Int) : Holding Token → LeaseEvent Token → Holding Token → Prop where
  | granted {before : Holding Token} {lease : Lease Token} (available : before ≠ .retired)
      (expired : ∀ earlier, before = .held earlier → earlier.expiresAt ≤ now) :
      LeaseStep now before (.granted lease) (.held lease)
  | released {lease : Lease Token} : LeaseStep now (.held lease) (.released lease.token) .free
  | retired {before : Holding Token} : LeaseStep now before .retired .retired
  | kept {before : Holding Token} : LeaseStep now before .kept before

/-- Calls in a row, each with its time. -/
inductive LeaseRun : Holding Token → List (Int × LeaseEvent Token) → Holding Token → Prop where
  | nil {holding : Holding Token} : LeaseRun holding [] holding
  | cons {start middle final : Holding Token} {now : Int} {event : LeaseEvent Token}
      {log : List (Int × LeaseEvent Token)} (step : LeaseStep now start event middle)
      (rest : LeaseRun middle log final) : LeaseRun start ((now, event) :: log) final

namespace LeaseRun

variable {start middle final : Holding Token} {log more : List (Int × LeaseEvent Token)}
  {lease : Lease Token}

theorem split (run : LeaseRun start (log ++ more) final) :
    ∃ middle, LeaseRun start log middle ∧ LeaseRun middle more final := by
  induction log generalizing start with
  | nil => exact ⟨start, .nil, run⟩
  | cons entry log ih =>
    cases run with
    | cons step rest =>
      obtain ⟨middle, first, second⟩ := ih rest
      exact ⟨middle, .cons step first, second⟩

/-- What is retired stays so. -/
theorem of_retired (run : LeaseRun .retired log final) : final = .retired := by
  induction log with
  | nil =>
    cases run
    rfl
  | cons entry log ih =>
    cases run with
    | cons step rest =>
      cases step with
      | granted available => exact absurd rfl available
      | retired => exact ih rest
      | kept => exact ih rest

/-- A lease lasts, unless it runs out or is given back under its token. -/
theorem fate (run : LeaseRun (.held lease) log final) :
    final = .held lease ∨ final = .retired ∨ (∃ entry ∈ log, lease.expiresAt ≤ entry.1) ∨
      ∃ now, (now, .released lease.token) ∈ log := by
  induction log with
  | nil =>
    cases run
    exact .inl rfl
  | cons entry log ih =>
    cases run with
    | cons step rest =>
      cases step with
      | granted _ expired => exact .inr (.inr (.inl ⟨_, .head _, expired lease rfl⟩))
      | released => exact .inr (.inr (.inr ⟨_, .head _⟩))
      | retired => exact .inr (.inl rest.of_retired)
      | kept =>
        rcases ih rest with held | retired | ⟨later, listed, expired⟩ | ⟨now, listed⟩
        · exact .inl held
        · exact .inr (.inl retired)
        · exact .inr (.inr (.inl ⟨later, .tail _ listed, expired⟩))
        · exact .inr (.inr (.inr ⟨now, .tail _ listed⟩))

/-- Of two grants the second comes after the first lease has run out, or after
it has been given back. -/
theorem exclusive {earlier between later : List (Int × LeaseEvent Token)} {first second : Int}
    {lease other : Lease Token}
    (run : LeaseRun start
      (earlier ++ (first, .granted lease) :: (between ++ (second, .granted other) :: later)) final)
    (ordered : ∀ entry ∈ between, entry.1 ≤ second) :
    lease.expiresAt ≤ second ∨ ∃ now, (now, .released lease.token) ∈ between := by
  obtain ⟨held, -, run⟩ := run.split
  cases run with
  | cons grant rest =>
    cases grant
    obtain ⟨holding, interval, run⟩ := rest.split
    cases run with
    | cons again _ =>
      cases again with
      | granted available expired =>
        rcases interval.fate with held | retired | ⟨entry, listed, ranOut⟩ | released
        · exact .inl (expired lease held)
        · exact absurd retired available
        · exact .inl (Int.le_trans ranOut (ordered entry listed))
        · exact .inr released

/-- Without another grant nobody but the holder of the lease holds one. -/
theorem held_lease (run : LeaseRun start log final)
    (ungranted : ∀ entry ∈ log, ∀ other, entry.2 ≠ .granted other)
    (first : ∀ other, start = .held other → other = lease) :
    ∀ other, final = .held other → other = lease := by
  induction run with
  | nil => exact first
  | cons step rest ih =>
    refine ih (fun entry listed => ungranted entry (.tail _ listed)) ?_
    intro other held
    cases step with
    | granted => exact absurd rfl (ungranted _ (.head _) _)
    | released => cases held
    | retired => cases held
    | kept => exact first other held

/-- Only the token of the last grant gives the lease back. -/
theorem fenced {earlier between later : List (Int × LeaseEvent Token)} {first second : Int}
    {lease : Lease Token} {token : Token}
    (run : LeaseRun start
      (earlier ++ (first, .granted lease) :: (between ++ (second, .released token) :: later)) final)
    (ungranted : ∀ entry ∈ between, ∀ other, entry.2 ≠ .granted other) : token = lease.token := by
  obtain ⟨_, -, run⟩ := run.split
  cases run with
  | cons grant rest =>
    cases grant
    obtain ⟨holding, interval, run⟩ := rest.split
    cases run with
    | cons release _ =>
      cases release with
      | released =>
        have same := interval.held_lease ungranted (fun _ held => by cases held; rfl) _ rfl
        rw [same]

end LeaseRun

end OnePersonLab.Lib
