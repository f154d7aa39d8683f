import Mathlib.Logic.Basic

/-!
# Computations that may fail

Rules that take apart a computation that has succeeded, for any type of failures.
-/

namespace OnePersonLab.Lib

universe u v

section

variable {ε : Type u} {α β : Type v}

theorem ok_of_bind {first : Except ε α} {next : α → Except ε β} {result : β} :
    (first >>= next) = .ok result ↔ ∃ value, first = .ok value ∧ next value = .ok result := by
  cases first with
  | error failure => simp [bind, Except.bind]
  | ok value => simp [bind, Except.bind]

theorem ok_of_pure {value result : α} :
    (pure value : Except ε α) = .ok result ↔ value = result := by
  simp [pure, Except.pure]

theorem mem_toOption {computed : Except ε α} {value : α} :
    value ∈ computed.toOption ↔ computed = .ok value := by
  cases computed <;> simp [Except.toOption]

end

end OnePersonLab.Lib
