import Mathlib.Data.List.Chain
import Mathlib.Logic.Relation

/-!
# Paths that meet no node twice

A longest path from a node goes to a successor and follows a longest path from there. In a graph
without cycles nothing else has to be asked of the successor: its path cannot come back.
-/

namespace OnePersonLab.Lib

section

variable {α : Type} (edge : α → α → Prop)

/-- A path from the node that follows the edges and meets no node twice. -/
structure SimplePath (start : α) (path : List α) : Prop where
  starts : path.head? = some start
  follows : path.IsChain edge
  distinct : path.Nodup

/-- A path that no other from the node exceeds. -/
structure LongestPath (start : α) (path : List α) : Prop where
  simple : SimplePath edge start path
  longest : ∀ other, SimplePath edge start other → other.length ≤ path.length

/-- An edge to another node. -/
def LeadsElsewhere (node other : α) : Prop := edge node other ∧ node ≠ other

/-- No cycle, except that a node may be its own successor. -/
def OnlySelfLoops : Prop := ∀ node, ¬Relation.TransGen (LeadsElsewhere edge) node node

end

section

variable {α : Type} {edge other : α → α → Prop} {start successor : α} {path rest : List α}

theorem SimplePath.ne_nil (simple : SimplePath edge start path) : path ≠ [] := by
  rintro rfl
  cases simple.starts

theorem simplePath_singleton (start : α) : SimplePath edge start [start] :=
  ⟨rfl, List.isChain_singleton start, by simp⟩

theorem SimplePath.cons (simple : SimplePath edge successor path) (step : edge start successor)
    (fresh : start ∉ path) : SimplePath edge start (start :: path) where
  starts := rfl
  follows := List.isChain_cons.2 ⟨by
    intro node first
    rw [simple.starts] at first
    cases first
    exact step, simple.follows⟩
  distinct := List.nodup_cons.2 ⟨fresh, simple.distinct⟩

/-- A path ends at its first node or goes on from another successor. -/
theorem SimplePath.cases_on_step (simple : SimplePath edge start path) :
    path = [start] ∨ ∃ successor rest, path = start :: rest ∧ LeadsElsewhere edge start successor ∧
      SimplePath edge successor rest := by
  obtain ⟨starts, follows, distinct⟩ := simple
  cases path with
  | nil => cases starts
  | cons first rest =>
    cases starts
    cases rest with
    | nil => exact .inl rfl
    | cons successor rest =>
      right
      obtain ⟨step, chain⟩ := List.isChain_cons_cons.1 follows
      obtain ⟨fresh, distinct⟩ := List.nodup_cons.1 distinct
      refine ⟨successor, successor :: rest, rfl, ⟨step, ?_⟩, rfl, chain, distinct⟩
      rintro rfl
      exact fresh List.mem_cons_self

theorem SimplePath.congr (same : ∀ node successor, edge node successor ↔ other node successor)
    (simple : SimplePath edge start path) : SimplePath other start path :=
  ⟨simple.starts, simple.follows.imp fun node successor => (same node successor).1, simple.distinct⟩

theorem LongestPath.length_eq {path' : List α} (longest : LongestPath edge start path)
    (longest' : LongestPath edge start path') : path.length = path'.length :=
  Nat.le_antisymm (longest'.longest _ longest.simple) (longest.longest _ longest'.simple)

theorem OnlySelfLoops.not_back (loops : OnlySelfLoops edge) (step : LeadsElsewhere edge start successor) :
    ¬Relation.ReflTransGen (LeadsElsewhere edge) successor start := by
  intro back
  exact loops successor (Relation.TransGen.tail' back step)

end

end OnePersonLab.Lib
