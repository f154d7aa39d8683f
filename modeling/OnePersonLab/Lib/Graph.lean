import Mathlib.Data.List.Nodup
import Mathlib.Data.List.Perm.Subperm
import Mathlib.Logic.Relation
import OnePersonLab.Lib.Outcome

/-!
# Searches in a graph

A graph is given by the successors of each node. `visit` is the depth-first
search that throws at a node under visit, and `closureFrom` the closure of some
roots with a stack of open nodes. Both get fuel; on a set of nodes that is
closed under successors as much fuel as there are nodes is enough.
-/

namespace OnePersonLab.Lib

variable {α : Type} {next : α → List α} {nodes : List α}

/-- There is an arc from the node to the other. -/
def Arc (next : α → List α) (node other : α) : Prop := other ∈ next node

/-- A way of zero or more arcs. -/
abbrev Reaches (next : α → List α) : α → α → Prop := Relation.ReflTransGen (Arc next)

/-- A way of one or more arcs. -/
abbrev Precedes (next : α → List α) : α → α → Prop := Relation.TransGen (Arc next)

def Acyclic (next : α → List α) : Prop := ∀ node, ¬ Precedes next node node

/-- The successors of nodes are nodes. -/
def ClosedUnder (next : α → List α) (nodes : List α) : Prop := ∀ node ∈ nodes, next node ⊆ nodes

theorem not_precedes_of_acc {node : α} (grounded : Acc (fun child parent => Arc next parent child) node) :
    ¬ Precedes next node node := by
  have around : ¬ Relation.TransGen (fun child parent => Arc next parent child) node node := by
    intro cycle
    induction grounded with
    | intro node _ ih =>
      obtain ⟨child, there, back⟩ := Relation.TransGen.tail'_iff.1 cycle
      exact ih child back (Relation.TransGen.head' back there)
  exact fun cycle => around (Relation.transGen_swap.2 cycle)

/-! ## Depth first -/

section DepthFirst

variable [DecidableEq α]

/-- The visited nodes after a visit to a node, or the node under visit that the search met
again. -/
def visit (next : α → List α) : Nat → List α → List α → α → Except α (List α)
  | 0, _, _, node => .error node
  | fuel + 1, visiting, visited, node =>
    if node ∈ visiting then .error node
    else if node ∈ visited then .ok visited
    else do
      let after ← (next node).foldlM (visit next fuel (node :: visiting)) visited
      return node :: after

/-- Every node from which no way leads back is accessible along its arcs. -/
structure Grounded (next : α → List α) (visited : List α) : Prop where
  acc : ∀ node ∈ visited, Acc (fun child parent => Arc next parent child) node

omit [DecidableEq α] in
theorem foldlM_visited {search : List α → α → Except α (List α)}
    (spec : ∀ visited node after, search visited node = .ok after → Grounded next visited →
      Grounded next after ∧ visited ⊆ after ∧ node ∈ after) :
    ∀ (children visited after : List α), children.foldlM search visited = .ok after →
      Grounded next visited → Grounded next after ∧ visited ⊆ after ∧ children ⊆ after := by
  intro children
  induction children with
  | nil =>
    intro visited after searched grounded
    obtain rfl := Except.ok.inj searched
    exact ⟨grounded, List.Subset.refl _, List.nil_subset _⟩
  | cons child rest ih =>
    intro visited after searched grounded
    rw [List.foldlM_cons] at searched
    obtain ⟨middle, first, others⟩ := ok_of_bind.1 searched
    obtain ⟨groundedMiddle, kept, found⟩ := spec _ _ _ first grounded
    obtain ⟨groundedAfter, keptAfter, foundAfter⟩ := ih _ _ others groundedMiddle
    refine ⟨groundedAfter, List.Subset.trans kept keptAfter, ?_⟩
    exact List.cons_subset.2 ⟨keptAfter found, foundAfter⟩

theorem visit_grounded (fuel : Nat) (visiting : List α) :
    ∀ visited node after, visit next fuel visiting visited node = .ok after →
      Grounded next visited → Grounded next after ∧ visited ⊆ after ∧ node ∈ after := by
  induction fuel generalizing visiting with
  | zero =>
    intro visited node after searched
    cases searched
  | succ fuel ih =>
    intro visited node after searched grounded
    rw [visit] at searched
    split at searched
    · cases searched
    · split at searched
      · rename_i known
        obtain rfl := Except.ok.inj searched
        exact ⟨grounded, List.Subset.refl _, known⟩
      · obtain ⟨middle, children, same⟩ := ok_of_bind.1 searched
        obtain rfl := ok_of_pure.1 same
        obtain ⟨groundedMiddle, kept, found⟩ :=
          foldlM_visited (ih (node :: visiting)) _ _ _ children grounded
        refine ⟨⟨?_⟩, List.subset_cons_of_subset _ kept, List.mem_cons_self ..⟩
        intro other listed
        rcases List.mem_cons.1 listed with rfl | listed
        · exact .intro _ fun child arc => groundedMiddle.acc child (found arc)
        · exact groundedMiddle.acc other listed

omit [DecidableEq α] in
theorem foldlM_succeeds {search : List α → α → Except α (List α)} {children : List α}
    (succeeds : ∀ visited, ∀ child ∈ children, ∃ after, search visited child = .ok after) :
    ∀ visited, ∃ after, children.foldlM search visited = .ok after := by
  induction children with
  | nil => exact fun visited => ⟨visited, rfl⟩
  | cons child rest ih =>
    intro visited
    obtain ⟨middle, first⟩ := succeeds visited child (List.mem_cons_self ..)
    obtain ⟨after, others⟩ :=
      ih (fun visited other listed => succeeds visited other (List.mem_cons_of_mem _ listed)) middle
    refine ⟨after, ?_⟩
    rw [List.foldlM_cons]
    exact ok_of_bind.2 ⟨middle, first, others⟩

/-- The nodes under visit are a way to the visited one, so that they are distinct in a graph
without cycles. -/
theorem visit_succeeds (acyclic : Acyclic next) (closed : ClosedUnder next nodes) (fuel : Nat) :
    ∀ (visiting visited : List α) (node : α), visiting.Nodup → visiting ⊆ nodes → node ∈ nodes →
      (∀ earlier ∈ visiting, Precedes next earlier node) →
      nodes.length < fuel + visiting.length →
      ∃ after, visit next fuel visiting visited node = .ok after := by
  induction fuel with
  | zero =>
    intro visiting visited node distinct inside _ _ enough
    have few := (distinct.subperm inside).length_le
    omega
  | succ fuel ih =>
    intro visiting visited node distinct inside present way enough
    rw [visit]
    split
    · rename_i again
      exact absurd (way node again) (acyclic node)
    · rename_i fresh
      split
      · exact ⟨visited, rfl⟩
      · have succeeds : ∀ visited, ∀ child ∈ next node, ∃ after,
            visit next fuel (node :: visiting) visited child = .ok after := by
          intro visited child arc
          refine ih (node :: visiting) visited child (List.nodup_cons.2 ⟨fresh, distinct⟩)
            (List.cons_subset.2 ⟨present, inside⟩) (closed node present arc) ?_ ?_
          · intro earlier listed
            rcases List.mem_cons.1 listed with rfl | listed
            · exact .single arc
            · exact (way earlier listed).tail arc
          · simp only [List.length_cons]
            omega
        obtain ⟨after, searched⟩ := foldlM_succeeds succeeds visited
        exact ⟨node :: after, ok_of_bind.2 ⟨after, searched, rfl⟩⟩

/-- The search from every node. -/
def visitAll (next : α → List α) (nodes : List α) : Except α (List α) :=
  nodes.foldlM (visit next (nodes.length + 1) []) []

theorem visitAll_succeeds_iff (closed : ClosedUnder next nodes)
    (within : ∀ node, next node ≠ [] → node ∈ nodes) :
    (∃ visited, visitAll next nodes = .ok visited) ↔ Acyclic next := by
  constructor
  · rintro ⟨visited, searched⟩ node cycle
    obtain ⟨grounded, -, found⟩ := foldlM_visited (visit_grounded _ _) _ _ _ searched
      ⟨fun _ listed => absurd listed List.not_mem_nil⟩
    obtain ⟨child, arc, -⟩ := Relation.TransGen.head'_iff.1 cycle
    have present : node ∈ nodes := within node (List.ne_nil_of_mem arc)
    exact not_precedes_of_acc (grounded.acc node (found present)) cycle
  · intro acyclic
    refine foldlM_succeeds (fun visited node present => ?_) []
    exact visit_succeeds acyclic closed _ [] visited node List.nodup_nil (List.nil_subset _) present
      (fun _ listed => absurd listed List.not_mem_nil) (by simp)

end DepthFirst

/-! ## Closures -/

section Closure

variable [DecidableEq α]

/-- The successors that are not known yet join the closure and the stack. -/
def discover : List α → List α → List α → List α × List α
  | [], closure, pending => (closure, pending)
  | node :: rest, closure, pending =>
    if node ∈ closure then discover rest closure pending
    else discover rest (closure ++ [node]) (node :: pending)

/-- The closure once the stack, whose top is its head, is worked off. -/
def closureFrom (next : α → List α) : Nat → List α → List α → List α
  | 0, closure, _ => closure
  | _ + 1, closure, [] => closure
  | fuel + 1, closure, node :: pending =>
    let found := discover (next node) closure pending
    closureFrom next fuel found.1 found.2

/-- What holds of the closure and the stack at each turn. -/
structure Exploring (next : α → List α) (nodes roots closure pending : List α) : Prop where
  rooted : roots ⊆ closure
  sound : ∀ node ∈ closure, ∃ root ∈ roots, Reaches next root node
  open_ : pending ⊆ closure
  explored : ∀ node ∈ closure, node ∈ pending ∨ next node ⊆ closure
  distinct : closure.Nodup
  inside : closure ⊆ nodes

variable {roots closure pending : List α} {node : α}

theorem discover_exploring {found : List α} (fromNode : found ⊆ next node) (rest : List α)
    (split : next node = found ++ rest) (reached : ∃ root ∈ roots, Reaches next root node)
    (closed : next node ⊆ nodes) :
    ∀ closure pending, (roots ⊆ closure) → (∀ other ∈ closure, ∃ root ∈ roots, Reaches next root other) →
      pending ⊆ closure → (∀ other ∈ closure, other = node ∨ other ∈ pending ∨ next other ⊆ closure) →
      closure.Nodup → closure ⊆ nodes → found ⊆ closure →
      Exploring next nodes roots (discover rest closure pending).1 (discover rest closure pending).2 ∧
        (discover rest closure pending).2.length + closure.length =
          pending.length + (discover rest closure pending).1.length := by
  induction rest generalizing found with
  | nil =>
    intro closure pending rootsIn sound within explored distinct inside known
    refine ⟨⟨rootsIn, sound, within, ?_, distinct, inside⟩, rfl⟩
    intro other listed
    rcases explored other listed with rfl | done
    · rw [List.append_nil] at split
      exact .inr (split ▸ known)
    · exact done
  | cons child rest ih =>
    intro closure pending rootsIn sound within explored distinct inside known
    have arc : child ∈ next node := split ▸ List.mem_append_right _ (List.mem_cons_self ..)
    have further : next node = found ++ [child] ++ rest := by rw [split, List.append_assoc]; rfl
    have grown : found ++ [child] ⊆ next node :=
      List.append_subset.2 ⟨fromNode, List.cons_subset.2 ⟨arc, List.nil_subset _⟩⟩
    rw [discover]
    split_ifs with present
    · exact ih grown further closure pending rootsIn sound within explored distinct inside
        (List.append_subset.2 ⟨known, List.cons_subset.2 ⟨present, List.nil_subset _⟩⟩)
    · obtain ⟨done, balance⟩ := ih grown further (closure ++ [child]) (child :: pending)
        (List.subset_append_of_subset_left _ rootsIn) (by
          intro other listed
          rcases List.mem_append.1 listed with earlier | last
          · exact sound other earlier
          · obtain rfl := List.mem_singleton.1 last
            obtain ⟨root, isRoot, way⟩ := reached
            exact ⟨root, isRoot, way.tail arc⟩)
        (List.cons_subset.2 ⟨by simp, List.subset_append_of_subset_left _ within⟩) (by
          intro other listed
          rcases List.mem_append.1 listed with earlier | last
          · rcases explored other earlier with same | waiting | done
            · exact .inl same
            · exact .inr (.inl (List.mem_cons_of_mem _ waiting))
            · exact .inr (.inr (List.subset_append_of_subset_left _ done))
          · obtain rfl := List.mem_singleton.1 last
            exact .inr (.inl (List.mem_cons_self ..)))
        (by
          refine List.nodup_append.2 ⟨distinct, List.nodup_singleton _, ?_⟩
          intro other earlier last listed same
          obtain rfl := List.mem_singleton.1 listed
          exact present (same ▸ earlier))
        (List.append_subset.2 ⟨inside, List.cons_subset.2 ⟨closed arc, List.nil_subset _⟩⟩)
        (List.append_subset.2 ⟨List.subset_append_of_subset_left _ known, by simp⟩)
      refine ⟨done, ?_⟩
      simp only [List.length_append, List.length_cons, List.length_nil] at balance
      omega

/-- Fuel is enough for the stack and for the nodes that may still join it. -/
theorem closureFrom_exploring (closed : ClosedUnder next nodes) (fuel : Nat) :
    ∀ closure pending, Exploring next nodes roots closure pending →
      pending.length + nodes.length ≤ fuel + closure.length →
      Exploring next nodes roots (closureFrom next fuel closure pending) [] := by
  induction fuel with
  | zero =>
    intro closure pending exploring enough
    have few := (exploring.distinct.subperm exploring.inside).length_le
    obtain rfl : pending = [] := List.eq_nil_of_length_eq_zero (by omega)
    exact exploring
  | succ fuel ih =>
    intro closure pending exploring enough
    cases pending with
    | nil => exact exploring
    | cons node pending =>
      have listed : node ∈ closure := exploring.open_ (List.mem_cons_self ..)
      obtain ⟨done, balance⟩ := discover_exploring (List.nil_subset (next node)) (next node) rfl
        (exploring.sound node listed) (closed node (exploring.inside listed)) closure pending
        exploring.rooted exploring.sound (List.subset_of_cons_subset exploring.open_) (by
          intro other known
          rcases exploring.explored other known with waiting | done
          · rcases List.mem_cons.1 waiting with same | waiting
            · exact .inl same
            · exact .inr (.inl waiting)
          · exact .inr (.inr done))
        exploring.distinct exploring.inside (List.nil_subset _)
      refine ih _ _ done ?_
      simp only [List.length_cons] at enough
      omega

/-- The closure of distinct roots holds what they reach. -/
theorem mem_closureFrom_iff (closed : ClosedUnder next nodes) (inside : roots ⊆ nodes)
    (distinct : roots.Nodup) {fuel : Nat} (enough : nodes.length ≤ fuel) :
    node ∈ closureFrom next fuel roots roots.reverse ↔ ∃ root ∈ roots, Reaches next root node := by
  have done : Exploring next nodes roots (closureFrom next fuel roots roots.reverse) [] := by
    refine closureFrom_exploring closed fuel roots roots.reverse ?_ (by simp; omega)
    exact {
      rooted := List.Subset.refl _
      sound := fun node listed => ⟨node, listed, .refl⟩
      open_ := (List.reverse_subset).2 (List.Subset.refl _)
      explored := fun node listed => .inl (List.mem_reverse.2 listed)
      distinct, inside }
  constructor
  · exact done.sound node
  · rintro ⟨root, isRoot, way⟩
    induction way with
    | refl => exact done.rooted isRoot
    | tail _ arc ih =>
      rcases done.explored _ ih with waiting | explored
      · exact absurd waiting List.not_mem_nil
      · exact explored arc

end Closure

end OnePersonLab.Lib
