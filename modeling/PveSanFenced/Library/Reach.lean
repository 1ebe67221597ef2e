import Mathlib.Algebra.Order.Ring.Nat
import Mathlib.Data.Finset.Card
import Mathlib.Logic.Relation

/-!
# Searching a graph from a node down to its labels

A depth-first search over an arbitrary successor function, with a visited set
that sibling calls share. A labelled node is reported and not passed; a node
met a second time contributes nothing. What a call returns is therefore not
what its node can reach, and only the result at the root is.
-/

namespace PveSanFenced.Library.Reach

set_option autoImplicit false

variable {Node Label : Type*} (label : Node → Option Label) (next : Node → List Node)

/-- One step of the search: only a node without label is passed. -/
def Passes (node child : Node) : Prop := label node = none ∧ child ∈ next node

/-- The label is the first one on some path from the node. -/
def Finds (start : Node) (found : Label) : Prop :=
  ∃ node, Relation.ReflTransGen (Passes label next) start node ∧ label node = some found

variable {label next}

theorem finds_self {start : Node} {found : Label} (here : label start = some found) :
    Finds label next start found :=
  ⟨start, Relation.ReflTransGen.refl, here⟩

theorem finds_step {start child : Node} {found : Label} (passes : Passes label next start child)
    (later : Finds label next child found) : Finds label next start found := by
  obtain ⟨node, path, here⟩ := later
  exact ⟨node, Relation.ReflTransGen.head passes path, here⟩

/-- Two searches that read the nodes on their way alike find the same. -/
theorem finds_of_agree {label' : Node → Option Label} {next' : Node → List Node} {start : Node}
    {found : Label}
    (agree : ∀ node, Relation.ReflTransGen (Passes label next) start node →
      label node = label' node ∧ (label node = none → ∀ child ∈ next node, child ∈ next' node))
    (finds : Finds label next start found) : Finds label' next' start found := by
  obtain ⟨node, path, here⟩ := finds
  refine ⟨node, ?_, (agree node path).1 ▸ here⟩
  clear here
  induction path with
  | refl => exact Relation.ReflTransGen.refl
  | tail path step ih =>
      have same := agree _ path
      apply Relation.ReflTransGen.tail ih
      exact ⟨same.1 ▸ step.1, same.2 step.1 _ step.2⟩

/-- A node that a second labelling marks, on a path the first one leaves bare,
makes the search with both labellings stop at such a node. -/
theorem finds_first {label' : Node → Option Label} {start node : Node}
    (path : Relation.ReflTransGen (Passes label next) start node) (bare : label node = none)
    (marked : label' node ≠ none) :
    ∃ other found, Relation.ReflTransGen (Passes label next) start other ∧ label other = none ∧
      label' other = some found ∧ Finds label' next start found := by
  induction path using Relation.ReflTransGen.head_induction_on with
  | refl =>
      obtain ⟨found, here⟩ := Option.ne_none_iff_exists'.mp marked
      exact ⟨node, found, Relation.ReflTransGen.refl, bare, here, finds_self here⟩
  | @head first child step rest ih =>
      cases here : label' first with
      | some found =>
          exact ⟨first, found, Relation.ReflTransGen.refl, step.1, here, finds_self here⟩
      | none =>
          obtain ⟨other, found, path', bare', marked', finds⟩ := ih
          exact ⟨other, found, Relation.ReflTransGen.head step path', bare', marked',
            finds_step ⟨here, step.2⟩ finds⟩

section Search

variable [DecidableEq Node] [DecidableEq Label]

abbrev Progress (Node Label : Type*) := Finset Label × Finset Node

/-- Searches the children one after the other; each starts from what its elder
siblings have visited. -/
def searchEach (search : Node → Finset Node → Option (Progress Node Label)) :
    List Node → Progress Node Label → Option (Progress Node Label)
  | [], progress => some progress
  | child :: rest, progress => do
      let (more, visited) ← search child progress.2
      searchEach search rest (progress.1 ∪ more, visited)

variable (label next)

/-- The search, with a bound on the depth of its recursion. -/
def search : ℕ → Node → Finset Node → Option (Progress Node Label)
  | 0, _, _ => none
  | depth + 1, node, visited =>
      if node ∈ visited then some (∅, visited)
      else match label node with
        | some found => some ({found}, insert node visited)
        | none => searchEach (search depth) (next node) (∅, insert node visited)

variable {label next}

section Exact

variable (label next)

/-- What a search from the given nodes has done between two moments: a node
visited meanwhile had its label reported and its children visited. -/
structure Explored (starts : List Node) (before after : Progress Node Label) : Prop where
  keptLabels : before.1 ⊆ after.1
  keptNodes : before.2 ⊆ after.2
  started : ∀ start ∈ starts, start ∈ after.2
  reported : ∀ node ∈ after.2, node ∉ before.2 → ∀ found, label node = some found →
    found ∈ after.1
  closed : ∀ node ∈ after.2, node ∉ before.2 → ∀ child, Passes label next node child →
    child ∈ after.2
  sound : ∀ found ∈ after.1, found ∈ before.1 ∨ ∃ start ∈ starts, Finds label next start found

variable {label next}

omit [DecidableEq Node] [DecidableEq Label] in
theorem explored_nil (progress : Progress Node Label) :
    Explored label next [] progress progress where
  keptLabels := subset_rfl
  keptNodes := subset_rfl
  started := by simp
  reported := fun _ member fresh => absurd member fresh
  closed := fun _ member fresh => absurd member fresh
  sound := fun _ member => Or.inl member

omit [DecidableEq Node] [DecidableEq Label] in
theorem explored_again {node : Node} {visited : Finset Node} (again : node ∈ visited) :
    Explored label next [node] ((∅ : Finset Label), visited) (∅, visited) where
  keptLabels := subset_rfl
  keptNodes := subset_rfl
  started := by simpa using again
  reported := fun _ member fresh => absurd member fresh
  closed := fun _ member fresh => absurd member fresh
  sound := fun _ member => Or.inl member

omit [DecidableEq Label] in
theorem explored_labelled {node : Node} {visited : Finset Node} {found : Label}
    (here : label node = some found) :
    Explored label next [node] (∅, visited) ({found}, insert node visited) where
  keptLabels := Finset.empty_subset _
  keptNodes := Finset.subset_insert _ _
  started := by simp
  reported := by
    intro other member fresh found' labelled
    cases Finset.mem_insert.mp member with
    | inl same =>
        rw [same, here, Option.some.injEq] at labelled
        exact Finset.mem_singleton.mpr labelled.symm
    | inr old => exact absurd old fresh
  closed := by
    intro other member fresh child passes
    cases Finset.mem_insert.mp member with
    | inl same =>
        rw [Passes, same, here] at passes
        exact absurd passes.1 (Option.some_ne_none found)
    | inr old => exact absurd old fresh
  sound := by
    intro found' member
    rw [Finset.mem_singleton.mp member]
    exact Or.inr ⟨node, List.mem_singleton_self node, finds_self here⟩

omit [DecidableEq Label] in
theorem explored_enter {node : Node} {visited : Finset Node} {after : Progress Node Label}
    (bare : label node = none)
    (children : Explored label next (next node) (∅, insert node visited) after) :
    Explored label next [node] (∅, visited) after where
  keptLabels := children.keptLabels
  keptNodes := (Finset.subset_insert node visited).trans children.keptNodes
  started := by
    simpa using children.keptNodes (Finset.mem_insert_self node visited)
  reported := by
    intro other member fresh found labelled
    by_cases same : other = node
    · rw [same, bare] at labelled
      cases labelled
    · apply children.reported other member _ found labelled
      exact fun old => (Finset.mem_insert.mp old).elim same fresh
  closed := by
    intro other member fresh child passes
    by_cases same : other = node
    · rw [same] at passes
      exact children.started child passes.2
    · apply children.closed other member _ child passes
      exact fun old => (Finset.mem_insert.mp old).elim same fresh
  sound := by
    intro found member
    cases children.sound found member with
    | inl old => exact Or.inl old
    | inr later =>
        obtain ⟨child, listed, finds⟩ := later
        exact Or.inr ⟨node, List.mem_singleton_self node, finds_step ⟨bare, listed⟩ finds⟩

theorem explored_cons {child : Node} {rest : List Node} {progress more after : Progress Node Label}
    (first : Explored label next [child] (∅, progress.2) more)
    (others : Explored label next rest (progress.1 ∪ more.1, more.2) after) :
    Explored label next (child :: rest) progress after where
  keptLabels := Finset.subset_union_left.trans others.keptLabels
  keptNodes := first.keptNodes.trans others.keptNodes
  started := by
    intro start member
    cases List.mem_cons.mp member with
    | inl same => exact others.keptNodes (first.started start (by simp [same]))
    | inr later => exact others.started start later
  reported := by
    intro node member fresh found labelled
    by_cases early : node ∈ more.2
    · apply others.keptLabels
      exact Finset.mem_union_right _ (first.reported node early fresh found labelled)
    · exact others.reported node member early found labelled
  closed := by
    intro node member fresh other passes
    by_cases early : node ∈ more.2
    · exact others.keptNodes (first.closed node early fresh other passes)
    · exact others.closed node member early other passes
  sound := by
    intro found member
    cases others.sound found member with
    | inr later =>
        obtain ⟨start, listed, finds⟩ := later
        exact Or.inr ⟨start, List.mem_cons_of_mem child listed, finds⟩
    | inl old =>
        cases Finset.mem_union.mp old with
        | inl before => exact Or.inl before
        | inr fresh =>
            cases first.sound found fresh with
            | inl none => exact absurd none (Finset.notMem_empty found)
            | inr here =>
                obtain ⟨start, listed, finds⟩ := here
                rw [List.mem_singleton.mp listed] at finds
                exact Or.inr ⟨child, List.mem_cons_self .., finds⟩

theorem search_each_explored {search' : Node → Finset Node → Option (Progress Node Label)}
    (explores : ∀ node visited after, search' node visited = some after →
      Explored label next [node] (∅, visited) after) :
    ∀ (starts : List Node) (before after : Progress Node Label),
      searchEach search' starts before = some after → Explored label next starts before after := by
  intro starts
  induction starts with
  | nil =>
      intro before after done
      rw [searchEach, Option.some.injEq] at done
      exact done ▸ explored_nil before
  | cons child rest ih =>
      intro before after done
      rw [searchEach, Option.bind_eq_bind, Option.bind_eq_some_iff] at done
      obtain ⟨more, first, others⟩ := done
      exact explored_cons (explores child before.2 more first) (ih _ after others)

theorem search_explored (depth : ℕ) : ∀ node visited (after : Progress Node Label),
    search label next depth node visited = some after →
      Explored label next [node] (∅, visited) after := by
  induction depth with
  | zero =>
      intro node visited after done
      cases done
  | succ depth ih =>
      intro node visited after done
      unfold search at done
      by_cases again : node ∈ visited
      · rw [if_pos again, Option.some.injEq] at done
        exact done ▸ explored_again again
      · rw [if_neg again] at done
        cases here : label node with
        | some found =>
            rw [here] at done
            cases done
            exact explored_labelled here
        | none =>
            rw [here] at done
            exact explored_enter here (search_each_explored ih _ _ after done)

/-- Started on an empty visited set, the search finds exactly the first labels
on the paths from its start. -/
theorem search_exact {depth : ℕ} {start : Node} {after : Progress Node Label}
    (done : search label next depth start ∅ = some after) (found : Label) :
    found ∈ after.1 ↔ Finds label next start found := by
  have explored := search_explored depth start ∅ after done
  constructor
  · intro member
    cases explored.sound found member with
    | inl old => exact absurd old (Finset.notMem_empty found)
    | inr finds =>
        obtain ⟨only, listed, here⟩ := finds
        exact List.mem_singleton.mp listed ▸ here
  · intro finds
    obtain ⟨node, path, here⟩ := finds
    have visited : node ∈ after.2 := by
      clear here
      induction path with
      | refl => exact explored.started start (List.mem_singleton_self start)
      | tail _ step ih => exact explored.closed _ ih (Finset.notMem_empty _) _ step
    exact explored.reported node visited (Finset.notMem_empty node) found here

end Exact

section Depth

omit [DecidableEq Node] in
theorem search_each_congr {search' search'' : Node → Finset Node → Option (Progress Node Label)}
    (same : ∀ node visited after, search' node visited = some after →
      search'' node visited = some after) :
    ∀ (starts : List Node) (before after : Progress Node Label),
      searchEach search' starts before = some after →
        searchEach search'' starts before = some after := by
  intro starts
  induction starts with
  | nil => exact fun before after done => done
  | cons child rest ih =>
      intro before after done
      rw [searchEach, Option.bind_eq_bind, Option.bind_eq_some_iff] at done ⊢
      obtain ⟨more, first, others⟩ := done
      exact ⟨more, same child before.2 more first, ih _ after others⟩

theorem search_deeper (depth more : ℕ) : ∀ node visited (after : Progress Node Label),
    search label next depth node visited = some after →
      search label next (depth + more) node visited = some after := by
  induction depth with
  | zero =>
      intro node visited after done
      cases done
  | succ depth ih =>
      intro node visited after done
      rw [Nat.succ_add]
      unfold search at done ⊢
      by_cases again : node ∈ visited
      · rw [if_pos again] at done ⊢
        exact done
      · rw [if_neg again] at done ⊢
        cases here : label node with
        | some found =>
            rw [here] at done
            exact done
        | none =>
            rw [here] at done
            exact search_each_congr ih _ _ after done

end Depth

section Ends

variable {nodes : Finset Node}

theorem fewer_unvisited {node : Node} {visited : Finset Node} (member : node ∈ nodes)
    (fresh : node ∉ visited) : (nodes \ insert node visited).card < (nodes \ visited).card := by
  apply Finset.card_lt_card
  refine ⟨Finset.sdiff_subset_sdiff subset_rfl (Finset.subset_insert node visited), ?_⟩
  intro larger
  have kept := larger (Finset.mem_sdiff.mpr ⟨member, fresh⟩)
  exact (Finset.mem_sdiff.mp kept).2 (Finset.mem_insert_self node visited)

theorem search_each_ends {depth : ℕ}
    (ends : ∀ node visited, node ∈ nodes → (nodes \ visited).card < depth →
      ∃ after, search label next depth node visited = some after) :
    ∀ (starts : List Node) (before : Progress Node Label), (∀ start ∈ starts, start ∈ nodes) →
      (nodes \ before.2).card < depth →
        ∃ after, searchEach (search label next depth) starts before = some after := by
  intro starts
  induction starts with
  | nil => exact fun before _ _ => ⟨before, rfl⟩
  | cons child rest ih =>
      intro before inside enough
      obtain ⟨more, first⟩ := ends child before.2 (inside child (List.mem_cons_self ..)) enough
      have grown := (search_explored depth child before.2 more first).keptNodes
      have fewer : (nodes \ more.2).card ≤ (nodes \ before.2).card :=
        Finset.card_le_card (Finset.sdiff_subset_sdiff subset_rfl grown)
      obtain ⟨after, others⟩ := ih (before.1 ∪ more.1, more.2)
        (fun start member => inside start (List.mem_cons_of_mem child member))
        (fewer.trans_lt enough)
      exact ⟨after, by simp [searchEach, first, others]⟩

/-- In a finite graph, a depth above the number of nodes not visited yet is
enough: cycles and shared successors do not matter. -/
theorem search_ends (closed : ∀ node ∈ nodes, ∀ child, Passes label next node child → child ∈ nodes)
    (depth : ℕ) : ∀ node visited, node ∈ nodes → (nodes \ visited).card < depth →
      ∃ after, search label next depth node visited = some after := by
  induction depth with
  | zero => exact fun _ _ _ enough => absurd enough (Nat.not_lt_zero _)
  | succ depth ih =>
      intro node visited member enough
      unfold search
      by_cases again : node ∈ visited
      · exact ⟨_, if_pos again⟩
      · rw [if_neg again]
        cases here : label node with
        | some found => exact ⟨_, rfl⟩
        | none =>
            apply search_each_ends ih
            · exact fun child listed => closed node member child ⟨here, listed⟩
            · exact (fewer_unvisited member again).trans_le (Nat.lt_succ_iff.mp enough)

end Ends

end Search

end PveSanFenced.Library.Reach
