import TransitionNetwork.Proofs.ViewContents

/-!
# Lines in another order

Two graphs may list the same nodes and the same edges in different orders. Where only nodes change
places with nodes next to them, and edges with edges, every other line stays as it is and every node
and edge stays in its cluster.
-/

set_option autoImplicit false

namespace TransitionNetwork.Dot

variable {first second third : List Line}

/-- Runs of nodes and runs of edges may come in another order; every other line stays. -/
inductive Reordered : List Line → List Line → Prop
  | nil : Reordered [] []
  | line (line : Line) {first second : List Line} (rest : Reordered first second) :
      Reordered (line :: first) (line :: second)
  | nodes {drawn drawn' : List Node} (same : drawn.Perm drawn') {first second : List Line}
      (rest : Reordered first second) :
      Reordered (drawn.map .node ++ first) (drawn'.map .node ++ second)
  | edges {drawn drawn' : List Edge} (same : drawn.Perm drawn') {first second : List Line}
      (rest : Reordered first second) :
      Reordered (drawn.map .edge ++ first) (drawn'.map .edge ++ second)

namespace Reordered

theorem refl (lines : List Line) : Reordered lines lines := by
  induction lines with
  | nil => exact .nil
  | cons line lines ih => exact .line line ih

theorem append {first' second' : List Line} (front : Reordered first second)
    (back : Reordered first' second') : Reordered (first ++ first') (second ++ second') := by
  induction front with
  | nil => exact back
  | line line _ ih => exact .line line ih
  | nodes same _ ih =>
      rw [List.append_assoc, List.append_assoc]
      exact .nodes same ih
  | edges same _ ih =>
      rw [List.append_assoc, List.append_assoc]
      exact .edges same ih

theorem flatMap {α : Type} {lines lines' : α → List Line} {items : List α}
    (each : ∀ item ∈ items, Reordered (lines item) (lines' item)) :
    Reordered (items.flatMap lines) (items.flatMap lines') := by
  induction items with
  | nil => exact .nil
  | cons item items ih =>
      obtain ⟨first, others⟩ := List.forall_mem_cons.mp each
      exact first.append (ih others)

theorem of_nodes {α α' : Type} {node : α → Node} {node' : α' → Node} {items : List α}
    {items' : List α'} (same : (items.map node).Perm (items'.map node')) :
    Reordered (items.map (Line.node ∘ node)) (items'.map (Line.node ∘ node')) := by
  have run := Reordered.nodes same .nil
  rwa [List.append_nil, List.append_nil, List.map_map, List.map_map] at run

theorem of_edges {drawn drawn' : List Edge} (same : drawn.Perm drawn') :
    Reordered (drawn.map .edge) (drawn'.map .edge) := by
  have run := Reordered.edges same .nil
  rwa [List.append_nil, List.append_nil] at run

end Reordered

/-! ## What stays -/

/-- The edges, each with the cluster that is open around it. -/
def placedEdges (around : Option Nat) : List Line → List (Option Nat × Edge)
  | [] => []
  | .openCluster rule :: rest => placedEdges (some rule) rest
  | .close :: rest => placedEdges none rest
  | .edge drawn :: rest => (around, drawn) :: placedEdges around rest
  | _ :: rest => placedEdges around rest

/-- Every line but nodes and edges. -/
def frame (lines : List Line) : List Line :=
  lines.filter fun line => line.node?.isNone && line.edge?.isNone

/-- The same lines apart from nodes and edges, in the same order, and in each cluster and outside of
them the same nodes and the same edges, each as often. -/
structure SameUpToOrder (first second : List Line) : Prop where
  frame_eq : frame first = frame second
  nodes_perm : (placedNodes none first).Perm (placedNodes none second)
  edges_perm : (placedEdges none first).Perm (placedEdges none second)

theorem placedNodes_nodes (around : Option Nat) (drawn : List Node) (rest : List Line) :
    placedNodes around (drawn.map .node ++ rest) =
      drawn.map (around, ·) ++ placedNodes around rest :=
  placedNodes_map_node around id drawn rest

theorem placedEdges_edges (around : Option Nat) (drawn : List Edge) (rest : List Line) :
    placedEdges around (drawn.map .edge ++ rest) =
      drawn.map (around, ·) ++ placedEdges around rest := by
  induction drawn with
  | nil => rfl
  | cons edge drawn ih => exact congrArg ((around, edge) :: ·) ih

theorem placedEdges_nodes (around : Option Nat) (drawn : List Node) (rest : List Line) :
    placedEdges around (drawn.map .node ++ rest) = placedEdges around rest := by
  induction drawn with
  | nil => rfl
  | cons node drawn ih => exact ih

theorem frame_nodes (drawn : List Node) (rest : List Line) :
    frame (drawn.map .node ++ rest) = frame rest := by
  induction drawn with
  | nil => rfl
  | cons node drawn ih => exact ih

theorem frame_edges (drawn : List Edge) (rest : List Line) :
    frame (drawn.map .edge ++ rest) = frame rest := by
  induction drawn with
  | nil => rfl
  | cons edge drawn ih => exact ih

namespace Reordered

theorem frame_eq (same : Reordered first second) : frame first = frame second := by
  induction same with
  | nil => rfl
  | line line _ ih =>
      unfold frame at ih ⊢
      rw [List.filter_cons, List.filter_cons, ih]
  | nodes _ _ ih => rwa [frame_nodes, frame_nodes]
  | edges _ _ ih => rwa [frame_edges, frame_edges]

theorem placedNodes_perm (same : Reordered first second) (around : Option Nat) :
    (placedNodes around first).Perm (placedNodes around second) := by
  induction same generalizing around with
  | nil => exact .refl _
  | line line _ ih =>
      cases line with
      | openCluster rule => exact ih (some rule)
      | close => exact ih none
      | node drawn => exact (ih around).cons _
      | _ => exact ih around
  | nodes same _ ih =>
      rw [placedNodes_nodes, placedNodes_nodes]
      exact (same.map _).append (ih around)
  | edges _ _ ih =>
      rw [placedNodes_map_edge, placedNodes_map_edge]
      exact ih around

theorem placedEdges_perm (same : Reordered first second) (around : Option Nat) :
    (placedEdges around first).Perm (placedEdges around second) := by
  induction same generalizing around with
  | nil => exact .refl _
  | line line _ ih =>
      cases line with
      | openCluster rule => exact ih (some rule)
      | close => exact ih none
      | edge drawn => exact (ih around).cons _
      | _ => exact ih around
  | nodes _ _ ih =>
      rw [placedEdges_nodes, placedEdges_nodes]
      exact ih around
  | edges same _ ih =>
      rw [placedEdges_edges, placedEdges_edges]
      exact (same.map _).append (ih around)

theorem sameUpToOrder (same : Reordered first second) : SameUpToOrder first second :=
  ⟨same.frame_eq, same.placedNodes_perm none, same.placedEdges_perm none⟩

end Reordered

end TransitionNetwork.Dot
