import TransitionNetwork.Drawing

/-!
# What views draw

The nodes and the edges of each view, without its other lines.
-/

set_option autoImplicit false

namespace TransitionNetwork

namespace Dot

variable {α : Type}

@[simp] theorem edges_append (first second : List Line) :
    edges (first ++ second) = edges first ++ edges second :=
  List.filterMap_append

@[simp] theorem edges_map_edge (drawn : List Edge) : edges (drawn.map .edge) = drawn := by
  rw [edges, List.filterMap_map]
  exact List.filterMap_some

@[simp] theorem edges_map_node (node : α → Node) (items : List α) :
    edges (items.map fun item => .node (node item)) = [] := by
  rw [edges, List.filterMap_map]
  exact List.filterMap_eq_nil_iff.mpr fun _ _ => rfl

theorem edges_flatMap (lines : α → List Line) (items : List α) :
    edges (items.flatMap lines) = items.flatMap fun item => edges (lines item) :=
  List.filterMap_flatMap

@[simp] theorem nodes_append (first second : List Line) :
    nodes (first ++ second) = nodes first ++ nodes second :=
  List.filterMap_append

@[simp] theorem nodes_map_node (node : α → Node) (items : List α) :
    nodes (items.map fun item => .node (node item)) = items.map node := by
  rw [nodes, List.filterMap_map]
  exact congrFun (List.filterMap_eq_map (f := node)) items

@[simp] theorem nodes_map_edge (drawn : List Edge) : nodes (drawn.map .edge) = [] := by
  rw [nodes, List.filterMap_map]
  exact List.filterMap_eq_nil_iff.mpr fun _ _ => rfl

/-! ## Lines around what is drawn -/

section Around

variable (name text : String) (rest : List Line)

@[simp] theorem edges_openGraph_cons : edges (.openGraph name :: rest) = edges rest := rfl

@[simp] theorem nodes_openGraph_cons : nodes (.openGraph name :: rest) = nodes rest := rfl

@[simp] theorem edges_captionLines : edges (captionLines text) = [] := rfl

@[simp] theorem nodes_captionLines : nodes (captionLines text) = [] := rfl

@[simp] theorem edges_close : edges [.close] = [] := rfl

@[simp] theorem nodes_close : nodes [.close] = [] := rfl

end Around

/-! ## Where nodes stand -/

/-- The nodes, each with the cluster that is open around it. Clusters do not nest, so a closing
brace leaves no cluster open. -/
def placedNodes (around : Option Nat) : List Line → List (Option Nat × Node)
  | [] => []
  | .openCluster rule :: rest => placedNodes (some rule) rest
  | .close :: rest => placedNodes none rest
  | .node drawn :: rest => (around, drawn) :: placedNodes around rest
  | _ :: rest => placedNodes around rest

theorem nodes_eq_map_placedNodes (around : Option Nat) (lines : List Line) :
    nodes lines = (placedNodes around lines).map Prod.snd := by
  induction lines generalizing around with
  | nil => rfl
  | cons line rest ih =>
      cases line with
      | openCluster rule => exact ih (some rule)
      | close => exact ih none
      | node drawn => exact congrArg (drawn :: ·) (ih around)
      | _ => exact ih around

theorem placedNodes_map_node (around : Option Nat) (node : α → Node) (items : List α)
    (rest : List Line) :
    placedNodes around (items.map (fun item => .node (node item)) ++ rest) =
      items.map (fun item => (around, node item)) ++ placedNodes around rest := by
  induction items with
  | nil => rfl
  | cons item items ih => exact congrArg ((around, node item) :: ·) ih

theorem placedNodes_map_edge (around : Option Nat) (drawn : List Edge) (rest : List Line) :
    placedNodes around (drawn.map .edge ++ rest) = placedNodes around rest := by
  induction drawn with
  | nil => rfl
  | cons edge drawn ih => exact ih

end Dot

namespace Automaton

open Dot

variable (automaton : Automaton)

theorem edges_cluster (rule : Fin automaton.ruleCount) (focus : Option Nat) :
    Dot.edges (automaton.cluster rule focus) = automaton.clusterEdges rule focus := by
  have border : Dot.edges (if focus.all (· == rule.val) then [] else [.dottedBorder]) = [] := by
    split <;> rfl
  have opening (rest : List Line) : Dot.edges (.openCluster rule :: rest) = Dot.edges rest := rfl
  have closing (name : String) (color : Color) :
      Dot.edges [.clusterLabel name, .background color, .close] = [] := rfl
  rw [cluster, List.cons_append, List.cons_append, List.cons_append, opening]
  simp only [edges_append, border, closing, Function.comp_def, edges_map_node, edges_map_edge,
    List.nil_append, List.append_nil]

theorem edges_crossing (focus : Option Nat) :
    Dot.edges (automaton.crossing focus) = automaton.crossEdges focus :=
  edges_map_edge _

/-- The edges of a focused view are those of its clusters and those between them. -/
theorem edges_focusedGraph (focus : Fin automaton.ruleCount) :
    Dot.edges (automaton.focusedGraph focus) =
      (automaton.rules.flatMap fun rule : Fin automaton.ruleCount =>
        automaton.clusterEdges rule (some focus.val)) ++
        automaton.crossEdges (some focus.val) := by
  have opening (rest : List Line) : Dot.edges (.separateCrossings :: rest) = Dot.edges rest := rfl
  simp [focusedGraph, opening, edges_flatMap, edges_cluster, edges_crossing]

theorem edges_fullGraph (title : String) :
    Dot.edges (automaton.fullGraph title) = automaton.edgesFrom automaton.indices := by
  simp [fullGraph]

theorem nodes_fullGraph (title : String) :
    Dot.nodes (automaton.fullGraph title) = automaton.indices.map fun index =>
      automaton.node (.inGraph (Color.ofOwner (automaton.owner index))) index := by
  simp [fullGraph]

theorem edges_flatGraph (rule : Fin automaton.ruleCount) :
    Dot.edges (automaton.flatGraph rule) = automaton.edgesFrom (automaton.statesOfRule rule) := by
  simp [flatGraph, Function.comp_def]

theorem nodes_flatGraph (rule : Fin automaton.ruleCount) :
    Dot.nodes (automaton.flatGraph rule) =
      (automaton.statesOfRule rule).map (automaton.node .plain) := by
  simp [flatGraph, Function.comp_def]

/-- Whatever follows a cluster, the nodes of the cluster stand in it. -/
theorem placedNodes_cluster (rule : Fin automaton.ruleCount) (focus : Option Nat)
    (rest : List Line) :
    placedNodes none (automaton.cluster rule focus ++ rest) =
      (automaton.clusterStates rule focus).map (fun index =>
        (some rule.val, automaton.node (.inCluster (Color.ofRule rule)) index)) ++
      placedNodes none rest := by
  have border (lines : List Line) :
      placedNodes (some rule.val)
        ((if focus.all (· == rule.val) then [] else [.dottedBorder]) ++ lines) =
      placedNodes (some rule.val) lines := by
    split <;> rfl
  rw [cluster]
  simp only [List.cons_append, List.append_assoc, placedNodes, border, Function.comp_def,
    placedNodes_map_node, placedNodes_map_edge, List.nil_append]

theorem placedNodes_clusters (rules : List (Fin automaton.ruleCount)) (focus : Option Nat)
    (rest : List Line) :
    placedNodes none (rules.flatMap (automaton.cluster · focus) ++ rest) =
      (rules.flatMap fun rule : Fin automaton.ruleCount =>
        (automaton.clusterStates rule focus).map fun index =>
          (some rule.val, automaton.node (.inCluster (Color.ofRule rule)) index)) ++
      placedNodes none rest := by
  induction rules with
  | nil => rfl
  | cons rule rules ih =>
      rw [List.flatMap_cons, List.append_assoc, placedNodes_cluster, ih, List.flatMap_cons,
        List.append_assoc]

/-- The nodes of a focused view stand in its clusters, and nowhere else. -/
theorem placedNodes_focusedGraph (focus : Fin automaton.ruleCount) :
    placedNodes none (automaton.focusedGraph focus) =
      automaton.rules.flatMap fun rule : Fin automaton.ruleCount =>
        (automaton.clusterStates rule (some focus)).map fun index =>
          (some rule.val, automaton.node (.inCluster (Color.ofRule rule)) index) := by
  have closing (text : String) : placedNodes none (captionLines text ++ [.close]) = [] := rfl
  rw [focusedGraph, crossing, List.append_assoc, List.append_assoc, List.append_assoc]
  simp only [List.cons_append, List.nil_append, placedNodes, placedNodes_clusters,
    placedNodes_map_edge, closing, List.append_nil]

end Automaton

end TransitionNetwork
