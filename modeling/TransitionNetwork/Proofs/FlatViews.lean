import TransitionNetwork.Proofs.DeclaredNodes
import TransitionNetwork.Proofs.ReadingBack

/-!
# Flat views

A flat view goes over the states of one rule, the full view over all states. So a flat view shows
what the full view shows of its rule, in the same order. A state has one owner or none, and thus the
flat views of all rules and the unowned states share out the full view.
-/

set_option autoImplicit false

namespace TransitionNetwork

/-- The node as it stands in a flat view. -/
def Dot.Node.unfilled (node : Dot.Node) : Dot.Node :=
  { node with fill := .plain }

/-- A test that all parts of an item share may be made on the item. -/
theorem filter_flatMap_of_agree {α β : Type} {parts : α → List β} {kept : α → Bool}
    {kept' : β → Bool} {items : List α}
    (agree : ∀ item ∈ items, ∀ part ∈ parts item, kept' part = kept item) :
    (items.flatMap parts).filter kept' = (items.filter kept).flatMap parts := by
  induction items with
  | nil => rfl
  | cons item items ih =>
      obtain ⟨first, others⟩ := List.forall_mem_cons.mp agree
      rw [List.flatMap_cons, List.filter_append, ih others]
      cases passed : kept item with
      | true =>
          have all : (parts item).filter kept' = parts item :=
            List.filter_eq_self.mpr fun part member => (first part member).trans passed
          rw [all, List.filter_cons_of_pos passed, List.flatMap_cons]
      | false =>
          have none : (parts item).filter kept' = [] :=
            List.filter_eq_nil_iff.mpr fun part member =>
              Bool.eq_false_iff.mp ((first part member).trans passed)
          rw [none, List.filter_cons_of_neg (Bool.eq_false_iff.mp passed), List.nil_append]

namespace Automaton

open Dot

variable (automaton : Automaton)

/-! ## Owners by node names -/

/-- The owner of the state that a node name stands for. -/
def ownerOfNode (id : String) : Option Nat :=
  (automaton.indices.find? fun index => automaton.nodeId index = id).bind automaton.owner

theorem ownerOfNode_nodeId (index : Fin automaton.size) :
    automaton.ownerOfNode (automaton.nodeId index) = automaton.owner index := by
  unfold ownerOfNode
  cases found : automaton.indices.find? fun other => automaton.nodeId other = automaton.nodeId index
    with
  | none =>
      have absent := List.find?_eq_none.mp found index (List.mem_finRange index)
      exact absurd (decide_eq_true rfl) absent
  | some other =>
      have passed := List.find?_some found
      have same : automaton.nodeId other = automaton.nodeId index := of_decide_eq_true passed
      rw [automaton.nodeId_injective same]
      rfl

/-- The node is a state of the rule. -/
def isNodeOf (rule : Nat) (node : Node) : Bool :=
  automaton.ownerOfNode node.id = some rule

/-- The edge leaves a state of the rule. -/
def isEdgeFrom (rule : Nat) (edge : Edge) : Bool :=
  automaton.ownerOfNode edge.source = some rule

theorem isNodeOf_node (rule : Nat) (fill : Fill) (index : Fin automaton.size) :
    automaton.isNodeOf rule (automaton.node fill index) =
      decide (automaton.owner index = some rule) := by
  have named : (automaton.node fill index).id = automaton.nodeId index := rfl
  rw [isNodeOf, named, ownerOfNode_nodeId]

theorem isEdgeFrom_of_mem_edges {source : Fin automaton.size} {edge : Edge}
    (member : edge ∈ (automaton.transitions source).flatMap fun transition =>
      automaton.edges source transition none) (rule : Nat) :
    automaton.isEdgeFrom rule edge = decide (automaton.owner source = some rule) := by
  obtain ⟨transition, _, drawn⟩ := List.mem_flatMap.mp member
  rw [edges_eq_arrowEdges] at drawn
  have named : edge.source = automaton.nodeId source := (automaton.ends_of_mem_arrowEdges drawn).1
  rw [isEdgeFrom, named, ownerOfNode_nodeId]

/-! ## One flat view -/

theorem edges_flatGraph_eq_filter (rule : Fin automaton.ruleCount) (title : String) :
    Dot.edges (automaton.flatGraph rule) =
      (Dot.edges (automaton.fullGraph title)).filter (automaton.isEdgeFrom rule) := by
  rw [edges_flatGraph, edges_fullGraph, edgesFrom, edgesFrom, statesOfRule]
  refine (filter_flatMap_of_agree ?_).symm
  intro source _ edge member
  exact automaton.isEdgeFrom_of_mem_edges member rule

theorem nodes_flatGraph_eq_filter (rule : Fin automaton.ruleCount) (title : String) :
    Dot.nodes (automaton.flatGraph rule) =
      ((Dot.nodes (automaton.fullGraph title)).filter (automaton.isNodeOf rule)).map
        Node.unfilled := by
  rw [nodes_flatGraph, nodes_fullGraph, List.filter_map, List.map_map]
  simp only [Function.comp_def, isNodeOf_node]
  rfl

/-! ## All flat views -/

/-- The states that no rule owns, in order. -/
def unownedStates : List (Fin automaton.size) :=
  automaton.indices.filter fun index => automaton.owner index = none

theorem states_perm :
    ((automaton.rules.flatMap fun rule : Fin automaton.ruleCount => automaton.statesOfRule rule) ++
      automaton.unownedStates).Perm automaton.indices := by
  have unowned : automaton.unownedStates =
      automaton.indices.filter fun index => !(automaton.owner index).isSome := by
    apply List.filter_congr
    intro index _
    cases automaton.owner index <;> rfl
  have owned := automaton.flatMap_rules_perm id automaton.indices
  rw [unowned]
  exact (owned.append_right _).trans (List.filter_append_perm _ _)

theorem flatEdges_perm (title : String) :
    ((automaton.rules.flatMap fun rule => Dot.edges (automaton.flatGraph rule)) ++
      automaton.edgesFrom automaton.unownedStates).Perm
    (Dot.edges (automaton.fullGraph title)) := by
  have shared := automaton.states_perm.flatMap_right fun source =>
    (automaton.transitions source).flatMap fun transition => automaton.edges source transition none
  rw [List.flatMap_append, List.flatMap_assoc] at shared
  rw [edges_fullGraph]
  simp only [edges_flatGraph]
  exact shared

theorem flatNodes_perm (title : String) :
    ((automaton.rules.flatMap fun rule => Dot.nodes (automaton.flatGraph rule)) ++
      automaton.unownedStates.map (automaton.node .plain)).Perm
    ((Dot.nodes (automaton.fullGraph title)).map Node.unfilled) := by
  have shared := automaton.states_perm.map (automaton.node .plain)
  rw [List.map_append, List.map_flatMap] at shared
  rw [nodes_fullGraph, List.map_map]
  simp only [nodes_flatGraph]
  exact shared

theorem nodeIds_fullGraph (title : String) :
    (Dot.nodes (automaton.fullGraph title)).map Node.id =
      automaton.indices.map automaton.nodeId := by
  rw [nodes_fullGraph, List.map_map]
  rfl

theorem nodeIds_fullGraph_nodup (title : String) :
    ((Dot.nodes (automaton.fullGraph title)).map Node.id).Nodup := by
  rw [nodeIds_fullGraph]
  apply List.Nodup.map
  · intro first second same
    exact automaton.nodeId_injective same
  · exact List.nodup_finRange automaton.size

/-- A flat view has the edges of the full view that leave states of its rule, and the nodes of the
full view that are states of its rule but for their filling, both in the order of the full view.
The flat views of all rules, the unowned states and the edges that leave these have together what
the full view has: one node for every state, orphans included, and every edge as often. -/
structure FlatViewsShareOut (title : String) : Prop where
  full_reads : ReadsAs (automaton.full title).content (automaton.fullGraph title)
  flat_reads : ∀ rule, ReadsAs (automaton.flat rule).content (automaton.flatGraph rule)
  edges_eq : ∀ rule : Fin automaton.ruleCount,
    Dot.edges (automaton.flatGraph rule) =
      (Dot.edges (automaton.fullGraph title)).filter (automaton.isEdgeFrom rule)
  nodes_eq : ∀ rule : Fin automaton.ruleCount,
    Dot.nodes (automaton.flatGraph rule) =
      ((Dot.nodes (automaton.fullGraph title)).filter (automaton.isNodeOf rule)).map
        Node.unfilled
  nodeIds_eq : (Dot.nodes (automaton.fullGraph title)).map Node.id =
    automaton.indices.map automaton.nodeId
  nodeIds_nodup : ((Dot.nodes (automaton.fullGraph title)).map Node.id).Nodup
  edges_perm :
    ((automaton.rules.flatMap fun rule => Dot.edges (automaton.flatGraph rule)) ++
      automaton.edgesFrom automaton.unownedStates).Perm (Dot.edges (automaton.fullGraph title))
  nodes_perm :
    ((automaton.rules.flatMap fun rule => Dot.nodes (automaton.flatGraph rule)) ++
      automaton.unownedStates.map (automaton.node .plain)).Perm
      ((Dot.nodes (automaton.fullGraph title)).map Node.unfilled)

theorem flatViews_share_out_full (title : String) : automaton.FlatViewsShareOut title where
  full_reads := automaton.readsAs_full title
  flat_reads := automaton.readsAs_flat
  edges_eq rule := automaton.edges_flatGraph_eq_filter rule title
  nodes_eq rule := automaton.nodes_flatGraph_eq_filter rule title
  nodeIds_eq := automaton.nodeIds_fullGraph title
  nodeIds_nodup := automaton.nodeIds_fullGraph_nodup title
  edges_perm := automaton.flatEdges_perm title
  nodes_perm := automaton.flatNodes_perm title

end Automaton

end TransitionNetwork
