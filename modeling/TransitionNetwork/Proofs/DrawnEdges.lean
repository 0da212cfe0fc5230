import TransitionNetwork.Proofs.Arrows
import TransitionNetwork.Proofs.DistinctColors
import TransitionNetwork.Proofs.ReadingBack
import TransitionNetwork.Proofs.ViewContents

/-!
# Which edges are drawn

A focused view draws the transitions that touch its rule, each once, although two loops with
different tests draw them. The clusters, the edges between them and the transitions between unowned
states share out what the full view draws.
-/

set_option autoImplicit false

namespace TransitionNetwork

/-- What is left of an edge when its colour is dropped. -/
def Dot.Edge.endsAndLabel (edge : Dot.Edge) : String × String × Option String :=
  (edge.source, edge.target, edge.label)

namespace Automaton

open Dot

variable (automaton : Automaton)

/-! ## Focused views -/

/-- One of the ends of the arrow is owned by the rule. -/
def touches (rule : Nat) (arrow : Arrow automaton.size) : Bool :=
  automaton.owner arrow.source = some rule || automaton.owner arrow.target = some rule

theorem touches_iff {rule : Nat} {arrow : Arrow automaton.size} :
    automaton.touches rule arrow = true ↔
      automaton.owner arrow.source = some rule ∨ automaton.owner arrow.target = some rule := by
  simp only [touches, Bool.or_eq_true, decide_eq_true_eq]

/-- Under a focus, the loop over the clusters keeps the arrows inside the rule in focus, and the
loop between clusters keeps those that enter or leave it. -/
theorem touches_iff_isInside_or_isAcross (focus : Nat) (arrow : Arrow automaton.size) :
    automaton.touches focus arrow = true ↔
      automaton.isInside (some focus) arrow = true ∨
        automaton.isAcross (some focus) arrow = true := by
  rw [touches_iff, isInside_iff, isAcross_iff]
  simp only [Option.mem_some_iff, forall_eq']
  by_cases same : automaton.owner arrow.target = automaton.owner arrow.source
  · constructor
    · intro touching
      have owned : automaton.owner arrow.source = some focus := by
        rcases touching with leaving | entering
        · exact leaving
        · rw [← same, entering]
      rw [same, owned]
      exact Or.inl ⟨rfl, rfl, rfl⟩
    · rintro (inside | across)
      · exact Or.inr inside.2.2
      · exact absurd same across.1
  · constructor
    · intro touching
      exact Or.inr ⟨same, touching.symm⟩
    · rintro (inside | across)
      · exact absurd inside.2.1 same
      · exact across.2.symm

theorem focusedArrows_perm (focus : Nat) :
    ((automaton.rules.flatMap fun rule : Fin automaton.ruleCount =>
        automaton.clusterArrows rule (some focus)) ++ automaton.crossArrows (some focus)).Perm
      (automaton.arrows.filter (automaton.touches focus)) := by
  have either : ∀ arrow ∈ automaton.arrows,
      (automaton.isInside (some focus) arrow || automaton.isAcross (some focus) arrow) =
        automaton.touches focus arrow := by
    intro arrow _
    rw [Bool.eq_iff_iff, Bool.or_eq_true]
    exact (automaton.touches_iff_isInside_or_isAcross focus arrow).symm
  rw [← List.filter_congr either]
  exact automaton.clusterArrows_append_crossArrows_perm (some focus)

theorem edges_focusedGraph_eq_flatMap (focus : Fin automaton.ruleCount) :
    Dot.edges (automaton.focusedGraph focus) =
      ((automaton.rules.flatMap fun rule : Fin automaton.ruleCount =>
          automaton.clusterArrows rule (some focus)) ++
        automaton.crossArrows (some focus)).flatMap automaton.strokedEdges := by
  rw [edges_focusedGraph, crossEdges_eq_flatMap, List.flatMap_append, List.flatMap_assoc]
  simp only [clusterEdges_eq_flatMap]

/-- The edges that are read off a focused document are those of the arrows that touch the rule in
focus, each once, in the stroke of the owner of its target. -/
theorem focusedGraph_edges_perm (focus : Fin automaton.ruleCount) :
    ReadsAs (automaton.focused focus).content (automaton.focusedGraph focus) ∧
    (Dot.edges (automaton.focusedGraph focus)).Perm
      ((automaton.arrows.filter (automaton.touches focus)).flatMap automaton.strokedEdges) := by
  refine ⟨automaton.readsAs_focused focus, ?_⟩
  rw [edges_focusedGraph_eq_flatMap]
  exact (automaton.focusedArrows_perm focus).flatMap_right automaton.strokedEdges

theorem mem_edges_focusedGraph {focus : Fin automaton.ruleCount} {edge : Edge} :
    edge ∈ Dot.edges (automaton.focusedGraph focus) ↔
      ∃ arrow ∈ automaton.arrows,
        automaton.touches focus arrow = true ∧ edge ∈ automaton.strokedEdges arrow := by
  rw [edges_focusedGraph_eq_flatMap, List.mem_flatMap]
  simp only [(automaton.focusedArrows_perm focus).mem_iff, List.mem_filter, and_assoc]

/-- By its stroke alone an edge tells the owner of its target as far as colours tell owners apart. -/
theorem stroke_eq_iff {first second : Arrow automaton.size} :
    automaton.stroke first = automaton.stroke second ↔
      (automaton.owner first.target).map (· % 128) =
        (automaton.owner second.target).map (· % 128) :=
  (Color.owners_apart_modulo_128 _ _).2.1

/-! ## The full view -/

theorem endsAndLabel_arrowEdges (color : Option String) (arrow : Arrow automaton.size) :
    (automaton.arrowEdges color arrow).map Edge.endsAndLabel =
      (automaton.arrowEdges none arrow).map Edge.endsAndLabel := by
  unfold arrowEdges
  cases arrow.transition.label with
  | epsilon => rfl
  | symbols codes =>
      rw [List.map_map, List.map_map]
      rfl

/-- Without a focus, an arrow stays with one rule, or leaves its owner, or has no owner at either
end. -/
theorem isInside_or_isAcross_or_unowned (arrow : Arrow automaton.size) :
    (automaton.isInside none arrow = true ∨ automaton.isAcross none arrow = true) ∨
      (automaton.owner arrow.source = none ∧ automaton.owner arrow.target = none) := by
  rw [isInside_iff, isAcross_iff]
  by_cases same : automaton.owner arrow.target = automaton.owner arrow.source
  · cases owned : automaton.owner arrow.source with
    | none => exact Or.inr ⟨rfl, same.trans owned⟩
    | some rule => exact Or.inl (Or.inl ⟨rfl, same.trans owned, fun _ absent => by cases absent⟩)
  · exact Or.inl (Or.inr ⟨same, fun _ absent => by cases absent⟩)

/-- Every arrow is in one of the three groups, and in one only. -/
theorem arrows_perm :
    ((automaton.rules.flatMap fun rule : Fin automaton.ruleCount =>
        automaton.clusterArrows rule none) ++ automaton.crossArrows none ++
      automaton.unownedArrows).Perm automaton.arrows := by
  have apart : ∀ arrow ∈ automaton.arrows,
      (automaton.isInside none arrow || automaton.isAcross none arrow) = true →
      ¬ decide (automaton.owner arrow.source = none ∧ automaton.owner arrow.target = none) =
        true := by
    intro arrow _ drawn unowned
    obtain ⟨sourceUnowned, targetUnowned⟩ := of_decide_eq_true unowned
    rcases Bool.or_eq_true_iff.mp drawn with inside | across
    · have owned := (automaton.isInside_iff.mp inside).1
      rw [sourceUnowned] at owned
      cases owned
    · exact (automaton.isAcross_iff.mp across).1 (targetUnowned.trans sourceUnowned.symm)
  have every : ∀ arrow ∈ automaton.arrows,
      ((automaton.isInside none arrow || automaton.isAcross none arrow) ||
        decide (automaton.owner arrow.source = none ∧ automaton.owner arrow.target = none)) =
        true := by
    intro arrow _
    rw [Bool.or_eq_true, Bool.or_eq_true, decide_eq_true_iff]
    exact automaton.isInside_or_isAcross_or_unowned arrow
  have parts := ((automaton.clusterArrows_append_crossArrows_perm none).append_right
    automaton.unownedArrows).trans (filter_append_filter_perm apart)
  rwa [List.filter_eq_self.mpr every] at parts

/-- The clusters, the edges between them and the arrows between unowned states have the edges of
the full view, when colours are dropped; each arrow is drawn in one of the three groups. What the
parts and the full document have is what is read off their texts. -/
theorem fullGraph_edges_perm (title : String) :
    ReadsAs (automaton.full title).content (automaton.fullGraph title) ∧
    (∀ rule, ReadsAs (render (automaton.cluster rule none)) (automaton.cluster rule none)) ∧
    ReadsAs (render (automaton.crossing none)) (automaton.crossing none) ∧
    (((automaton.rules.flatMap fun rule : Fin automaton.ruleCount =>
          Dot.edges (automaton.cluster rule none)) ++
        Dot.edges (automaton.crossing none) ++
        automaton.unownedArrows.flatMap (automaton.arrowEdges none)).map Edge.endsAndLabel).Perm
      ((Dot.edges (automaton.fullGraph title)).map Edge.endsAndLabel) ∧
    ((automaton.rules.flatMap fun rule : Fin automaton.ruleCount =>
        automaton.clusterArrows rule none) ++ automaton.crossArrows none ++
      automaton.unownedArrows).Perm automaton.arrows := by
  refine ⟨automaton.readsAs_full title, fun rule => automaton.readsAs_cluster rule none,
    automaton.readsAs_crossing none, ?_, automaton.arrows_perm⟩
  have strokes (arrow : Arrow automaton.size) :
      (automaton.strokedEdges arrow).map Edge.endsAndLabel =
        (automaton.arrowEdges none arrow).map Edge.endsAndLabel :=
    automaton.endsAndLabel_arrowEdges _ arrow
  have shared := automaton.arrows_perm.flatMap_right fun arrow =>
    (automaton.arrowEdges none arrow).map Edge.endsAndLabel
  rw [List.flatMap_append, List.flatMap_append, List.flatMap_assoc] at shared
  rw [edges_fullGraph, edgesFrom_indices_eq_flatMap, edges_crossing, crossEdges_eq_flatMap]
  simp only [edges_cluster, clusterEdges_eq_flatMap, List.map_append, List.map_flatMap, strokes]
  exact shared

end Automaton

end TransitionNetwork
