import TransitionNetwork.Proofs.DeclaredNodes

/-!
# Which arrows can be seen

The full view draws an arrow as one edge for each of its labels. An arrow that is labelled with no
symbol at all has no edge, and yet its ends are no orphans: the view shows two states side by side
where the automaton has a transition from one to the other.
-/

set_option autoImplicit false

namespace TransitionNetwork

/-- The arrow accepts nothing or at least one symbol, so that there is an edge to draw for it. -/
def Arrow.IsVisible {size : Nat} (arrow : Arrow size) : Prop :=
  arrow.transition.label ≠ .symbols []

instance {size : Nat} (arrow : Arrow size) : Decidable arrow.IsVisible :=
  inferInstanceAs (Decidable (_ ≠ _))

theorem Dot.mem_edges_iff {lines : List Dot.Line} {edge : Dot.Edge} :
    edge ∈ Dot.edges lines ↔ .edge edge ∈ lines := by
  rw [Dot.edges, List.mem_filterMap]
  constructor
  · rintro ⟨line, member, drawn⟩
    cases line with
    | edge other =>
        cases drawn
        exact member
    | _ => cases drawn
  · intro member
    exact ⟨.edge edge, member, rfl⟩

namespace Automaton

open Dot

variable (automaton : Automaton)

/-- The lines have an edge from one state to the other. -/
def Draws (lines : List Line) (source target : Fin automaton.size) : Prop :=
  ∃ edge, .edge edge ∈ lines ∧
    edge.source = automaton.nodeId source ∧ edge.target = automaton.nodeId target

/-- The lines have an edge that leaves or enters the state. -/
def DrawsAt (lines : List Line) (index : Fin automaton.size) : Prop :=
  ∃ edge, .edge edge ∈ lines ∧
    (edge.source = automaton.nodeId index ∨ edge.target = automaton.nodeId index)

theorem arrowEdges_eq_nil_iff {color : Option String} {arrow : Arrow automaton.size} :
    automaton.arrowEdges color arrow = [] ↔ ¬ arrow.IsVisible := by
  rw [arrowEdges, Arrow.IsVisible, not_not]
  cases arrow.transition.label with
  | epsilon => exact iff_of_false (List.cons_ne_nil _ _) nofun
  | symbols codes => rw [List.map_eq_nil_iff, Label.symbols.injEq]

theorem edge_mem_fullGraph_iff {title : String} {edge : Edge} :
    .edge edge ∈ automaton.fullGraph title ↔
      ∃ arrow ∈ automaton.arrows, edge ∈ automaton.arrowEdges none arrow := by
  rw [← mem_edges_iff, edges_fullGraph, edgesFrom_indices_eq_flatMap, List.mem_flatMap]

theorem draws_of_isVisible {title : String} {arrow : Arrow automaton.size}
    (member : arrow ∈ automaton.arrows) (visible : arrow.IsVisible) :
    automaton.Draws (automaton.fullGraph title) arrow.source arrow.target := by
  have notEmpty : automaton.arrowEdges none arrow ≠ [] :=
    fun empty => automaton.arrowEdges_eq_nil_iff.mp empty visible
  obtain ⟨edge, drawn⟩ := List.exists_mem_of_ne_nil _ notEmpty
  exact ⟨edge, automaton.edge_mem_fullGraph_iff.mpr ⟨arrow, member, drawn⟩,
    automaton.ends_of_mem_arrowEdges drawn⟩

/-- Every edge of the full view is that of a visible arrow. -/
theorem exists_arrow_of_edge_mem {title : String} {edge : Edge}
    (member : .edge edge ∈ automaton.fullGraph title) :
    ∃ arrow ∈ automaton.arrows, arrow.IsVisible ∧
      edge.source = automaton.nodeId arrow.source ∧
      edge.target = automaton.nodeId arrow.target := by
  obtain ⟨arrow, present, drawn⟩ := automaton.edge_mem_fullGraph_iff.mp member
  have visible : arrow.IsVisible := by
    by_contra hidden
    rw [automaton.arrowEdges_eq_nil_iff.mpr hidden] at drawn
    cases drawn
  exact ⟨arrow, present, visible, automaton.ends_of_mem_arrowEdges drawn⟩

theorem draws_fullGraph_iff {title : String} {source target : Fin automaton.size} :
    automaton.Draws (automaton.fullGraph title) source target ↔
      ∃ arrow ∈ automaton.arrows, arrow.IsVisible ∧
        arrow.source = source ∧ arrow.target = target := by
  constructor
  · rintro ⟨edge, member, leaving, entering⟩
    obtain ⟨arrow, present, visible, source_eq, target_eq⟩ :=
      automaton.exists_arrow_of_edge_mem member
    exact ⟨arrow, present, visible, automaton.nodeId_injective (source_eq.symm.trans leaving),
      automaton.nodeId_injective (target_eq.symm.trans entering)⟩
  · rintro ⟨arrow, present, visible, rfl, rfl⟩
    exact automaton.draws_of_isVisible present visible

theorem drawsAt_fullGraph_iff {title : String} {index : Fin automaton.size} :
    automaton.DrawsAt (automaton.fullGraph title) index ↔
      ∃ arrow ∈ automaton.arrows, arrow.IsVisible ∧
        (arrow.source = index ∨ arrow.target = index) := by
  constructor
  · rintro ⟨edge, member, atEnd⟩
    obtain ⟨arrow, present, visible, source_eq, target_eq⟩ :=
      automaton.exists_arrow_of_edge_mem member
    refine ⟨arrow, present, visible, atEnd.imp ?_ ?_⟩
    · intro leaving
      exact automaton.nodeId_injective (source_eq.symm.trans leaving)
    · intro entering
      exact automaton.nodeId_injective (target_eq.symm.trans entering)
  · rintro ⟨arrow, present, visible, atEnd⟩
    have drawn : automaton.Draws (automaton.fullGraph title) arrow.source arrow.target :=
      automaton.draws_of_isVisible present visible
    obtain ⟨edge, member, source_eq, target_eq⟩ := drawn
    refine ⟨edge, member, atEnd.imp ?_ ?_⟩
    · rintro rfl
      exact source_eq
    · rintro rfl
      exact target_eq

/-- The full document, as it is read back, has an edge from one state to another exactly when a
visible arrow leads there. A state is an orphan exactly when no edge leaves or enters it and no
hidden arrow does either. -/
theorem fullGraph_draws_visible_arrows (title : String) :
    ReadsAs (automaton.full title).content (automaton.fullGraph title) ∧
    (∀ source target : Fin automaton.size,
      automaton.Draws (automaton.fullGraph title) source target ↔
        ∃ arrow ∈ automaton.arrows, arrow.IsVisible ∧
          arrow.source = source ∧ arrow.target = target) ∧
    ∀ index : Fin automaton.size,
      automaton.isOrphan index = true ↔
        ¬ automaton.DrawsAt (automaton.fullGraph title) index ∧
          ∀ arrow ∈ automaton.arrows, arrow.source = index ∨ arrow.target = index →
            arrow.IsVisible := by
  refine ⟨automaton.readsAs_full title, fun _ _ => automaton.draws_fullGraph_iff,
    fun index => ?_⟩
  rw [← Bool.not_eq_false, isOrphan_eq_false_iff, drawsAt_fullGraph_iff]
  constructor
  · intro lonely
    refine ⟨?_, ?_⟩
    · rintro ⟨arrow, present, _, atEnd⟩
      exact lonely ⟨arrow, present, atEnd⟩
    · intro arrow present atEnd
      exact absurd ⟨arrow, present, atEnd⟩ lonely
  · rintro ⟨undrawn, visible⟩ ⟨arrow, present, atEnd⟩
    exact undrawn ⟨arrow, present, visible arrow present atEnd, atEnd⟩

/-- Two states and a transition that nothing is said about but its target. -/
def mutedPair : Automaton where
  ruleNames := #[]
  vocabulary := {}
  size := 2
  states := #v[
    { id := 0, rule := none, kind := .basic, transitions := [⟨1, .symbols []⟩] },
    { id := 1, rule := none, kind := .basic, transitions := [] }]
  usable_of_mem_ruleNames := by decide
  ruleNames_nodup := by decide
  ids_nodup := by decide

/-- The full view hides a transition: it has no edge at all, and neither state is an orphan. -/
theorem mutedPair_hides_transition :
    (∃ arrow ∈ mutedPair.arrows, arrow.source.val = 0 ∧ arrow.target.val = 1) ∧
    (∀ index, mutedPair.isOrphan index = false) ∧
    ∀ title, Dot.edges (mutedPair.fullGraph title) = [] := by
  refine ⟨by decide, by decide, fun title => ?_⟩
  rw [edges_fullGraph]
  decide

end Automaton

end TransitionNetwork
