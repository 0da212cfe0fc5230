import Std.Data.String.ToNat
import TransitionNetwork.Proofs.DrawnEdges
import TransitionNetwork.Proofs.Predecessors

/-!
# Which nodes are declared

A focused view declares a state by asking the state for its transitions and its predecessors, and
draws edges by asking the transitions for their ends. Both answers agree: what has an end in the
rule in focus.
-/

set_option autoImplicit false

namespace TransitionNetwork.Automaton

open Dot

variable (automaton : Automaton)

/-! ## Node names -/

/-- Different states have different node names. -/
theorem nodeId_injective {first second : Fin automaton.size}
    (same : automaton.nodeId first = automaton.nodeId second) : first = second := by
  have numbers : (automaton.state first).id.toNat = (automaton.state second).id.toNat :=
    Nat.repr_injective ((String.append_right_inj "state").mp same)
  have ids : (automaton.state first).id = (automaton.state second).id := UInt32.toNat_inj.mp numbers
  have firstInside : first.val < (automaton.states.toList.map (·.id)).length := by simp
  have secondInside : second.val < (automaton.states.toList.map (·.id)).length := by simp
  have entries : (automaton.states.toList.map (·.id))[first.val] =
      (automaton.states.toList.map (·.id))[second.val] := by
    simpa [state] using ids
  exact Fin.ext (automaton.ids_nodup.getElem_inj_iff.mp entries)

/-! ## Which states are declared -/

theorem mem_sources_iff_arrow {origin index : Fin automaton.size} :
    origin ∈ automaton.sources index ↔
      ∃ arrow ∈ automaton.arrows, arrow.source = origin ∧ arrow.target = index := by
  rw [mem_sources]
  constructor
  · rintro ⟨transition, member, reached⟩
    exact ⟨⟨origin, transition⟩, automaton.mem_arrows.mpr member, rfl, reached⟩
  · rintro ⟨arrow, member, rfl, reached⟩
    exact ⟨arrow.transition, automaton.mem_arrows.mp member, reached⟩

/-- A state is no orphan when something leaves or enters it. -/
theorem isOrphan_eq_false_iff {index : Fin automaton.size} :
    automaton.isOrphan index = false ↔
      ∃ arrow ∈ automaton.arrows, arrow.source = index ∨ arrow.target = index := by
  rw [isOrphan, Bool.and_eq_false_iff, List.isEmpty_eq_false_iff_exists_mem,
    Array.isEmpty_eq_false_iff_exists_mem]
  constructor
  · rintro (⟨transition, leaving⟩ | ⟨origin, entering⟩)
    · exact ⟨⟨index, transition⟩, automaton.mem_arrows.mpr leaving, Or.inl rfl⟩
    · obtain ⟨arrow, member, _, reached⟩ := automaton.mem_sources_iff_arrow.mp entering
      exact ⟨arrow, member, Or.inr reached⟩
  · rintro ⟨arrow, member, rfl | reached⟩
    · exact Or.inl ⟨arrow.transition, automaton.mem_arrows.mp member⟩
    · exact Or.inr ⟨arrow.source,
        automaton.mem_sources_iff_arrow.mpr ⟨arrow, member, rfl, reached⟩⟩

theorem isConnected_iff {index : Fin automaton.size} {rule : Nat} :
    automaton.isConnected index rule = true ↔
      automaton.owner index = some rule ∨
      ∃ arrow ∈ automaton.arrows,
        (arrow.source = index ∧ automaton.owner arrow.target = some rule) ∨
        (arrow.target = index ∧ automaton.owner arrow.source = some rule) := by
  simp only [isConnected, Bool.or_eq_true, decide_eq_true_eq, List.any_eq_true, Array.any_eq_true',
    or_assoc]
  apply or_congr_right
  constructor
  · rintro (⟨transition, leaving, reached⟩ | ⟨origin, entering, owned⟩)
    · exact ⟨⟨index, transition⟩, automaton.mem_arrows.mpr leaving, Or.inl
        ⟨rfl, of_decide_eq_true reached⟩⟩
    · obtain ⟨arrow, member, rfl, reached⟩ := automaton.mem_sources_iff_arrow.mp entering
      exact ⟨arrow, member, Or.inr ⟨reached, owned⟩⟩
  · rintro ⟨arrow, member, ⟨rfl, reached⟩ | ⟨reached, owned⟩⟩
    · exact Or.inl ⟨arrow.transition, automaton.mem_arrows.mp member,
        decide_eq_true reached⟩
    · exact Or.inr ⟨arrow.source,
        automaton.mem_sources_iff_arrow.mpr ⟨arrow, member, rfl, reached⟩, owned⟩

/-- A transition that touches the rule leaves or enters the state. -/
def isBeside (rule : Nat) (index : Fin automaton.size) : Bool :=
  automaton.arrows.any fun arrow =>
    automaton.touches rule arrow && (arrow.source = index || arrow.target = index)

theorem isBeside_iff {rule : Nat} {index : Fin automaton.size} :
    automaton.isBeside rule index = true ↔
      ∃ arrow ∈ automaton.arrows,
        (automaton.owner arrow.source = some rule ∨ automaton.owner arrow.target = some rule) ∧
        (arrow.source = index ∨ arrow.target = index) := by
  simp only [isBeside, List.any_eq_true, Bool.and_eq_true, Bool.or_eq_true, decide_eq_true_eq,
    touches_iff]

/-- The tests on a state keep it under a focus exactly when a transition that touches the rule in
focus leaves or enters it. -/
theorem isBeside_iff_isConnected {rule : Nat} {index : Fin automaton.size} :
    automaton.isBeside rule index = true ↔
      automaton.isOrphan index = false ∧ automaton.isConnected index rule = true := by
  rw [isBeside_iff, isOrphan_eq_false_iff, isConnected_iff]
  constructor
  · rintro ⟨arrow, member, touching, atEnd⟩
    refine ⟨⟨arrow, member, atEnd⟩, ?_⟩
    rcases atEnd with leaving | entering
    · rcases touching with owned | reached
      · exact Or.inl (leaving ▸ owned)
      · exact Or.inr ⟨arrow, member, Or.inl ⟨leaving, reached⟩⟩
    · rcases touching with owned | reached
      · exact Or.inr ⟨arrow, member, Or.inr ⟨entering, owned⟩⟩
      · exact Or.inl (entering ▸ reached)
  · rintro ⟨⟨attached, present, atEnd⟩, owned | ⟨arrow, member, connected⟩⟩
    · -- the state is the rule's own, so whatever leaves or enters it touches the rule
      rcases atEnd with leaving | entering
      · exact ⟨attached, present, Or.inl (leaving ▸ owned), Or.inl leaving⟩
      · exact ⟨attached, present, Or.inr (entering ▸ owned), Or.inr entering⟩
    · rcases connected with ⟨leaving, reached⟩ | ⟨entering, owned⟩
      · exact ⟨arrow, member, Or.inr reached, Or.inl leaving⟩
      · exact ⟨arrow, member, Or.inl owned, Or.inr entering⟩

/-- The states that a rule's cluster shows under a focus. -/
theorem clusterStates_eq_filter (rule focus : Nat) :
    automaton.clusterStates rule (some focus) =
      (automaton.indices.filter (automaton.isBeside focus)).filter fun index =>
        automaton.owner index = some rule := by
  rw [clusterStates, statesOfRule, List.filter_filter, List.filter_filter]
  apply List.filter_congr
  intro index _
  have shown : (!automaton.isOrphan index && automaton.isConnected index focus) =
      automaton.isBeside focus index := by
    rw [Bool.eq_iff_iff, Bool.and_eq_true, Bool.not_eq_true']
    exact automaton.isBeside_iff_isConnected.symm
  rw [Option.all_some, shown, Bool.and_comm]

/-! ## The nodes of a focused view -/

/-- The states that a focused view declares. -/
def declaredStates (focus : Nat) : List (Fin automaton.size) :=
  automaton.indices.filter fun index =>
    (automaton.owner index).isSome && automaton.isBeside focus index

theorem mem_declaredStates {focus : Nat} {index : Fin automaton.size} :
    index ∈ automaton.declaredStates focus ↔
      (automaton.owner index).isSome = true ∧ automaton.isBeside focus index = true := by
  rw [declaredStates, List.mem_filter, Bool.and_eq_true]
  exact and_iff_right (List.mem_finRange index)

theorem clusterStates_perm (focus : Nat) :
    (automaton.rules.flatMap fun rule : Fin automaton.ruleCount =>
      automaton.clusterStates rule (some focus)).Perm (automaton.declaredStates focus) := by
  have parts := automaton.flatMap_rules_perm id
    (automaton.indices.filter (automaton.isBeside focus))
  rw [List.filter_filter] at parts
  rw [declaredStates]
  simpa only [clusterStates_eq_filter, id_eq] using parts

/-- The declaration of a state, with the cluster of the rule that owns the state. -/
def placedNode (index : Fin automaton.size) : Option Nat × Node :=
  (automaton.owner index,
    automaton.node (.inCluster (Color.ofOwner (automaton.owner index))) index)

theorem placedNodes_perm (focus : Fin automaton.ruleCount) :
    (placedNodes none (automaton.focusedGraph focus)).Perm
      ((automaton.declaredStates focus).map automaton.placedNode) := by
  have placed (rule : Fin automaton.ruleCount) :
      (automaton.clusterStates rule (some focus)).map (fun index =>
        (some rule.val, automaton.node (.inCluster (Color.ofRule rule)) index)) =
      (automaton.clusterStates rule (some focus)).map automaton.placedNode := by
    apply List.map_congr_left
    intro index member
    rw [clusterStates_eq_filter] at member
    have owned : automaton.owner index = some rule.val :=
      of_decide_eq_true (List.mem_filter.mp member).2
    rw [placedNode, owned]
    rfl
  rw [placedNodes_focusedGraph]
  simp only [placed, ← List.map_flatMap]
  exact (automaton.clusterStates_perm focus).map automaton.placedNode

theorem nodeIds_perm (focus : Fin automaton.ruleCount) :
    ((Dot.nodes (automaton.focusedGraph focus)).map Node.id).Perm
      ((automaton.declaredStates focus).map automaton.nodeId) := by
  have ids := ((automaton.placedNodes_perm focus).map Prod.snd).map Node.id
  rw [← nodes_eq_map_placedNodes, List.map_map, List.map_map] at ids
  exact ids

theorem nodeId_mem_iff {focus : Fin automaton.ruleCount} {index : Fin automaton.size} :
    automaton.nodeId index ∈ (Dot.nodes (automaton.focusedGraph focus)).map Node.id ↔
      (automaton.owner index).isSome = true ∧ automaton.isBeside focus index = true := by
  rw [(automaton.nodeIds_perm focus).mem_iff, ← mem_declaredStates]
  constructor
  · intro member
    obtain ⟨declared, inside, same⟩ := List.mem_map.mp member
    rwa [← automaton.nodeId_injective same]
  · intro inside
    exact List.mem_map.mpr ⟨index, inside, rfl⟩

/-- Whatever an edge of a focused view leaves or enters lies beside the rule in focus. -/
theorem isBeside_of_mem_edges {focus : Fin automaton.ruleCount} {edge : Edge}
    {index : Fin automaton.size} (member : edge ∈ Dot.edges (automaton.focusedGraph focus))
    (atEnd : automaton.nodeId index = edge.source ∨ automaton.nodeId index = edge.target) :
    automaton.isBeside focus index = true := by
  obtain ⟨arrow, drawn, touching, stroked⟩ := automaton.mem_edges_focusedGraph.mp member
  obtain ⟨source, target⟩ := automaton.ends_of_mem_arrowEdges stroked
  rw [source, target] at atEnd
  refine automaton.isBeside_iff.mpr ⟨arrow, drawn, automaton.touches_iff.mp touching, ?_⟩
  rcases atEnd with leaving | entering
  · exact Or.inl (automaton.nodeId_injective leaving).symm
  · exact Or.inr (automaton.nodeId_injective entering).symm

/-- A focused document, as it is read back, declares the owned states that lie beside the rule in
focus, each once and in the cluster of its own rule. So no edge has an owned end that is not
declared, and no unowned state is declared. -/
theorem focusedGraph_nodes_perm (focus : Fin automaton.ruleCount) :
    ReadsAs (automaton.focused focus).content (automaton.focusedGraph focus) ∧
    (placedNodes none (automaton.focusedGraph focus)).Perm
      ((automaton.declaredStates focus).map automaton.placedNode) ∧
    ((Dot.nodes (automaton.focusedGraph focus)).map Node.id).Nodup ∧
    (∀ edge ∈ Dot.edges (automaton.focusedGraph focus), ∀ index : Fin automaton.size,
      (automaton.owner index).isSome = true →
      (automaton.nodeId index = edge.source ∨ automaton.nodeId index = edge.target) →
      automaton.nodeId index ∈ (Dot.nodes (automaton.focusedGraph focus)).map Node.id) ∧
    ∀ index : Fin automaton.size, automaton.owner index = none →
      automaton.nodeId index ∉ (Dot.nodes (automaton.focusedGraph focus)).map Node.id := by
  refine ⟨automaton.readsAs_focused focus, automaton.placedNodes_perm focus, ?_, ?_, ?_⟩
  · rw [(automaton.nodeIds_perm focus).nodup_iff]
    apply List.Nodup.map
    · intro first second same
      exact automaton.nodeId_injective same
    · exact (List.nodup_finRange automaton.size).filter _
  · intro edge member index owned atEnd
    exact automaton.nodeId_mem_iff.mpr ⟨owned, automaton.isBeside_of_mem_edges member atEnd⟩
  · intro index unowned declared
    have owned := (automaton.nodeId_mem_iff.mp declared).1
    rw [unowned] at owned
    cases owned

end TransitionNetwork.Automaton
