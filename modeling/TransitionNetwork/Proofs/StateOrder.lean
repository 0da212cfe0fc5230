import Mathlib.Data.List.Perm.Basic
import TransitionNetwork.Document
import TransitionNetwork.Proofs.FocusLocality
import TransitionNetwork.Proofs.ReadingBack
import TransitionNetwork.Proofs.Reordering

/-!
# The order of states

Where a state stands among the others shows in the order of lines and nowhere else. A snapshot whose
states come in another order is accepted like the first, has the same documents up to the order of
nodes and of edges, and the same answers for each state.
-/

set_option autoImplicit false

namespace TransitionNetwork

open Dot

/-! ## Passes over rearranged lists -/

section Passes

variable {α β γ : Type} {place : α → β} {items : List α} {items' : List β}

theorem filter_perm {kept : α → Bool} {kept' : β → Bool}
    (each : ∀ item, kept' (place item) = kept item) (perm : (items.map place).Perm items') :
    ((items.filter kept).map place).Perm (items'.filter kept') := by
  have kept_eq : kept' ∘ place = kept := funext each
  rw [← kept_eq, ← List.filter_map]
  exact perm.filter kept'

theorem flatMap_perm {drawn : α → List γ} {drawn' : β → List γ}
    (each : ∀ item, drawn' (place item) = drawn item) (perm : (items.map place).Perm items') :
    (items.flatMap drawn).Perm (items'.flatMap drawn') := by
  have drawn_eq : items.flatMap drawn = (items.map place).flatMap drawn' := by
    rw [List.flatMap_map]
    simp only [each]
  rw [drawn_eq]
  exact perm.flatMap_right drawn'

end Passes

namespace Automaton

/-! ## Automata with rearranged states -/

/-- Every state of the first automaton has its place in the second, which has no others, and its
transitions lead to the places of their targets. -/
structure Rearranges (first second : Automaton) (place : Fin first.size → Fin second.size) :
    Prop extends Corresponds first second place where
  indices_perm : (first.indices.map place).Perm second.indices
  transitions_eq : ∀ index, second.transitions (place index) =
    (first.transitions index).map (Transition.relocate place)

namespace Rearranges

variable {first second : Automaton} {place : Fin first.size → Fin second.size}
  (same : Rearranges first second place)

include same

theorem place_inj {index index' : Fin first.size} : place index = place index' ↔ index = index' :=
  ⟨same.place_injective, congrArg place⟩

theorem arrows_perm : (first.arrows.map (Arrow.relocate place)).Perm second.arrows := by
  have arrows : first.arrows.map (Arrow.relocate place) =
      (first.indices.map place).flatMap fun source =>
        (second.transitions source).map fun transition => { source, transition } := by
    rw [Automaton.arrows, List.map_flatMap, List.flatMap_map]
    apply List.flatMap_congr
    intro source _
    rw [same.transitions_eq, List.map_map, List.map_map]
    rfl
  rw [arrows]
  exact same.indices_perm.flatMap_right _

theorem mem_arrows_iff {arrow : Arrow second.size} :
    arrow ∈ second.arrows ↔ ∃ origin ∈ first.arrows, origin.relocate place = arrow := by
  rw [← same.arrows_perm.mem_iff, List.mem_map]

theorem isOrphan_eq (index : Fin first.size) :
    second.isOrphan (place index) = first.isOrphan index := by
  rw [← Bool.not_inj_iff, Bool.eq_iff_iff, Bool.not_eq_true', Bool.not_eq_true',
    isOrphan_eq_false_iff, isOrphan_eq_false_iff]
  simp only [same.mem_arrows_iff, exists_exists_and_eq_and, Arrow.relocate, Arrow.target,
    Transition.relocate, same.place_inj]

theorem isConnected_eq (index : Fin first.size) (rule : Nat) :
    second.isConnected (place index) rule = first.isConnected index rule := by
  rw [Bool.eq_iff_iff, isConnected_iff, isConnected_iff, same.owner_eq]
  simp only [same.mem_arrows_iff, exists_exists_and_eq_and, same.owner_source_eq,
    same.owner_target_eq]
  simp only [Arrow.relocate, Arrow.target, Transition.relocate, same.place_inj]

/-! ### Loops -/

theorem statesOfRule_perm (rule : Nat) :
    ((first.statesOfRule rule).map place).Perm (second.statesOfRule rule) := by
  apply filter_perm ?_ same.indices_perm
  intro index
  rw [same.owner_eq]

theorem clusterStates_perm (rule : Nat) (focus : Option Nat) :
    ((first.clusterStates rule focus).map place).Perm (second.clusterStates rule focus) := by
  apply filter_perm ?_ (same.statesOfRule_perm rule)
  intro index
  have connected : second.isConnected (place index) = first.isConnected index :=
    funext (same.isConnected_eq index)
  rw [same.isOrphan_eq, connected]

theorem nodes_perm {fill : Fin first.size → Fill} (fill' : Fin second.size → Fill)
    (each : ∀ index, fill' (place index) = fill index) {items : List (Fin first.size)}
    {items' : List (Fin second.size)} (perm : (items.map place).Perm items') :
    (items.map fun index => first.node (fill index) index).Perm
      (items'.map fun index => second.node (fill' index) index) := by
  have drawn := perm.map fun index => second.node (fill' index) index
  rw [List.map_map] at drawn
  simpa only [Function.comp_def, each, same.node_eq] using drawn

theorem edges_eq (source : Fin first.size) (transition : Transition first.size)
    (color : Option String) :
    second.edges (place source) (transition.relocate place) color =
      first.edges source transition color := by
  rw [edges_eq_arrowEdges, edges_eq_arrowEdges]
  exact same.arrowEdges_eq color ⟨source, transition⟩

theorem reaches_eq (transition : Transition first.size) (rule : Nat) :
    second.reaches (transition.relocate place) rule = first.reaches transition rule := by
  unfold reaches
  rw [Transition.relocate, same.owner_eq]

theorem edgesFrom_perm {items : List (Fin first.size)} {items' : List (Fin second.size)}
    (perm : (items.map place).Perm items') :
    (first.edgesFrom items).Perm (second.edgesFrom items') := by
  apply flatMap_perm ?_ perm
  intro source
  rw [same.transitions_eq, List.flatMap_map]
  simp only [same.edges_eq]

theorem clusterEdges_perm (rule : Nat) (focus : Option Nat) :
    (first.clusterEdges rule focus).Perm (second.clusterEdges rule focus) := by
  apply flatMap_perm ?_ (same.statesOfRule_perm rule)
  intro source
  unfold clusterTransitions
  rw [same.transitions_eq, List.filter_map, List.flatMap_map]
  simp only [Function.comp_def, same.reaches_eq, same.edges_eq, funext (same.reaches_eq _)]

theorem crossEdges_perm (focus : Option Nat) :
    (first.crossEdges focus).Perm (second.crossEdges focus) := by
  apply flatMap_perm ?_ same.indices_perm
  intro source
  unfold crossTransitions
  rw [same.transitions_eq, List.filter_map, List.flatMap_map]
  have owner (transition : Transition first.size) :
      second.owner (transition.relocate place).target = first.owner transition.target :=
    same.owner_eq transition.target
  simp only [Function.comp_def, same.reaches_eq, same.edges_eq, same.owner_eq, owner]

/-! ### Views -/

theorem cluster_reordered (focus : Option Nat) {rule : Fin first.ruleCount}
    {rule' : Fin second.ruleCount} (equal : rule'.val = rule.val) :
    Reordered (first.cluster rule focus) (second.cluster rule' focus) := by
  rw [cluster, cluster, same.ruleName_eq equal, equal]
  refine (((Reordered.refl _).append ?_).append ?_).append (Reordered.refl _)
  · exact .of_nodes (same.nodes_perm (fun _ => .inCluster (Color.ofRule rule)) (fun _ => rfl)
      (same.clusterStates_perm rule focus))
  · exact .of_edges (same.clusterEdges_perm rule focus)

theorem focusedGraph_reordered {focus : Fin first.ruleCount} {focus' : Fin second.ruleCount}
    (equal : focus'.val = focus.val) :
    Reordered (first.focusedGraph focus) (second.focusedGraph focus') := by
  rw [focusedGraph, focusedGraph, same.ruleName_eq equal, equal, same.rules_eq, List.flatMap_map]
  refine ((((Reordered.refl _).append ?_).append ?_).append (Reordered.refl _)).append
    (Reordered.refl _)
  · exact .flatMap fun rule _ => same.cluster_reordered _ rfl
  · exact .of_edges (same.crossEdges_perm _)

theorem fullGraph_reordered (title : String) :
    Reordered (first.fullGraph title) (second.fullGraph title) := by
  refine .line _ ((((Reordered.of_nodes ?_).append ?_).append (Reordered.refl _)).append
    (Reordered.refl _))
  · apply same.nodes_perm _ _ same.indices_perm
    intro index
    rw [same.owner_eq]
  · exact .of_edges (same.edgesFrom_perm same.indices_perm)

theorem flatGraph_reordered {rule : Fin first.ruleCount} {rule' : Fin second.ruleCount}
    (equal : rule'.val = rule.val) :
    Reordered (first.flatGraph rule) (second.flatGraph rule') := by
  have owned := same.statesOfRule_perm rule
  rw [flatGraph, flatGraph, same.ruleName_eq equal, equal]
  refine .line _ ((((Reordered.of_nodes ?_).append ?_).append (Reordered.refl _)).append
    (Reordered.refl _))
  · exact same.nodes_perm (fun _ => .plain) (fun _ => rfl) owned
  · exact .of_edges (same.edgesFrom_perm owned)

end Rearranges

end Automaton

/-! ## Documents -/

/-- The documents show the same view under the same name, and read as lines that are the same up to
the order of nodes and of edges. -/
structure Document.SameUpToOrder (first second : Document) : Prop where
  name_eq : first.name = second.name
  view_eq : first.view = second.view
  content : ∃ lines lines', ReadsAs first.content lines ∧ ReadsAs second.content lines' ∧
    Dot.SameUpToOrder lines lines'

namespace Automaton

namespace Rearranges

variable {first second : Automaton} {place : Fin first.size → Fin second.size}
  (same : Rearranges first second place)

include same

theorem focused_same {rule : Fin first.ruleCount} {rule' : Fin second.ruleCount}
    (equal : rule'.val = rule.val) : (first.focused rule).SameUpToOrder (second.focused rule') where
  name_eq := congrArg Document.focusedName (same.ruleName_eq equal).symm
  view_eq := congrArg View.focused equal.symm
  content := ⟨_, _, first.readsAs_focused rule, second.readsAs_focused rule',
    (same.focusedGraph_reordered equal).sameUpToOrder⟩

theorem full_same (title : String) : (first.full title).SameUpToOrder (second.full title) where
  name_eq := rfl
  view_eq := rfl
  content := ⟨_, _, first.readsAs_full title, second.readsAs_full title,
    (same.fullGraph_reordered title).sameUpToOrder⟩

theorem flat_same {rule : Fin first.ruleCount} {rule' : Fin second.ruleCount}
    (equal : rule'.val = rule.val) : (first.flat rule).SameUpToOrder (second.flat rule') where
  name_eq := congrArg Document.flatName equal.symm
  view_eq := congrArg View.flat equal.symm
  content := ⟨_, _, first.readsAs_flat rule, second.readsAs_flat rule',
    (same.flatGraph_reordered equal).sameUpToOrder⟩

theorem documents_same (options : Options) :
    List.Forall₂ Document.SameUpToOrder (first.documents options) (second.documents options) := by
  have family {wanted : Bool} {documents documents' : List Document}
      (each : List.Forall₂ Document.SameUpToOrder documents documents') :
      List.Forall₂ Document.SameUpToOrder (if wanted then documents else [])
        (if wanted then documents' else []) := by
    cases wanted with
    | false => exact .nil
    | true => exact each
  unfold documents
  rw [same.rules_eq, List.map_map, List.map_map]
  refine List.rel_append (List.rel_append (family ?_) (family ?_)) (family ?_)
  · rw [List.forall₂_map_left_iff, List.forall₂_map_right_iff, List.forall₂_same]
    exact fun rule _ => same.focused_same rfl
  · exact .cons (same.full_same options.title) .nil
  · rw [List.forall₂_map_left_iff, List.forall₂_map_right_iff, List.forall₂_same]
    exact fun rule _ => same.flat_same rfl

end Rearranges

end Automaton

/-! ## Snapshots with permuted states -/

/-- The same names and the same states, the states in any order. -/
structure Snapshot.Permutes (snapshot permuted : Snapshot) : Prop where
  ruleNames_eq : permuted.ruleNames = snapshot.ruleNames
  vocabulary_eq : permuted.vocabulary = snapshot.vocabulary
  states_perm : permuted.states.Perm snapshot.states

theorem Snapshot.IsConsistent.of_permutes {snapshot permuted : Snapshot}
    (consistent : snapshot.IsConsistent) (permutes : snapshot.Permutes permuted) :
    permuted.IsConsistent := by
  have members (state : Snapshot.State) : state ∈ permuted.states ↔ state ∈ snapshot.states :=
    permutes.states_perm.mem_iff
  obtain ⟨usable, names, ids, rules, targets⟩ := consistent
  refine ⟨?_, ?_, ?_, ?_, ?_⟩
  · rwa [permutes.ruleNames_eq]
  · rwa [permutes.ruleNames_eq]
  · exact (permutes.states_perm.map _).nodup_iff.mpr ids
  · simpa only [permutes.ruleNames_eq, members] using rules
  · simpa only [members] using targets

namespace Automaton

theorem IsCopyOf.exists_index {automaton : Automaton} {snapshot : Snapshot}
    (copy : automaton.IsCopyOf snapshot) {state : Snapshot.State}
    (member : state ∈ snapshot.states) :
    ∃ index : Fin automaton.size, ∃ _ : index.val < snapshot.states.length,
      snapshot.states[index.val] = state := by
  obtain ⟨position, inside, same⟩ := List.getElem_of_mem member
  exact ⟨⟨position, copy.size_eq ▸ inside⟩, inside, same⟩

theorem eq_of_id_eq (automaton : Automaton) {index index' : Fin automaton.size}
    (id : (automaton.state index).id = (automaton.state index').id) : index = index' := by
  apply automaton.nodeId_injective
  rw [nodeId, State.nodeId, id]
  rfl

/-- Copies of permuted snapshots are rearranged automata. -/
theorem rearranges_of_copies {snapshot permuted : Snapshot} {first second : Automaton}
    (copy : first.IsCopyOf snapshot) (copy' : second.IsCopyOf permuted)
    (permutes : snapshot.Permutes permuted) : ∃ place, first.Rearranges second place := by
  have inside (index : Fin first.size) : index.val < snapshot.states.length :=
    copy.size_eq ▸ index.isLt
  have found (index : Fin first.size) :=
    copy'.exists_index (permutes.states_perm.mem_iff.mpr (List.getElem_mem (inside index)))
  choose place inside' placed using found
  have states (index : Fin first.size) :=
    same_of_outline_eq (congrArg Snapshot.State.outline (placed index).symm)
      (copy.copiesState index (inside index))
      (copy'.copiesState (place index) (inside' index))
  have same : first.Corresponds second place :=
    corresponds_of_copies copy copy' permutes.ruleNames_eq.symm permutes.vocabulary_eq.symm states
  refine ⟨place, { same with indices_perm := ?_, transitions_eq := ?_ }⟩
  · -- no two states have one place, and every place is that of the state with the same number
    have distinct : (first.indices.map place).Nodup :=
      (List.nodup_finRange first.size).map fun _ _ => same.place_injective
    refine (List.perm_ext_iff_of_nodup distinct (List.nodup_finRange second.size)).mpr ?_
    refine fun index' => iff_of_true ?_ (List.mem_finRange index')
    have within : index'.val < permuted.states.length := copy'.size_eq ▸ index'.isLt
    obtain ⟨index, _, origin⟩ :=
      copy.exists_index (permutes.states_perm.mem_iff.mp (List.getElem_mem within))
    refine List.mem_map.mpr ⟨index, List.mem_finRange index, second.eq_of_id_eq ?_⟩
    have carried := (copy'.copiesState index' within).id_eq
    rw [← origin, ← (copy.copiesState index (inside index)).id_eq, ← same.id_eq] at carried
    exact carried.symm
  · intro index
    apply relocate_of_copies same (copy.copiesState index (inside index)).transitions_match
    rw [← placed index]
    exact (copy'.copiesState (place index) (inside' index)).transitions_match

/-- The automata have states with the same numbers, and what is asked about a state has the same
answer in both. -/
structure SameAnswers (first second : Automaton) : Prop where
  ids_perm : (first.indices.map fun index => (first.state index).id).Perm
    (second.indices.map fun index => (second.state index).id)
  isOrphan_eq : ∀ index index', (first.state index).id = (second.state index').id →
    first.isOrphan index = second.isOrphan index'
  isConnected_eq : ∀ index index', (first.state index).id = (second.state index').id →
    ∀ rule, first.isConnected index rule = second.isConnected index' rule

theorem Rearranges.sameAnswers {first second : Automaton} {place : Fin first.size → Fin second.size}
    (same : Rearranges first second place) : first.SameAnswers second := by
  have placed {index : Fin first.size} {index' : Fin second.size}
      (id : (first.state index).id = (second.state index').id) : place index = index' :=
    second.eq_of_id_eq ((same.id_eq index).trans id)
  refine ⟨?_, ?_, ?_⟩
  · have ids := same.indices_perm.map fun index => (second.state index).id
    rw [List.map_map] at ids
    simpa only [Function.comp_def, same.id_eq] using ids
  · intro index index' id
    rw [← placed id, same.isOrphan_eq]
  · intro index index' id rule
    rw [← placed id, same.isConnected_eq]

/-- Permuting the states of a snapshot changes nothing but the order of nodes and edges. -/
theorem documents_same_of_permutes {snapshot permuted : Snapshot} {first : Automaton}
    (accepted : ofSnapshot snapshot = .ok first) (permutes : snapshot.Permutes permuted) :
    ∃ second, ofSnapshot permuted = .ok second ∧
      (∀ options, List.Forall₂ Document.SameUpToOrder (first.documents options)
        (second.documents options)) ∧
      first.SameAnswers second := by
  have consistent := (isConsistent_of_ofSnapshot accepted).of_permutes permutes
  obtain ⟨second, accepted'⟩ := exists_ofSnapshot consistent
  obtain ⟨place, same⟩ := rearranges_of_copies (isCopyOf_of_ofSnapshot accepted)
    (isCopyOf_of_ofSnapshot accepted') permutes
  exact ⟨second, accepted', same.documents_same, same.sameAnswers⟩

/-- The states of the busy snapshot from last to first. -/
def turnedSnapshot : Snapshot :=
  { busySnapshot with states := busySnapshot.states.reverse }

theorem documents_same_turnedSnapshot :
    busySnapshot.Permutes turnedSnapshot ∧ busySnapshot.states ≠ turnedSnapshot.states ∧
    ∃ first second, ofSnapshot busySnapshot = .ok first ∧ ofSnapshot turnedSnapshot = .ok second ∧
      (∀ options, List.Forall₂ Document.SameUpToOrder (first.documents options)
        (second.documents options)) ∧
      first.SameAnswers second := by
  have permutes : busySnapshot.Permutes turnedSnapshot :=
    ⟨rfl, rfl, busySnapshot.states.reverse_perm⟩
  obtain ⟨first, accepted⟩ := exists_ofSnapshot (show busySnapshot.IsConsistent by decide)
  obtain ⟨second, accepted', documents, answers⟩ := documents_same_of_permutes accepted permutes
  exact ⟨permutes, by decide, first, second, accepted, accepted', documents, answers⟩

end Automaton

end TransitionNetwork
