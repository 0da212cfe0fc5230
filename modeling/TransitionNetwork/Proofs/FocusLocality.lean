import TransitionNetwork.Document
import TransitionNetwork.Proofs.Acceptance
import TransitionNetwork.Proofs.Correspondence

/-!
# Focused views are local

A focused view shows nothing but what lies around the rule in focus. Two snapshots that differ only
in transitions with both ends elsewhere may have different orphans and different predecessors, and
still they have the same focused document.
-/

set_option autoImplicit false

namespace TransitionNetwork

namespace Automaton

open Dot

/-! ## What lies around a rule -/

section Around

variable (automaton : Automaton)

/-- The transitions of a state that have an end in the rule. -/
def transitionsAround (rule : Nat) (source : Fin automaton.size) :
    List (Transition automaton.size) :=
  (automaton.transitions source).filter fun transition =>
    automaton.touches rule { source, transition }

def arrowsAround (rule : Nat) : List (Arrow automaton.size) :=
  automaton.arrows.filter (automaton.touches rule)

theorem arrowsAround_eq_flatMap (rule : Nat) :
    automaton.arrowsAround rule = automaton.indices.flatMap fun source =>
      (automaton.transitionsAround rule source).map (Arrow.mk source) := by
  have every : automaton.indices = automaton.indices.filter fun _ => true := by simp
  unfold transitionsAround
  rw [every, loop_eq_filter_arrows]
  rfl

/-- A test that only arrows around the rule pass need not be tried on others. -/
theorem filter_arrows_eq_filter_arrowsAround {rule : Nat} {kept : Arrow automaton.size → Bool}
    (around : ∀ arrow, kept arrow = true → automaton.touches rule arrow = true) :
    automaton.arrows.filter kept = (automaton.arrowsAround rule).filter kept := by
  rw [arrowsAround, List.filter_filter]
  apply List.filter_congr
  intro arrow _
  cases passed : kept arrow with
  | false => rfl
  | true => rw [around arrow passed, Bool.and_self]

theorem clusterArrows_eq_filter_arrowsAround (rule focus : Nat) :
    automaton.clusterArrows rule (some focus) =
      ((automaton.arrowsAround focus).filter (automaton.isInside (some focus))).filter fun arrow =>
        automaton.owner arrow.source = some rule := by
  rw [clusterArrows_eq_filter]
  congr 1
  apply filter_arrows_eq_filter_arrowsAround
  intro arrow inside
  exact (automaton.touches_iff_isInside_or_isAcross focus arrow).mpr (Or.inl inside)

theorem crossArrows_eq_filter_arrowsAround (focus : Nat) :
    automaton.crossArrows (some focus) =
      (automaton.arrowsAround focus).filter (automaton.isAcross (some focus)) := by
  rw [crossArrows_eq_filter]
  apply filter_arrows_eq_filter_arrowsAround
  intro arrow across
  exact (automaton.touches_iff_isInside_or_isAcross focus arrow).mpr (Or.inr across)

theorem isBeside_eq_any_arrowsAround (rule : Nat) (index : Fin automaton.size) :
    automaton.isBeside rule index =
      (automaton.arrowsAround rule).any fun arrow =>
        arrow.source = index || arrow.target = index := by
  rw [arrowsAround, List.any_filter]
  rfl

end Around

/-! ## Automata that agree around a rule -/

/-- The states of the second automaton are those of the first, and around the rule each has the
same transitions. -/
structure AgreesAround (rule : Nat) (first second : Automaton)
    (place : Fin first.size → Fin second.size) : Prop extends Corresponds first second place where
  indices_eq : second.indices = first.indices.map place
  transitionsAround_eq : ∀ index, second.transitionsAround rule (place index) =
    (first.transitionsAround rule index).map (Transition.relocate place)

namespace AgreesAround

variable {focus : Nat} {first second : Automaton} {place : Fin first.size → Fin second.size}
  (agree : AgreesAround focus first second place)

include agree

theorem arrowsAround_eq :
    second.arrowsAround focus = (first.arrowsAround focus).map (Arrow.relocate place) := by
  rw [arrowsAround_eq_flatMap, arrowsAround_eq_flatMap, agree.indices_eq, List.flatMap_map,
    List.map_flatMap]
  apply List.flatMap_congr
  intro index _
  rw [agree.transitionsAround_eq, List.map_map, List.map_map]
  rfl

theorem isBeside_eq (index : Fin first.size) :
    second.isBeside focus (place index) = first.isBeside focus index := by
  have placed (other : Fin first.size) : place other = place index ↔ other = index :=
    ⟨agree.place_injective, congrArg place⟩
  rw [Bool.eq_iff_iff, isBeside_eq_any_arrowsAround, isBeside_eq_any_arrowsAround,
    agree.arrowsAround_eq, List.any_map]
  simp only [List.any_eq_true, Function.comp_apply, Bool.or_eq_true, decide_eq_true_eq]
  simp only [Arrow.relocate, Arrow.target, Transition.relocate, placed]

theorem clusterStates_eq (rule : Nat) :
    second.clusterStates rule (some focus) = (first.clusterStates rule (some focus)).map place := by
  rw [clusterStates_eq_filter, clusterStates_eq_filter, agree.indices_eq, List.filter_map,
    List.filter_map]
  simp only [Function.comp_def, agree.isBeside_eq, agree.owner_eq]

theorem clusterEdges_eq (rule : Nat) :
    second.clusterEdges rule (some focus) = first.clusterEdges rule (some focus) := by
  rw [clusterEdges_eq_flatMap, clusterEdges_eq_flatMap, clusterArrows_eq_filter_arrowsAround,
    clusterArrows_eq_filter_arrowsAround, agree.arrowsAround_eq, List.filter_map, List.filter_map,
    List.flatMap_map]
  simp only [Function.comp_def, agree.strokedEdges_eq, agree.isInside_eq, agree.owner_source_eq]

theorem crossEdges_eq : second.crossEdges (some focus) = first.crossEdges (some focus) := by
  rw [crossEdges_eq_flatMap, crossEdges_eq_flatMap, crossArrows_eq_filter_arrowsAround,
    crossArrows_eq_filter_arrowsAround, agree.arrowsAround_eq, List.filter_map, List.flatMap_map]
  simp only [Function.comp_def, agree.strokedEdges_eq, agree.isAcross_eq]

theorem cluster_eq {rule : Fin first.ruleCount} {rule' : Fin second.ruleCount}
    (equal : rule'.val = rule.val) :
    second.cluster rule' (some focus) = first.cluster rule (some focus) := by
  have nodes : (second.clusterStates rule' (some focus)).map
        (Line.node ∘ second.node (.inCluster (Color.ofRule rule'))) =
      (first.clusterStates rule (some focus)).map
        (Line.node ∘ first.node (.inCluster (Color.ofRule rule))) := by
    rw [equal, agree.clusterStates_eq, List.map_map]
    simp only [Function.comp_def, agree.node_eq]
  rw [cluster, cluster, nodes, equal, agree.clusterEdges_eq, agree.ruleName_eq equal]

theorem focusedGraph_eq {rule : Fin first.ruleCount} {rule' : Fin second.ruleCount}
    (inFocus : rule.val = focus) (inFocus' : rule'.val = focus) :
    second.focusedGraph rule' = first.focusedGraph rule := by
  have clusters : second.rules.flatMap (second.cluster · (some focus)) =
      first.rules.flatMap (first.cluster · (some focus)) := by
    rw [agree.rules_eq, List.flatMap_map]
    apply List.flatMap_congr
    intro other _
    exact agree.cluster_eq rfl
  rw [focusedGraph, focusedGraph, inFocus, inFocus', clusters, crossing, crossing,
    agree.crossEdges_eq, agree.ruleName_eq (inFocus'.trans inFocus.symm)]

end AgreesAround

end Automaton

/-! ## Snapshots that agree around a rule -/

namespace Snapshot

/-- What is left of a state when its transitions are dropped. -/
def State.outline (state : State) : State :=
  { state with transitions := [] }

variable (snapshot : Snapshot)

/-- The number belongs to a state that the rule owns. -/
def owns (rule : Nat) (id : UInt32) : Bool :=
  snapshot.states.any fun state => state.id = id && state.ruleIndex.toInt = rule

/-- The transitions of a state that have an end in the rule. -/
def transitionsAround (rule : Nat) (source : State) : List Transition :=
  source.transitions.filter fun transition =>
    source.ruleIndex.toInt = rule || snapshot.owns rule transition.target

/-- The snapshots have the same names and the same states up to transitions, and each state has the
same transitions with an end in the rule. -/
structure AgreesAround (rule : Nat) (other : Snapshot) : Prop where
  ruleNames_eq : snapshot.ruleNames = other.ruleNames
  vocabulary_eq : snapshot.vocabulary = other.vocabulary
  outlines_eq : snapshot.states.map State.outline = other.states.map State.outline
  transitionsAround_eq :
    snapshot.states.map (snapshot.transitionsAround rule) =
      other.states.map (other.transitionsAround rule)

namespace AgreesAround

variable {rule : Nat} {snapshot other : Snapshot} (agree : snapshot.AgreesAround rule other)
  {position : Nat} (inside : position < snapshot.states.length)
  (inside' : position < other.states.length)

include agree

theorem length_eq : snapshot.states.length = other.states.length := by
  simpa using congrArg List.length agree.outlines_eq

theorem outline_eq : snapshot.states[position].outline = other.states[position].outline := by
  have bound : position < (snapshot.states.map State.outline).length := by simpa using inside
  have entries := List.getElem_of_eq agree.outlines_eq bound
  rwa [List.getElem_map, List.getElem_map] at entries

theorem transitionsAround_getElem_eq :
    snapshot.transitionsAround rule snapshot.states[position] =
      other.transitionsAround rule other.states[position] := by
  have bound : position < (snapshot.states.map (snapshot.transitionsAround rule)).length := by
    simpa using inside
  have entries := List.getElem_of_eq agree.transitionsAround_eq bound
  rwa [List.getElem_map, List.getElem_map] at entries

end AgreesAround

end Snapshot

namespace Automaton.IsCopyOf

variable {automaton : Automaton} {snapshot : Snapshot} (copy : automaton.IsCopyOf snapshot)

include copy

theorem owns_eq {given : Snapshot.Transition} {transition : Transition automaton.size}
    (copied : automaton.CopiesTransition given transition) (rule : Nat) :
    snapshot.owns rule given.target = true ↔ automaton.owner transition.target = some rule := by
  simp only [Snapshot.owns, List.any_eq_true, Bool.and_eq_true, decide_eq_true_eq]
  constructor
  · rintro ⟨state, member, carried, owned⟩
    obtain ⟨position, inside, rfl⟩ := List.getElem_of_mem member
    have state := copy.copiesState ⟨position, copy.size_eq ▸ inside⟩ inside
    rw [← (copied.target_iff _).mp (state.id_eq.trans carried)]
    exact (state.owner_eq_some_iff rule).mpr owned
  · intro owned
    have inside : transition.target.val < snapshot.states.length :=
      copy.size_eq ▸ transition.target.isLt
    have state := copy.copiesState transition.target inside
    have carried := (copied.target_iff transition.target).mpr rfl
    exact ⟨_, List.getElem_mem inside, state.id_eq.symm.trans carried,
      (state.owner_eq_some_iff rule).mp owned⟩

/-- The transitions around a rule are copied like the transitions of a state are. -/
theorem transitionsAround_match (rule : Nat) (index : Fin automaton.size)
    (inside : index.val < snapshot.states.length) :
    List.Forall₂ automaton.CopiesTransition
      (snapshot.transitionsAround rule snapshot.states[index.val])
      (automaton.transitionsAround rule index) := by
  have state := copy.copiesState index inside
  refine List.rel_filter ?_ state.transitions_match
  intro given transition copied
  dsimp only
  rw [touches_iff, Bool.or_eq_true, decide_eq_true_iff, copy.owns_eq copied,
    ← state.owner_eq_some_iff]
  rfl

end Automaton.IsCopyOf

/-- Copies of one list in two automata are the same up to the place of their targets. -/
theorem relocate_of_copies {first second : Automaton} {place : Fin first.size → Fin second.size}
    (same : first.Corresponds second place) {given : List Snapshot.Transition}
    {transitions : List (Transition first.size)} {transitions' : List (Transition second.size)}
    (copied : List.Forall₂ first.CopiesTransition given transitions)
    (copied' : List.Forall₂ second.CopiesTransition given transitions') :
    transitions' = transitions.map (Transition.relocate place) := by
  induction copied generalizing transitions' with
  | nil =>
      cases copied'
      rfl
  | @cons given transition _ _ copy _ ih =>
      cases copied' with
      | @cons _ transition' _ _ copy' others =>
          have target : transition'.target = place transition.target := by
            symm
            rw [← copy'.target_iff, same.id_eq, copy.target_iff]
          have label : transition'.label = transition.label :=
            copy'.label_eq.trans copy.label_eq.symm
          rw [List.map_cons, ih others]
          cases transition'
          congr 1
          exact (Transition.mk.injEq ..).mpr ⟨target, label⟩

namespace Automaton

/-- States that are the same up to transitions have copies that are the same up to transitions. -/
theorem same_of_outline_eq {first second : Automaton} {given given' : Snapshot.State}
    (outline : given.outline = given'.outline) {index : Fin first.size}
    {index' : Fin second.size} (copied : first.CopiesState given (first.state index))
    (copied' : second.CopiesState given' (second.state index')) :
    (second.state index').id = (first.state index).id ∧
      (second.state index').kind = (first.state index).kind ∧
      second.owner index' = first.owner index := by
  obtain ⟨id, ruleIndex, kind, _⟩ := given
  obtain ⟨id', ruleIndex', kind', _⟩ := given'
  cases outline
  refine ⟨copied'.id_eq.trans copied.id_eq.symm, copied'.kind_eq.trans copied.kind_eq.symm, ?_⟩
  apply Option.ext
  intro rule
  rw [copied.owner_eq_some_iff, copied'.owner_eq_some_iff]

theorem corresponds_of_copies {snapshot other : Snapshot} {first second : Automaton}
    (copy : first.IsCopyOf snapshot) (copy' : second.IsCopyOf other)
    (ruleNames : snapshot.ruleNames = other.ruleNames)
    (vocabulary : snapshot.vocabulary = other.vocabulary)
    {place : Fin first.size → Fin second.size}
    (states : ∀ index, (second.state (place index)).id = (first.state index).id ∧
      (second.state (place index)).kind = (first.state index).kind ∧
      second.owner (place index) = first.owner index) : first.Corresponds second place where
  ruleNames_eq := by
    rw [← Array.toList_inj, copy.ruleNames_eq, copy'.ruleNames_eq, ruleNames]
  vocabulary_eq := by
    rw [copy.vocabulary_eq, copy'.vocabulary_eq, vocabulary]
  id_eq index := (states index).1
  kind_eq index := (states index).2.1
  owner_eq index := (states index).2.2

/-- The copies of snapshots that agree around a rule agree around it, state by state. -/
theorem agreesAround_of_copies {rule : Nat} {snapshot other : Snapshot} {first second : Automaton}
    (copy : first.IsCopyOf snapshot) (copy' : second.IsCopyOf other)
    (agree : snapshot.AgreesAround rule other) :
    ∃ place, first.AgreesAround rule second place := by
  have sizes : first.size = second.size := by rw [copy.size_eq, copy'.size_eq, agree.length_eq]
  have inside (index : Fin first.size) : index.val < snapshot.states.length :=
    copy.size_eq ▸ index.isLt
  have inside' (index : Fin first.size) : index.val < other.states.length :=
    agree.length_eq ▸ inside index
  have states (index : Fin first.size) :=
    same_of_outline_eq (agree.outline_eq (inside index) (inside' index))
      (copy.copiesState index (inside index))
      (copy'.copiesState (Fin.cast sizes index) (inside' index))
  have same : first.Corresponds second (Fin.cast sizes) :=
    corresponds_of_copies copy copy' agree.ruleNames_eq agree.vocabulary_eq states
  refine ⟨Fin.cast sizes, { same with indices_eq := ?_, transitionsAround_eq := ?_ }⟩
  · exact finRange_eq_map_cast sizes
  · intro index
    apply relocate_of_copies same (copy.transitionsAround_match rule index (inside index))
    rw [agree.transitionsAround_getElem_eq (inside index) (inside' index)]
    exact copy'.transitionsAround_match rule (Fin.cast sizes index) (inside' index)

/-- What two snapshots agree on around a rule is all that the focused document of the rule shows. -/
theorem focused?_eq_of_agreesAround {rule : Nat} {snapshot other : Snapshot}
    {first second : Automaton} (declared : rule < snapshot.ruleNames.length)
    (accepted : ofSnapshot snapshot = .ok first) (accepted' : ofSnapshot other = .ok second)
    (agree : snapshot.AgreesAround rule other) :
    ∃ document, first.focused? rule = some document ∧ second.focused? rule = some document := by
  have copy := isCopyOf_of_ofSnapshot accepted
  obtain ⟨place, around⟩ := agreesAround_of_copies copy (isCopyOf_of_ofSnapshot accepted') agree
  have known : rule < first.ruleCount := by
    rwa [ruleCount, ← Array.length_toList, copy.ruleNames_eq]
  have known' : rule < second.ruleCount := around.ruleCount_eq ▸ known
  have graphs : second.focusedGraph ⟨rule, known'⟩ = first.focusedGraph ⟨rule, known⟩ :=
    around.focusedGraph_eq rfl rfl
  have names : second.ruleName ⟨rule, known'⟩ = first.ruleName ⟨rule, known⟩ :=
    around.ruleName_eq rfl
  refine ⟨first.focused ⟨rule, known⟩, ?_, ?_⟩
  · rw [focused?, rule?, dif_pos known]
    rfl
  · rw [focused?, rule?, dif_pos known', Option.map_some, focused, focused, graphs,
      names]

/-! ## What a focused view hides -/

/-- Whether a state is an orphan depends on the transitions of all states. -/
theorem IsCopyOf.isOrphan_iff {automaton : Automaton} {snapshot : Snapshot}
    (copy : automaton.IsCopyOf snapshot) (index : Fin automaton.size)
    (inside : index.val < snapshot.states.length) :
    automaton.isOrphan index = true ↔
      snapshot.states[index.val].transitions = [] ∧
      ∀ state ∈ snapshot.states, ∀ transition ∈ state.transitions,
        transition.target ≠ snapshot.states[index.val].id := by
  have copied := copy.copiesState index inside
  rw [isOrphan, Bool.and_eq_true, List.isEmpty_iff, Array.isEmpty_iff]
  apply and_congr
  · have lengths : snapshot.states[index.val].transitions.length =
        (automaton.transitions index).length := copied.transitions_match.length_eq
    rw [← List.length_eq_zero_iff, ← List.length_eq_zero_iff, lengths]
  · constructor
    · intro unreached state member transition leaving reached
      obtain ⟨position, within, rfl⟩ := List.getElem_of_mem member
      have source := copy.copiesState ⟨position, copy.size_eq ▸ within⟩ within
      obtain ⟨arrival, present, same⟩ := exists_of_mem_of_forall₂ source.transitions_match leaving
      have target := (same.target_iff index).mp (copied.id_eq.trans reached.symm)
      have noted := automaton.mem_sources.mpr ⟨arrival, present, target.symm⟩
      rw [unreached] at noted
      exact absurd noted (Array.not_mem_empty _)
    · intro unreached
      rw [Array.eq_empty_iff_forall_not_mem]
      intro origin noted
      obtain ⟨arrival, present, target⟩ := automaton.mem_sources.mp noted
      have within : origin.val < snapshot.states.length := copy.size_eq ▸ origin.isLt
      have source := copy.copiesState origin within
      obtain ⟨transition, leaving, same⟩ :=
        exists_of_mem_of_forall₂ source.transitions_match.flip present
      refine unreached _ (List.getElem_mem within) transition leaving ?_
      rw [← (same.target_iff index).mpr target.symm, copied.id_eq]

theorem IsCopyOf.isOrphan?_eq {automaton : Automaton} {snapshot : Snapshot}
    (copy : automaton.IsCopyOf snapshot) {position : Nat}
    (inside : position < snapshot.states.length) :
    automaton.isOrphan? position =
      some (decide (snapshot.states[position].transitions = [] ∧
        ∀ state ∈ snapshot.states, ∀ transition ∈ state.transitions,
          transition.target ≠ snapshot.states[position].id)) := by
  have within : position < automaton.size := copy.size_eq ▸ inside
  rw [isOrphan?, index?, dif_pos within, Option.map_some, Option.some.injEq, Bool.eq_iff_iff,
    decide_eq_true_iff]
  exact copy.isOrphan_iff ⟨position, within⟩ inside

/-- Rule `b` is busy with itself. -/
def busySnapshot : Snapshot where
  ruleNames := ["a", "b"]
  states := [
    { id := 7, ruleIndex := 0, transitions := [{ target := 3, symbols := [1, -1] }] },
    { id := 3, ruleIndex := 1,
      transitions := [{ target := 9 }, { target := 7, epsilon := true }, { target := 3 }] },
    { id := 9, ruleIndex := 1 }]

/-- Rule `b` does nothing but answer rule `a`. -/
def idleSnapshot : Snapshot where
  ruleNames := ["a", "b"]
  states := [
    { id := 7, ruleIndex := 0, transitions := [{ target := 3, symbols := [1, -1] }] },
    { id := 3, ruleIndex := 1, transitions := [{ target := 7, epsilon := true }] },
    { id := 9, ruleIndex := 1 }]

/-- Without the transitions of rule `b` to itself the last state is an orphan. The document of rule
`a` is the same with and without them. -/
theorem focused?_busySnapshot_eq_idleSnapshot :
    0 < busySnapshot.ruleNames.length ∧ busySnapshot.AgreesAround 0 idleSnapshot ∧
    ∃ first second, ofSnapshot busySnapshot = .ok first ∧ ofSnapshot idleSnapshot = .ok second ∧
      first.isOrphan? 2 = some false ∧ second.isOrphan? 2 = some true ∧
      ∃ document, first.focused? 0 = some document ∧ second.focused? 0 = some document := by
  have declared : 0 < busySnapshot.ruleNames.length := by decide
  have agree : busySnapshot.AgreesAround 0 idleSnapshot := by
    refine ⟨?_, ?_, ?_, ?_⟩ <;> decide
  have busy : busySnapshot.IsConsistent := by decide
  have idle : idleSnapshot.IsConsistent := by decide
  obtain ⟨first, accepted⟩ := exists_ofSnapshot busy
  obtain ⟨second, accepted'⟩ := exists_ofSnapshot idle
  refine ⟨declared, agree, first, second, accepted, accepted', ?_, ?_,
    focused?_eq_of_agreesAround declared accepted accepted' agree⟩
  · rw [(isCopyOf_of_ofSnapshot accepted).isOrphan?_eq
      (show 2 < busySnapshot.states.length by decide)]
    decide
  · rw [(isCopyOf_of_ofSnapshot accepted').isOrphan?_eq
      (show 2 < idleSnapshot.states.length by decide)]
    decide

end Automaton

end TransitionNetwork
