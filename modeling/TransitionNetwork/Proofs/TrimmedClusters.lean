import TransitionNetwork.Proofs.DeclaredNodes

/-!
# Clusters under a focus

The focus is asked about in three places of a cluster: at its border, at its states and at its
transitions. A focus on the rule itself passes all three and changes nothing. Any other focus takes
all edges away, because none of them leaves the rule, and keeps the states that a transition links
with the rule in focus.
-/

set_option autoImplicit false

namespace TransitionNetwork.Automaton

open Dot

variable (automaton : Automaton)

/-- A transition leads from the state into the rule or from the rule to the state. -/
def isLinked (rule : Nat) (index : Fin automaton.size) : Bool :=
  automaton.arrows.any fun arrow =>
    (arrow.source = index && automaton.owner arrow.target = some rule) ||
      (arrow.target = index && automaton.owner arrow.source = some rule)

/-- The lines of a rule's cluster with these states and edges in it. -/
def clusterOf (rule : Fin automaton.ruleCount) (border : List Line)
    (states : List (Fin automaton.size)) (edges : List Edge) : List Line :=
  .openCluster rule :: border ++
    states.map (.node ∘ automaton.node (.inCluster (Color.ofRule rule))) ++
    edges.map .edge ++
    [.clusterLabel (automaton.ruleName rule), .background (Color.ofRule rule).light, .close]

theorem isLinked_iff {rule : Nat} {index : Fin automaton.size} :
    automaton.isLinked rule index = true ↔
      ∃ arrow ∈ automaton.arrows,
        (arrow.source = index ∧ automaton.owner arrow.target = some rule) ∨
        (arrow.target = index ∧ automaton.owner arrow.source = some rule) := by
  simp only [isLinked, List.any_eq_true, Bool.or_eq_true, Bool.and_eq_true, decide_eq_true_eq]

theorem isConnected_eq_isLinked {focus : Nat} {index : Fin automaton.size}
    (foreign : automaton.owner index ≠ some focus) :
    automaton.isConnected index focus = automaton.isLinked focus index := by
  rw [Bool.eq_iff_iff, isConnected_iff, isLinked_iff]
  exact or_iff_right foreign

theorem isLinked_of_undeclared {focus : Nat} (undeclared : automaton.ruleCount ≤ focus)
    (index : Fin automaton.size) : automaton.isLinked focus index = false := by
  rw [Bool.eq_false_iff, ne_eq, isLinked_iff]
  rintro ⟨arrow, _, ⟨_, owned⟩ | ⟨_, owned⟩⟩
  · exact absurd (automaton.owner_lt owned) (Nat.not_lt.mpr undeclared)
  · exact absurd (automaton.owner_lt owned) (Nat.not_lt.mpr undeclared)

theorem owner_of_mem_statesOfRule {rule : Nat} {index : Fin automaton.size}
    (member : index ∈ automaton.statesOfRule rule) : automaton.owner index = some rule :=
  of_decide_eq_true (List.mem_filter.mp member).2

/-! ## A focus on the rule itself -/

theorem clusterStates_self (rule : Nat) :
    automaton.clusterStates rule (some rule) = automaton.clusterStates rule none := by
  apply List.filter_congr
  intro index member
  have connected : automaton.isConnected index rule = true :=
    automaton.isConnected_iff.mpr (Or.inl (automaton.owner_of_mem_statesOfRule member))
  rw [Option.all_some, Option.all_none, connected]

theorem clusterTransitions_self (rule : Nat) (source : Fin automaton.size) :
    automaton.clusterTransitions rule (some rule) source =
      automaton.clusterTransitions rule none source := by
  apply List.filter_congr
  intro transition _
  rw [Option.all_some, Option.all_none, Bool.and_self, Bool.and_true]

theorem cluster_self (rule : Fin automaton.ruleCount) :
    automaton.cluster rule (some rule) = automaton.cluster rule none := by
  have border : (some rule.val).all (· == rule.val) = true := beq_self_eq_true rule.val
  unfold cluster clusterEdges
  simp only [clusterStates_self, clusterTransitions_self, border, Option.all_none]

/-! ## A focus on another rule -/

theorem clusterStates_of_ne {rule focus : Nat} (other : focus ≠ rule) :
    automaton.clusterStates rule (some focus) =
      (automaton.clusterStates rule none).filter (automaton.isLinked focus) := by
  rw [clusterStates, clusterStates, List.filter_filter]
  apply List.filter_congr
  intro index member
  have foreign : automaton.owner index ≠ some focus := by
    rw [automaton.owner_of_mem_statesOfRule member, ne_eq, Option.some.injEq]
    exact other.symm
  rw [Option.all_some, Option.all_none, automaton.isConnected_eq_isLinked foreign, Bool.and_true,
    Bool.and_comm]

/-- No transition leads into two rules. -/
theorem clusterTransitions_of_ne {rule focus : Nat} (other : focus ≠ rule)
    (source : Fin automaton.size) : automaton.clusterTransitions rule (some focus) source = [] := by
  rw [clusterTransitions, List.filter_eq_nil_iff]
  intro transition _
  rw [Option.all_some, Bool.and_eq_true, reaches, reaches, decide_eq_true_eq, decide_eq_true_eq]
  rintro ⟨reached, focused⟩
  rw [reached, Option.some.injEq] at focused
  exact other focused.symm

theorem clusterEdges_of_ne {rule focus : Nat} (other : focus ≠ rule) :
    automaton.clusterEdges rule (some focus) = [] := by
  unfold clusterEdges
  simp only [automaton.clusterTransitions_of_ne other, List.flatMap_nil]
  exact List.flatMap_eq_nil_iff.mpr fun _ _ => rfl

theorem cluster_of_ne {rule : Fin automaton.ruleCount} {focus : Nat} (other : focus ≠ rule) :
    automaton.cluster rule (some focus) =
      automaton.clusterOf rule [.dottedBorder]
        ((automaton.clusterStates rule none).filter (automaton.isLinked focus)) [] := by
  have border : (some focus).all (· == rule.val) = false := beq_eq_false_iff_ne.mpr other
  rw [cluster, border, automaton.clusterStates_of_ne other, automaton.clusterEdges_of_ne other]
  rfl

/-- Under a focus on itself a rule's cluster reads as without one. Under any other focus it has a
dotted border, no edges, and of its nodes those that a transition links with the rule in focus. -/
theorem cluster_trimmed_to_focus (rule : Fin automaton.ruleCount) :
    Dot.render (automaton.cluster rule (some rule)) = Dot.render (automaton.cluster rule none) ∧
    automaton.cluster rule none =
      automaton.clusterOf rule [] (automaton.clusterStates rule none)
        (automaton.clusterEdges rule none) ∧
    ∀ focus : Nat, focus ≠ rule →
      automaton.cluster rule (some focus) =
        automaton.clusterOf rule [.dottedBorder]
          ((automaton.clusterStates rule none).filter (automaton.isLinked focus)) [] ∧
      Dot.edges (automaton.cluster rule (some focus)) = [] ∧
      (automaton.ruleCount ≤ focus → Dot.nodes (automaton.cluster rule (some focus)) = []) := by
  refine ⟨congrArg Dot.render (automaton.cluster_self rule), rfl, ?_⟩
  intro focus other
  refine ⟨automaton.cluster_of_ne other, ?_, ?_⟩
  · rw [edges_cluster]
    exact automaton.clusterEdges_of_ne other
  · intro undeclared
    have none : (automaton.clusterStates rule none).filter (automaton.isLinked focus) = [] :=
      List.filter_eq_nil_iff.mpr fun index _ =>
        Bool.eq_false_iff.mp (automaton.isLinked_of_undeclared undeclared index)
    rw [automaton.cluster_of_ne other, none]
    rfl

end TransitionNetwork.Automaton
