import TransitionNetwork.Arena.Drawing
import TransitionNetwork.Proofs.PlainNumbers

/-!
# Drawing in plain numbers

In the arena of an automaton every loop of the views finds what it looks for, so it draws what the
automaton draws.
-/

set_option autoImplicit false

namespace TransitionNetwork

open Dot

namespace Automaton

variable (automaton : Automaton)

theorem arena_edges? (source : Fin automaton.size) (color : Option String)
    (transition : Transition automaton.size) :
    automaton.arena.edges? source color transition.plain =
      some ((automaton.edges source transition color).map .edge) := by
  have labels : automaton.arena.edgeLabels transition.label =
      automaton.edgeLabels transition.label := rfl
  have target := automaton.arena_nodeId? transition.target
  unfold Arena.edges? edges
  rw [arena_nodeId?, Transition.plain, target, labels]
  simp

theorem arena_node? (fill : Fill) (index : Fin automaton.size) :
    automaton.arena.node? fill index = some (.node (automaton.node fill index)) := by
  rw [Arena.node?, arena_nodeId?, arena_label?]
  rfl

theorem allows?_eq {allowed? : Nat → Option Bool} {allowed : Nat → Bool}
    (each : ∀ rule, allowed? rule = some (allowed rule)) (focus : Option Nat) :
    Arena.allows? allowed? focus = some (focus.all allowed) := by
  cases focus with
  | none => rfl
  | some rule => exact each rule

theorem map_filter_eq_flatMap {α β : Type} (p : α → Bool) (f : α → β) (items : List α) :
    (items.filter p).map f = items.flatMap fun item => if p item then [f item] else [] := by
  induction items with
  | nil => rfl
  | cons item items ih => cases kept : p item <;> simp [kept, ih]

theorem map_flatMap_filter {α β γ : Type} (p : α → Bool) (f : α → List β) (g : β → γ)
    (items : List α) :
    ((items.filter p).flatMap f).map g =
      items.flatMap fun item => if p item then (f item).map g else [] := by
  induction items with
  | nil => rfl
  | cons item items ih => cases kept : p item <;> simp [kept, ih]

theorem arena_clusterNodes? (rule : Nat) (focus : Option Nat) :
    (automaton.arena.statesOfRule rule).flatMapM (automaton.arena.clusterNode? rule focus) =
      some ((automaton.clusterStates rule focus).map
        (.node ∘ automaton.node (.inCluster (Color.ofRule rule)))) := by
  rw [arena_statesOfRule, clusterStates, map_filter_eq_flatMap]
  apply flatMapM_map
  intro index
  have allowed := allows?_eq (automaton.arena_isConnected? index) focus
  rw [Arena.clusterNode?, arena_isOrphan?, allowed, arena_node?]
  cases automaton.isOrphan index with
  | true => rfl
  | false => cases focus.all (automaton.isConnected index) <;> rfl

theorem arena_clusterEdges? (rule : Nat) (focus : Option Nat) :
    (automaton.arena.statesOfRule rule).flatMapM (automaton.arena.clusterEdges? rule focus) =
      some ((automaton.clusterEdges rule focus).map .edge) := by
  rw [arena_statesOfRule, clusterEdges, List.map_flatMap]
  apply flatMapM_map
  intro source
  rw [Arena.clusterEdges?, arena_state?, clusterTransitions, map_flatMap_filter]
  apply flatMapM_map
  intro transition
  have allowed := allows?_eq (automaton.arena_reaches? transition) focus
  rw [Arena.clusterTransition?, arena_reaches?, allowed, arena_edges?]
  cases automaton.reaches transition rule with
  | false => rfl
  | true => cases focus.all (automaton.reaches transition) <;> rfl

theorem arena_cluster? (focus : Option Nat) (rule : Fin automaton.ruleCount) :
    automaton.arena.cluster? focus rule = some (automaton.cluster rule focus) := by
  rw [Arena.cluster?, arena_ruleName?, arena_clusterNodes?, arena_clusterEdges?]
  rfl

theorem arena_crossTransition? (focus : Option Nat) (source : Fin automaton.size)
    (transition : Transition automaton.size) :
    automaton.arena.crossTransition? focus (automaton.owner source) source transition.plain =
      some (if automaton.owner transition.target != automaton.owner source &&
          focus.all fun rule =>
            automaton.reaches transition rule || automaton.owner source == some rule
        then (automaton.edges source transition
          (some (Color.ofOwner (automaton.owner transition.target)).dark.hex)).map .edge
        else []) := by
  have touching (rule : Nat) : (do
      return (← automaton.arena.reaches? transition.plain rule) ||
        automaton.owner source == some rule) =
      some (automaton.reaches transition rule || automaton.owner source == some rule) := by
    rw [arena_reaches?]
    rfl
  have target : automaton.arena.owner? transition.plain.target =
      some (automaton.owner transition.target) := automaton.arena_owner? transition.target
  have allowed := allows?_eq touching focus
  rw [Arena.crossTransition?, target, allowed]
  simp only [Option.bind_eq_bind, Option.bind_some, arena_edges?]
  by_cases inside : automaton.owner transition.target = automaton.owner source
  · simp [inside]
  · rw [if_neg inside]
    split <;> simp_all

theorem arena_crossing? (focus : Option Nat) :
    automaton.arena.crossing? focus = some (automaton.crossing focus) := by
  rw [Arena.crossing?, arena_numbered, crossing, crossEdges, List.map_flatMap]
  apply flatMapM_map
  intro source
  rw [crossTransitions, map_flatMap_filter]
  exact flatMapM_map (automaton.arena_crossTransition? focus source)

theorem arena_rules : automaton.arena.rules = automaton.rules.map Fin.val := by
  apply List.ext_getElem
  · simp [Arena.rules, rules, arena]
  · intro position inside inside'
    simp [Arena.rules, rules]

theorem arena_focused? (focus : Fin automaton.ruleCount) :
    automaton.arena.focused? focus = some (automaton.focused focus) := by
  have clusters : automaton.arena.rules.flatMapM (automaton.arena.cluster? (some focus)) =
      some (automaton.rules.flatMap (automaton.cluster · (some focus))) := by
    rw [arena_rules]
    exact flatMapM_map (automaton.arena_cluster? (some focus))
  rw [Arena.focused?, arena_ruleName?, clusters, arena_crossing?]
  rfl

theorem arena_edgesFrom? (sources : List (Fin automaton.size)) :
    (sources.map fun source => ((automaton.state source).plain, source.val)).flatMapM
        (fun entry => entry.1.transitions.flatMapM (automaton.arena.edges? entry.2 none)) =
      some ((automaton.edgesFrom sources).map .edge) := by
  rw [edgesFrom, List.map_flatMap]
  apply flatMapM_map
  intro source
  rw [List.map_flatMap]
  exact flatMapM_map (automaton.arena_edges? source none)

theorem arena_full? (title : String) :
    automaton.arena.full? title = some (automaton.full title) := by
  have nodes : automaton.arena.numbered.mapM automaton.arena.fullNode? =
      some (automaton.indices.map fun index =>
        .node (automaton.node (.inGraph (Color.ofOwner (automaton.owner index))) index)) := by
    rw [arena_numbered]
    apply mapM_map
    intro index
    rw [Arena.fullNode?, arena_label?]
    rfl
  rw [Arena.full?, nodes, arena_numbered, arena_edgesFrom?]
  rfl

theorem arena_flat? (rule : Fin automaton.ruleCount) :
    automaton.arena.flat? rule = some (automaton.flat rule) := by
  have nodes : (automaton.arena.statesOfRule rule).mapM (automaton.arena.node? .plain) =
      some ((automaton.statesOfRule rule).map (.node ∘ automaton.node .plain)) := by
    rw [arena_statesOfRule]
    exact mapM_map (automaton.arena_node? .plain)
  have edges : ((automaton.arena.statesOfRule rule).flatMapM fun index => do
      (← automaton.arena.state? index).transitions.flatMapM
        (automaton.arena.edges? index none)) =
      some ((automaton.edgesFrom (automaton.statesOfRule rule)).map .edge) := by
    rw [arena_statesOfRule, edgesFrom, List.map_flatMap]
    apply flatMapM_map
    intro source
    rw [arena_state?, List.map_flatMap]
    exact flatMapM_map (automaton.arena_edges? source none)
  rw [Arena.flat?, arena_ruleName?, nodes, edges]
  rfl

theorem arena_documents? (options : Options) :
    automaton.arena.documents? options = some (automaton.documents options) := by
  have focused : automaton.arena.rules.mapM automaton.arena.focused? =
      some (automaton.rules.map automaton.focused) := by
    rw [arena_rules]
    exact mapM_map automaton.arena_focused?
  have flat : automaton.arena.rules.mapM automaton.arena.flat? =
      some (automaton.rules.map automaton.flat) := by
    rw [arena_rules]
    exact mapM_map automaton.arena_flat?
  rw [Arena.documents?, documents, focused, flat, arena_full?]
  cases options.focused <;> cases options.full <;> cases options.flat <;> rfl

end Automaton
end TransitionNetwork
