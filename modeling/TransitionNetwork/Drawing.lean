import TransitionNetwork.Automaton.Query
import TransitionNetwork.Dot.Line

/-!
# Drawing an automaton

The parts that documents are made of: edges of transitions, clusters of rules, and edges between
clusters. With a focus, a part shows only what lies next to the rule in focus.
-/

set_option autoImplicit false

namespace TransitionNetwork.Automaton

open Dot

variable (automaton : Automaton)

/-- The labels of the edges drawn for a transition: one edge without a label if it accepts
nothing, else one edge for each symbol. -/
def edgeLabels (label : Label) : List (Option String) :=
  match label with
  | .epsilon => [none]
  | .symbols codes => codes.map fun code => some (automaton.vocabulary.displayName code)

def edges (source : Fin automaton.size) (transition : Transition automaton.size)
    (color : Option String) : List Edge :=
  (automaton.edgeLabels transition.label).map fun label =>
    { source := automaton.nodeId source, target := automaton.nodeId transition.target, label, color }

def node (fill : Fill) (index : Fin automaton.size) : Node where
  id := automaton.nodeId index
  label := automaton.label index
  fill := fill

/-! ## Clusters -/

/-- The states drawn in the cluster of a rule: its own, but no orphans, and under a focus only
those that are connected to the rule in focus. -/
def clusterStates (rule : Nat) (focus : Option Nat) : List (Fin automaton.size) :=
  (automaton.statesOfRule rule).filter fun index =>
    !automaton.isOrphan index && focus.all (automaton.isConnected index)

/-- The transitions of a state that are drawn in the cluster of a rule: those that stay in the
rule, and under a focus only those that lead into the rule in focus. -/
def clusterTransitions (rule : Nat) (focus : Option Nat) (source : Fin automaton.size) :
    List (Transition automaton.size) :=
  (automaton.transitions source).filter fun transition =>
    automaton.reaches transition rule && focus.all (automaton.reaches transition)

def clusterEdges (rule : Nat) (focus : Option Nat) : List Edge :=
  (automaton.statesOfRule rule).flatMap fun source =>
    (automaton.clusterTransitions rule focus source).flatMap fun transition =>
      automaton.edges source transition (some (Color.ofRule rule).dark.hex)

/-- The lines of a rule's cluster. Under a focus, the clusters of all other rules have a dotted
border. -/
def cluster (rule : Fin automaton.ruleCount) (focus : Option Nat) : List Line :=
  .openCluster rule ::
    (if focus.all (· == rule.val) then [] else [.dottedBorder]) ++
    (automaton.clusterStates rule focus).map
      (.node ∘ automaton.node (.inCluster (Color.ofRule rule))) ++
    (automaton.clusterEdges rule focus).map .edge ++
    [.clusterLabel (automaton.ruleName rule), .background (Color.ofRule rule).light, .close]

def cluster? (rule : Nat) (focus : Option Nat) : Option (List Line) :=
  (automaton.rule? rule).map (automaton.cluster · focus)

/-! ## Edges between clusters -/

/-- The transitions of a state that leave its rule, and under a focus only those with either end
in the rule in focus. -/
def crossTransitions (focus : Option Nat) (source : Fin automaton.size) :
    List (Transition automaton.size) :=
  (automaton.transitions source).filter fun transition =>
    automaton.owner transition.target != automaton.owner source &&
      focus.all fun rule =>
        automaton.reaches transition rule || automaton.owner source == some rule

/-- Every edge between clusters, in the stroke of the rule that it leads to. -/
def crossEdges (focus : Option Nat) : List Edge :=
  automaton.indices.flatMap fun source =>
    (automaton.crossTransitions focus source).flatMap fun transition =>
      automaton.edges source transition
        (some (Color.ofOwner (automaton.owner transition.target)).dark.hex)

def crossing (focus : Option Nat) : List Line :=
  (automaton.crossEdges focus).map .edge

/-! ## Whole graphs -/

/-- Every edge that leaves one of the states, without a colour. -/
def edgesFrom (sources : List (Fin automaton.size)) : List Edge :=
  sources.flatMap fun source =>
    (automaton.transitions source).flatMap fun transition => automaton.edges source transition none

/-- All clusters and the edges between them, under a focus. -/
def focusedGraph (focus : Fin automaton.ruleCount) : List Line :=
  [.openGraph "ATN", .separateCrossings] ++
    automaton.rules.flatMap (automaton.cluster · (some focus)) ++
    automaton.crossing (some focus) ++
    captionLines ("ATN for rule " ++ automaton.ruleName focus) ++
    [.close]

/-- Every state and every transition, without clusters. -/
def fullGraph (title : String) : List Line :=
  .openGraph "ATN" ::
    automaton.indices.map
      (fun index => .node (automaton.node (.inGraph (Color.ofOwner (automaton.owner index))) index)) ++
    (automaton.edgesFrom automaton.indices).map .edge ++
    captionLines title ++
    [.close]

/-- The states of one rule, orphans included, and the transitions that leave them. -/
def flatGraph (rule : Fin automaton.ruleCount) : List Line :=
  .openGraph ("ATN_for_" ++ automaton.ruleName rule) ::
    (automaton.statesOfRule rule).map (.node ∘ automaton.node .plain) ++
    (automaton.edgesFrom (automaton.statesOfRule rule)).map .edge ++
    captionLines ("ATN for " ++ automaton.ruleName rule) ++
    [.close]

end TransitionNetwork.Automaton
