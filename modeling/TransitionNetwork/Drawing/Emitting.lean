import TransitionNetwork.Dot.Emitter
import TransitionNetwork.Drawing

/-!
# Emitting a drawing

The parts of a view, written into one buffer in loops that pass over the states and transitions not
to be drawn.
-/

set_option autoImplicit false

namespace TransitionNetwork.Automaton

open Dot

variable (automaton : Automaton)

def emitTransition (source : Fin automaton.size) (transition : Transition automaton.size)
    (color : Option String) : Emitter Unit := do
  let source := automaton.nodeId source
  let target := automaton.nodeId transition.target
  match transition.label with
  | .epsilon => emitEdge { source, target, color }
  | .symbols codes =>
    for code in codes do
      emitEdge { source, target, label := automaton.vocabulary.displayName code, color }

/-! ## Clusters -/

def emitBorder (rule : Nat) (focus : Option Nat) : Emitter Unit := do
  if focus.any (· != rule) then
    emitLine .dottedBorder

def emitClusterNodes (rule : Nat) (focus : Option Nat) : Emitter Unit := do
  for index in automaton.statesOfRule rule do
    if automaton.isOrphan index then continue
    if focus.any fun focus => !automaton.isConnected index focus then continue
    emitLine (.node (automaton.node (.inCluster (Color.ofRule rule)) index))

def emitClusterEdges (rule : Nat) (focus : Option Nat) : Emitter Unit := do
  for source in automaton.statesOfRule rule do
    for transition in automaton.transitions source do
      if automaton.owner transition.target != some rule then continue
      if focus.any fun focus => !automaton.reaches transition focus then continue
      automaton.emitTransition source transition (some (Color.ofRule rule).dark.hex)

def emitCluster (rule : Fin automaton.ruleCount) (focus : Option Nat) : Emitter Unit := do
  emitLine (.openCluster rule)
  emitBorder rule focus
  automaton.emitClusterNodes rule focus
  automaton.emitClusterEdges rule focus
  emitLine (.clusterLabel (automaton.ruleName rule))
  emitLine (.background (Color.ofRule rule).light)
  emitLine .close

/-! ## Edges between clusters -/

def emitCrossing (focus : Option Nat) : Emitter Unit := do
  for source in automaton.indices do
    for transition in automaton.transitions source do
      let target := automaton.owner transition.target
      if target == automaton.owner source then continue
      if focus.any fun focus =>
          !automaton.reaches transition focus && automaton.owner source != some focus then continue
      automaton.emitTransition source transition (some (Color.ofOwner target).dark.hex)

/-! ## Whole views -/

def emitClusters (rules : List (Fin automaton.ruleCount)) (focus : Option Nat) : Emitter Unit := do
  for rule in rules do
    automaton.emitCluster rule focus

/-- The clusters of the rules, then the edges between clusters. -/
def emitParts (rules : List (Fin automaton.ruleCount)) (focus : Option Nat) : Emitter Unit := do
  automaton.emitClusters rules focus
  automaton.emitCrossing focus

def emitFocused (focus : Fin automaton.ruleCount) : Emitter Unit := do
  emitLine (.openGraph "ATN")
  emitLine .separateCrossings
  automaton.emitParts automaton.rules (some focus)
  emitCaption ("ATN for rule " ++ automaton.ruleName focus)
  emitLine .close

end TransitionNetwork.Automaton
