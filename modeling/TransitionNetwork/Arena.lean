import TransitionNetwork.Automaton.Query

/-!
# Arenas

An arena is an automaton whose references are plain numbers, and every lookup in it may fail.
Nothing in the type keeps a number in range.
-/

set_option autoImplicit false

namespace TransitionNetwork

namespace Arena

structure Transition where
  target : Nat
  label : Label
  deriving DecidableEq

structure State where
  id : UInt32
  rule : Option Nat
  kind : StateKind
  transitions : List Transition
  deriving DecidableEq

def State.nodeId (state : State) : String :=
  "state" ++ toString state.id.toNat

end Arena

structure Arena where
  ruleNames : Array String
  vocabulary : Vocabulary
  states : Array Arena.State
  predecessors : Array (Array Nat)
  deriving DecidableEq

/-! ## Questions to an arena -/

namespace Arena

variable (arena : Arena)

/-- The states with their numbers. -/
def numbered : List (State × Nat) :=
  arena.states.toList.zipIdx

def state? (index : Nat) : Option State :=
  arena.states[index]?

def sources? (index : Nat) : Option (Array Nat) :=
  arena.predecessors[index]?

def ruleName? (rule : Nat) : Option String :=
  arena.ruleNames[rule]?

def owner? (index : Nat) : Option (Option Nat) :=
  (arena.state? index).map (·.rule)

def nodeId? (index : Nat) : Option String :=
  (arena.state? index).map (·.nodeId)

def statesOfRule (rule : Nat) : List Nat :=
  (arena.numbered.filter fun entry => entry.1.rule = some rule).map Prod.snd

def label? (index : Nat) : Option String := do
  let state ← arena.state? index
  match state.rule with
  | some rule =>
    let name ← arena.ruleName? rule
    return "[" ++ toString state.id.toNat ++ "] " ++ state.kind.tag ++ " " ++ name
  | none => return state.nodeId

/-- The sources of a state with transitions are not looked up. -/
def isOrphan? (index : Nat) : Option Bool := do
  let state ← arena.state? index
  if state.transitions.isEmpty then return (← arena.sources? index).isEmpty
  return false

def belongs? (index rule : Nat) : Option Bool :=
  (arena.owner? index).map (· = some rule)

def reaches? (transition : Transition) (rule : Nat) : Option Bool :=
  arena.belongs? transition.target rule

/-- Stops at the first thing that connects the state to the rule. -/
def isConnected? (index rule : Nat) : Option Bool := do
  let state ← arena.state? index
  if state.rule = some rule then return true
  if ← state.transitions.anyM (arena.reaches? · rule) then return true
  (← arena.sources? index).toList.anyM (arena.belongs? · rule)

end Arena

/-! ## The arena of an automaton -/

def Transition.plain {size : Nat} (transition : Transition size) : Arena.Transition where
  target := transition.target
  label := transition.label

def State.plain {size ruleCount : Nat} (state : State size ruleCount) : Arena.State where
  id := state.id
  rule := state.owner
  kind := state.kind
  transitions := state.transitions.map Transition.plain

namespace Automaton

variable (automaton : Automaton)

def arena : Arena where
  ruleNames := automaton.ruleNames
  vocabulary := automaton.vocabulary
  states := (automaton.states.map State.plain).toArray
  predecessors := (automaton.predecessors.map (·.map Fin.val)).toArray

end Automaton

end TransitionNetwork
