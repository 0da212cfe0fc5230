import TransitionNetwork.Automaton

/-!
# Questions to an automaton

States and declared rules are asked about by `Fin` positions. Where a rule is only compared with,
as the focus of a view is, any number may stand for it: an undeclared one owns no state.
The lookups whose names end in a question mark take plain numbers and answer `none` exactly when
the number is out of range.
-/

set_option autoImplicit false

namespace TransitionNetwork.Automaton

variable (automaton : Automaton)

abbrev ruleCount : Nat :=
  automaton.ruleNames.size

def ruleName (rule : Fin automaton.ruleCount) : String :=
  automaton.ruleNames[rule]

def rule? (rule : Nat) : Option (Fin automaton.ruleCount) :=
  if h : rule < automaton.ruleCount then some ⟨rule, h⟩ else none

def ruleName? (rule : Nat) : Option String :=
  (automaton.rule? rule).map automaton.ruleName

def rules : List (Fin automaton.ruleCount) :=
  List.finRange automaton.ruleCount

def indices : List (Fin automaton.size) :=
  List.finRange automaton.size

def index? (state : Nat) : Option (Fin automaton.size) :=
  if h : state < automaton.size then some ⟨state, h⟩ else none

def state (index : Fin automaton.size) : State automaton.size automaton.ruleCount :=
  automaton.states[index]

def state? (index : Nat) : Option (State automaton.size automaton.ruleCount) :=
  (automaton.index? index).map automaton.state

def owner (index : Fin automaton.size) : Option Nat :=
  (automaton.state index).owner

def nodeId (index : Fin automaton.size) : String :=
  (automaton.state index).nodeId

def nodeId? (index : Nat) : Option String :=
  (automaton.index? index).map automaton.nodeId

def transitions (index : Fin automaton.size) : List (Transition automaton.size) :=
  (automaton.state index).transitions

/-- The sources of the transitions into a state, each once, in order. -/
def sources (index : Fin automaton.size) : Array (Fin automaton.size) :=
  automaton.predecessors[index]

def sources? (index : Nat) : Option (Array (Fin automaton.size)) :=
  (automaton.index? index).map automaton.sources

/-- The states that a rule owns, in order; none for an undeclared rule. -/
def statesOfRule (rule : Nat) : List (Fin automaton.size) :=
  automaton.indices.filter fun index => automaton.owner index = some rule

/-- An owned state is labelled with its number, kind and rule, any other with its node name. -/
def label (index : Fin automaton.size) : String :=
  let state := automaton.state index
  match state.rule with
  | some rule =>
    "[" ++ toString state.id.toNat ++ "] " ++ state.kind.tag ++ " " ++ automaton.ruleName rule
  | none => state.nodeId

def label? (index : Nat) : Option String :=
  (automaton.index? index).map automaton.label

/-- An orphan is the source of no transition and the target of none. -/
def isOrphan (index : Fin automaton.size) : Bool :=
  (automaton.transitions index).isEmpty && (automaton.sources index).isEmpty

def isOrphan? (index : Nat) : Option Bool :=
  (automaton.index? index).map automaton.isOrphan

/-- The transition leads into the rule. -/
def reaches (transition : Transition automaton.size) (rule : Nat) : Bool :=
  automaton.owner transition.target = some rule

/-- The state is the rule's own, or one transition leads from it into the rule or from the rule
to it. -/
def isConnected (index : Fin automaton.size) (rule : Nat) : Bool :=
  automaton.owner index = some rule ||
    (automaton.transitions index).any (automaton.reaches · rule) ||
    (automaton.sources index).any fun source => automaton.owner source = some rule

def isConnected? (index rule : Nat) : Option Bool :=
  (automaton.index? index).map (automaton.isConnected · rule)

end TransitionNetwork.Automaton
