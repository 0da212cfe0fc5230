import TransitionNetwork.Vocabulary
import TransitionNetwork.StateKind

/-!
# Automata

An automaton is a network whose references are sound by their types: a transition points at a
state, a state points at its rule. The sources of the transitions into each state are listed
beside it.
-/

set_option autoImplicit false

namespace TransitionNetwork

/-- What a transition accepts: nothing, or any of the symbols. -/
inductive Label where
  | epsilon
  | symbols (codes : List Int32)
  deriving DecidableEq

structure Transition (size : Nat) where
  target : Fin size
  label : Label
  deriving DecidableEq

/-- A state among `size` states, owned by one of `ruleCount` rules or by none. -/
structure State (size ruleCount : Nat) where
  id : UInt32
  rule : Option (Fin ruleCount)
  kind : StateKind
  transitions : List (Transition size)
  deriving DecidableEq

/-- The number of the rule that owns the state. -/
def State.owner {size ruleCount : Nat} (state : State size ruleCount) : Option Nat :=
  state.rule.map Fin.val

/-- The name of the state as a node of a graph. -/
def State.nodeId {size ruleCount : Nat} (state : State size ruleCount) : String :=
  "state" ++ toString state.id.toNat

/-- Notes that `source` has a transition to `target`. Sources are met in order, so one that was
noted before is the last one noted. -/
def recordSource {size : Nat} (sources : Vector (Array (Fin size)) size) (source target : Fin size) :
    Vector (Array (Fin size)) size :=
  if sources[target].back? = some source then sources
  else sources.set target (sources[target].push source)

/-- The sources of the transitions into each state. -/
def sourcesByTarget {size ruleCount : Nat} (states : Vector (State size ruleCount) size) :
    Vector (Array (Fin size)) size :=
  (List.finRange size).foldl
    (fun sources source =>
      states[source].transitions.foldl
        (fun sources transition => recordSource sources source transition.target) sources)
    (Vector.replicate size #[])

/-- Documents are called after rules, so the name of a rule is one ordinary path component. -/
def IsUsableRuleName (name : String) : Prop :=
  name ≠ "" ∧ name ≠ "." ∧ name ≠ ".." ∧ '/' ∉ name.toList ∧ '\\' ∉ name.toList

instance : DecidablePred IsUsableRuleName :=
  fun _ => inferInstanceAs (Decidable (_ ∧ _ ∧ _ ∧ _ ∧ _))

structure Automaton where
  ruleNames : Array String
  vocabulary : Vocabulary
  size : Nat
  states : Vector (State size ruleNames.size) size
  predecessors : Vector (Array (Fin size)) size := sourcesByTarget states
  predecessors_eq : predecessors = sourcesByTarget states := by rfl
  usable_of_mem_ruleNames : ∀ name ∈ ruleNames, IsUsableRuleName name
  ruleNames_nodup : ruleNames.toList.Nodup
  ids_nodup : (states.toList.map (·.id)).Nodup

end TransitionNetwork
