import TransitionNetwork.StateKind
import TransitionNetwork.Vocabulary

/-!
# Snapshots

A snapshot is a network as it is handed over: states name each other and their rules by number,
and nothing is known yet about whether those numbers make sense.
-/

set_option autoImplicit false

namespace TransitionNetwork

/-- The symbols of an epsilon transition carry no meaning. -/
structure Snapshot.Transition where
  target : UInt32
  epsilon : Bool := false
  symbols : List Int32 := []
  deriving DecidableEq

/-- The rule index `-1` marks a state that no rule owns. -/
structure Snapshot.State where
  id : UInt32
  ruleIndex : Int32 := -1
  kind : StateKind := .basic
  transitions : List Transition := []
  deriving DecidableEq

structure Snapshot where
  ruleNames : List String
  vocabulary : Vocabulary := {}
  states : List Snapshot.State
  deriving DecidableEq

end TransitionNetwork
