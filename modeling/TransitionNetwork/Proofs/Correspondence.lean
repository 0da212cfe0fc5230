import TransitionNetwork.Proofs.DeclaredNodes

/-!
# Corresponding automata

What is drawn of a state or of an arrow depends on numbers, kinds, owners and names. It does not
depend on where the state stands among the others, so automata whose states correspond draw
corresponding states and arrows alike.
-/

set_option autoImplicit false

namespace TransitionNetwork

/-- The same transition in another automaton. -/
def Transition.relocate {size size' : Nat} (place : Fin size → Fin size')
    (transition : Transition size) : Transition size' where
  target := place transition.target
  label := transition.label

def Arrow.relocate {size size' : Nat} (place : Fin size → Fin size') (arrow : Arrow size) :
    Arrow size' where
  source := place arrow.source
  transition := arrow.transition.relocate place

namespace Automaton

open Dot

/-- Each state of the first automaton has a place in the second, where it has the same number, kind
and owner. Of transitions nothing is said. -/
structure Corresponds (first second : Automaton) (place : Fin first.size → Fin second.size) :
    Prop where
  ruleNames_eq : second.ruleNames = first.ruleNames
  vocabulary_eq : second.vocabulary = first.vocabulary
  id_eq : ∀ index, (second.state (place index)).id = (first.state index).id
  kind_eq : ∀ index, (second.state (place index)).kind = (first.state index).kind
  owner_eq : ∀ index, second.owner (place index) = first.owner index

theorem finRange_eq_map_cast {count count' : Nat} (equal : count = count') :
    List.finRange count' = (List.finRange count).map (Fin.cast equal) := by
  subst equal
  simp

theorem label_eq (automaton : Automaton) (index : Fin automaton.size) :
    automaton.label index =
      match automaton.owner index with
      | some rule =>
        "[" ++ toString (automaton.state index).id.toNat ++ "] " ++
          (automaton.state index).kind.tag ++ " " ++ automaton.ruleNames[rule]?.getD ""
      | none => automaton.nodeId index := by
  simp only [label, owner, State.owner]
  cases (automaton.state index).rule with
  | none => rfl
  | some rule => simp [ruleName]

namespace Corresponds

variable {first second : Automaton} {place : Fin first.size → Fin second.size}
  (same : Corresponds first second place)

include same

theorem ruleCount_eq : second.ruleCount = first.ruleCount :=
  congrArg Array.size same.ruleNames_eq

theorem rules_eq : second.rules = first.rules.map (Fin.cast same.ruleCount_eq.symm) :=
  finRange_eq_map_cast same.ruleCount_eq.symm

theorem nodeId_eq (index : Fin first.size) : second.nodeId (place index) = first.nodeId index := by
  unfold nodeId State.nodeId
  rw [same.id_eq]

theorem place_injective {index index' : Fin first.size} (equal : place index = place index') :
    index = index' := by
  apply first.nodeId_injective
  rw [← same.nodeId_eq, ← same.nodeId_eq, equal]

theorem label_eq (index : Fin first.size) : second.label (place index) = first.label index := by
  rw [Automaton.label_eq, Automaton.label_eq, same.owner_eq, same.id_eq, same.kind_eq,
    same.ruleNames_eq, same.nodeId_eq]

theorem node_eq (fill : Fill) (index : Fin first.size) :
    second.node fill (place index) = first.node fill index := by
  unfold node
  rw [same.nodeId_eq, same.label_eq]

theorem ruleName_eq {rule : Fin first.ruleCount} {rule' : Fin second.ruleCount}
    (equal : rule'.val = rule.val) : second.ruleName rule' = first.ruleName rule := by
  simp only [ruleName, Fin.getElem_fin, equal, same.ruleNames_eq]

/-! ## Arrows -/

theorem arrowEdges_eq (color : Option String) (arrow : Arrow first.size) :
    second.arrowEdges color (arrow.relocate place) = first.arrowEdges color arrow := by
  unfold arrowEdges
  simp only [Arrow.relocate, Arrow.target, Transition.relocate, same.nodeId_eq,
    same.vocabulary_eq]

theorem owner_source_eq (arrow : Arrow first.size) :
    second.owner (arrow.relocate place).source = first.owner arrow.source :=
  same.owner_eq arrow.source

theorem owner_target_eq (arrow : Arrow first.size) :
    second.owner (arrow.relocate place).target = first.owner arrow.target :=
  same.owner_eq arrow.target

theorem strokedEdges_eq (arrow : Arrow first.size) :
    second.strokedEdges (arrow.relocate place) = first.strokedEdges arrow := by
  rw [strokedEdges, strokedEdges, stroke, stroke, same.owner_target_eq]
  exact same.arrowEdges_eq _ arrow

theorem isInside_eq (focus : Option Nat) (arrow : Arrow first.size) :
    second.isInside focus (arrow.relocate place) = first.isInside focus arrow := by
  rw [Bool.eq_iff_iff, isInside_iff, isInside_iff, same.owner_source_eq, same.owner_target_eq]

theorem isAcross_eq (focus : Option Nat) (arrow : Arrow first.size) :
    second.isAcross focus (arrow.relocate place) = first.isAcross focus arrow := by
  rw [Bool.eq_iff_iff, isAcross_iff, isAcross_iff, same.owner_source_eq, same.owner_target_eq]

end Corresponds

end Automaton

end TransitionNetwork
