import TransitionNetwork.Arena
import TransitionNetwork.Document

/-!
# Drawing an arena

Every loop of the views, with all lookups that it makes.
-/

set_option autoImplicit false

namespace TransitionNetwork

open Dot

namespace Arena

variable (arena : Arena)

def edgeLabels (label : Label) : List (Option String) :=
  match label with
  | .epsilon => [none]
  | .symbols codes => codes.map fun code => some (arena.vocabulary.displayName code)

def edges? (source : Nat) (color : Option String) (transition : Transition) :
    Option (List Line) := do
  let source ← arena.nodeId? source
  let target ← arena.nodeId? transition.target
  return (arena.edgeLabels transition.label).map fun label => .edge { source, target, label, color }

def node? (fill : Fill) (index : Nat) : Option Line := do
  return .node { id := ← arena.nodeId? index, label := ← arena.label? index, fill }

/-- Without a focus nothing is looked up. -/
def allows? (allowed? : Nat → Option Bool) : Option Nat → Option Bool
  | none => some true
  | some focus => allowed? focus

def clusterNode? (rule : Nat) (focus : Option Nat) (index : Nat) : Option (List Line) := do
  if ← arena.isOrphan? index then return []
  if ← allows? (arena.isConnected? index) focus then
    return [← arena.node? (.inCluster (Color.ofRule rule)) index]
  return []

def clusterTransition? (rule : Nat) (focus : Option Nat) (source : Nat)
    (transition : Transition) : Option (List Line) := do
  if ← arena.reaches? transition rule then
    if ← allows? (arena.reaches? transition) focus then
      return ← arena.edges? source (some (Color.ofRule rule).dark.hex) transition
  return []

def clusterEdges? (rule : Nat) (focus : Option Nat) (source : Nat) : Option (List Line) := do
  (← arena.state? source).transitions.flatMapM (arena.clusterTransition? rule focus source)

def cluster? (focus : Option Nat) (rule : Nat) : Option (List Line) := do
  let name ← arena.ruleName? rule
  let nodes ← (arena.statesOfRule rule).flatMapM (arena.clusterNode? rule focus)
  let edges ← (arena.statesOfRule rule).flatMapM (arena.clusterEdges? rule focus)
  return .openCluster rule ::
    (if focus.all (· == rule) then [] else [.dottedBorder]) ++ nodes ++ edges ++
    [.clusterLabel name, .background (Color.ofRule rule).light, .close]

def crossTransition? (focus owner : Option Nat) (source : Nat) (transition : Transition) :
    Option (List Line) := do
  let target ← arena.owner? transition.target
  if target = owner then return []
  if ← allows? (fun rule => return (← arena.reaches? transition rule) || owner == some rule) focus
  then
    return ← arena.edges? source (some (Color.ofOwner target).dark.hex) transition
  return []

def crossing? (focus : Option Nat) : Option (List Line) :=
  arena.numbered.flatMapM fun entry =>
    entry.1.transitions.flatMapM (arena.crossTransition? focus entry.1.rule entry.2)

def rules : List Nat :=
  List.range arena.ruleNames.size

def focused? (focus : Nat) : Option Document := do
  let name ← arena.ruleName? focus
  let clusters ← arena.rules.flatMapM (arena.cluster? (some focus))
  let crossing ← arena.crossing? (some focus)
  return {
    name := Document.focusedName name
    view := .focused focus
    content := render ([.openGraph "ATN", .separateCrossings] ++ clusters ++ crossing ++
      captionLines ("ATN for rule " ++ name) ++ [.close]) }

def fullNode? (entry : State × Nat) : Option Line := do
  return .node {
    id := entry.1.nodeId
    label := ← arena.label? entry.2
    fill := .inGraph (Color.ofOwner entry.1.rule) }

def full? (title : String) : Option Document := do
  let nodes ← arena.numbered.mapM arena.fullNode?
  let edges ← arena.numbered.flatMapM fun entry =>
    entry.1.transitions.flatMapM (arena.edges? entry.2 none)
  return {
    name := Document.fullName
    view := .full
    content := render (.openGraph "ATN" :: nodes ++ edges ++ captionLines title ++ [.close]) }

def flat? (rule : Nat) : Option Document := do
  let name ← arena.ruleName? rule
  let nodes ← (arena.statesOfRule rule).mapM (arena.node? .plain)
  let edges ← (arena.statesOfRule rule).flatMapM fun index => do
    (← arena.state? index).transitions.flatMapM (arena.edges? index none)
  return {
    name := Document.flatName rule
    view := .flat rule
    content := render (.openGraph ("ATN_for_" ++ name) :: nodes ++ edges ++
      captionLines ("ATN for " ++ name) ++ [.close]) }

def documents? (options : Options) : Option (List Document) := do
  let focused ← if options.focused then arena.rules.mapM arena.focused? else some []
  let full ← if options.full then ([·]) <$> arena.full? options.title else some []
  let flat ← if options.flat then arena.rules.mapM arena.flat? else some []
  return focused ++ full ++ flat

end Arena

end TransitionNetwork
