import TransitionNetwork.Arena
import TransitionNetwork.Automaton.Build

/-!
# Building an arena

From a snapshot to an arena, as to an automaton, but without any type that keeps a number in range:
the lists of sources are filled by lookups that may fail.
-/

set_option autoImplicit false

namespace TransitionNetwork.Arena

def resolveRule (ruleCount : Nat) (state : Snapshot.State) : Except Rejection (Option Nat) :=
  if state.ruleIndex = -1 then .ok none
  else
    match state.ruleIndex.toInt with
    | .ofNat rule =>
      if rule < ruleCount then .ok (some rule)
      else .error (.ruleIndexOutOfRange state.id state.ruleIndex ruleCount)
    | .negSucc _ => .error (.ruleIndexOutOfRange state.id state.ruleIndex ruleCount)

def resolveTransition (positions : Std.HashMap UInt32 Nat) (source : UInt32)
    (transition : Snapshot.Transition) : Except Rejection Transition :=
  match positions[transition.target]? with
  | none => .error (.unknownTarget source transition.target)
  | some target =>
    .ok ⟨target, if transition.epsilon then .epsilon else .symbols transition.symbols⟩

def resolveState (positions : Std.HashMap UInt32 Nat) (ruleCount : Nat)
    (state : Snapshot.State) : Except Rejection State := do
  let rule ← resolveRule ruleCount state
  let transitions ← state.transitions.mapM (resolveTransition positions state.id)
  return { id := state.id, rule, kind := state.kind, transitions }

def positionsById (states : List Snapshot.State) : Std.HashMap UInt32 Nat :=
  Std.HashMap.ofList ((states.map (·.id)).zipIdx)

def recordSource? (source : Nat) (sources : Array (Array Nat)) (transition : Transition) :
    Option (Array (Array Nat)) := do
  let noted ← sources[transition.target]?
  if noted.back? = some source then return sources
  return sources.setIfInBounds transition.target (noted.push source)

def sourcesByTarget? (states : List State) : Option (Array (Array Nat)) :=
  states.zipIdx.foldlM
    (fun sources entry => entry.1.transitions.foldlM (recordSource? entry.2) sources)
    (Array.replicate states.length #[])

/-- A rejection is an answer; only a lookup that fails is none. -/
def ofSnapshot? (snapshot : Snapshot) : Option (Except Rejection Arena) :=
  match Automaton.nameFault? ∅ snapshot.ruleNames with
  | some fault => some (.error fault)
  | none =>
    match Automaton.repeatedId? ∅ (snapshot.states.map (·.id)) with
    | some id => some (.error (.repeatedStateId id))
    | none =>
      match snapshot.states.mapM
          (resolveState (positionsById snapshot.states) snapshot.ruleNames.toArray.size) with
      | .error fault => some (.error fault)
      | .ok states => do
        let predecessors ← sourcesByTarget? states
        return .ok {
          ruleNames := snapshot.ruleNames.toArray
          vocabulary := snapshot.vocabulary
          states := states.toArray
          predecessors }

end TransitionNetwork.Arena
