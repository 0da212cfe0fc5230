import TransitionNetwork.Json.Record
import TransitionNetwork.Snapshot

/-!
# Reading snapshots

The JSON form of a snapshot. Of its fields only the rule names, the states, the numbers of states
and the targets of transitions are required; every other has a default.
-/

set_option autoImplicit false

namespace TransitionNetwork

open Json Reader

/-! ## Kinds of states -/

/-- The tag of a kind, whose opening quote is behind. -/
def StateKind.tagReader : Reader StateKind := do
  let tag ← text
  match StateKind.ofTag? tag with
  | some kind => pure kind
  | none => fail (.unknownVariant tag (StateKind.all.map StateKind.tag)) .behind

/-- The rest of an object whose one key is the tag of a kind and whose value is `null`. -/
def StateKind.objectReader : Reader StateKind := do
  match ← token with
  | none => fail (.endOf .object) .ahead
  | some Byte.closeBrace => fail .noValue .ahead
  | some Byte.quote =>
    skip
    let kind ← StateKind.tagReader
    colon
    null "unit"
    match ← token with
    | none => fail (.endOf .object) .behind
    | some Byte.closeBrace =>
      skip
      pure kind
    | some _ => fail .noValue .ended
  | some _ => fail .keyNotText .ahead

def StateKind.reader : Reader StateKind := do
  match ← token with
  | none => fail (.endOf .value) .ahead
  | some Byte.quote =>
    skip
    StateKind.tagReader
  | some Byte.openBrace =>
    skip
    StateKind.objectReader
  | some _ => fail .noValue .ahead

/-! ## Vocabularies -/

def namesReader : Reader (Array (Option String)) :=
  List.toArray <$> array (optional string)

structure Vocabulary.Draft where
  literalNames : Option (Array (Option String)) := none
  symbolicNames : Option (Array (Option String)) := none
  displayNames : Option (Array (Option String)) := none

def Vocabulary.record : Record Vocabulary.Draft Vocabulary where
  name := "Vocabulary"
  fields := [
    .of "literal_names" namesReader (·.literalNames) ({ · with literalNames := · }),
    .of "symbolic_names" namesReader (·.symbolicNames) ({ · with symbolicNames := · }),
    .of "display_names" namesReader (·.displayNames) ({ · with displayNames := · })]
  empty := {}
  finish draft := .ok {
    literalNames := draft.literalNames.getD #[]
    symbolicNames := draft.symbolicNames.getD #[]
    displayNames := draft.displayNames.getD #[] }

namespace Snapshot

/-- The value of a required field. -/
def require {α : Type} (name : String) : Option α → Except String α
  | some value => .ok value
  | none => .error name

/-! ## Transitions -/

structure Transition.Draft where
  target : Option UInt32 := none
  epsilon : Option Bool := none
  symbols : Option (List Int32) := none

def Transition.record : Record Transition.Draft Transition where
  name := "TransitionData"
  fields := [
    .of "target" unsigned32 (·.target) ({ · with target := · }),
    .of "epsilon" boolean (·.epsilon) ({ · with epsilon := · }),
    .of "symbols" (array signed32) (·.symbols) ({ · with symbols := · })]
  empty := {}
  finish draft := do
    let target ← require "target" draft.target
    return { target, epsilon := draft.epsilon.getD false, symbols := draft.symbols.getD [] }

/-! ## States -/

structure State.Draft where
  id : Option UInt32 := none
  ruleIndex : Option Int32 := none
  kind : Option StateKind := none
  transitions : Option (List Transition) := none

def State.record : Record State.Draft State where
  name := "StateData"
  fields := [
    .of "id" unsigned32 (·.id) ({ · with id := · }),
    .of "rule_index" signed32 (·.ruleIndex) ({ · with ruleIndex := · }),
    .of "kind" StateKind.reader (·.kind) ({ · with kind := · }),
    .of "transitions" (array Transition.record.reader) (·.transitions)
      ({ · with transitions := · })]
  empty := {}
  finish draft := do
    let id ← require "id" draft.id
    return {
      id
      ruleIndex := draft.ruleIndex.getD (-1)
      kind := draft.kind.getD .basic
      transitions := draft.transitions.getD [] }

/-! ## Snapshots -/

structure Draft where
  ruleNames : Option (List String) := none
  vocabulary : Option Vocabulary := none
  states : Option (List State) := none

def record : Record Draft Snapshot where
  name := "AtnData"
  fields := [
    .of "rule_names" (array string) (·.ruleNames) ({ · with ruleNames := · }),
    .of "vocabulary" Vocabulary.record.reader (·.vocabulary) ({ · with vocabulary := · }),
    .of "states" (array State.record.reader) (·.states) ({ · with states := · })]
  empty := {}
  finish draft := do
    let ruleNames ← require "rule_names" draft.ruleNames
    let states ← require "states" draft.states
    return { ruleNames, vocabulary := draft.vocabulary.getD {}, states }

/-- Reads a whole text as a snapshot. -/
def ofJson (source : Source) (input : Bytes) : Except Json.Error Snapshot :=
  record.reader.parse source input

end Snapshot

end TransitionNetwork
