import TransitionNetwork.Json.Writer
import TransitionNetwork.Snapshot

/-!
# Writing snapshots

A snapshot is written with all its fields, defaults included, in their declared order.
-/

set_option autoImplicit false

namespace TransitionNetwork

open Json

def StateKind.toJson (kind : StateKind) : String :=
  writeString kind.tag

def Vocabulary.toJson (vocabulary : Vocabulary) : String :=
  writeObject [
    ("literal_names", writeArray (writeOptional writeString) vocabulary.literalNames.toList),
    ("symbolic_names", writeArray (writeOptional writeString) vocabulary.symbolicNames.toList),
    ("display_names", writeArray (writeOptional writeString) vocabulary.displayNames.toList)]

namespace Snapshot

def Transition.toJson (transition : Transition) : String :=
  writeObject [
    ("target", writeInteger transition.target.toNat),
    ("epsilon", writeBoolean transition.epsilon),
    ("symbols", writeArray (writeInteger ·.toInt) transition.symbols)]

def State.toJson (state : State) : String :=
  writeObject [
    ("id", writeInteger state.id.toNat),
    ("rule_index", writeInteger state.ruleIndex.toInt),
    ("kind", state.kind.toJson),
    ("transitions", writeArray Transition.toJson state.transitions)]

def toJson (snapshot : Snapshot) : String :=
  writeObject [
    ("rule_names", writeArray writeString snapshot.ruleNames),
    ("vocabulary", snapshot.vocabulary.toJson),
    ("states", writeArray State.toJson snapshot.states)]

end Snapshot

end TransitionNetwork
