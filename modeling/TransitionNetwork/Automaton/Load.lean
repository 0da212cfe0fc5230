import TransitionNetwork.Automaton.Build
import TransitionNetwork.Snapshot.Reader

/-!
# Loading an automaton

From JSON text to an automaton. The text is read to its end before the snapshot is checked.
-/

set_option autoImplicit false

namespace TransitionNetwork

inductive LoadError where
  | unreadable (error : Json.Error)
  | rejected (rejection : Rejection)

def LoadError.message : LoadError → String
  | unreadable error => "ATN snapshot JSON error: " ++ error.message
  | rejected rejection => rejection.message

namespace Automaton

def load (source : Json.Source) (input : Json.Bytes) : Except LoadError Automaton :=
  match Snapshot.ofJson source input with
  | .error error => .error (.unreadable error)
  | .ok snapshot =>
    match ofSnapshot snapshot with
    | .error rejection => .error (.rejected rejection)
    | .ok automaton => .ok automaton

/-- Loads an automaton from a text at hand. -/
def ofText (text : String) : Except LoadError Automaton :=
  load .text text.toUTF8.data.toList

/-- Loads an automaton from bytes as they arrive; they need not be UTF-8. -/
def ofStream (bytes : ByteArray) : Except LoadError Automaton :=
  load .stream bytes.data.toList

end Automaton

end TransitionNetwork
