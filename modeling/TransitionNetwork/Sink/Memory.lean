import TransitionNetwork.OrderedMap
import TransitionNetwork.Sink

/-!
# Documents in memory
-/

set_option autoImplicit false

namespace TransitionNetwork

/-- The contents of documents by name, in the order of the first writing of each name. -/
abbrev Store := OrderedMap String String

def Store.put (store : Store) (document : Document) : Store :=
  store.insert document.name document.content

namespace Sink

/-- Keeps every document in memory and refuses none. -/
def memory {ε : Type} : Sink (StateM Store) ε := fun document =>
  modify (Store.put · document)

/-- Refuses some documents by name and hands the others on. -/
def refusing {m : Type → Type} [Monad m] {ε : Type} (refusal : String → Option ε)
    (sink : Sink m ε) : Sink m ε := fun document =>
  match refusal document.name with
  | some refusal => throw refusal
  | none => sink document

end Sink

end TransitionNetwork
