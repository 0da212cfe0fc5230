import TransitionNetwork.Dot.Piece

/-!
# Identifiers

A name is written bare when it is a letter or underscore followed by letters, digits and
underscores, all of them ASCII; any other name is written as quoted text.
-/

set_option autoImplicit false

namespace TransitionNetwork.Dot

def startsName (c : Char) : Bool :=
  c.isAlpha || c == '_'

def continuesName (c : Char) : Bool :=
  c.isAlphanum || c == '_'

def isBareName : List Char → Bool
  | [] => false
  | first :: rest => startsName first && rest.all continuesName

def Piece.ofName (name : String) : Piece :=
  if isBareName name.toList then .bare name else .quoted name

def identifier (name : String) : String :=
  (Piece.ofName name).text

end TransitionNetwork.Dot
