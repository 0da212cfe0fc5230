import TransitionNetwork.Dot.Quoted

/-!
# Pieces of a line

A line is put together from pieces, so that each name and label it carries can stand in a quoted
piece of its own.
-/

set_option autoImplicit false

namespace TransitionNetwork.Dot

inductive Piece where
  | bare (text : String)
  | quoted (text : String)
  /-- Stands between quotes as it is. -/
  | verbatim (text : String)
  deriving DecidableEq

namespace Piece

def text : Piece → String
  | bare text => text
  | quoted text => quote text
  | verbatim text => "\"" ++ text ++ "\""

def join (pieces : List Piece) : String :=
  String.join (pieces.map text)

end Piece

end TransitionNetwork.Dot
