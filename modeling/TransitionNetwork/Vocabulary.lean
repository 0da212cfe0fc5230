/-!
# Vocabulary

The names of symbol codes. A code has up to three names; the one shown is the display name if
there is one, then the literal name, then the symbolic name, and at last the decimal code itself.
-/

set_option autoImplicit false

namespace TransitionNetwork

/-- Each table gives the name of a code at the position of the code. -/
structure Vocabulary where
  literalNames : Array (Option String) := #[]
  symbolicNames : Array (Option String) := #[]
  displayNames : Array (Option String) := #[]
  deriving DecidableEq

namespace Vocabulary

/-- The code of the end of input. -/
def endOfInput : Int32 := -1

/-- Negative codes stand in no table. -/
def entry (names : Array (Option String)) (symbol : Int32) : Option String :=
  match symbol.toInt with
  | .ofNat position => names[position]?.join
  | .negSucc _ => none

def ofSymbolicNames (names : Array (Option String)) : Vocabulary where
  symbolicNames := names

/-- The end of input keeps its name in every vocabulary. -/
def displayName (vocabulary : Vocabulary) (symbol : Int32) : String :=
  if symbol = endOfInput then "EOF"
  else
    ((entry vocabulary.displayNames symbol).or <|
      (entry vocabulary.literalNames symbol).or <|
        entry vocabulary.symbolicNames symbol).getD (toString symbol.toInt)

end Vocabulary

end TransitionNetwork
