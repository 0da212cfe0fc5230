import TransitionNetwork.Dot.Line

/-!
# Emitters

Lines can also be written into a buffer that is handed down from emitter to emitter. An emitter
could do anything to the buffer that it is given.
-/

set_option autoImplicit false

namespace TransitionNetwork.Dot

/-- An action on a buffer, which it may read and change as it likes. -/
abbrev Emitter (α : Type) :=
  StateM String α

/-- What the buffer holds after an action. -/
def after (emitter : Emitter Unit) (buffer : String) : String :=
  (emitter.run buffer).2

def emit (text : String) : Emitter Unit :=
  modify (· ++ text)

def emitLine (line : Line) : Emitter Unit := do
  emit line.text
  emit "\n"

/-! ## Edges and captions -/

/-- The attributes are gathered first, since they are left out with their brackets if there are
none. -/
def emitEdge (edge : Edge) : Emitter Unit := do
  emit ("    " ++ edge.source ++ " -> " ++ edge.target)
  let mut attributes := []
  if let some label := edge.label then
    attributes := attributes ++ ["label=" ++ quote label]
  if let some color := edge.color then
    attributes := attributes ++ ["color=\"" ++ color ++ "\""]
  unless attributes.isEmpty do
    emit (" [" ++ ", ".intercalate attributes ++ "]")
  emit "\n"

def emitEdges (drawn : List Edge) : Emitter Unit := do
  for edge in drawn do
    emitEdge edge

def emitCaption (text : String) : Emitter Unit := do
  emitLine .captionAtTop
  emitLine (.caption text)

end TransitionNetwork.Dot
