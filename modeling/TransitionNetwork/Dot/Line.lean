import TransitionNetwork.Color
import TransitionNetwork.Dot.Identifier

/-!
# Lines of a document

A document is a list of lines, each of which is one statement of the graph language. Every name
and label that comes from outside stands in a quoted piece, so it can neither end its line nor end
anywhere but at its own closing quote.
-/

set_option autoImplicit false

namespace TransitionNetwork.Dot

/-- How a node is filled: as part of a cluster, as part of a whole graph, or not at all. -/
inductive Fill where
  | inCluster (color : Color)
  | inGraph (color : Color)
  | plain
  deriving DecidableEq

structure Node where
  id : String
  label : String
  fill : Fill
  deriving DecidableEq

/-- The colour is the text of a colour attribute and is written as it is. -/
structure Edge where
  source : String
  target : String
  label : Option String := none
  color : Option String := none
  deriving DecidableEq

inductive Line where
  | openGraph (name : String)
  | separateCrossings
  | openCluster (rule : Nat)
  | dottedBorder
  | node (node : Node)
  | edge (edge : Edge)
  | clusterLabel (name : String)
  | background (color : Color)
  | captionAtTop
  | caption (text : String)
  | close
  deriving DecidableEq

/-! ## Text of a line -/

def Fill.pieces : Fill → List Piece
  | .inCluster color =>
    [.bare ", fillcolor=", .verbatim color.hex, .bare ", style=", .verbatim "filled"]
  | .inGraph color => [.bare ", fillcolor=", .verbatim color.hex, .bare ", style=filled"]
  | .plain => []

def Node.pieces (node : Node) : List Piece :=
  .bare ("    " ++ node.id ++ " [shape=rectangle, label=") :: .quoted node.label ::
    node.fill.pieces ++ [.bare "];"]

def Edge.attributes (edge : Edge) : List (List Piece) :=
  (edge.label.map fun label => [.bare "label=", .quoted label]).toList ++
    (edge.color.map fun color => [.bare "color=", .verbatim color]).toList

/-- The attribute list is left out when there are no attributes. -/
def Edge.pieces (edge : Edge) : List Piece :=
  .bare ("    " ++ edge.source ++ " -> " ++ edge.target) ::
    match edge.attributes with
    | [] => []
    | attributes => .bare " [" :: [.bare ", "].intercalate attributes ++ [.bare "]"]

def Line.pieces : Line → List Piece
  | .openGraph name => [.bare "digraph ", .ofName name, .bare " \x7b"]
  | .separateCrossings => [.bare "   remincross =true"]
  | .openCluster rule => [.bare ("subgraph cluster_" ++ toString rule ++ " \x7b")]
  | .dottedBorder => [.bare "  style = dotted;"]
  | .node drawn => drawn.pieces
  | .edge drawn => drawn.pieces
  | .clusterLabel name => [.bare "    label = ", .quoted name, .bare ";"]
  | .background color => [.bare "    bgcolor = ", .verbatim color.hex, .bare ";"]
  | .captionAtTop => [.bare "    labelloc=", .verbatim "t", .bare ";"]
  | .caption text => [.bare "    label=", .quoted text, .bare ";"]
  | .close => [.bare "\x7d"]

def Line.text (line : Line) : String :=
  Piece.join line.pieces

/-! ## Text of a document -/

/-- Appends the lines to what is written so far, each with its line break. -/
def write (written : String) (lines : List Line) : String :=
  lines.foldl (fun text line => text ++ line.text ++ "\n") written

def render (lines : List Line) : String :=
  write "" lines

/-- The two lines that put a caption above a graph. -/
def captionLines (text : String) : List Line :=
  [.captionAtTop, .caption text]

/-! ## What the lines draw -/

def Line.node? : Line → Option Node
  | .node drawn => some drawn
  | _ => none

def Line.edge? : Line → Option Edge
  | .edge drawn => some drawn
  | _ => none

def nodes (lines : List Line) : List Node :=
  lines.filterMap Line.node?

def edges (lines : List Line) : List Edge :=
  lines.filterMap Line.edge?

end TransitionNetwork.Dot
