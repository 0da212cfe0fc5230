import Mathlib.Data.List.Basic
import Std.Data.String.ToNat
import TransitionNetwork.Proofs.HexColor
import TransitionNetwork.Proofs.Scan

/-!
# Lines are determined by their texts

The text of a line is scanned into the pieces that it was written from, and no two lines that the
views contain have the same text.
-/

set_option autoImplicit false

namespace TransitionNetwork.Dot

/-- The name of a node, as states have it. -/
def IsNodeName (name : String) : Prop :=
  ∃ number : Nat, name = "state" ++ toString number

/-- A line as views contain it: its node names are those of states, and the colours of its edges
are written in hexadecimal digits. -/
def Line.IsLegible : Line → Prop
  | .node drawn => IsNodeName drawn.id
  | .edge drawn =>
    IsNodeName drawn.source ∧ IsNodeName drawn.target ∧
      ∀ color ∈ drawn.color, ∃ shade : Color, color = shade.hex
  | _ => True

def Line.tokens (line : Line) : List Token :=
  line.pieces.flatMap Piece.tokens

/-! ## What stands between quotes -/

def Fill.quotedTexts : Fill → List String
  | .inCluster color => [color.hex, "filled"]
  | .inGraph color => [color.hex]
  | .plain => []

/-- The texts that a line puts between quotes, from left to right. -/
def Line.quotedTexts : Line → List String
  | .openGraph name => if isBareName name.toList then [] else [name]
  | .node drawn => drawn.label :: drawn.fill.quotedTexts
  | .edge drawn => drawn.label.toList ++ drawn.color.toList
  | .clusterLabel name => [name]
  | .background color => [color.hex]
  | .captionAtTop => ["t"]
  | .caption text => [text]
  | _ => []

theorem filterMap_quotedText?_edge (edge : Edge) :
    edge.pieces.filterMap Piece.quotedText? = edge.label.toList ++ edge.color.toList := by
  obtain ⟨source, target, label, color⟩ := edge
  cases label <;> cases color <;> rfl

theorem filterMap_quotedText? (line : Line) :
    line.pieces.filterMap Piece.quotedText? = line.quotedTexts := by
  cases line with
  | openGraph name =>
      by_cases bare : isBareName name.toList = true
      · simp only [Line.pieces, Line.quotedTexts, Piece.ofName, bare, ↓reduceIte]
        rfl
      · simp only [Line.pieces, Line.quotedTexts, Piece.ofName, bare, Bool.false_eq_true, ↓reduceIte]
        rfl
  | node drawn =>
      obtain ⟨id, label, fill⟩ := drawn
      cases fill <;> rfl
  | edge drawn => exact filterMap_quotedText?_edge drawn
  | _ => rfl

/-! ## Legible lines are plain -/

theorem isPlainText_toString (number : Nat) : IsPlainText (toString number) := by
  intro c member
  rw [Nat.toString_eq_repr, Nat.toList_repr] at member
  have digit := Nat.isDigit_of_mem_toDigits (by decide) (by decide) member
  refine ⟨?_, ?_, ?_⟩
  all_goals
    rintro rfl
    exact absurd digit (by decide)

theorem IsNodeName.isPlainText {name : String} (legible : IsNodeName name) :
    IsPlainText name := by
  obtain ⟨number, rfl⟩ := legible
  exact isPlainText_append (by decide) (isPlainText_toString number)

theorem isPlainText_of_isBareName {name : String} (bare : isBareName name.toList = true) :
    IsPlainText name := by
  intro c member
  have continues : continuesName c = true := by
    unfold isBareName at bare
    split at bare
    · cases bare
    · rename_i first rest same
      rw [same, List.mem_cons] at member
      simp only [Bool.and_eq_true, List.all_eq_true] at bare
      rcases member with rfl | member
      · have starts := bare.1
        simp only [startsName, continuesName, Char.isAlphanum, Bool.or_eq_true] at starts ⊢
        exact starts.imp_left Or.inl
      · exact bare.2 c member
  refine ⟨?_, ?_, ?_⟩
  all_goals
    rintro rfl
    exact absurd continues (by decide)

theorem isPlainText_hex (color : Color) : IsPlainText color.hex :=
  fun _ => Color.isPlainChar_of_mem_hex

theorem isPlain_ofName (name : String) : (Piece.ofName name).IsPlain := by
  unfold Piece.ofName
  split
  · rename_i bare
    exact isPlainText_of_isBareName bare
  · trivial

theorem Fill.isPlain_of_mem_pieces (fill : Fill) : ∀ piece ∈ fill.pieces, piece.IsPlain := by
  have words : IsPlainText ", fillcolor=" ∧ IsPlainText ", style=" ∧ IsPlainText "filled" ∧
      IsPlainText ", style=filled" := by
    decide
  cases fill with
  | inCluster color => simp [Fill.pieces, isPlainText_hex color, words]
  | inGraph color => simp [Fill.pieces, isPlainText_hex color, words]
  | plain => simp [Fill.pieces]

theorem Node.isPlain_of_mem_pieces {node : Node} (legible : IsNodeName node.id) :
    ∀ piece ∈ node.pieces, piece.IsPlain := by
  have opening : IsPlainText ("    " ++ node.id ++ " [shape=rectangle, label=") :=
    isPlainText_append (isPlainText_append (by decide) legible.isPlainText) (by decide)
  have closing : IsPlainText "];" := by decide
  intro piece member
  simp only [Node.pieces, List.cons_append, List.mem_cons, List.mem_append, List.not_mem_nil,
    or_false] at member
  rcases member with rfl | rfl | filling | rfl
  · exact opening
  · trivial
  · exact node.fill.isPlain_of_mem_pieces piece filling
  · exact closing

theorem Edge.isPlain_of_mem_pieces {edge : Edge} (legible : (Line.edge edge).IsLegible) :
    ∀ piece ∈ edge.pieces, piece.IsPlain := by
  obtain ⟨source, target, label, color⟩ := edge
  obtain ⟨legibleSource, legibleTarget, hexadecimal⟩ := legible
  have ends : IsPlainText ("    " ++ source ++ " -> " ++ target) :=
    isPlainText_append (isPlainText_append (isPlainText_append (by decide) legibleSource.isPlainText)
      (by decide)) legibleTarget.isPlainText
  have words : IsPlainText " [" ∧ IsPlainText "label=" ∧ IsPlainText ", " ∧ IsPlainText "color=" ∧
      IsPlainText "]" := by
    decide
  cases color with
  | none =>
      cases label <;> simp [Edge.pieces, Edge.attributes, List.intercalate, ends, words]
  | some text =>
      obtain ⟨shade, rfl⟩ := hexadecimal text rfl
      cases label <;>
        simp [Edge.pieces, Edge.attributes, List.intercalate, ends, words, isPlainText_hex shade]

theorem Line.isPlain_of_mem_pieces {line : Line} (legible : line.IsLegible) :
    ∀ piece ∈ line.pieces, piece.IsPlain := by
  cases line with
  | openGraph name =>
      have words : IsPlainText "digraph " ∧ IsPlainText " \x7b" := by decide
      simp [Line.pieces, words, isPlain_ofName name]
  | openCluster rule =>
      have opening : IsPlainText ("subgraph cluster_" ++ toString rule ++ " \x7b") :=
        isPlainText_append (isPlainText_append (by decide) (isPlainText_toString rule)) (by decide)
      simpa [Line.pieces] using opening
  | node drawn => exact Node.isPlain_of_mem_pieces legible
  | edge drawn => exact Edge.isPlain_of_mem_pieces legible
  | clusterLabel name =>
      have words : IsPlainText "    label = " ∧ IsPlainText ";" := by decide
      simp [Line.pieces, words]
  | background color =>
      have words : IsPlainText "    bgcolor = " ∧ IsPlainText ";" := by decide
      simp [Line.pieces, words, isPlainText_hex color]
  | caption text =>
      have words : IsPlainText "    label=" ∧ IsPlainText ";" := by decide
      simp [Line.pieces, words]
  | separateCrossings | dottedBorder | captionAtTop | close =>
      unfold Line.pieces
      decide

/-! ## How a line begins -/

/-- The ways to begin a line. Nodes and edges begin alike, every other kind in its own way. -/
inductive Opening where
  | graph
  | crossings
  | cluster
  | border
  | state
  | clusterLabel
  | background
  | captionAtTop
  | caption
  | close

def Opening.text : Opening → String
  | graph => "digraph "
  | crossings => "   remincross"
  | cluster => "subgraph"
  | border => "  style"
  | state => "    state"
  | clusterLabel => "    label "
  | background => "    bgcolor"
  | captionAtTop => "    labelloc"
  | caption => "    label="
  | close => "\x7d"

def Line.opening : Line → Opening
  | .openGraph _ => .graph
  | .separateCrossings => .crossings
  | .openCluster _ => .cluster
  | .dottedBorder => .border
  | .node _ => .state
  | .edge _ => .state
  | .clusterLabel _ => .clusterLabel
  | .background _ => .background
  | .captionAtTop => .captionAtTop
  | .caption _ => .caption
  | .close => .close

/-- No opening begins another one. -/
theorem Opening.eq_of_prefix {first second : Opening}
    (begins : first.text.toList <+: second.text.toList) : first = second := by
  cases first <;> cases second <;> first | rfl | simp [Opening.text] at begins

theorem begins_with_opening {line : Line} (legible : line.IsLegible) :
    line.opening.text.toList <+: line.text.toList := by
  cases line with
  | node drawn =>
      obtain ⟨number, name⟩ := legible
      simp [Line.opening, Opening.text, Line.text, Line.pieces, Node.pieces, toList_join_cons,
        Piece.text, name]
  | edge drawn =>
      obtain ⟨⟨number, name⟩, _⟩ := legible
      simp [Line.opening, Opening.text, Line.text, Line.pieces, Edge.pieces, toList_join_cons,
        Piece.text, name]
  | _ => simp [Line.opening, Opening.text, Line.text, Line.pieces, toList_join_cons, Piece.text]

theorem opening_eq_of_text_eq {first second : Line} (legible : first.IsLegible)
    (legible' : second.IsLegible) (same : first.text = second.text) :
    first.opening = second.opening := by
  have begins := begins_with_opening legible
  rw [same] at begins
  rcases List.prefix_or_prefix_of_prefix begins (begins_with_opening legible') with before | before
  · exact Opening.eq_of_prefix before
  · exact (Opening.eq_of_prefix before).symm

/-! ## What a line carries -/

theorem characters_append (first second : String) :
    characters (first ++ second) = characters first ++ characters second := by
  simp [characters]

theorem characters_injective {first second : String} (same : characters first = characters second) :
    first = second :=
  String.toList_inj.mp (List.map_injective_iff.mpr (fun _ _ => Token.character.inj) same)

/-- Two lists that are cut where an element first occurs, or at their ends, are cut alike. -/
theorem append_injective_of_boundary {α : Type} [DecidableEq α] {x : α}
    {first second after after' : List α} (fresh : x ∉ first) (fresh' : x ∉ second)
    (boundary : ∀ y ∈ after.head?, y = x) (boundary' : ∀ y ∈ after'.head?, y = x)
    (same : first ++ after = second ++ after') : first = second ∧ after = after' := by
  have taken (front back : List α) (absent : x ∉ front) (starts : ∀ y ∈ back.head?, y = x) :
      (front ++ back).takeWhile (fun y => decide (y ≠ x)) = front := by
    rw [List.takeWhile_append_of_pos]
    · cases back with
      | nil => simp
      | cons y rest => simp [starts y rfl]
    · intro y member
      exact decide_eq_true fun isBoundary => absent (isBoundary ▸ member)
  have fronts : first = second := by
    rw [← taken first after fresh boundary, same, taken second after' fresh' boundary']
  refine ⟨fronts, ?_⟩
  rw [fronts] at same
  exact List.append_cancel_left same

theorem ofName_injective {first second : String}
    (same : (Piece.ofName first).tokens = (Piece.ofName second).tokens) : first = second := by
  have apart {bare text : String} (name : isBareName bare.toList = true) :
      (Piece.bare bare).tokens ≠ (Piece.quoted text).tokens := by
    intro same
    cases chars : bare.toList with
    | nil => simp [chars, isBareName] at name
    | cons c rest => simp [Piece.tokens, characters, chars] at same
  unfold Piece.ofName at same
  split at same <;> split at same
  · exact characters_injective same
  · rename_i name _
    exact absurd same (apart name)
  · rename_i name
    exact absurd same.symm (apart name)
  · simpa [Piece.tokens, escapeChars_inj, String.toList_inj] using same

theorem Fill.tokens_inj {first second : Fill} :
    first.pieces.flatMap Piece.tokens = second.pieces.flatMap Piece.tokens ↔ first = second := by
  cases first <;> cases second <;>
    simp [Fill.pieces, Piece.tokens, characters, String.toList_inj, Color.hex_inj]

theorem IsNodeName.space_notMem {name : String} (legible : IsNodeName name) :
    Token.character ' ' ∉ characters name := by
  obtain ⟨number, rfl⟩ := legible
  intro member
  simp only [characters, Nat.toString_eq_repr, String.toList_append, Nat.toList_repr, List.mem_map,
    Token.character.injEq, exists_eq_right, List.mem_append] at member
  rcases member with word | digits
  · exact absurd word (by decide)
  · exact absurd (Nat.isDigit_of_mem_toDigits (by decide) (by decide) digits) (by decide)

/-- A node name ends at the first space behind it. -/
theorem IsNodeName.append_injective {first second : String} {after after' : List Token}
    (legible : IsNodeName first) (legible' : IsNodeName second)
    (boundary : ∀ token ∈ after.head?, token = .character ' ')
    (boundary' : ∀ token ∈ after'.head?, token = .character ' ')
    (same : characters first ++ after = characters second ++ after') :
    first = second ∧ after = after' := by
  obtain ⟨names, rest⟩ := append_injective_of_boundary legible.space_notMem legible'.space_notMem
    boundary boundary' same
  exact ⟨characters_injective names, rest⟩

theorem Node.tokens_pieces (node : Node) :
    node.pieces.flatMap Piece.tokens =
      characters "    " ++ (characters node.id ++ (characters " [shape=rectangle, label=" ++
        .quoted (escapeChars node.label.toList) ::
          (node.fill.pieces.flatMap Piece.tokens ++ characters "];"))) := by
  simp [Node.pieces, Piece.tokens, characters]

theorem Node.tokens_injective {first second : Node} (legible : IsNodeName first.id)
    (legible' : IsNodeName second.id)
    (same : first.pieces.flatMap Piece.tokens = second.pieces.flatMap Piece.tokens) :
    first = second := by
  rw [Node.tokens_pieces, Node.tokens_pieces, List.append_cancel_left_eq] at same
  obtain ⟨ids, rest⟩ := legible.append_injective legible' (by simp [characters])
    (by simp [characters]) same
  rw [List.append_cancel_left_eq, List.cons.injEq, List.append_cancel_right_eq, Token.quoted.injEq,
    escapeChars_inj, String.toList_inj] at rest
  obtain ⟨label, fill⟩ := rest
  cases first
  cases second
  exact (Node.mk.injEq ..).mpr ⟨ids, label, Fill.tokens_inj.mp fill⟩

/-- What stands behind the ends of an edge. -/
def Edge.attributeTokens (edge : Edge) : List Token :=
  edge.pieces.tail.flatMap Piece.tokens

theorem Edge.tokens_pieces (edge : Edge) :
    edge.pieces.flatMap Piece.tokens =
      characters "    " ++ (characters edge.source ++ (characters " -> " ++
        (characters edge.target ++ edge.attributeTokens))) := by
  simp [Edge.pieces, Edge.attributeTokens, Piece.tokens, characters]

theorem Edge.head?_attributeTokens (edge : Edge) :
    ∀ token ∈ edge.attributeTokens.head?, token = .character ' ' := by
  obtain ⟨_, _, label, color⟩ := edge
  cases label <;> cases color <;>
    simp [Edge.attributeTokens, Edge.pieces, Edge.attributes, Piece.tokens, characters]

theorem Edge.attributeTokens_inj {first second : Edge} :
    first.attributeTokens = second.attributeTokens ↔
      first.label = second.label ∧ first.color = second.color := by
  obtain ⟨_, _, label, color⟩ := first
  obtain ⟨_, _, label', color'⟩ := second
  cases label <;> cases color <;> cases label' <;> cases color' <;>
    simp [Edge.attributeTokens, Edge.pieces, Edge.attributes, List.intercalate, Piece.tokens,
      characters, escapeChars_inj, String.toList_inj]

theorem Edge.tokens_injective {first second : Edge} (legible : (Line.edge first).IsLegible)
    (legible' : (Line.edge second).IsLegible)
    (same : first.pieces.flatMap Piece.tokens = second.pieces.flatMap Piece.tokens) :
    first = second := by
  rw [Edge.tokens_pieces, Edge.tokens_pieces, List.append_cancel_left_eq] at same
  obtain ⟨sources, rest⟩ := legible.1.append_injective legible'.1 (by simp [characters])
    (by simp [characters]) same
  rw [List.append_cancel_left_eq] at rest
  obtain ⟨targets, attributes⟩ := legible.2.1.append_injective legible'.2.1
    first.head?_attributeTokens second.head?_attributeTokens rest
  obtain ⟨labels, colors⟩ := Edge.attributeTokens_inj.mp attributes
  cases first
  cases second
  exact (Edge.mk.injEq ..).mpr ⟨sources, targets, labels, colors⟩

theorem Node.tokens_ne_edge {node : Node} {edge : Edge} (legible : IsNodeName node.id)
    (legible' : IsNodeName edge.source) :
    node.pieces.flatMap Piece.tokens ≠ edge.pieces.flatMap Piece.tokens := by
  intro same
  rw [Node.tokens_pieces, Edge.tokens_pieces, List.append_cancel_left_eq] at same
  obtain ⟨_, rest⟩ := legible.append_injective legible' (by simp [characters])
    (by simp [characters]) same
  simp [characters] at rest

/-! ## The text of a line -/

theorem scan_text {line : Line} (legible : line.IsLegible) :
    scan line.text.toList = some line.tokens :=
  scan_join (Line.isPlain_of_mem_pieces legible)

theorem break_notMem_text {line : Line} (legible : line.IsLegible) :
    '\n' ∉ line.text.toList :=
  break_notMem_join (Line.isPlain_of_mem_pieces legible)

theorem filterMap_quotedText?_tokens {line : Line} (legible : line.IsLegible) :
    line.tokens.filterMap Token.quotedText? = line.quotedTexts := by
  rw [Line.tokens, quotedTexts_tokens (Line.isPlain_of_mem_pieces legible), filterMap_quotedText?]

/-- No other legible line has the text of a legible line. -/
theorem text_injective {first second : Line} (legible : first.IsLegible)
    (legible' : second.IsLegible) (same : first.text = second.text) : first = second := by
  have tokens : first.tokens = second.tokens := by
    apply Option.some.inj
    rw [← scan_text legible, same, scan_text legible']
  have openings := opening_eq_of_text_eq legible legible' same
  cases first <;> cases second <;> first | rfl | cases openings
  case openGraph.openGraph.refl name name' =>
    have names : (Piece.ofName name).tokens = (Piece.ofName name').tokens := by
      simpa [Line.tokens, Line.pieces] using tokens
    rw [ofName_injective names]
  case openCluster.openCluster.refl rule rule' =>
    have digits : characters (toString rule) = characters (toString rule') := by
      simpa [Line.tokens, Line.pieces, Piece.tokens, characters_append] using tokens
    rw [Nat.repr_injective (characters_injective digits)]
  case node.node.refl drawn drawn' =>
    rw [Node.tokens_injective legible legible' tokens]
  case node.edge.refl drawn drawn' =>
    exact absurd tokens (Node.tokens_ne_edge legible legible'.1)
  case edge.node.refl drawn drawn' =>
    exact absurd tokens.symm (Node.tokens_ne_edge legible' legible.1)
  case edge.edge.refl drawn drawn' =>
    rw [Edge.tokens_injective legible legible' tokens]
  case clusterLabel.clusterLabel.refl name name' =>
    simpa [Line.tokens, Line.pieces, Piece.tokens, escapeChars_inj, String.toList_inj] using tokens
  case background.background.refl color color' =>
    simpa [Line.tokens, Line.pieces, Piece.tokens, Color.hex_inj, String.toList_inj] using tokens
  case caption.caption.refl text text' =>
    simpa [Line.tokens, Line.pieces, Piece.tokens, escapeChars_inj, String.toList_inj] using tokens

end TransitionNetwork.Dot
