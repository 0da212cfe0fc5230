import TransitionNetwork.Document
import TransitionNetwork.Proofs.Statement

/-!
# Documents can be read back

The content of a document is cut into its statements at its line breaks, each statement is scanned
into what its writer has put there, and equal contents come from equal statements: no name, label
or caption can end its quotes, break its line or add a statement.
-/

set_option autoImplicit false

namespace TransitionNetwork

namespace Dot

/-- A content has one reading: its lines are the statements in order, and a scan of each statement
meets the tokens that were written, whose bodies denote the texts that the statement carries. -/
structure ReadsAs (content : String) (statements : List Line) : Prop where
  cut : content.toList.splitOn '\n' = statements.map (·.text.toList) ++ [[]]
  scanned : ∀ line ∈ statements, scan line.text.toList = some line.tokens
  denoted : ∀ line ∈ statements, line.tokens.filterMap Token.quotedText? = line.quotedTexts

/-- All of the lines are ones that views contain. -/
def Legible (lines : List Line) : Prop :=
  ∀ line ∈ lines, line.IsLegible

@[simp] theorem legible_nil : Legible [] := by
  intro line member
  cases member

@[simp] theorem legible_cons {line : Line} {lines : List Line} :
    Legible (line :: lines) ↔ line.IsLegible ∧ Legible lines :=
  List.forall_mem_cons

@[simp] theorem legible_append {first second : List Line} :
    Legible (first ++ second) ↔ Legible first ∧ Legible second :=
  List.forall_mem_append

@[simp] theorem legible_map {α : Type} {line : α → Line} {items : List α} :
    Legible (items.map line) ↔ ∀ item ∈ items, (line item).IsLegible :=
  List.forall_mem_map

theorem legible_flatMap {α : Type} {lines : α → List Line} {items : List α}
    (each : ∀ item ∈ items, Legible (lines item)) : Legible (items.flatMap lines) := by
  intro line member
  obtain ⟨item, present, inside⟩ := List.mem_flatMap.mp member
  exact each item present line inside

theorem toList_write (written : String) (lines : List Line) :
    (write written lines).toList =
      written.toList ++ lines.flatMap fun line => line.text.toList ++ ['\n'] := by
  induction lines generalizing written with
  | nil => simp [write]
  | cons line rest ih =>
      have later := ih (written ++ line.text ++ "\n")
      rw [write, List.foldl_cons]
      rw [write] at later
      rw [later]
      simp

theorem splitOn_render {lines : List Line} (legible : Legible lines) :
    (render lines).toList.splitOn '\n' = lines.map (·.text.toList) ++ [[]] := by
  rw [render, toList_write, String.toList_empty, List.nil_append]
  induction lines with
  | nil => rfl
  | cons line rest ih =>
      obtain ⟨head, tail⟩ := legible_cons.mp legible
      rw [List.flatMap_cons, List.append_assoc, List.singleton_append,
        List.splitOn_append_cons_self_of_not_mem (break_notMem_text head), ih tail]
      rfl

theorem readsAs_render {lines : List Line} (legible : Legible lines) :
    ReadsAs (render lines) lines where
  cut := splitOn_render legible
  scanned line member := scan_text (legible line member)
  denoted line member := filterMap_quotedText?_tokens (legible line member)

theorem texts_injective {first second : List Line} (legible : Legible first)
    (legible' : Legible second)
    (same : first.map (·.text.toList) = second.map (·.text.toList)) : first = second := by
  induction first generalizing second with
  | nil => exact (List.map_eq_nil_iff.mp same.symm).symm
  | cons line rest ih =>
      cases second with
      | nil => cases same
      | cons line' rest' =>
          obtain ⟨head, tail⟩ := legible_cons.mp legible
          obtain ⟨head', tail'⟩ := legible_cons.mp legible'
          rw [List.map_cons, List.map_cons, List.cons.injEq, String.toList_inj] at same
          rw [text_injective head head' same.1, ih tail tail' same.2]

theorem render_inj {first second : List Line} (legible : Legible first)
    (legible' : Legible second) : render first = render second ↔ first = second := by
  constructor
  · intro same
    have cuts := splitOn_render legible
    rw [same, splitOn_render legible', List.append_cancel_right_eq] at cuts
    exact (texts_injective legible' legible cuts).symm
  · exact congrArg render

end Dot

namespace Automaton

open Dot

variable (automaton : Automaton)

/-! ## Every view is legible -/

theorem isNodeName_nodeId (index : Fin automaton.size) : IsNodeName (automaton.nodeId index) :=
  ⟨_, rfl⟩

theorem isLegible_node (fill : Fill) (index : Fin automaton.size) :
    (Line.node (automaton.node fill index)).IsLegible :=
  automaton.isNodeName_nodeId index

/-- Whichever transitions a loop draws, their edges are legible if their colours are. -/
theorem isLegible_of_mem_loop {sources : List (Fin automaton.size)}
    {transitions : Fin automaton.size → List (Transition automaton.size)}
    {color : Transition automaton.size → Option String}
    (hexadecimal : ∀ transition, ∀ text ∈ color transition, ∃ shade : Color, text = shade.hex) :
    ∀ edge ∈ sources.flatMap fun source => (transitions source).flatMap fun transition =>
      automaton.edges source transition (color transition), (Line.edge edge).IsLegible := by
  intro edge drawn
  simp only [List.mem_flatMap] at drawn
  obtain ⟨source, _, transition, _, drawn⟩ := drawn
  obtain ⟨label, _, rfl⟩ := List.mem_map.mp drawn
  exact ⟨automaton.isNodeName_nodeId _, automaton.isNodeName_nodeId _, hexadecimal transition⟩

theorem hexadecimal_hex (shade : Color) :
    ∀ text ∈ some shade.hex, ∃ other : Color, text = other.hex := by
  intro text same
  cases same
  exact ⟨shade, rfl⟩

theorem isLegible_of_mem_clusterEdges (rule : Nat) (focus : Option Nat) :
    ∀ edge ∈ automaton.clusterEdges rule focus, (Line.edge edge).IsLegible :=
  automaton.isLegible_of_mem_loop fun _ => hexadecimal_hex _

theorem isLegible_of_mem_crossEdges (focus : Option Nat) :
    ∀ edge ∈ automaton.crossEdges focus, (Line.edge edge).IsLegible :=
  automaton.isLegible_of_mem_loop fun _ => hexadecimal_hex _

theorem isLegible_of_mem_edgesFrom (sources : List (Fin automaton.size)) :
    ∀ edge ∈ automaton.edgesFrom sources, (Line.edge edge).IsLegible :=
  automaton.isLegible_of_mem_loop fun _ _ absent => by cases absent

theorem legible_captionLines (text : String) : Legible (captionLines text) := by
  simp [captionLines, Line.IsLegible]

theorem legible_cluster (rule : Fin automaton.ruleCount) (focus : Option Nat) :
    Legible (automaton.cluster rule focus) := by
  have border : Legible (if focus.all (· == rule.val) then [] else [.dottedBorder]) := by
    split
    · exact legible_nil
    · exact legible_cons.mpr ⟨trivial, legible_nil⟩
  unfold cluster
  simp only [List.cons_append, legible_cons, legible_append, legible_map, legible_nil, and_true]
  refine ⟨trivial, ⟨⟨border, ?_⟩, ?_⟩, trivial, trivial, trivial⟩
  · intro index _
    exact automaton.isLegible_node _ index
  · exact automaton.isLegible_of_mem_clusterEdges rule focus

theorem legible_crossing (focus : Option Nat) : Legible (automaton.crossing focus) :=
  legible_map.mpr (automaton.isLegible_of_mem_crossEdges focus)

theorem legible_focusedGraph (focus : Fin automaton.ruleCount) :
    Legible (automaton.focusedGraph focus) := by
  unfold focusedGraph
  simp only [legible_append, legible_cons, legible_nil, and_true]
  refine ⟨⟨⟨⟨⟨trivial, trivial⟩, ?_⟩, ?_⟩, legible_captionLines _⟩, trivial⟩
  · apply legible_flatMap
    intro rule _
    exact automaton.legible_cluster rule _
  · exact automaton.legible_crossing _

theorem legible_fullGraph (title : String) : Legible (automaton.fullGraph title) := by
  unfold fullGraph
  simp only [List.cons_append, legible_append, legible_cons, legible_map, legible_nil, and_true]
  refine ⟨trivial, ⟨⟨?_, ?_⟩, legible_captionLines _⟩, trivial⟩
  · intro index _
    exact automaton.isLegible_node _ index
  · exact automaton.isLegible_of_mem_edgesFrom _

theorem legible_flatGraph (rule : Fin automaton.ruleCount) :
    Legible (automaton.flatGraph rule) := by
  unfold flatGraph
  simp only [List.cons_append, legible_append, legible_cons, legible_map, legible_nil, and_true]
  refine ⟨trivial, ⟨⟨?_, ?_⟩, legible_captionLines _⟩, trivial⟩
  · intro index _
    exact automaton.isLegible_node _ index
  · exact automaton.isLegible_of_mem_edgesFrom _

/-! ## Every document is read back -/

theorem readsAs_focused (rule : Fin automaton.ruleCount) :
    ReadsAs (automaton.focused rule).content (automaton.focusedGraph rule) :=
  readsAs_render (automaton.legible_focusedGraph rule)

/-- No rule is needed for this, so an automaton without rules is read back as well. -/
theorem readsAs_full (title : String) :
    ReadsAs (automaton.full title).content (automaton.fullGraph title) :=
  readsAs_render (automaton.legible_fullGraph title)

theorem readsAs_flat (rule : Fin automaton.ruleCount) :
    ReadsAs (automaton.flat rule).content (automaton.flatGraph rule) :=
  readsAs_render (automaton.legible_flatGraph rule)

theorem readsAs_cluster (rule : Fin automaton.ruleCount) (focus : Option Nat) :
    ReadsAs (render (automaton.cluster rule focus)) (automaton.cluster rule focus) :=
  readsAs_render (automaton.legible_cluster rule focus)

theorem readsAs_crossing (focus : Option Nat) :
    ReadsAs (render (automaton.crossing focus)) (automaton.crossing focus) :=
  readsAs_render (automaton.legible_crossing focus)

/-! ## Main result -/

/-- Every document is read back as its statements, and two documents of one family have the same
content just when they have the same statements. -/
theorem documents_read_back (automaton : Automaton) :
    (∀ rule, ReadsAs (automaton.focused rule).content (automaton.focusedGraph rule)) ∧
      (∀ title, ReadsAs (automaton.full title).content (automaton.fullGraph title)) ∧
      (∀ rule, ReadsAs (automaton.flat rule).content (automaton.flatGraph rule)) ∧
      ∀ other : Automaton,
        (∀ rule otherRule, (automaton.focused rule).content = (other.focused otherRule).content ↔
          automaton.focusedGraph rule = other.focusedGraph otherRule) ∧
        (∀ title otherTitle, (automaton.full title).content = (other.full otherTitle).content ↔
          automaton.fullGraph title = other.fullGraph otherTitle) ∧
        ∀ rule otherRule, (automaton.flat rule).content = (other.flat otherRule).content ↔
          automaton.flatGraph rule = other.flatGraph otherRule := by
  refine ⟨automaton.readsAs_focused, automaton.readsAs_full, automaton.readsAs_flat, ?_⟩
  intro other
  refine ⟨?_, ?_, ?_⟩
  · intro rule otherRule
    exact render_inj (automaton.legible_focusedGraph rule) (other.legible_focusedGraph otherRule)
  · intro title otherTitle
    exact render_inj (automaton.legible_fullGraph title) (other.legible_fullGraph otherTitle)
  · intro rule otherRule
    exact render_inj (automaton.legible_flatGraph rule) (other.legible_flatGraph otherRule)

end Automaton

end TransitionNetwork
