import Mathlib.Data.List.Forall2
import TransitionNetwork.Proofs.ReadingBack

/-!
# Wanted documents

A switch leaves its own family of documents out and does nothing else. A title stands in one line
of the full document, the one that captions it, and no other line or document depends on it.
-/

set_option autoImplicit false

namespace TransitionNetwork

namespace Options

/-- All families, the full document under a title. -/
def everything (title : String) : Options where
  title := title

/-- The family that the view belongs to is switched on. -/
def wants (options : Options) : View → Bool
  | .focused _ => options.focused
  | .full => options.full
  | .flat _ => options.flat

end Options

namespace Document

/-- What a title can do to a document: nothing, or, if it is the full one, to put another text into
the label of its caption. The lines before that, the brace behind it and the name stay. -/
inductive SameButCaption (title other : String) : Document → Document → Prop where
  | same {document : Document} (notFull : document.view ≠ .full) :
    SameButCaption title other document document
  | captioned {first second : Document} (front : List (List Char))
    (views : first.view = .full ∧ second.view = .full)
    (names : first.name = fullName ∧ second.name = fullName)
    (lines : first.content.toList.splitOn '\n' =
      front ++ [(Dot.Line.caption title).text.toList, Dot.Line.close.text.toList, []])
    (otherLines : second.content.toList.splitOn '\n' =
      front ++ [(Dot.Line.caption other).text.toList, Dot.Line.close.text.toList, []]) :
    SameButCaption title other first second

theorem SameButCaption.view_eq {title other : String} {first second : Document}
    (same : SameButCaption title other first second) : first.view = second.view := by
  cases same with
  | same => rfl
  | captioned _ views => rw [views.1, views.2]

theorem SameButCaption.forall₂_map {title other : String} {α : Type} {document : α → Document}
    (notFull : ∀ item, (document item).view ≠ .full) (items : List α) :
    List.Forall₂ (SameButCaption title other) (items.map document) (items.map document) := by
  rw [List.forall₂_same]
  intro drawn member
  obtain ⟨item, _, rfl⟩ := List.mem_map.mp member
  exact .same (notFull item)

end Document

theorem Dot.text_caption_inj {title other : String} :
    (Dot.Line.caption title).text = (Dot.Line.caption other).text ↔ title = other := by
  constructor
  · intro same
    exact Dot.Line.caption.inj (Dot.text_injective trivial trivial same)
  · rintro rfl
    rfl

namespace Automaton

open Document (SameButCaption)

variable (automaton : Automaton)

/-- The views of all families, each with the name of its document. -/
def namedViews : List (View × String) :=
  (List.finRange automaton.ruleCount).map
      (fun rule => (.focused rule.val, Document.focusedName (automaton.ruleName rule))) ++
    (.full, Document.fullName) ::
    (List.finRange automaton.ruleCount).map
      (fun rule => (.flat rule.val, Document.flatName rule.val))

/-! ## Switches -/

theorem documents_everything (title : String) :
    automaton.documents (.everything title) =
      automaton.rules.map automaton.focused ++ [automaton.full title] ++
        automaton.rules.map automaton.flat := rfl

/-- A family is wanted as a whole or not at all. -/
theorem filter_family (options : Options) {α : Type} (document : α → Document) (wanted : Bool)
    (uniform : ∀ item, options.wants (document item).view = wanted) (items : List α) :
    (items.map document).filter (fun drawn => options.wants drawn.view) =
      if wanted then items.map document else [] := by
  have alike : ∀ drawn ∈ items.map document, options.wants drawn.view = wanted := by
    intro drawn member
    obtain ⟨item, _, rfl⟩ := List.mem_map.mp member
    exact uniform item
  cases wanted with
  | true => exact List.filter_eq_self.mpr alike
  | false =>
      apply List.filter_eq_nil_iff.mpr
      intro drawn member
      exact Bool.eq_false_iff.mp (alike drawn member)

theorem documents_eq_filter (options : Options) :
    automaton.documents options =
      (automaton.documents (.everything options.title)).filter
        fun document => options.wants document.view := by
  have focused := filter_family options automaton.focused options.focused (fun _ => rfl)
  have full := filter_family options automaton.full options.full (fun _ => rfl) [options.title]
  have flat := filter_family options automaton.flat options.flat (fun _ => rfl)
  rw [List.map_singleton] at full
  rw [documents_everything, List.filter_append, List.filter_append, focused, full, flat]
  rfl

theorem length_documents_everything (title : String) :
    (automaton.documents (.everything title)).length = 2 * automaton.ruleCount + 1 := by
  rw [documents_everything, rules]
  simp only [List.length_append, List.length_map, List.length_finRange, List.length_singleton]
  omega

theorem namedViews_documents_everything (title : String) :
    (automaton.documents (.everything title)).map
        (fun document => (document.view, document.name)) = automaton.namedViews := by
  rw [documents_everything, List.map_append, List.map_append, List.map_map, List.map_map,
    List.append_assoc]
  rfl

/-! ## Titles -/

/-- The lines of the full document before the label of its caption. -/
def fullFront : List Dot.Line :=
  .openGraph "ATN" ::
    automaton.indices.map
      (fun index =>
        .node (automaton.node (.inGraph (Color.ofOwner (automaton.owner index))) index)) ++
    (automaton.edgesFrom automaton.indices).map .edge ++
    [.captionAtTop]

theorem fullGraph_eq_fullFront_append (title : String) :
    automaton.fullGraph title = automaton.fullFront ++ [.caption title, .close] := by
  simp [fullGraph, fullFront, Dot.captionLines]

theorem splitOn_full (title : String) :
    (automaton.full title).content.toList.splitOn '\n' =
      automaton.fullFront.map (·.text.toList) ++
        [(Dot.Line.caption title).text.toList, Dot.Line.close.text.toList, []] := by
  have cut := Dot.splitOn_render (automaton.legible_fullGraph title)
  rw [fullGraph_eq_fullFront_append, List.map_append, List.append_assoc] at cut
  rw [full, fullGraph_eq_fullFront_append]
  exact cut

theorem sameButCaption_everything (title other : String) :
    List.Forall₂ (SameButCaption title other) (automaton.documents (.everything title))
      (automaton.documents (.everything other)) := by
  have captioned : SameButCaption title other (automaton.full title) (automaton.full other) :=
    .captioned _ ⟨rfl, rfl⟩ ⟨rfl, rfl⟩ (automaton.splitOn_full title) (automaton.splitOn_full other)
  rw [documents_everything, documents_everything]
  apply List.rel_append
  · apply List.rel_append
    · exact SameButCaption.forall₂_map nofun automaton.rules
    · exact .cons captioned .nil
  · exact SameButCaption.forall₂_map nofun automaton.rules

theorem sameButCaption_documents (options : Options) (other : String) :
    List.Forall₂ (SameButCaption options.title other) (automaton.documents options)
      (automaton.documents { options with title := other }) := by
  rw [documents_eq_filter, automaton.documents_eq_filter { options with title := other }]
  apply List.rel_filter
  · intro first second same
    exact iff_of_eq (congrArg (fun view => options.wants view = true) same.view_eq)
  · exact automaton.sameButCaption_everything options.title other

/-- The documents are those of all families, less the families that are switched off. Of all there
is one focused and one flat document for each rule, in order, around the full one. A change of the
title shows in the caption of the full document, and nowhere else. -/
theorem documents_follow_options (options : Options) (other : String) :
    automaton.documents options =
      (automaton.documents (.everything options.title)).filter
        (fun document => options.wants document.view) ∧
    (automaton.documents (.everything options.title)).length = 2 * automaton.ruleCount + 1 ∧
    (automaton.documents (.everything options.title)).map
        (fun document => (document.view, document.name)) = automaton.namedViews ∧
    List.Forall₂ (SameButCaption options.title other) (automaton.documents options)
      (automaton.documents { options with title := other }) ∧
    ((Dot.Line.caption options.title).text = (Dot.Line.caption other).text ↔
      options.title = other) :=
  ⟨automaton.documents_eq_filter options, automaton.length_documents_everything options.title,
    automaton.namedViews_documents_everything options.title,
    automaton.sameButCaption_documents options other, Dot.text_caption_inj⟩

end Automaton

end TransitionNetwork
