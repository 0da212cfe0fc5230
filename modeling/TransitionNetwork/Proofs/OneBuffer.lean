import TransitionNetwork.Drawing.Emitting
import TransitionNetwork.Proofs.PlainDrawing

/-!
# Writing into one buffer

All that any emitter does to the buffer that it is given is to append the lines of its part.
-/

set_option autoImplicit false

namespace TransitionNetwork

namespace Dot

variable {α β : Type}

/-! ## Text behind text -/

theorem write_append (buffer : String) (first second : List Line) :
    write buffer (first ++ second) = write (write buffer first) second :=
  List.foldl_append

theorem write_eq_append (buffer : String) (lines : List Line) :
    write buffer lines = buffer ++ render lines := by
  induction lines generalizing buffer with
  | nil => exact String.append_empty.symm
  | cons line rest ih =>
      have later (text : String) : write text (line :: rest) = write (text ++ line.text ++ "\n") rest :=
        rfl
      rw [render, later, later, ih, ih]
      simp only [String.append_assoc, String.empty_append]

theorem render_append (first second : List Line) :
    render (first ++ second) = render first ++ render second := by
  rw [render, write_append, write_eq_append]
  rfl

theorem render_flatMap (lines : α → List Line) (items : List α) :
    render (items.flatMap lines) = String.join (items.map fun item => render (lines item)) := by
  induction items with
  | nil => rfl
  | cons item items ih =>
      rw [List.flatMap_cons, render_append, ih, List.map_cons, String.join_cons]

/-- The action leaves what a buffer holds and puts the text behind it, the same for all buffers. -/
def Appends (action : String → String) (text : String) : Prop :=
  ∀ buffer, action buffer = buffer ++ text

theorem Appends.andThen {first second : String → String} {front back : String}
    (appendsFront : Appends first front) (appendsBack : Appends second back) :
    Appends (fun buffer => second (first buffer)) (front ++ back) := by
  intro buffer
  calc second (first buffer)
    _ = first buffer ++ back := appendsBack (first buffer)
    _ = buffer ++ front ++ back := by rw [appendsFront buffer]
    _ = buffer ++ (front ++ back) := String.append_assoc

theorem appends_write (lines : List Line) : Appends (write · lines) (render lines) :=
  fun buffer => write_eq_append buffer lines

/-- Lists of lines that are written one after the other append what each is on its own. -/
theorem appends_foldl_write (lines : α → List Line) (items : List α) :
    Appends (items.foldl fun text item => write text (lines item))
      (String.join (items.map fun item => render (lines item))) := by
  induction items with
  | nil => exact fun _ => String.append_empty.symm
  | cons item items ih =>
      rw [List.map_cons, String.join_cons]
      exact (appends_write (lines item)).andThen ih

/-! ## Actions on a buffer -/

theorem after_emit (text buffer : String) : after (emit text) buffer = buffer ++ text := rfl

theorem after_bind (first second : Emitter Unit) (buffer : String) :
    after (do first; second) buffer = after second (after first buffer) := rfl

/-- Whatever the buffer holds, the action ends with the value and has appended the lines. -/
def Emits (emitter : Emitter α) (value : α) (lines : List Line) : Prop :=
  ∀ buffer, emitter.run buffer = (value, write buffer lines)

theorem emits_pure (value : α) : Emits (pure value) value [] :=
  fun _ => rfl

theorem Emits.bind {first : Emitter α} {next : α → Emitter β} {value : α} {result : β}
    {front back : List Line} (emitsFront : Emits first value front)
    (emitsBack : Emits (next value) result back) : Emits (first >>= next) result (front ++ back) := by
  intro buffer
  rw [StateT.run_bind, emitsFront buffer, write_append]
  exact emitsBack (write buffer front)

theorem Emits.andThen {first : Emitter Unit} {next : Emitter α} {value : α} {front back : List Line}
    (emitsFront : Emits first () front) (emitsBack : Emits next value back) :
    Emits (do first; next) value (front ++ back) :=
  emitsFront.bind emitsBack

theorem emits_line (line : Line) : Emits (emitLine line) () [line] :=
  fun _ => rfl

/-- A loop whose every turn goes on appends what its turns append. -/
theorem emits_loop {items : List α} {turn : α → Unit → Emitter (ForInStep Unit)}
    {lines : α → List Line} (each : ∀ item, Emits (turn item ()) (.yield ()) (lines item)) :
    Emits (forIn items () turn) () (items.flatMap lines) := by
  induction items with
  | nil => exact emits_pure ()
  | cons item items ih =>
      rw [List.forIn_cons, List.flatMap_cons]
      exact (each item).bind ih

/-- The turn of a loop that runs an action and goes on. -/
theorem Emits.turn {emitter : Emitter Unit} {lines : List Line} (emits : Emits emitter () lines) :
    Emits (do emitter; pure (ForInStep.yield ())) (.yield ()) lines := by
  rw [← List.append_nil lines]
  exact emits.andThen (emits_pure (ForInStep.yield ()))

/-- The turn of a loop that goes on early, for one reason or another, unless its item is kept. -/
theorem Emits.turnIf {emitter : Emitter Unit} {lines : List Line} {passed hidden kept : Bool}
    (agree : kept = (!passed && !hidden)) (emits : Emits emitter () lines) :
    Emits
      (if passed then pure (ForInStep.yield ())
      else if hidden then pure (ForInStep.yield ())
      else do emitter; pure (ForInStep.yield ()))
      (.yield ()) (if kept then lines else []) := by
  subst agree
  cases passed with
  | true => exact emits_pure _
  | false =>
      cases hidden with
      | true => exact emits_pure _
      | false => exact emits.turn

theorem Emits.appends {emitter : Emitter Unit} {lines : List Line} (emits : Emits emitter () lines) :
    Appends (after emitter) (render lines) := by
  intro buffer
  rw [after, emits buffer]
  exact appends_write lines buffer

/-! ## Edges and captions -/

theorem emits_edge (edge : Edge) : Emits (emitEdge edge) () [.edge edge] := by
  obtain ⟨source, target, label, color⟩ := edge
  intro buffer
  -- The attributes that are there decide which pieces are emitted, so each way is run by itself.
  apply Prod.ext
  · cases label <;> cases color <;> rfl
  · change after (emitEdge _) buffer = buffer ++ (Line.edge _).text ++ "\n"
    rw [← String.toList_inj]
    cases label <;> cases color <;>
      simp [emitEdge, after_bind, after_emit, Line.text, Line.pieces, Edge.pieces, Edge.attributes,
        Piece.join, Piece.text, String.join_cons]

theorem emits_edges (drawn : List Edge) : Emits (emitEdges drawn) () (drawn.map .edge) := by
  rw [List.map_eq_flatMap]
  exact emits_loop fun edge => (emits_edge edge).turn

example :
    after
      (emitEdges [{ source := "state0", target := "state1" },
        { source := "state1", target := "state2", label := "'+'", color := "#434f5a" }]) "" =
      "    state0 -> state1\n    state1 -> state2 [label=\"'+'\", color=\"#434f5a\"]\n" := by
  decide

theorem emits_caption (text : String) : Emits (emitCaption text) () (captionLines text) :=
  (emits_line .captionAtTop).andThen (emits_line (.caption text))

end Dot

namespace Automaton

open Dot

variable (automaton : Automaton)

/-! ## Edges of a transition -/

theorem emits_transition (source : Fin automaton.size) (transition : Transition automaton.size)
    (color : Option String) :
    Emits (automaton.emitTransition source transition color) ()
      ((automaton.edges source transition color).map .edge) := by
  obtain ⟨target, label⟩ := transition
  cases label with
  | epsilon => exact emits_edge _
  | symbols codes =>
      rw [edges, edgeLabels, List.map_map, List.map_map, List.map_eq_flatMap]
      exact emits_loop fun code => (emits_edge _).turn

/-! ## Clusters -/

/-- An emitter passes over what is not allowed, a drawing keeps what is. -/
theorem any_not (allowed : Nat → Bool) (focus : Option Nat) :
    (focus.any fun rule => !allowed rule) = !focus.all allowed := by
  cases focus <;> rfl

theorem emits_border (rule : Nat) (focus : Option Nat) :
    Emits (emitBorder rule focus) () (if focus.all (· == rule) then [] else [.dottedBorder]) := by
  have others : focus.any (· != rule) = !focus.all (· == rule) := any_not (· == rule) focus
  rw [emitBorder, others]
  cases focus.all (· == rule) with
  | true => exact emits_pure ()
  | false => exact emits_line .dottedBorder

theorem emits_clusterNodes (rule : Nat) (focus : Option Nat) :
    Emits (automaton.emitClusterNodes rule focus) ()
      ((automaton.clusterStates rule focus).map
        (.node ∘ automaton.node (.inCluster (Color.ofRule rule)))) := by
  rw [clusterStates, map_filter_eq_flatMap]
  apply emits_loop
  intro index
  refine Emits.turnIf ?_ (emits_line _)
  rw [any_not, Bool.not_not]

theorem emits_clusterEdges (rule : Nat) (focus : Option Nat) :
    Emits (automaton.emitClusterEdges rule focus) ()
      ((automaton.clusterEdges rule focus).map .edge) := by
  rw [clusterEdges, List.map_flatMap]
  apply emits_loop
  intro source
  apply Emits.turn
  rw [clusterTransitions, map_flatMap_filter]
  apply emits_loop
  intro transition
  refine Emits.turnIf ?_ (automaton.emits_transition source transition _)
  have inside : automaton.reaches transition rule =
      !(automaton.owner transition.target != some rule) := by
    rw [Bool.eq_iff_iff]
    simp [reaches]
  rw [any_not, Bool.not_not, inside]

theorem emits_cluster (rule : Fin automaton.ruleCount) (focus : Option Nat) :
    Emits (automaton.emitCluster rule focus) () (automaton.cluster rule focus) := by
  have closing := (emits_line (.clusterLabel (automaton.ruleName rule))).andThen
    ((emits_line (.background (Color.ofRule rule).light)).andThen (emits_line .close))
  have whole := (emits_line (.openCluster rule)).andThen
    ((emits_border rule focus).andThen ((automaton.emits_clusterNodes rule focus).andThen
      ((automaton.emits_clusterEdges rule focus).andThen closing)))
  rw [emitCluster, cluster]
  simpa only [List.append_assoc, List.cons_append, List.nil_append] using whole

/-! ## Edges between clusters -/

theorem emits_crossing (focus : Option Nat) :
    Emits (automaton.emitCrossing focus) () (automaton.crossing focus) := by
  rw [crossing, crossEdges, List.map_flatMap]
  apply emits_loop
  intro source
  apply Emits.turn
  rw [crossTransitions, map_flatMap_filter]
  apply emits_loop
  intro transition
  refine Emits.turnIf ?_ (automaton.emits_transition source transition _)
  have away : (focus.any fun focus =>
      !automaton.reaches transition focus && automaton.owner source != some focus) =
        !focus.all fun rule =>
          automaton.reaches transition rule || automaton.owner source == some rule := by
    simp only [← any_not, Bool.not_or, bne]
  rw [away, Bool.not_not, bne]

/-! ## Whole views -/

theorem emits_clusters (rules : List (Fin automaton.ruleCount)) (focus : Option Nat) :
    Emits (automaton.emitClusters rules focus) () (rules.flatMap (automaton.cluster · focus)) :=
  emits_loop fun rule => (automaton.emits_cluster rule focus).turn

theorem emits_parts (rules : List (Fin automaton.ruleCount)) (focus : Option Nat) :
    Emits (automaton.emitParts rules focus) ()
      (rules.flatMap (automaton.cluster · focus) ++ automaton.crossing focus) :=
  (automaton.emits_clusters rules focus).andThen (automaton.emits_crossing focus)

theorem emits_focused (focus : Fin automaton.ruleCount) :
    Emits (automaton.emitFocused focus) () (automaton.focusedGraph focus) := by
  have closing := (emits_caption ("ATN for rule " ++ automaton.ruleName focus)).andThen
    (emits_line .close)
  have whole := (emits_line (.openGraph "ATN")).andThen ((emits_line .separateCrossings).andThen
    ((automaton.emits_parts automaton.rules (some focus)).andThen closing))
  rw [emitFocused, focusedGraph]
  simpa only [List.append_assoc, List.cons_append, List.nil_append] using whole

/-- The texts of the clusters, each of them rendered on its own, and that of the edges between
clusters. -/
def partTexts (rules : List (Fin automaton.ruleCount)) (focus : Option Nat) : String :=
  String.join (rules.map fun rule => render (automaton.cluster rule focus)) ++
    render (automaton.crossing focus)

theorem render_parts (rules : List (Fin automaton.ruleCount)) (focus : Option Nat) :
    render (rules.flatMap (automaton.cluster · focus) ++ automaton.crossing focus) =
      automaton.partTexts rules focus := by
  rw [render_append, render_flatMap, partTexts]

theorem content_focused (focus : Fin automaton.ruleCount) :
    (automaton.focused focus).content =
      "digraph ATN \x7b\n" ++ "   remincross =true\n" ++
        automaton.partTexts automaton.rules (some focus) ++
        render (captionLines ("ATN for rule " ++ automaton.ruleName focus)) ++ "\x7d\n" := by
  have header : render [.openGraph "ATN", .separateCrossings] =
      "digraph ATN \x7b\n" ++ "   remincross =true\n" := by decide
  have closing : render [.close] = "\x7d\n" := by decide
  rw [focused, focusedGraph, List.append_assoc [_, _], render_append, render_append, render_append,
    render_parts, header, closing]

/-- Each emitter appends to any buffer what is rendered without one, and so do lists of lines that
are written one after the other. A focused document is its parts between its header and its
caption. -/
structure OnlyAppends : Prop where
  transition : ∀ source transition color,
    Appends (after (automaton.emitTransition source transition color))
      (render ((automaton.edges source transition color).map .edge))
  cluster : ∀ rule focus,
    Appends (after (automaton.emitCluster rule focus)) (render (automaton.cluster rule focus))
  crossing : ∀ focus,
    Appends (after (automaton.emitCrossing focus)) (render (automaton.crossing focus))
  parts : ∀ rules focus,
    Appends (after (automaton.emitParts rules focus)) (automaton.partTexts rules focus)
  writtenParts : ∀ rules focus,
    Appends
      (fun buffer =>
        write (rules.foldl (fun text rule => write text (automaton.cluster rule focus)) buffer)
          (automaton.crossing focus))
      (automaton.partTexts rules focus)
  edges : ∀ drawn,
    Appends (after (emitEdges drawn)) (String.join (drawn.map fun edge => render [.edge edge]))
  writtenEdges : ∀ drawn : List Edge,
    Appends (drawn.foldl fun text edge => write text [.edge edge])
      (String.join (drawn.map fun edge => render [.edge edge]))
  caption : ∀ text, Appends (after (emitCaption text)) (render (captionLines text))
  writtenCaption : ∀ text, Appends (write · (captionLines text)) (render (captionLines text))
  focused : ∀ focus, Appends (after (automaton.emitFocused focus)) (automaton.focused focus).content
  content : ∀ focus,
    (automaton.focused focus).content =
      "digraph ATN \x7b\n" ++ "   remincross =true\n" ++
        automaton.partTexts automaton.rules (some focus) ++
        render (captionLines ("ATN for rule " ++ automaton.ruleName focus)) ++ "\x7d\n"

/-- No emitter does anything else to its buffer, on any path through its loops. -/
theorem emitters_only_append (automaton : Automaton) : automaton.OnlyAppends where
  transition := by
    intro source transition color
    exact (automaton.emits_transition source transition color).appends
  cluster := by
    intro rule focus
    exact (automaton.emits_cluster rule focus).appends
  crossing := by
    intro focus
    exact (automaton.emits_crossing focus).appends
  parts := by
    intro rules focus
    rw [← render_parts]
    exact (automaton.emits_parts rules focus).appends
  writtenParts := by
    intro rules focus
    exact (appends_foldl_write _ rules).andThen (appends_write (automaton.crossing focus))
  edges := by
    intro drawn
    rw [← render_flatMap, ← List.map_eq_flatMap]
    exact (emits_edges drawn).appends
  writtenEdges := appends_foldl_write fun edge => [.edge edge]
  caption := by
    intro text
    exact (emits_caption text).appends
  writtenCaption := by
    intro text
    exact appends_write (captionLines text)
  focused := by
    intro focus
    exact (automaton.emits_focused focus).appends
  content := automaton.content_focused

end Automaton

end TransitionNetwork
