import Mathlib.Data.Fin.Basic
import Mathlib.Data.List.Flatten
import Mathlib.Data.List.Nodup
import Mathlib.Data.List.Perm.Basic
import TransitionNetwork.Drawing

/-!
# Arrows

An arrow is a transition together with the state that it leaves. Every loop that draws edges goes
over the arrows and keeps some of them, so what the views draw can be compared by what they keep.
-/

set_option autoImplicit false

namespace TransitionNetwork

/-! ## Keeping some items of a list -/

section Selection

variable {α : Type}

/-- What is kept by one of two tests is kept by either, when no item passes both. -/
theorem filter_append_filter_perm {p q : α → Bool} {items : List α}
    (apart : ∀ item ∈ items, p item → ¬ q item) :
    (items.filter p ++ items.filter q).Perm (items.filter fun item => p item || q item) := by
  have firsts : (items.filter fun item => p item || q item).filter p = items.filter p := by
    rw [List.filter_filter]
    apply List.filter_congr
    intro item _
    cases p item <;> simp
  have others : (items.filter fun item => p item || q item).filter (fun item => !p item) =
      items.filter q := by
    rw [List.filter_filter]
    apply List.filter_congr
    intro item member
    have exclusive := apart item member
    cases kept : p item <;> simp_all
  have parts := List.filter_append_perm p (items.filter fun item => p item || q item)
  rwa [firsts, others] at parts

/-- Going through the keys, and through all items for each of them, meets every item that has one
of the keys once. -/
theorem flatMap_filter_perm (key : α → Option Nat) {keys : List Nat} (distinct : keys.Nodup)
    (items : List α) :
    (keys.flatMap fun wanted => items.filter fun item => key item = some wanted).Perm
      (items.filter fun item => (key item).any (· ∈ keys)) := by
  induction keys with
  | nil => simp
  | cons wanted keys ih =>
      obtain ⟨fresh, distinct⟩ := List.nodup_cons.mp distinct
      have apart : ∀ item ∈ items, decide (key item = some wanted) →
          ¬ (key item).any (· ∈ keys) := by
        intro item _ same
        rw [of_decide_eq_true same]
        simpa using fresh
      have either : ∀ item ∈ items,
          (decide (key item = some wanted) || (key item).any (· ∈ keys)) =
            (key item).any (· ∈ wanted :: keys) := by
        intro item _
        cases key item <;> simp
      rw [List.flatMap_cons, ← List.filter_congr either]
      exact ((ih distinct).append_left _).trans (filter_append_filter_perm apart)

end Selection

structure Arrow (size : Nat) where
  source : Fin size
  transition : Transition size
  deriving DecidableEq

def Arrow.target {size : Nat} (arrow : Arrow size) : Fin size :=
  arrow.transition.target

namespace Automaton

open Dot

variable (automaton : Automaton)

/-- Every transition with its source, in the order of the states. -/
def arrows : List (Arrow automaton.size) :=
  automaton.indices.flatMap fun source =>
    (automaton.transitions source).map fun transition => { source, transition }

theorem mem_arrows {arrow : Arrow automaton.size} :
    arrow ∈ automaton.arrows ↔ arrow.transition ∈ automaton.transitions arrow.source := by
  simp only [arrows, indices, List.mem_flatMap, List.mem_finRange, true_and, List.mem_map]
  constructor
  · rintro ⟨source, transition, member, rfl⟩
    exact member
  · intro member
    exact ⟨arrow.source, arrow.transition, member, rfl⟩

/-- The arrows that are drawn in the cluster of a rule. -/
def clusterArrows (rule : Nat) (focus : Option Nat) : List (Arrow automaton.size) :=
  (automaton.statesOfRule rule).flatMap fun source =>
    (automaton.clusterTransitions rule focus source).map (Arrow.mk source)

/-- The arrows that are drawn between clusters. -/
def crossArrows (focus : Option Nat) : List (Arrow automaton.size) :=
  automaton.indices.flatMap fun source =>
    (automaton.crossTransitions focus source).map (Arrow.mk source)

/-- The arrows between two states that no rule owns. -/
def unownedArrows : List (Arrow automaton.size) :=
  automaton.arrows.filter fun arrow =>
    automaton.owner arrow.source = none ∧ automaton.owner arrow.target = none

/-! ## What an arrow draws -/

/-- An arrow that accepts nothing stands for one edge without a label, any other arrow for one edge
for each of its symbols, labelled with the name of the symbol. -/
def arrowEdges (color : Option String) (arrow : Arrow automaton.size) : List Edge :=
  match arrow.transition.label with
  | .epsilon =>
    [{ source := automaton.nodeId arrow.source, target := automaton.nodeId arrow.target,
       label := none, color }]
  | .symbols codes =>
    codes.map fun code =>
      { source := automaton.nodeId arrow.source, target := automaton.nodeId arrow.target,
        label := some (automaton.vocabulary.displayName code), color }

theorem edges_eq_arrowEdges (source : Fin automaton.size)
    (transition : Transition automaton.size) (color : Option String) :
    automaton.edges source transition color =
      automaton.arrowEdges color { source, transition } := by
  unfold edges edgeLabels arrowEdges
  cases transition.label with
  | epsilon => rfl
  | symbols codes =>
      simp only [List.map_map]
      rfl

theorem ends_of_mem_arrowEdges {color : Option String} {arrow : Arrow automaton.size} {edge : Edge}
    (member : edge ∈ automaton.arrowEdges color arrow) :
    edge.source = automaton.nodeId arrow.source ∧ edge.target = automaton.nodeId arrow.target := by
  unfold arrowEdges at member
  split at member
  · rw [List.mem_singleton.mp member]
    exact ⟨rfl, rfl⟩
  · obtain ⟨code, _, rfl⟩ := List.mem_map.mp member
    exact ⟨rfl, rfl⟩

/-- The dark variant of the colour of whatever owns the target. -/
def stroke (arrow : Arrow automaton.size) : String :=
  (Color.ofOwner (automaton.owner arrow.target)).dark.hex

def strokedEdges (arrow : Arrow automaton.size) : List Edge :=
  automaton.arrowEdges (some (automaton.stroke arrow)) arrow

theorem clusterEdges_eq_flatMap (rule : Nat) (focus : Option Nat) :
    automaton.clusterEdges rule focus =
      (automaton.clusterArrows rule focus).flatMap automaton.strokedEdges := by
  unfold clusterEdges clusterArrows
  rw [List.flatMap_assoc]
  apply List.flatMap_congr
  intro source _
  rw [List.flatMap_map]
  apply List.flatMap_congr
  intro transition member
  have reached : automaton.owner transition.target = some rule := by
    have kept := (List.mem_filter.mp member).2
    rw [Bool.and_eq_true] at kept
    exact of_decide_eq_true kept.1
  rw [edges_eq_arrowEdges, strokedEdges, stroke, Arrow.target, reached]
  rfl

theorem crossEdges_eq_flatMap (focus : Option Nat) :
    automaton.crossEdges focus =
      (automaton.crossArrows focus).flatMap automaton.strokedEdges := by
  unfold crossEdges crossArrows
  rw [List.flatMap_assoc]
  apply List.flatMap_congr
  intro source _
  rw [List.flatMap_map]
  apply List.flatMap_congr
  intro transition _
  exact automaton.edges_eq_arrowEdges source transition _

theorem edgesFrom_indices_eq_flatMap :
    automaton.edgesFrom automaton.indices =
      automaton.arrows.flatMap (automaton.arrowEdges none) := by
  unfold edgesFrom arrows
  rw [List.flatMap_assoc]
  apply List.flatMap_congr
  intro source _
  rw [List.flatMap_map]
  apply List.flatMap_congr
  intro transition _
  exact automaton.edges_eq_arrowEdges source transition none

/-! ## Which arrows are drawn -/

/-- A loop over some sources and some transitions of each meets some of the arrows, in order. -/
theorem loop_eq_filter_arrows (source? : Fin automaton.size → Bool)
    (transition? : Fin automaton.size → Transition automaton.size → Bool) :
    ((automaton.indices.filter source?).flatMap fun source =>
      ((automaton.transitions source).filter (transition? source)).map (Arrow.mk source)) =
    automaton.arrows.filter fun arrow =>
      source? arrow.source && transition? arrow.source arrow.transition := by
  unfold arrows
  induction automaton.indices with
  | nil => rfl
  | cons source sources ih =>
      rw [List.flatMap_cons, List.filter_append, ← ih, List.filter_map]
      cases kept : source? source with
      | false => simp [kept, Function.comp_def]
      | true => simp [kept, Function.comp_def]

theorem reaches_transition (arrow : Arrow automaton.size) (rule : Nat) :
    automaton.reaches arrow.transition rule = true ↔ automaton.owner arrow.target = some rule :=
  decide_eq_true_iff

/-- The arrow stays with one rule, and under a focus it leads into the rule in focus. -/
def isInside (focus : Option Nat) (arrow : Arrow automaton.size) : Bool :=
  (automaton.owner arrow.source).isSome &&
    (automaton.owner arrow.target = automaton.owner arrow.source &&
      focus.all (automaton.reaches arrow.transition))

/-- The arrow leaves its owner, and under a focus it leaves or enters the rule in focus. -/
def isAcross (focus : Option Nat) (arrow : Arrow automaton.size) : Bool :=
  automaton.owner arrow.target != automaton.owner arrow.source &&
    focus.all fun rule =>
      automaton.reaches arrow.transition rule || automaton.owner arrow.source == some rule

theorem isInside_iff {focus : Option Nat} {arrow : Arrow automaton.size} :
    automaton.isInside focus arrow = true ↔
      (automaton.owner arrow.source).isSome = true ∧
        automaton.owner arrow.target = automaton.owner arrow.source ∧
        ∀ rule ∈ focus, automaton.owner arrow.target = some rule := by
  simp only [isInside, Bool.and_eq_true, decide_eq_true_eq, Option.all_eq_true,
    reaches_transition, Option.mem_def]

theorem isAcross_iff {focus : Option Nat} {arrow : Arrow automaton.size} :
    automaton.isAcross focus arrow = true ↔
      automaton.owner arrow.target ≠ automaton.owner arrow.source ∧
        ∀ rule ∈ focus,
          automaton.owner arrow.target = some rule ∨ automaton.owner arrow.source = some rule := by
  simp only [isAcross, Bool.and_eq_true, bne_iff_ne, Option.all_eq_true, Bool.or_eq_true,
    reaches_transition, beq_iff_eq, Option.mem_def]

/-- No arrow is drawn both in a cluster and between clusters. -/
theorem not_isAcross_of_isInside {focus focus' : Option Nat} {arrow : Arrow automaton.size}
    (inside : automaton.isInside focus arrow = true) :
    ¬ automaton.isAcross focus' arrow = true := by
  intro across
  exact (automaton.isAcross_iff.mp across).1 (automaton.isInside_iff.mp inside).2.1

theorem clusterArrows_eq_filter (rule : Nat) (focus : Option Nat) :
    automaton.clusterArrows rule focus =
      (automaton.arrows.filter (automaton.isInside focus)).filter fun arrow =>
        automaton.owner arrow.source = some rule := by
  rw [clusterArrows, statesOfRule]
  unfold clusterTransitions
  rw [loop_eq_filter_arrows, List.filter_filter]
  apply List.filter_congr
  intro arrow _
  by_cases owned : automaton.owner arrow.source = some rule
  · simp [isInside, reaches, owned, Arrow.target]
  · simp [owned]

theorem crossArrows_eq_filter (focus : Option Nat) :
    automaton.crossArrows focus = automaton.arrows.filter (automaton.isAcross focus) := by
  have all : automaton.indices = automaton.indices.filter fun _ => true := by simp
  rw [crossArrows, all]
  unfold crossTransitions
  rw [loop_eq_filter_arrows]
  simp only [Bool.true_and]
  rfl

theorem owner_lt {index : Fin automaton.size} {rule : Nat}
    (owned : automaton.owner index = some rule) : rule < automaton.ruleCount := by
  obtain ⟨declared, _, rfl⟩ := Option.map_eq_some_iff.mp owned
  exact declared.isLt

/-- Going through the rules, and through all items for each of them, meets every item whose state is
owned once. -/
theorem flatMap_rules_perm {α : Type} (state : α → Fin automaton.size) (items : List α) :
    (automaton.rules.flatMap fun rule : Fin automaton.ruleCount =>
      items.filter fun item => automaton.owner (state item) = some rule.val).Perm
    (items.filter fun item => (automaton.owner (state item)).isSome) := by
  have distinct : (automaton.rules.map Fin.val).Nodup :=
    (List.nodup_finRange automaton.ruleCount).map Fin.val_injective
  have parts := flatMap_filter_perm (fun item => automaton.owner (state item)) distinct items
  have declared : ∀ item ∈ items,
      (automaton.owner (state item)).any (· ∈ automaton.rules.map Fin.val) =
      (automaton.owner (state item)).isSome := by
    intro item _
    cases owned : automaton.owner (state item) with
    | none => rfl
    | some rule =>
        have known : rule ∈ automaton.rules.map Fin.val :=
          List.mem_map.mpr ⟨⟨rule, automaton.owner_lt owned⟩, List.mem_finRange _, rfl⟩
        exact decide_eq_true known
  rwa [List.flatMap_map, List.filter_congr declared] at parts

/-- The clusters of all rules together draw every arrow that stays with one rule once. -/
theorem clusterArrows_perm (focus : Option Nat) :
    (automaton.rules.flatMap fun rule : Fin automaton.ruleCount =>
      automaton.clusterArrows rule focus).Perm
    (automaton.arrows.filter (automaton.isInside focus)) := by
  have parts := automaton.flatMap_rules_perm Arrow.source
    (automaton.arrows.filter (automaton.isInside focus))
  have owned : ∀ arrow ∈ automaton.arrows.filter (automaton.isInside focus),
      (automaton.owner arrow.source).isSome = true := by
    intro arrow member
    exact (automaton.isInside_iff.mp (List.mem_filter.mp member).2).1
  rw [List.filter_eq_self.mpr owned] at parts
  simpa only [clusterArrows_eq_filter] using parts

/-- The two loops draw no arrow twice. -/
theorem clusterArrows_append_crossArrows_perm (focus : Option Nat) :
    ((automaton.rules.flatMap fun rule : Fin automaton.ruleCount =>
      automaton.clusterArrows rule focus) ++ automaton.crossArrows focus).Perm
    (automaton.arrows.filter fun arrow =>
      automaton.isInside focus arrow || automaton.isAcross focus arrow) := by
  rw [crossArrows_eq_filter]
  apply ((automaton.clusterArrows_perm focus).append_right _).trans
  apply filter_append_filter_perm
  intro arrow _ inside
  exact automaton.not_isAcross_of_isInside inside

end Automaton

end TransitionNetwork
