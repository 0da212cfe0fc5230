import TransitionNetwork.Arena

/-!
# Automata in plain numbers

The arena of an automaton answers each question as the automaton does, so no lookup in it fails but
for a number that the question itself gives.
-/

set_option autoImplicit false

namespace TransitionNetwork

/-! ## Passes with lookups -/

section Passes

variable {α β γ : Type}

/-- A pass over plain numbers that finds everything it looks for is one over the references. -/
theorem flatMapM_map {f : β → Option (List γ)} {plain : α → β} {g : α → List γ} {items : List α}
    (each : ∀ item, f (plain item) = some (g item)) :
    (items.map plain).flatMapM f = some (items.flatMap g) := by
  induction items with
  | nil => rfl
  | cons item items ih =>
      rw [List.map_cons, List.flatMapM_cons, each, ih, List.flatMap_cons]
      rfl

theorem mapM_map {f : β → Option γ} {plain : α → β} {g : α → γ} {items : List α}
    (each : ∀ item, f (plain item) = some (g item)) :
    (items.map plain).mapM f = some (items.map g) := by
  induction items with
  | nil => rfl
  | cons item items ih =>
      rw [List.map_cons, List.mapM_cons, each, ih]
      rfl

theorem anyM_map {p : β → Option Bool} {plain : α → β} {q : α → Bool} {items : List α}
    (each : ∀ item, p (plain item) = some (q item)) :
    (items.map plain).anyM p = some (items.any q) := by
  induction items with
  | nil => rfl
  | cons item items ih =>
      rw [List.map_cons, List.anyM_cons, each, ih, List.any_cons]
      cases q item <;> rfl

end Passes

/-! ## Answers of the arena -/

namespace Automaton

variable (automaton : Automaton)

theorem arena_state? (index : Fin automaton.size) :
    automaton.arena.state? index = some (automaton.state index).plain := by
  simp [arena, Arena.state?, state]

theorem arena_sources? (index : Fin automaton.size) :
    automaton.arena.sources? index = some ((automaton.sources index).map Fin.val) := by
  simp [arena, Arena.sources?, sources]

theorem arena_ruleName? (rule : Fin automaton.ruleCount) :
    automaton.arena.ruleName? rule = some (automaton.ruleName rule) := by
  simp [arena, Arena.ruleName?, ruleName]

theorem arena_owner? (index : Fin automaton.size) :
    automaton.arena.owner? index = some (automaton.owner index) := by
  rw [Arena.owner?, arena_state?]
  rfl

theorem arena_nodeId? (index : Fin automaton.size) :
    automaton.arena.nodeId? index = some (automaton.nodeId index) := by
  rw [Arena.nodeId?, arena_state?]
  rfl

theorem arena_numbered :
    automaton.arena.numbered =
      automaton.indices.map fun index => ((automaton.state index).plain, index.val) := by
  apply List.ext_getElem
  · simp [Arena.numbered, arena, indices]
  · intro position inside inside'
    simp [Arena.numbered, arena, indices, state]

theorem arena_statesOfRule (rule : Nat) :
    automaton.arena.statesOfRule rule = (automaton.statesOfRule rule).map Fin.val := by
  rw [Arena.statesOfRule, arena_numbered, List.filter_map, List.map_map]
  rfl

theorem arena_label? (index : Fin automaton.size) :
    automaton.arena.label? index = some (automaton.label index) := by
  unfold Arena.label? label
  rw [arena_state?]
  cases owned : (automaton.state index).rule with
  | none => simp [State.plain, State.owner, owned, Arena.State.nodeId, State.nodeId]
  | some rule =>
      simp [State.plain, State.owner, owned, automaton.arena_ruleName? rule]

theorem arena_isOrphan? (index : Fin automaton.size) :
    automaton.arena.isOrphan? index = some (automaton.isOrphan index) := by
  unfold Arena.isOrphan? isOrphan
  rw [arena_state?, arena_sources?]
  cases leaving : (automaton.state index).transitions with
  | nil => simp [State.plain, transitions, leaving, Array.isEmpty]
  | cons transition others => simp [State.plain, transitions, leaving]

theorem arena_belongs? (index : Fin automaton.size) (rule : Nat) :
    automaton.arena.belongs? index rule = some (decide (automaton.owner index = some rule)) := by
  rw [Arena.belongs?, arena_owner?]
  rfl

theorem arena_reaches? (transition : Transition automaton.size) (rule : Nat) :
    automaton.arena.reaches? transition.plain rule = some (automaton.reaches transition rule) :=
  automaton.arena_belongs? transition.target rule

theorem arena_isConnected? (index : Fin automaton.size) (rule : Nat) :
    automaton.arena.isConnected? index rule = some (automaton.isConnected index rule) := by
  have leading : (automaton.state index).plain.transitions.anyM
      (automaton.arena.reaches? · rule) =
        some ((automaton.transitions index).any (automaton.reaches · rule)) :=
    anyM_map fun transition => automaton.arena_reaches? transition rule
  have led : ((automaton.sources index).map Fin.val).toList.anyM
      (automaton.arena.belongs? · rule) =
        some ((automaton.sources index).any fun source => automaton.owner source = some rule) := by
    rw [Array.toList_map, ← Array.any_toList]
    exact anyM_map fun source => automaton.arena_belongs? source rule
  have owned : (automaton.state index).plain.rule = automaton.owner index := rfl
  unfold Arena.isConnected? isConnected
  rw [arena_state?, arena_sources?]
  simp only [Option.bind_eq_bind, Option.bind_some, owned, leading, led]
  by_cases own : automaton.owner index = some rule
  · simp [own]
  · cases (automaton.transitions index).any (automaton.reaches · rule) <;> simp [own]

end Automaton
end TransitionNetwork
