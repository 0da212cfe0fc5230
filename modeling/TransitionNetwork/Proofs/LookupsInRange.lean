import TransitionNetwork.Proofs.PlainBuild
import TransitionNetwork.Proofs.PlainDrawing

/-!
# Lookups stay in range

What an automaton stores is in range. So of all lookups in plain numbers only that of the caller's
own number can fail, and it fails whenever that number is out of range.
-/

set_option autoImplicit false

namespace TransitionNetwork

/-- A question in plain numbers has an answer for every number below the bound, the one that the
reference has, and no answer for any other number. -/
structure AnswersBelow {α : Type} (bound : Nat) (answer : Fin bound → α)
    (answer? : Nat → Option α) : Prop where
  inside : ∀ index : Fin bound, answer? index = some (answer index)
  outside : ∀ number, bound ≤ number → answer? number = none

namespace Automaton

variable (automaton : Automaton)

/-- A number is asked for out of range by the caller or not at all. The rule that a state is held
against and the rule in focus may be any numbers. -/
structure LooksUpInRange : Prop where
  built : ∀ snapshot, ofSnapshot snapshot = .ok automaton →
    Arena.ofSnapshot? snapshot = some (.ok automaton.arena)
  target_lt : ∀ state ∈ automaton.arena.states, ∀ transition ∈ state.transitions,
    transition.target < automaton.arena.states.size
  rule_lt : ∀ state ∈ automaton.arena.states, ∀ rule ∈ state.rule,
    rule < automaton.arena.ruleNames.size
  sources_size : automaton.arena.predecessors.size = automaton.arena.states.size
  source_lt : ∀ sources ∈ automaton.arena.predecessors, ∀ source ∈ sources,
    source < automaton.arena.states.size
  documents : ∀ options,
    automaton.arena.documents? options = some (automaton.documents options)
  crossing : ∀ focus, automaton.arena.crossing? focus = some (automaton.crossing focus)
  label : AnswersBelow automaton.size automaton.label automaton.arena.label?
  isOrphan : AnswersBelow automaton.size automaton.isOrphan automaton.arena.isOrphan?
  sources : AnswersBelow automaton.size (fun index => (automaton.sources index).map Fin.val)
    automaton.arena.sources?
  isConnected : ∀ rule, AnswersBelow automaton.size (automaton.isConnected · rule)
    (automaton.arena.isConnected? · rule)
  ruleName : AnswersBelow automaton.ruleCount automaton.ruleName automaton.arena.ruleName?
  cluster : ∀ focus, AnswersBelow automaton.ruleCount (automaton.cluster · focus)
    (automaton.arena.cluster? focus)
  focused : AnswersBelow automaton.ruleCount automaton.focused automaton.arena.focused?
  flat : AnswersBelow automaton.ruleCount automaton.flat automaton.arena.flat?

theorem size_arena_states : automaton.arena.states.size = automaton.size := by
  simp [arena]

theorem exists_of_mem_arena_states {state : Arena.State} (member : state ∈ automaton.arena.states) :
    ∃ index, state = (automaton.state index).plain := by
  obtain ⟨position, inside, rfl⟩ := Array.getElem_of_mem member
  refine ⟨⟨position, by rwa [size_arena_states] at inside⟩, ?_⟩
  simp [arena, Automaton.state]

theorem exists_of_mem_arena_predecessors {sources : Array Nat}
    (member : sources ∈ automaton.arena.predecessors) :
    ∃ index, sources = (automaton.sources index).map Fin.val := by
  obtain ⟨position, inside, rfl⟩ := Array.getElem_of_mem member
  refine ⟨⟨position, by simpa [arena] using inside⟩, ?_⟩
  simp [arena, Automaton.sources]

theorem arena_state?_eq_none {number : Nat} (above : automaton.size ≤ number) :
    automaton.arena.state? number = none := by
  apply Array.getElem?_eq_none
  rwa [size_arena_states]

theorem arena_sources?_eq_none {number : Nat} (above : automaton.size ≤ number) :
    automaton.arena.sources? number = none := by
  apply Array.getElem?_eq_none
  simpa [arena] using above

theorem arena_ruleName?_eq_none {number : Nat} (above : automaton.ruleCount ≤ number) :
    automaton.arena.ruleName? number = none :=
  Array.getElem?_eq_none above

/-- Nothing but the caller's own number makes a lookup fail. -/
theorem looksUpInRange : automaton.LooksUpInRange where
  built := by
    intro snapshot accepted
    rw [Arena.ofSnapshot?_eq, accepted]
    rfl
  target_lt := by
    intro state member transition leaving
    obtain ⟨index, rfl⟩ := automaton.exists_of_mem_arena_states member
    obtain ⟨reference, _, rfl⟩ := List.mem_map.mp leaving
    rw [size_arena_states]
    exact reference.target.isLt
  rule_lt := by
    intro state member rule owner
    obtain ⟨index, rfl⟩ := automaton.exists_of_mem_arena_states member
    obtain ⟨reference, _, rfl⟩ := Option.map_eq_some_iff.mp owner
    exact reference.isLt
  sources_size := by simp [arena]
  source_lt := by
    intro sources member source noted
    obtain ⟨index, rfl⟩ := automaton.exists_of_mem_arena_predecessors member
    obtain ⟨reference, _, rfl⟩ := Array.mem_map.mp noted
    rw [size_arena_states]
    exact reference.isLt
  documents := automaton.arena_documents?
  crossing := automaton.arena_crossing?
  label := by
    refine ⟨automaton.arena_label?, fun number above => ?_⟩
    rw [Arena.label?, automaton.arena_state?_eq_none above]
    rfl
  isOrphan := by
    refine ⟨automaton.arena_isOrphan?, fun number above => ?_⟩
    rw [Arena.isOrphan?, automaton.arena_state?_eq_none above]
    rfl
  sources := ⟨automaton.arena_sources?, fun _ above => automaton.arena_sources?_eq_none above⟩
  isConnected := by
    refine fun rule => ⟨fun index => automaton.arena_isConnected? index rule, ?_⟩
    intro number above
    rw [Arena.isConnected?, automaton.arena_state?_eq_none above]
    rfl
  ruleName := ⟨automaton.arena_ruleName?, fun _ above => automaton.arena_ruleName?_eq_none above⟩
  cluster := by
    refine fun focus => ⟨automaton.arena_cluster? focus, fun number above => ?_⟩
    rw [Arena.cluster?, automaton.arena_ruleName?_eq_none above]
    rfl
  focused := by
    refine ⟨automaton.arena_focused?, fun number above => ?_⟩
    rw [Arena.focused?, automaton.arena_ruleName?_eq_none above]
    rfl
  flat := by
    refine ⟨automaton.arena_flat?, fun number above => ?_⟩
    rw [Arena.flat?, automaton.arena_ruleName?_eq_none above]
    rfl

end Automaton

end TransitionNetwork
