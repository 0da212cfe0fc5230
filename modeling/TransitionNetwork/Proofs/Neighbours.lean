import TransitionNetwork.Proofs.DeclaredNodes

/-!
# Neighbours

The questions for orphans and for connections are answered from the lists of predecessors, which are
made once for all states. The answers are those that the transitions themselves give, wherever these
lead: back to their own state, beside other transitions to the same target, or to a state that no
rule owns.
-/

set_option autoImplicit false

namespace TransitionNetwork.Automaton

variable (automaton : Automaton)

/-- A transition leads from the one state to the other. -/
def LeadsTo (source target : Fin automaton.size) : Prop :=
  ∃ transition ∈ automaton.transitions source, transition.target = target

instance (source target : Fin automaton.size) : Decidable (automaton.LeadsTo source target) :=
  inferInstanceAs (Decidable (∃ transition ∈ automaton.transitions source, _))

theorem leadsTo_iff_arrow {source target : Fin automaton.size} :
    automaton.LeadsTo source target ↔
      ∃ arrow ∈ automaton.arrows, arrow.source = source ∧ arrow.target = target := by
  rw [← mem_sources_iff_arrow, mem_sources]
  rfl

theorem leadsTo_of_mem_arrows {arrow : Arrow automaton.size} (member : arrow ∈ automaton.arrows) :
    automaton.LeadsTo arrow.source arrow.target :=
  automaton.leadsTo_iff_arrow.mpr ⟨arrow, member, rfl, rfl⟩

theorem isConnected_iff_leadsTo {index : Fin automaton.size} {rule : Nat} :
    automaton.isConnected index rule = true ↔
      ∃ other, automaton.owner other = some rule ∧
        (other = index ∨ automaton.LeadsTo index other ∨ automaton.LeadsTo other index) := by
  rw [isConnected_iff]
  constructor
  · rintro (owned | ⟨arrow, member, ⟨rfl, owned⟩ | ⟨rfl, owned⟩⟩)
    · exact ⟨index, owned, Or.inl rfl⟩
    · exact ⟨arrow.target, owned, Or.inr (Or.inl (automaton.leadsTo_of_mem_arrows member))⟩
    · exact ⟨arrow.source, owned, Or.inr (Or.inr (automaton.leadsTo_of_mem_arrows member))⟩
  · rintro ⟨other, owned, rfl | leaving | entering⟩
    · exact Or.inl owned
    · obtain ⟨arrow, member, source, rfl⟩ := automaton.leadsTo_iff_arrow.mp leaving
      exact Or.inr ⟨arrow, member, Or.inl ⟨source, owned⟩⟩
    · obtain ⟨arrow, member, rfl, target⟩ := automaton.leadsTo_iff_arrow.mp entering
      exact Or.inr ⟨arrow, member, Or.inr ⟨target, owned⟩⟩

theorem isOrphan_iff_transitions {index : Fin automaton.size} :
    automaton.isOrphan index = true ↔
      ∀ source, ∀ transition ∈ automaton.transitions source,
        source ≠ index ∧ transition.target ≠ index := by
  rw [← Bool.not_eq_false, isOrphan_eq_false_iff]
  constructor
  · intro lonely source transition member
    have present : { source, transition } ∈ automaton.arrows := automaton.mem_arrows.mpr member
    constructor
    · intro leaving
      exact lonely ⟨_, present, Or.inl leaving⟩
    · intro entering
      exact lonely ⟨_, present, Or.inr entering⟩
  · rintro lonely ⟨arrow, member, atEnd⟩
    obtain ⟨leaving, entering⟩ := lonely _ _ (automaton.mem_arrows.mp member)
    exact atEnd.elim leaving entering

/-- A state is connected to a rule, declared or not, exactly when it or a state next to it is owned
by the rule, and it is an orphan exactly when it is at neither end of any transition. So each end of
a transition is connected to the owner of the other. -/
theorem queries_follow_transitions :
    (∀ (index : Fin automaton.size) (rule : Nat),
      automaton.isConnected index rule = true ↔
        ∃ other, automaton.owner other = some rule ∧
          (other = index ∨ automaton.LeadsTo index other ∨ automaton.LeadsTo other index)) ∧
    (∀ index : Fin automaton.size,
      automaton.isOrphan index = true ↔
        ∀ source, ∀ transition ∈ automaton.transitions source,
          source ≠ index ∧ transition.target ≠ index) ∧
    ∀ source, ∀ transition ∈ automaton.transitions source, ∀ rule : Nat,
      (automaton.owner transition.target = some rule → automaton.isConnected source rule = true) ∧
      (automaton.owner source = some rule →
        automaton.isConnected transition.target rule = true) := by
  refine ⟨fun index rule => automaton.isConnected_iff_leadsTo,
    fun index => automaton.isOrphan_iff_transitions, ?_⟩
  intro source transition member rule
  have leads : automaton.LeadsTo source transition.target := ⟨transition, member, rfl⟩
  constructor
  · intro owned
    exact automaton.isConnected_iff_leadsTo.mpr ⟨_, owned, Or.inr (Or.inl leads)⟩
  · intro owned
    exact automaton.isConnected_iff_leadsTo.mpr ⟨_, owned, Or.inr (Or.inr leads)⟩

/-- A state that leads to itself, and twice to a state that no rule owns and that leads back. The
third state is an orphan. -/
def crossedStates : Automaton where
  ruleNames := #["b"]
  vocabulary := {}
  size := 3
  states := #v[
    { id := 4, rule := some ⟨0, by decide⟩, kind := .basic,
      transitions := [⟨1, .symbols [1]⟩, ⟨0, .epsilon⟩, ⟨1, .epsilon⟩] },
    { id := 2, rule := none, kind := .basic, transitions := [⟨0, .epsilon⟩] },
    { id := 3, rule := some ⟨0, by decide⟩, kind := .basic, transitions := [] }]
  usable_of_mem_ruleNames := by decide
  ruleNames_nodup := by decide
  ids_nodup := by decide

theorem queries_follow_transitions_of_crossedStates :
    let transition : Transition crossedStates.size := ⟨(1 : Fin 3), .epsilon⟩
    transition ∈ crossedStates.transitions (0 : Fin 3) ∧
    crossedStates.owner (0 : Fin 3) = some 0 ∧ crossedStates.owner (1 : Fin 3) = none ∧
    crossedStates.isConnected (1 : Fin 3) 0 = true := by
  intro transition
  have member : transition ∈ crossedStates.transitions (0 : Fin 3) := by decide
  have owned : crossedStates.owner (0 : Fin 3) = some 0 := by decide
  exact ⟨member, owned, by decide,
    (crossedStates.queries_follow_transitions.2.2 _ transition member 0).2 owned⟩

end TransitionNetwork.Automaton
