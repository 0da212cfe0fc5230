import Mathlib.Logic.Basic
import TransitionNetwork.Automaton.Query

/-!
# Predecessors

The lists of sources are built in one pass over the states. Which sources they hold does not depend
on the order of the pass: a state is noted for a target exactly when a transition leads from it to
the target. That each is noted once does: only the last one noted is looked at, and the states come
in order.
-/

set_option autoImplicit false

namespace TransitionNetwork

variable {size ruleCount : Nat}

/-- A source that is not noted again is noted already. -/
theorem mem_recordSource {sources : Vector (Array (Fin size)) size}
    {source target origin index : Fin size} :
    origin ∈ (recordSource sources source target).get index ↔
      origin ∈ sources.get index ∨ (origin = source ∧ target = index) := by
  unfold recordSource
  split
  · rename_i noted
    have present : source ∈ sources.get target := Array.mem_of_back? noted
    constructor
    · exact Or.inl
    · rintro (member | ⟨rfl, rfl⟩)
      · exact member
      · exact present
  · change origin ∈ (sources.set target (sources[target].push source))[index] ↔
      origin ∈ sources[index] ∨ (origin = source ∧ target = index)
    by_cases same : target = index
    · subst same
      simp
    · have apart : target.val ≠ index.val := fun equal => same (Fin.ext equal)
      simp [apart, same]

/-- One state notes itself for the targets of its transitions, and for no others. -/
theorem mem_foldl_recordSource {sources : Vector (Array (Fin size)) size}
    {transitions : List (Transition size)} {source origin index : Fin size} :
    origin ∈ (transitions.foldl
        (fun sources transition => recordSource sources source transition.target)
        sources).get index ↔
      origin ∈ sources.get index ∨
        (origin = source ∧ ∃ transition ∈ transitions, transition.target = index) := by
  induction transitions generalizing sources with
  | nil => simp
  | cons transition transitions ih =>
      rw [List.foldl_cons, ih, mem_recordSource, or_assoc]
      simp only [List.mem_cons, exists_eq_or_imp, ← and_or_left]

theorem mem_foldl_sources {states : Vector (State size ruleCount) size}
    {visited : List (Fin size)} {sources : Vector (Array (Fin size)) size}
    {origin index : Fin size} :
    origin ∈ (visited.foldl
        (fun sources source =>
          (states.get source).transitions.foldl
            (fun sources transition => recordSource sources source transition.target) sources)
        sources).get index ↔
      origin ∈ sources.get index ∨
        (origin ∈ visited ∧ ∃ transition ∈ (states.get origin).transitions,
          transition.target = index) := by
  induction visited generalizing sources with
  | nil => simp
  | cons source visited ih =>
      rw [List.foldl_cons, ih, mem_foldl_recordSource, or_assoc, List.mem_cons, or_and_right]
      apply or_congr_right
      apply or_congr_left
      constructor
      · rintro ⟨rfl, reached⟩
        exact ⟨rfl, reached⟩
      · rintro ⟨rfl, reached⟩
        exact ⟨rfl, reached⟩

/-- The pass begins with nothing noted. -/
theorem get_replicate_empty (index : Fin size) :
    (Vector.replicate size (#[] : Array (Fin size))).get index = #[] := by
  change (Vector.replicate size (#[] : Array (Fin size)))[index] = #[]
  simp

theorem mem_sourcesByTarget {states : Vector (State size ruleCount) size}
    {origin index : Fin size} :
    origin ∈ (sourcesByTarget states).get index ↔
      ∃ transition ∈ (states.get origin).transitions, transition.target = index := by
  have unnoted : origin ∉ (Vector.replicate size (#[] : Array (Fin size))).get index := by
    rw [get_replicate_empty]
    exact Array.not_mem_empty origin
  refine mem_foldl_sources.trans ?_
  rw [or_iff_right unnoted]
  exact and_iff_right (List.mem_finRange origin)

/-! ## In what order they are noted -/

/-- The pass is at a source: the lists are strictly increasing, and nothing behind it is noted. -/
structure NotedUpTo (sources : Vector (Array (Fin size)) size) (source : Fin size) : Prop where
  increasing : ∀ index, (sources.get index).toList.Pairwise (· < ·)
  noted_le : ∀ index, ∀ origin ∈ sources.get index, origin ≤ source

/-- Only the last place of an increasing list can hold what is above everything in it. -/
theorem back?_eq_of_mem_of_forall_le {noted : Array (Fin size)} {source : Fin size}
    (increasing : noted.toList.Pairwise (· < ·)) (above : ∀ origin ∈ noted, origin ≤ source)
    (member : source ∈ noted) : noted.back? = some source := by
  obtain ⟨earlier, last, rfl⟩ := Array.exists_push_of_ne_empty (Array.ne_empty_of_mem member)
  rw [Array.toList_push, List.pairwise_append] at increasing
  rw [Array.back?_push]
  rcases Array.mem_push.mp member with early | rfl
  · have before : source < last :=
      increasing.2.2 source (Array.mem_toList_iff.mpr early) last List.mem_cons_self
    have after : last ≤ source := above last Array.mem_push_self
    exact absurd before (Fin.not_lt.mpr after)
  · rfl

/-- So a look at the last place tells whether a source is noted already. -/
theorem lt_of_back?_ne {noted : Array (Fin size)} {source origin : Fin size}
    (increasing : noted.toList.Pairwise (· < ·)) (above : ∀ other ∈ noted, other ≤ source)
    (unnoted : noted.back? ≠ some source) (member : origin ∈ noted) : origin < source := by
  apply Nat.lt_of_le_of_ne (above origin member)
  intro isSource
  rw [Fin.ext isSource] at member
  exact unnoted (back?_eq_of_mem_of_forall_le increasing above member)

theorem notedUpTo_recordSource {sources : Vector (Array (Fin size)) size} {source target : Fin size}
    (upTo : NotedUpTo sources source) : NotedUpTo (recordSource sources source target) source where
  increasing index := by
    unfold recordSource
    split
    · exact upTo.increasing index
    · rename_i unnoted
      change (sources.set target (sources[target].push source))[index].toList.Pairwise (· < ·)
      by_cases same : target = index
      · subst same
        rw [Fin.getElem_fin, Vector.getElem_set_self, Array.toList_push, List.pairwise_append]
        refine ⟨upTo.increasing target, List.pairwise_singleton _ _, ?_⟩
        intro origin noted last isLast
        rw [List.mem_singleton.mp isLast]
        exact lt_of_back?_ne (upTo.increasing target) (upTo.noted_le target) unnoted
          (Array.mem_toList_iff.mp noted)
      · have apart : target.val ≠ index.val := fun equal => same (Fin.ext equal)
        rw [Fin.getElem_fin, Vector.getElem_set_ne _ _ apart]
        exact upTo.increasing index
  noted_le index origin noted := by
    rcases mem_recordSource.mp noted with before | ⟨rfl, _⟩
    · exact upTo.noted_le index origin before
    · exact Fin.le_rfl

/-- However the targets of one state alternate, it goes behind what is noted and there once. -/
theorem notedUpTo_foldl_recordSource {sources : Vector (Array (Fin size)) size} {source : Fin size}
    (upTo : NotedUpTo sources source) (transitions : List (Transition size)) :
    NotedUpTo
      (transitions.foldl
        (fun sources transition => recordSource sources source transition.target) sources)
      source := by
  induction transitions generalizing sources with
  | nil => exact upTo
  | cons transition transitions ih => exact ih (notedUpTo_recordSource upTo)

/-- The states still to be visited are behind all that is noted, and stay so. -/
theorem increasing_foldl_sources {states : Vector (State size ruleCount) size}
    {visited : List (Fin size)} {sources : Vector (Array (Fin size)) size}
    (inOrder : visited.Pairwise (· < ·))
    (increasing : ∀ index, (sources.get index).toList.Pairwise (· < ·))
    (behind : ∀ source ∈ visited, ∀ index, ∀ origin ∈ sources.get index, origin < source) :
    ∀ index, ((visited.foldl
      (fun sources source =>
        (states.get source).transitions.foldl
          (fun sources transition => recordSource sources source transition.target) sources)
      sources).get index).toList.Pairwise (· < ·) := by
  induction visited generalizing sources with
  | nil => exact increasing
  | cons source visited ih =>
      obtain ⟨first, inOrder⟩ := List.pairwise_cons.mp inOrder
      have before : NotedUpTo sources source :=
        ⟨increasing, fun index origin noted =>
          Fin.le_of_lt (behind source List.mem_cons_self index origin noted)⟩
      have after := notedUpTo_foldl_recordSource before (states.get source).transitions
      refine ih inOrder after.increasing ?_
      intro later member index origin noted
      exact Fin.lt_of_le_of_lt (after.noted_le index origin noted) (first later member)

theorem increasing_sourcesByTarget (states : Vector (State size ruleCount) size)
    (index : Fin size) : ((sourcesByTarget states).get index).toList.Pairwise (· < ·) := by
  apply increasing_foldl_sources (List.pairwise_lt_finRange size)
  · intro index
    rw [get_replicate_empty]
    exact List.Pairwise.nil
  · intro source _ index origin noted
    rw [get_replicate_empty] at noted
    exact absurd noted (Array.not_mem_empty origin)

theorem Automaton.mem_sources (automaton : Automaton) {origin index : Fin automaton.size} :
    origin ∈ automaton.sources index ↔
      ∃ transition ∈ automaton.transitions origin, transition.target = index := by
  rw [Automaton.sources, automaton.predecessors_eq]
  exact mem_sourcesByTarget

/-- The sources of the transitions into a state are listed in strictly increasing order, and they
are exactly the states that have a transition to it. -/
theorem Automaton.sources_increasing_and_exact (automaton : Automaton)
    (index : Fin automaton.size) :
    (automaton.sources index).toList.Pairwise (· < ·) ∧
    ∀ origin, origin ∈ automaton.sources index ↔
      ∃ transition ∈ automaton.transitions origin, transition.target = index := by
  refine ⟨?_, fun _ => automaton.mem_sources⟩
  rw [Automaton.sources, automaton.predecessors_eq]
  exact increasing_sourcesByTarget automaton.states index

end TransitionNetwork
