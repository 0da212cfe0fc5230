import TransitionNetwork.Arena.Build
import TransitionNetwork.Proofs.Acceptance
import TransitionNetwork.Proofs.PlainNumbers

/-!
# Building in plain numbers

What is built from a snapshot without any type that keeps a number in range is the arena of the
automaton: the checks that a snapshot has to pass leave no lookup to fail, neither while the lists
of sources are filled nor later.
-/

set_option autoImplicit false

namespace TransitionNetwork

/-! ## Passes -/

section Passes

variable {α β γ δ ε : Type}

theorem foldlM_map {f : β → δ → Option β} {g : α → γ → α} {plain : α → β} {plain' : γ → δ}
    (each : ∀ state item, f (plain state) (plain' item) = some (plain (g state item)))
    (items : List γ) (state : α) :
    (items.map plain').foldlM f (plain state) = some (plain (items.foldl g state)) := by
  induction items generalizing state with
  | nil => rfl
  | cons item items ih =>
      rw [List.map_cons, List.foldlM_cons, each, List.foldl_cons, ← ih]
      rfl

theorem mapM_eq_map {f : α → Except ε γ} {g : α → Except ε β} {plain : β → γ} {items : List α}
    (each : ∀ item ∈ items, f item = (g item).map plain) :
    items.mapM f = (items.mapM g).map (List.map plain) := by
  induction items with
  | nil => rfl
  | cons item items ih =>
      obtain ⟨first, others⟩ := List.forall_mem_cons.mp each
      rw [List.mapM_cons, List.mapM_cons, first, ih others]
      cases g item with
      | error fault => rfl
      | ok result => cases items.mapM g <;> rfl

end Passes

namespace Arena

/-! ## Lists of sources -/

variable {size ruleCount : Nat}

def plainSources (sources : Vector (Array (Fin size)) size) : Array (Array Nat) :=
  (sources.map (·.map Fin.val)).toArray

theorem recordSource?_plain (source : Fin size) (sources : Vector (Array (Fin size)) size)
    (transition : TransitionNetwork.Transition size) :
    recordSource? source (plainSources sources) transition.plain =
      some (plainSources (recordSource sources source transition.target)) := by
  have noted : (plainSources sources)[transition.plain.target]? =
      some (sources[transition.target].map Fin.val) := by
    simp [plainSources, TransitionNetwork.Transition.plain]
  have last : (sources[transition.target].map Fin.val).back? = some source.val ↔
      sources[transition.target].back? = some source := by
    rw [Array.back?_map]
    simp [Fin.val_inj]
  rw [recordSource?, noted, recordSource]
  simp only [Option.bind_eq_bind, Option.bind_some, last]
  split
  · rfl
  · congr 1
    simp [plainSources, TransitionNetwork.Transition.plain, Array.setIfInBounds]

theorem sourcesByTarget?_plain
    (states : Vector (TransitionNetwork.State size ruleCount) size) :
    sourcesByTarget? (states.toList.map State.plain) =
      some (plainSources (sourcesByTarget states)) := by
  have numbered : (states.toList.map State.plain).zipIdx =
      (List.finRange size).map fun index => (states[index].plain, index.val) := by
    apply List.ext_getElem
    · simp
    · intro position inside inside'
      simp
  have empty : Array.replicate (states.toList.map State.plain).length #[] =
      plainSources (Vector.replicate size (#[] : Array (Fin size))) := by
    simp [plainSources]
  rw [sourcesByTarget?, numbered, empty]
  apply foldlM_map
  intro sources source
  exact foldlM_map (recordSource?_plain source) _ sources

/-! ## States -/

theorem resolveRule_plain (ruleCount : Nat) (state : Snapshot.State) :
    resolveRule ruleCount state =
      (Automaton.resolveRule ruleCount state).map (Option.map Fin.val) := by
  unfold resolveRule Automaton.resolveRule
  split
  · rfl
  cases state.ruleIndex.toInt with
  | negSucc number => rfl
  | ofNat rule =>
      by_cases declared : rule < ruleCount
      · simp [declared, Except.map]
      · simp [declared, Except.map]

theorem positionsById_plain {states : List Snapshot.State}
    (distinct : (states.map (·.id)).Nodup) (id : UInt32) :
    (positionsById states)[id]? = (Automaton.positionsById states)[id]?.map Fin.val := by
  have keys : (states.map (·.id)).zipIdx.map Prod.fst = states.map (·.id) := by
    simp
  cases found : (Automaton.positionsById states)[id]? with
  | some index =>
      have carried := (Automaton.positionsById_eq_some_iff distinct).mp found
      have apart : (states.map (·.id)).zipIdx.Pairwise
          fun first second => (first.1 == second.1) = false := by
        rw [← keys] at distinct
        apply (List.pairwise_map.mp distinct).imp
        intro first second different
        simpa using different
      have member : (id, index.val) ∈ (states.map (·.id)).zipIdx := by
        rw [List.mk_mem_zipIdx_iff_getElem?]
        simp [← carried]
      exact Std.HashMap.getElem?_ofList_of_mem (beq_self_eq_true id) apart member
  | none =>
      apply Std.HashMap.getElem?_ofList_of_contains_eq_false
      rw [keys]
      have unknown : id ∉ states.map (·.id) := by
        intro member
        obtain ⟨index, position⟩ :=
          Automaton.exists_position distinct (List.mem_map.mp member)
        rw [found] at position
        cases position
      simpa using unknown

theorem resolveTransition_plain {positions : Std.HashMap UInt32 (Fin size)}
    {positions' : Std.HashMap UInt32 Nat}
    (same : ∀ id : UInt32, positions'[id]? = positions[id]?.map Fin.val)
    (source : UInt32) (transition : Snapshot.Transition) :
    resolveTransition positions' source transition =
      (Automaton.resolveTransition positions source transition).map Transition.plain := by
  unfold resolveTransition Automaton.resolveTransition
  rw [same]
  cases positions[transition.target]? <;> rfl

theorem resolveState_plain {positions : Std.HashMap UInt32 (Fin size)}
    {positions' : Std.HashMap UInt32 Nat}
    (same : ∀ id : UInt32, positions'[id]? = positions[id]?.map Fin.val)
    (ruleCount : Nat) (state : Snapshot.State) :
    resolveState positions' ruleCount state =
      (Automaton.resolveState positions ruleCount state).map State.plain := by
  have targets : state.transitions.mapM (resolveTransition positions' state.id) =
      (state.transitions.mapM (Automaton.resolveTransition positions state.id)).map
        (List.map Transition.plain) :=
    mapM_eq_map fun transition _ => resolveTransition_plain same state.id transition
  unfold resolveState Automaton.resolveState
  rw [resolveRule_plain, targets]
  cases Automaton.resolveRule ruleCount state with
  | error fault => rfl
  | ok rule =>
      cases state.transitions.mapM (Automaton.resolveTransition positions state.id) <;> rfl

/-- Whatever the snapshot, no lookup fails while it is built, and what is built is the automaton in
plain numbers. -/
theorem ofSnapshot?_eq (snapshot : Snapshot) :
    ofSnapshot? snapshot = some ((Automaton.ofSnapshot snapshot).map Automaton.arena) := by
  unfold Automaton.ofSnapshot
  split
  · rename_i fault names
    rw [ofSnapshot?, names]
    rfl
  rename_i names
  split
  · rename_i id ids
    rw [ofSnapshot?, names, ids]
    rfl
  rename_i ids
  have same := positionsById_plain (Automaton.repeatedId?_eq_none ids).2
  have resolved : snapshot.states.mapM
      (resolveState (positionsById snapshot.states) snapshot.ruleNames.toArray.size) =
        (snapshot.states.mapM (Automaton.resolveState (Automaton.positionsById snapshot.states)
          snapshot.ruleNames.toArray.size)).map (List.map State.plain) :=
    mapM_eq_map fun state _ => resolveState_plain same snapshot.ruleNames.toArray.size state
  split
  · rename_i fault resolution
    rw [resolution] at resolved
    rw [ofSnapshot?, names, ids, resolved]
    rfl
  · rename_i states resolution
    rw [resolution] at resolved
    have length : states.length = snapshot.states.length := by
      simpa using congrArg List.length (Automaton.ids_of_mapM_resolveState resolution)
    have sources := sourcesByTarget?_plain (⟨states.toArray, by simpa using length⟩ :
      Vector (TransitionNetwork.State snapshot.states.length snapshot.ruleNames.toArray.size)
        snapshot.states.length)
    have built : ofSnapshot? snapshot = (sourcesByTarget? (states.map State.plain)).bind
        fun predecessors => some (.ok {
          ruleNames := snapshot.ruleNames.toArray
          vocabulary := snapshot.vocabulary
          states := (states.map State.plain).toArray
          predecessors }) := by
      rw [ofSnapshot?, names, ids, resolved]
      rfl
    change sourcesByTarget? (states.map State.plain) = _ at sources
    rw [built, sources]
    simp [Except.map, Automaton.arena, plainSources]

end Arena
end TransitionNetwork
