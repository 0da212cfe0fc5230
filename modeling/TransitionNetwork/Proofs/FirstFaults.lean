import TransitionNetwork.Proofs.Acceptance

/-!
# The fault that a snapshot is refused for

A snapshot can have many faults. It is refused for the one that a reader meets first who goes
through the names of the rules, then through the numbers of the states, and then through the states,
each with its rule before its transitions. Whatever stands before that fault is in order.
-/

set_option autoImplicit false

namespace TransitionNetwork

namespace Snapshot

/-- Every name is usable and none is there twice. -/
structure SoundNames (names : List String) : Prop where
  usable : ∀ name ∈ names, IsUsableRuleName name
  nodup : names.Nodup

variable (snapshot : Snapshot)

/-- The index is that of a declared rule, or it stands for no rule. -/
def Declares (ruleIndex : Int32) : Prop :=
  ruleIndex = -1 ∨ 0 ≤ ruleIndex.toInt ∧ ruleIndex.toInt < snapshot.ruleNames.length

/-- A state has the number. -/
def Knows (id : UInt32) : Prop :=
  ∃ state ∈ snapshot.states, state.id = id

/-- What the state refers to is there. -/
structure SoundState (state : State) : Prop where
  declared : snapshot.Declares state.ruleIndex
  known : ∀ transition ∈ state.transitions, snapshot.Knows transition.target

/-- The names and the numbers of the states are in order. -/
structure SoundNumbers : Prop where
  names : SoundNames snapshot.ruleNames
  ids_nodup : (snapshot.states.map (·.id)).Nodup

/-- The fault that is met first, with what is found there. -/
inductive FirstFault : Rejection → Prop
  | unusableRuleName {before after : List String} {name : String}
      (place : snapshot.ruleNames = before ++ name :: after) (sound : SoundNames before)
      (unusable : ¬ IsUsableRuleName name) :
      FirstFault (.unusableRuleName name)
  | repeatedRuleName {before after : List String} {name : String}
      (place : snapshot.ruleNames = before ++ name :: after) (sound : SoundNames before)
      (usable : IsUsableRuleName name) (again : name ∈ before) :
      FirstFault (.repeatedRuleName name)
  | repeatedStateId {before after : List State} {state : State}
      (names : SoundNames snapshot.ruleNames)
      (place : snapshot.states = before ++ state :: after)
      (distinct : (before.map (·.id)).Nodup) (again : ∃ other ∈ before, other.id = state.id) :
      FirstFault (.repeatedStateId state.id)
  | ruleIndexOutOfRange {before after : List State} {state : State}
      (numbers : snapshot.SoundNumbers)
      (place : snapshot.states = before ++ state :: after)
      (sound : ∀ other ∈ before, snapshot.SoundState other)
      (undeclared : ¬ snapshot.Declares state.ruleIndex) :
      FirstFault (.ruleIndexOutOfRange state.id state.ruleIndex snapshot.ruleNames.length)
  | unknownTarget {before after : List State} {state : State}
      {earlier later : List Transition} {transition : Transition}
      (numbers : snapshot.SoundNumbers)
      (place : snapshot.states = before ++ state :: after)
      (sound : ∀ other ∈ before, snapshot.SoundState other)
      (declared : snapshot.Declares state.ruleIndex)
      (inState : state.transitions = earlier ++ transition :: later)
      (known : ∀ other ∈ earlier, snapshot.Knows other.target)
      (unknown : ¬ snapshot.Knows transition.target) :
      FirstFault (.unknownTarget state.id transition.target)

end Snapshot

namespace Automaton

/-! ## Passes that stop -/

section Passes

variable {α β ε : Type}

theorem not_exists_split_nil {Q : List α → α → Prop} :
    ¬ ∃ before item after, [] = before ++ item :: after ∧ Q before item := by
  rintro ⟨before, item, after, split, _⟩
  exact absurd split.symm (List.append_ne_nil_of_right_ne_nil _ (List.cons_ne_nil _ _))

/-- A place in a list is its first item or a place in the rest of it. -/
theorem exists_split_cons {Q : List α → α → Prop} {first : α} {items : List α} :
    (∃ before item after, first :: items = before ++ item :: after ∧ Q before item) ↔
      Q [] first ∨
        ∃ before item after, items = before ++ item :: after ∧ Q (first :: before) item := by
  constructor
  · rintro ⟨before, item, after, split, holds⟩
    cases before with
    | nil =>
        cases split
        exact Or.inl holds
    | cons other before =>
        cases split
        exact Or.inr ⟨before, item, after, rfl, holds⟩
  · rintro (holds | ⟨before, item, after, rfl, holds⟩)
    · exact ⟨[], first, items, rfl, holds⟩
    · exact ⟨first :: before, item, after, rfl, holds⟩

/-- A pass fails with the fault of the first item that has one. -/
theorem mapM_eq_error_iff {f : α → Except ε β} {items : List α} {fault : ε} :
    items.mapM f = .error fault ↔
      ∃ before item after, items = before ++ item :: after ∧
        (∀ other ∈ before, ∃ result, f other = .ok result) ∧ f item = .error fault := by
  induction items with
  | nil => exact iff_of_false nofun not_exists_split_nil
  | cons first items ih =>
      rw [List.mapM_cons, exists_split_cons]
      cases outcome : f first with
      | error found =>
          have stops : (Except.error found >>= fun result : β =>
              items.mapM f >>= fun results => pure (result :: results)) = .error found := rfl
          rw [stops]
          simp [outcome]
      | ok result =>
          have goesOn : (Except.ok result >>= fun result : β =>
              items.mapM f >>= fun results => pure (result :: results)) = Except.error fault ↔
              items.mapM f = .error fault := by
            cases items.mapM f with
            | error found => rfl
            | ok results => exact iff_of_false nofun nofun
          rw [goesOn, ih]
          simp [outcome]

theorem nameFault?_eq_some_iff {seen : Std.HashSet String} {names : List String}
    {fault : Rejection} :
    nameFault? seen names = some fault ↔
      ∃ before name after, names = before ++ name :: after ∧
        ((∀ other ∈ before, IsUsableRuleName other ∧ other ∉ seen) ∧ before.Nodup) ∧
        (¬ IsUsableRuleName name ∧ fault = .unusableRuleName name ∨
          IsUsableRuleName name ∧ (name ∈ seen ∨ name ∈ before) ∧
            fault = .repeatedRuleName name) := by
  induction names generalizing seen with
  | nil => exact iff_of_false nofun not_exists_split_nil
  | cons first names ih =>
      rw [nameFault?, exists_split_cons]
      by_cases usable : IsUsableRuleName first
      · rw [if_neg (not_not_intro usable)]
        by_cases again : first ∈ seen
        · rw [if_pos again, or_iff_left]
          · simp [usable, again, eq_comm]
          · rintro ⟨before, name, after, _, ⟨sound, _⟩, _⟩
            exact (sound first List.mem_cons_self).2 again
        · rw [if_neg again, ih, or_iff_right]
          · refine exists₃_congr fun before name after => and_congr_right fun _ => ?_
            simp only [Std.HashSet.mem_insert, beq_iff_eq]
            grind
          · simp [usable, again]
      · rw [if_pos usable, or_iff_left]
        · simp [usable, eq_comm]
        · rintro ⟨before, name, after, _, ⟨sound, _⟩, _⟩
          exact usable (sound first List.mem_cons_self).1

theorem repeatedId?_eq_some_iff {seen : Std.HashSet UInt32} {ids : List UInt32} {id : UInt32} :
    repeatedId? seen ids = some id ↔
      ∃ before again after, ids = before ++ again :: after ∧
        ((∀ other ∈ before, other ∉ seen) ∧ before.Nodup) ∧
        (again ∈ seen ∨ again ∈ before) ∧ again = id := by
  induction ids generalizing seen with
  | nil => exact iff_of_false nofun not_exists_split_nil
  | cons first ids ih =>
      rw [repeatedId?, exists_split_cons]
      by_cases again : first ∈ seen
      · rw [if_pos again, or_iff_left]
        · simp [again]
        · rintro ⟨before, other, after, _, ⟨sound, _⟩, _⟩
          exact sound first List.mem_cons_self again
      · rw [if_neg again, ih, or_iff_right]
        · refine exists₃_congr fun before other after => and_congr_right fun _ => ?_
          simp only [Std.HashSet.mem_insert, beq_iff_eq]
          grind
        · simp [again]

end Passes

/-! ## One state -/

theorem resolveRule_eq_error_iff {ruleCount : Nat} {state : Snapshot.State} {fault : Rejection} :
    resolveRule ruleCount state = .error fault ↔
      (¬ ∃ rule, resolveRule ruleCount state = .ok rule) ∧
        fault = .ruleIndexOutOfRange state.id state.ruleIndex ruleCount := by
  have outcome : (∃ rule, resolveRule ruleCount state = .ok rule) ∨
      resolveRule ruleCount state =
        .error (.ruleIndexOutOfRange state.id state.ruleIndex ruleCount) := by
    unfold resolveRule
    split
    · exact Or.inl ⟨_, rfl⟩
    split
    · split
      · exact Or.inl ⟨_, rfl⟩
      · exact Or.inr rfl
    · exact Or.inr rfl
  rcases outcome with ⟨rule, success⟩ | failure
  · simp [success]
  · simp [failure, eq_comm]

theorem resolveTransition_eq_error_iff {size : Nat} {positions : Std.HashMap UInt32 (Fin size)}
    {source : UInt32} {transition : Snapshot.Transition} {fault : Rejection} :
    resolveTransition positions source transition = .error fault ↔
      positions[transition.target]? = none ∧ fault = .unknownTarget source transition.target := by
  unfold resolveTransition
  cases positions[transition.target]? with
  | none => rw [Except.error.injEq, and_iff_right rfl, eq_comm]
  | some target => exact iff_of_false nofun nofun

theorem resolveState_eq_error_iff {size ruleCount : Nat}
    {positions : Std.HashMap UInt32 (Fin size)} {state : Snapshot.State} {fault : Rejection} :
    resolveState positions ruleCount state = .error fault ↔
      resolveRule ruleCount state = .error fault ∨
      (∃ rule, resolveRule ruleCount state = .ok rule) ∧
        state.transitions.mapM (resolveTransition positions state.id) = .error fault := by
  unfold resolveState
  cases resolveRule ruleCount state with
  | error found => simp [bind, Except.bind]
  | ok rule =>
      cases state.transitions.mapM (resolveTransition positions state.id) with
      | error found => simp [bind, Except.bind]
      | ok transitions => simp [bind, Except.bind, pure, Except.pure]

/-! ## The states of a snapshot -/

section States

variable {snapshot : Snapshot}

theorem exists_resolveRule_iff {state : Snapshot.State} :
    (∃ rule, resolveRule snapshot.ruleNames.toArray.size state = .ok rule) ↔
      snapshot.Declares state.ruleIndex := by
  simp only [resolveRule_eq_ok_iff]
  rw [exists_ruleIndexOf_iff, List.size_toArray, Snapshot.Declares, ← Int32.toInt_inj]
  rfl

variable (distinct : (snapshot.states.map (·.id)).Nodup)

include distinct

theorem position_eq_none_iff {id : UInt32} :
    (positionsById snapshot.states)[id]? = none ↔ ¬ snapshot.Knows id := by
  rw [iff_not_comm, ← ne_eq, Option.ne_none_iff_exists']
  refine ⟨exists_position distinct, ?_⟩
  rintro ⟨index, found⟩
  exact ⟨_, List.getElem_mem index.isLt, (positionsById_eq_some_iff distinct).mp found⟩

theorem exists_resolveTransition_iff {source : UInt32} {transition : Snapshot.Transition} :
    (∃ resolved, resolveTransition (positionsById snapshot.states) source transition =
      .ok resolved) ↔ snapshot.Knows transition.target := by
  constructor
  · rintro ⟨resolved, success⟩
    by_contra unknown
    have absent := (position_eq_none_iff distinct).mpr unknown
    rw [(resolveTransition_eq_ok_iff.mp success).1] at absent
    cases absent
  · intro known
    obtain ⟨target, found⟩ := exists_position distinct known
    exact ⟨⟨target, transition.label⟩, resolveTransition_eq_ok_iff.mpr ⟨found, rfl⟩⟩

theorem exists_resolveState_iff {state : Snapshot.State} :
    (∃ resolved, resolveState (positionsById snapshot.states) snapshot.ruleNames.toArray.size
      state = .ok resolved) ↔ snapshot.SoundState state := by
  constructor
  · rintro ⟨resolved, success⟩
    obtain ⟨-, owner, targets⟩ := resolveState_eq_ok success
    refine ⟨exists_resolveRule_iff.mp ⟨_, resolveRule_eq_ok_iff.mpr owner⟩, ?_⟩
    intro transition leaving
    obtain ⟨target, -, found⟩ := exists_of_mem_of_forall₂ targets leaving
    exact (exists_resolveTransition_iff distinct).mp ⟨target, found⟩
  · rintro ⟨declared, known⟩
    obtain ⟨rule, owner⟩ := exists_resolveRule_iff.mpr declared
    exact exists_resolveState ⟨rule, resolveRule_eq_ok_iff.mp owner⟩
      fun transition leaving => exists_position distinct (known transition leaving)

theorem resolveState_of_snapshot_eq_error_iff {state : Snapshot.State} {fault : Rejection} :
    resolveState (positionsById snapshot.states) snapshot.ruleNames.toArray.size state =
        .error fault ↔
      ¬ snapshot.Declares state.ruleIndex ∧
          fault = .ruleIndexOutOfRange state.id state.ruleIndex snapshot.ruleNames.length ∨
        snapshot.Declares state.ruleIndex ∧
          ∃ earlier transition later, state.transitions = earlier ++ transition :: later ∧
            (∀ other ∈ earlier, snapshot.Knows other.target) ∧
            ¬ snapshot.Knows transition.target ∧
            fault = .unknownTarget state.id transition.target := by
  rw [resolveState_eq_error_iff, resolveRule_eq_error_iff, mapM_eq_error_iff,
    exists_resolveRule_iff, List.size_toArray]
  simp only [exists_resolveTransition_iff distinct, resolveTransition_eq_error_iff,
    position_eq_none_iff distinct]

/-- The states are refused for the first one that refers to something that is not there. -/
theorem resolveStates_eq_error_iff {fault : Rejection} :
    snapshot.states.mapM (resolveState (positionsById snapshot.states)
        snapshot.ruleNames.toArray.size) = .error fault ↔
      ∃ before state after, snapshot.states = before ++ state :: after ∧
        (∀ other ∈ before, snapshot.SoundState other) ∧
        (¬ snapshot.Declares state.ruleIndex ∧
            fault = .ruleIndexOutOfRange state.id state.ruleIndex snapshot.ruleNames.length ∨
          snapshot.Declares state.ruleIndex ∧
            ∃ earlier transition later, state.transitions = earlier ++ transition :: later ∧
              (∀ other ∈ earlier, snapshot.Knows other.target) ∧
              ¬ snapshot.Knows transition.target ∧
              fault = .unknownTarget state.id transition.target) := by
  rw [mapM_eq_error_iff]
  simp only [exists_resolveState_iff distinct, resolveState_of_snapshot_eq_error_iff distinct]

end States

/-! ## The whole snapshot -/

theorem nameFault?_empty_eq_none_iff {names : List String} :
    nameFault? ∅ names = none ↔ Snapshot.SoundNames names := by
  rw [nameFault?_eq_none_iff]
  simp only [Std.HashSet.not_mem_empty, not_false_eq_true, and_true]
  exact ⟨fun ⟨usable, distinct⟩ => ⟨usable, distinct⟩,
    fun ⟨usable, distinct⟩ => ⟨usable, distinct⟩⟩

theorem repeatedId?_empty_eq_none_iff {ids : List UInt32} :
    repeatedId? ∅ ids = none ↔ ids.Nodup := by
  rw [repeatedId?_eq_none_iff]
  exact and_iff_right fun _ _ => Std.HashSet.not_mem_empty

theorem soundNumbers_iff {snapshot : Snapshot} :
    snapshot.SoundNumbers ↔
      nameFault? ∅ snapshot.ruleNames = none ∧
        repeatedId? ∅ (snapshot.states.map (·.id)) = none := by
  rw [nameFault?_empty_eq_none_iff, repeatedId?_empty_eq_none_iff]
  exact ⟨fun ⟨names, distinct⟩ => ⟨names, distinct⟩, fun ⟨names, distinct⟩ => ⟨names, distinct⟩⟩

/-- The names are refused for the first one that is not usable or that repeats one before it. -/
theorem nameFault?_empty_eq_some_iff {names : List String} {fault : Rejection} :
    nameFault? ∅ names = some fault ↔
      ∃ before name after, names = before ++ name :: after ∧ Snapshot.SoundNames before ∧
        (¬ IsUsableRuleName name ∧ fault = .unusableRuleName name ∨
          IsUsableRuleName name ∧ name ∈ before ∧ fault = .repeatedRuleName name) := by
  simp only [nameFault?_eq_some_iff, ← nameFault?_empty_eq_none_iff, nameFault?_eq_none_iff,
    Std.HashSet.not_mem_empty, false_or]

/-- The numbers are refused for the first state whose number an earlier one carries. -/
theorem repeatedId?_empty_eq_some_iff {states : List Snapshot.State} {id : UInt32} :
    repeatedId? ∅ (states.map (·.id)) = some id ↔
      ∃ before state after, states = before ++ state :: after ∧ (before.map (·.id)).Nodup ∧
        (∃ other ∈ before, other.id = state.id) ∧ state.id = id := by
  rw [repeatedId?_eq_some_iff]
  constructor
  · rintro ⟨numbers, again, others, split, ⟨-, distinct⟩, repeated, rfl⟩
    obtain ⟨before, rest, place, rfl, remaining⟩ := List.map_eq_append_iff.mp split
    obtain ⟨state, after, rfl, rfl, rfl⟩ := List.map_eq_cons_iff.mp remaining
    refine ⟨before, state, after, place, distinct, ?_, rfl⟩
    simpa using repeated
  · rintro ⟨before, state, after, rfl, distinct, ⟨other, member, same⟩, rfl⟩
    refine ⟨before.map (·.id), state.id, after.map (·.id), by simp, ⟨by simp, distinct⟩,
      Or.inr ?_, rfl⟩
    exact List.mem_map.mpr ⟨other, member, same⟩

/-- Each pass is made when those before it have found nothing. -/
theorem ofSnapshot_eq_error_iff {snapshot : Snapshot} {rejection : Rejection} :
    ofSnapshot snapshot = .error rejection ↔
      nameFault? ∅ snapshot.ruleNames = some rejection ∨
      (Snapshot.SoundNames snapshot.ruleNames ∧
        ∃ id, repeatedId? ∅ (snapshot.states.map (·.id)) = some id ∧
          rejection = .repeatedStateId id) ∨
      snapshot.SoundNumbers ∧
        snapshot.states.mapM (resolveState (positionsById snapshot.states)
          snapshot.ruleNames.toArray.size) = .error rejection := by
  rw [← nameFault?_empty_eq_none_iff, soundNumbers_iff]
  unfold ofSnapshot
  split
  · rename_i fault names
    simp [names]
  rename_i names
  split
  · rename_i id ids
    simp [names, ids, eq_comm]
  rename_i ids
  split
  · rename_i fault resolution
    simp [names, ids, resolution]
  · rename_i states resolution
    simp [names, ids, resolution]

/-- A snapshot that is refused is refused for the fault that is met first. -/
theorem ofSnapshot_refuses_first_fault (snapshot : Snapshot) (rejection : Rejection) :
    ofSnapshot snapshot = .error rejection ↔ snapshot.FirstFault rejection := by
  rw [ofSnapshot_eq_error_iff]
  constructor
  · rintro (fault | ⟨names, id, repeated, rfl⟩ | ⟨numbers, failure⟩)
    · obtain ⟨before, name, after, place, sound, ⟨unusable, rfl⟩ | ⟨usable, again, rfl⟩⟩ :=
        nameFault?_empty_eq_some_iff.mp fault
      · exact .unusableRuleName place sound unusable
      · exact .repeatedRuleName place sound usable again
    · obtain ⟨before, state, after, place, distinct, again, rfl⟩ :=
        repeatedId?_empty_eq_some_iff.mp repeated
      exact .repeatedStateId names place distinct again
    · obtain ⟨before, state, after, place, sound, ⟨undeclared, rfl⟩ |
        ⟨declared, earlier, transition, later, inState, known, unknown, rfl⟩⟩ :=
          (resolveStates_eq_error_iff numbers.ids_nodup).mp failure
      · exact .ruleIndexOutOfRange numbers place sound undeclared
      · exact .unknownTarget numbers place sound declared inState known unknown
  · intro first
    cases first with
    | unusableRuleName place sound unusable =>
        exact Or.inl (nameFault?_empty_eq_some_iff.mpr
          ⟨_, _, _, place, sound, Or.inl ⟨unusable, rfl⟩⟩)
    | repeatedRuleName place sound usable again =>
        exact Or.inl (nameFault?_empty_eq_some_iff.mpr
          ⟨_, _, _, place, sound, Or.inr ⟨usable, again, rfl⟩⟩)
    | repeatedStateId names place distinct again =>
        exact Or.inr (Or.inl ⟨names, _,
          repeatedId?_empty_eq_some_iff.mpr ⟨_, _, _, place, distinct, again, rfl⟩, rfl⟩)
    | ruleIndexOutOfRange numbers place sound undeclared =>
        exact Or.inr (Or.inr ⟨numbers, (resolveStates_eq_error_iff numbers.ids_nodup).mpr
          ⟨_, _, _, place, sound, Or.inl ⟨undeclared, rfl⟩⟩⟩)
    | unknownTarget numbers place sound declared inState known unknown =>
        exact Or.inr (Or.inr ⟨numbers, (resolveStates_eq_error_iff numbers.ids_nodup).mpr
          ⟨_, _, _, place, sound, Or.inr ⟨declared, _, _, _, inState, known, unknown, rfl⟩⟩⟩)

end Automaton

end TransitionNetwork
