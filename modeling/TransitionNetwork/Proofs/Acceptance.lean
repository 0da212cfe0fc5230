import Mathlib.Data.List.Forall2
import TransitionNetwork.Automaton.Build
import TransitionNetwork.Automaton.Query

/-!
# Which snapshots are accepted

A snapshot becomes an automaton exactly when its names and numbers make sense, and the automaton
then says what the snapshot says, with a position in place of every number.
-/

set_option autoImplicit false

namespace TransitionNetwork

/-- The names are usable and no two are the same, no two states carry the same number, and every
number of a rule or of a target belongs to something that is there. -/
structure Snapshot.IsConsistent (snapshot : Snapshot) : Prop where
  usable : ∀ name ∈ snapshot.ruleNames, IsUsableRuleName name
  ruleNames_nodup : snapshot.ruleNames.Nodup
  ids_nodup : (snapshot.states.map (·.id)).Nodup
  rule_declared : ∀ state ∈ snapshot.states,
    state.ruleIndex = -1 ∨
      0 ≤ state.ruleIndex.toInt ∧ state.ruleIndex.toInt < snapshot.ruleNames.length
  target_known : ∀ state ∈ snapshot.states, ∀ transition ∈ state.transitions,
    ∃ target ∈ snapshot.states, target.id = transition.target

theorem Snapshot.isConsistent_iff (snapshot : Snapshot) :
    snapshot.IsConsistent ↔
      (∀ name ∈ snapshot.ruleNames, IsUsableRuleName name) ∧ snapshot.ruleNames.Nodup ∧
      (snapshot.states.map (·.id)).Nodup ∧
      (∀ state ∈ snapshot.states, state.ruleIndex = -1 ∨
        0 ≤ state.ruleIndex.toInt ∧ state.ruleIndex.toInt < snapshot.ruleNames.length) ∧
      ∀ state ∈ snapshot.states, ∀ transition ∈ state.transitions,
        ∃ target ∈ snapshot.states, target.id = transition.target :=
  ⟨fun ⟨usable, names, ids, rules, targets⟩ => ⟨usable, names, ids, rules, targets⟩,
    fun ⟨usable, names, ids, rules, targets⟩ => ⟨usable, names, ids, rules, targets⟩⟩

instance : DecidablePred Snapshot.IsConsistent :=
  fun snapshot => decidable_of_iff _ snapshot.isConsistent_iff.symm

/-- The symbols of an epsilon transition are dropped. -/
def Snapshot.Transition.label (transition : Snapshot.Transition) : Label :=
  if transition.epsilon then .epsilon else .symbols transition.symbols

/-- The number that stands for an owner in a snapshot. -/
def ruleIndexOf {ruleCount : Nat} (rule : Option (Fin ruleCount)) : Int :=
  rule.elim (-1) fun rule => (rule.val : Int)

namespace Automaton

variable (automaton : Automaton)

/-- The transition leads to the one state that carries the given number. -/
structure CopiesTransition (given : Snapshot.Transition)
    (transition : Transition automaton.size) : Prop where
  label_eq : transition.label = given.label
  target_iff : ∀ index,
    (automaton.state index).id = given.target ↔ index = transition.target

structure CopiesState (given : Snapshot.State)
    (state : State automaton.size automaton.ruleCount) : Prop where
  id_eq : state.id = given.id
  kind_eq : state.kind = given.kind
  rule_eq : ruleIndexOf state.rule = given.ruleIndex.toInt
  transitions_match :
    List.Forall₂ automaton.CopiesTransition given.transitions state.transitions

/-- The automaton has the states and transitions of the snapshot, in number and in order. -/
structure IsCopyOf (snapshot : Snapshot) : Prop where
  ruleNames_eq : automaton.ruleNames.toList = snapshot.ruleNames
  vocabulary_eq : automaton.vocabulary = snapshot.vocabulary
  states_match : List.Forall₂ automaton.CopiesState snapshot.states automaton.states.toList

/-! ## Copies -/

theorem CopiesState.owner_eq_some_iff {automaton : Automaton} {given : Snapshot.State}
    {index : Fin automaton.size} (copied : automaton.CopiesState given (automaton.state index))
    (rule : Nat) : automaton.owner index = some rule ↔ given.ruleIndex.toInt = rule := by
  rw [← copied.rule_eq, owner, State.owner]
  cases (automaton.state index).rule with
  | none => exact iff_of_false nofun nofun
  | some owner =>
      rw [ruleIndexOf, Option.elim_some, Option.map_some, Option.some.injEq, Int.natCast_inj]

namespace IsCopyOf

variable {automaton : Automaton} {snapshot : Snapshot} (copy : automaton.IsCopyOf snapshot)

include copy

theorem size_eq : automaton.size = snapshot.states.length := by
  have lengths := copy.states_match.length_eq
  rw [Vector.length_toList] at lengths
  exact lengths.symm

theorem copiesState (index : Fin automaton.size) (inside : index.val < snapshot.states.length) :
    automaton.CopiesState snapshot.states[index.val] (automaton.state index) := by
  have inside' : index.val < automaton.states.toList.length := by
    rw [Vector.length_toList]
    exact index.isLt
  have copied := copy.states_match.get inside inside'
  simpa [state] using copied

end IsCopyOf

/-! ## Passes over lists -/

section Passes

variable {α β ε : Type} {f : α → Except ε β}

theorem forall₂_of_mapM {items : List α} {results : List β} (success : items.mapM f = .ok results) :
    List.Forall₂ (fun item result => f item = .ok result) items results := by
  induction items generalizing results with
  | nil =>
      cases success
      exact List.Forall₂.nil
  | cons item items ih =>
      rw [List.mapM_cons] at success
      cases first : f item with
      | error fault =>
          rw [first] at success
          cases success
      | ok result =>
          cases others : items.mapM f with
          | error fault =>
              rw [first, others] at success
              cases success
          | ok results =>
              rw [first, others] at success
              cases success
              exact List.Forall₂.cons first (ih others)

/-- A pass succeeds when it succeeds on each item. -/
theorem exists_mapM {items : List α} (each : ∀ item ∈ items, ∃ result, f item = .ok result) :
    ∃ results, items.mapM f = .ok results := by
  induction items with
  | nil => exact ⟨[], rfl⟩
  | cons item items ih =>
      obtain ⟨result, first⟩ := each item List.mem_cons_self
      obtain ⟨results, others⟩ := ih fun other member => each other (List.mem_cons_of_mem _ member)
      refine ⟨result :: results, ?_⟩
      rw [List.mapM_cons, first, others]
      rfl

theorem exists_of_mem_of_forall₂ {R : α → β → Prop} {items : List α} {results : List β}
    (matched : List.Forall₂ R items results) {item : α} (member : item ∈ items) :
    ∃ result ∈ results, R item result := by
  induction matched with
  | nil => cases member
  | cons related _ ih =>
      rcases List.mem_cons.mp member with rfl | later
      · exact ⟨_, List.mem_cons_self, related⟩
      · obtain ⟨result, present, related⟩ := ih later
        exact ⟨result, List.mem_cons_of_mem _ present, related⟩

end Passes

theorem nameFault?_eq_none_iff {seen : Std.HashSet String} {names : List String} :
    nameFault? seen names = none ↔
      (∀ name ∈ names, IsUsableRuleName name ∧ name ∉ seen) ∧ names.Nodup := by
  refine ⟨nameFault?_eq_none, ?_⟩
  rintro ⟨each, distinct⟩
  induction names generalizing seen with
  | nil => rfl
  | cons name names ih =>
      obtain ⟨fresh, distinct⟩ := List.nodup_cons.mp distinct
      obtain ⟨usable, unseen⟩ := each name List.mem_cons_self
      rw [nameFault?, if_neg (not_not_intro usable), if_neg unseen]
      apply ih _ distinct
      intro other member
      obtain ⟨otherUsable, otherUnseen⟩ := each other (List.mem_cons_of_mem _ member)
      refine ⟨otherUsable, ?_⟩
      rw [Std.HashSet.mem_insert, beq_iff_eq, not_or]
      exact ⟨fun same => fresh (same ▸ member), otherUnseen⟩

theorem repeatedId?_eq_none_iff {seen : Std.HashSet UInt32} {ids : List UInt32} :
    repeatedId? seen ids = none ↔ (∀ id ∈ ids, id ∉ seen) ∧ ids.Nodup := by
  refine ⟨repeatedId?_eq_none, ?_⟩
  rintro ⟨each, distinct⟩
  induction ids generalizing seen with
  | nil => rfl
  | cons id ids ih =>
      obtain ⟨fresh, distinct⟩ := List.nodup_cons.mp distinct
      rw [repeatedId?, if_neg (each id List.mem_cons_self)]
      apply ih _ distinct
      intro other member
      rw [Std.HashSet.mem_insert, beq_iff_eq, not_or]
      exact ⟨fun same => fresh (same ▸ member), each other (List.mem_cons_of_mem _ member)⟩

/-! ## Positions -/

theorem map_fst_zip_finRange (states : List Snapshot.State) :
    ((states.map (·.id)).zip (List.finRange states.length)).map Prod.fst = states.map (·.id) := by
  apply List.map_fst_zip
  simp

theorem mem_zip_finRange {states : List Snapshot.State} {id : UInt32} {index : Fin states.length} :
    (id, index) ∈ (states.map (·.id)).zip (List.finRange states.length) ↔
      states[index].id = id := by
  rw [List.mem_iff_getElem]
  constructor
  · rintro ⟨position, inside, entry⟩
    simp only [List.getElem_zip, List.getElem_map, List.getElem_finRange, Prod.mk.injEq] at entry
    obtain ⟨rfl, rfl⟩ := entry
    rfl
  · rintro rfl
    exact ⟨index.val, by simp, by simp⟩

/-- With distinct numbers, a number is found at the one position that carries it. -/
theorem positionsById_eq_some_iff {states : List Snapshot.State}
    (distinct : (states.map (·.id)).Nodup) {id : UInt32} {index : Fin states.length} :
    (positionsById states)[id]? = some index ↔ states[index].id = id := by
  have apart : ((states.map (·.id)).zip (List.finRange states.length)).Pairwise
      fun first second => (first.1 == second.1) = false := by
    have keys : (((states.map (·.id)).zip (List.finRange states.length)).map Prod.fst).Nodup := by
      rwa [map_fst_zip_finRange]
    apply (List.pairwise_map.mp keys).imp
    intro first second different
    simpa using different
  have found {id : UInt32} {index : Fin states.length} (carried : states[index].id = id) :
      (positionsById states)[id]? = some index :=
    Std.HashMap.getElem?_ofList_of_mem (beq_self_eq_true id) apart (mem_zip_finRange.mpr carried)
  refine ⟨?_, found⟩
  intro position
  by_cases known : id ∈ states.map (·.id)
  · obtain ⟨other, inside, carried⟩ := List.getElem_of_mem known
    have same := found (show states[(⟨other, by simpa using inside⟩ : Fin states.length)].id = id by
      simpa using carried)
    rw [position] at same
    rw [Option.some.inj same]
    simpa using carried
  · have absent : (positionsById states)[id]? = none := by
      apply Std.HashMap.getElem?_ofList_of_contains_eq_false
      rw [map_fst_zip_finRange]
      simpa using known
    rw [position] at absent
    cases absent

theorem exists_position {states : List Snapshot.State} (distinct : (states.map (·.id)).Nodup)
    {id : UInt32} (known : ∃ state ∈ states, state.id = id) :
    ∃ index, (positionsById states)[id]? = some index := by
  obtain ⟨state, member, rfl⟩ := known
  obtain ⟨index, inside, rfl⟩ := List.getElem_of_mem member
  exact ⟨⟨index, inside⟩, (positionsById_eq_some_iff distinct).mpr rfl⟩

/-! ## One state -/

theorem resolveRule_eq_ok_iff {ruleCount : Nat} {state : Snapshot.State}
    {rule : Option (Fin ruleCount)} :
    resolveRule ruleCount state = .ok rule ↔ ruleIndexOf rule = state.ruleIndex.toInt := by
  unfold resolveRule
  by_cases unowned : state.ruleIndex = -1
  · rw [if_pos unowned, unowned, Except.ok.injEq]
    cases rule with
    | none => exact iff_of_true rfl rfl
    | some rule => exact iff_of_false nofun nofun
  · rw [if_neg unowned]
    have other : state.ruleIndex.toInt ≠ -1 := fun same => unowned (Int32.toInt_inj.mp same)
    generalize state.ruleIndex.toInt = number at other ⊢
    cases number with
    | negSucc number =>
        refine iff_of_false nofun ?_
        cases rule with
        | none => exact fun same => other same.symm
        | some rule => exact nofun
    | ofNat number =>
        dsimp only
        split
        · rw [Except.ok.injEq]
          cases rule with
          | none => exact iff_of_false nofun nofun
          | some rule =>
              rw [Option.some.injEq, Fin.ext_iff, ruleIndexOf, Option.elim_some, Int.ofNat_eq_natCast,
                Int.natCast_inj]
              exact eq_comm
        · refine iff_of_false nofun ?_
          intro same
          cases rule with
          | none => cases same
          | some rule =>
              have bound := rule.isLt
              rw [ruleIndexOf, Option.elim_some, Int.ofNat_eq_natCast, Int.natCast_inj] at same
              omega

theorem resolveTransition_eq_ok_iff {size : Nat} {positions : Std.HashMap UInt32 (Fin size)}
    {source : UInt32} {given : Snapshot.Transition} {transition : Transition size} :
    resolveTransition positions source given = .ok transition ↔
      positions[given.target]? = some transition.target ∧ transition.label = given.label := by
  unfold resolveTransition Snapshot.Transition.label
  cases positions[given.target]? with
  | none => simp
  | some target =>
      constructor
      · intro same
        cases same
        exact ⟨rfl, rfl⟩
      · rintro ⟨same, label⟩
        obtain ⟨reached, accepts⟩ := transition
        cases same
        rw [← label]

theorem resolveState_eq_ok {size ruleCount : Nat} {positions : Std.HashMap UInt32 (Fin size)}
    {given : Snapshot.State} {state : State size ruleCount}
    (resolved : resolveState positions ruleCount given = .ok state) :
    state.kind = given.kind ∧ ruleIndexOf state.rule = given.ruleIndex.toInt ∧
      List.Forall₂
        (fun transition target => resolveTransition positions given.id transition = .ok target)
        given.transitions state.transitions := by
  unfold resolveState at resolved
  cases owner : resolveRule ruleCount given with
  | error fault =>
      rw [owner] at resolved
      cases resolved
  | ok rule =>
      cases targets : given.transitions.mapM (resolveTransition positions given.id) with
      | error fault =>
          rw [owner, targets] at resolved
          cases resolved
      | ok transitions =>
          rw [owner, targets] at resolved
          cases resolved
          exact ⟨rfl, resolveRule_eq_ok_iff.mp owner, forall₂_of_mapM targets⟩

theorem exists_resolveState {size ruleCount : Nat} {positions : Std.HashMap UInt32 (Fin size)}
    {given : Snapshot.State}
    (declared : ∃ rule : Option (Fin ruleCount), ruleIndexOf rule = given.ruleIndex.toInt)
    (known : ∀ transition ∈ given.transitions, ∃ target, positions[transition.target]? = some target) :
    ∃ state, resolveState positions ruleCount given = .ok state := by
  obtain ⟨rule, owner⟩ := declared
  have each : ∀ transition ∈ given.transitions,
      ∃ resolved, resolveTransition positions given.id transition = .ok resolved := by
    intro transition member
    obtain ⟨target, found⟩ := known transition member
    exact ⟨⟨target, transition.label⟩, resolveTransition_eq_ok_iff.mpr ⟨found, rfl⟩⟩
  obtain ⟨transitions, targets⟩ := exists_mapM each
  refine ⟨{ id := given.id, rule, kind := given.kind, transitions }, ?_⟩
  rw [resolveState, resolveRule_eq_ok_iff.mpr owner, targets]
  rfl

theorem exists_ruleIndexOf_iff {ruleCount : Nat} {number : Int} :
    (∃ rule : Option (Fin ruleCount), ruleIndexOf rule = number) ↔
      number = -1 ∨ 0 ≤ number ∧ number < ruleCount := by
  constructor
  · rintro ⟨rule, rfl⟩
    cases rule with
    | none => exact Or.inl rfl
    | some rule =>
        have bound := rule.isLt
        right
        simp only [ruleIndexOf, Option.elim_some]
        omega
  · rintro (rfl | ⟨lower, upper⟩)
    · exact ⟨none, rfl⟩
    · refine ⟨some ⟨number.toNat, by omega⟩, ?_⟩
      simp only [ruleIndexOf, Option.elim_some]
      omega

/-! ## The whole snapshot -/

theorem copiesState_of_resolveState {automaton : Automaton}
    {positions : Std.HashMap UInt32 (Fin automaton.size)}
    (correct : ∀ id index, positions[id]? = some index ↔ (automaton.state index).id = id)
    {given : Snapshot.State} {state : State automaton.size automaton.ruleCount}
    (resolved : resolveState positions automaton.ruleCount given = .ok state) :
    automaton.CopiesState given state := by
  obtain ⟨kind, owner, targets⟩ := resolveState_eq_ok resolved
  refine ⟨id_of_resolveState resolved, kind, owner, targets.imp ?_⟩
  intro transition target found
  obtain ⟨position, label⟩ := resolveTransition_eq_ok_iff.mp found
  refine ⟨label, ?_⟩
  intro index
  rw [← correct, position, Option.some.injEq, eq_comm]

theorem isCopyOf_of_ofSnapshot {snapshot : Snapshot} {automaton : Automaton}
    (accepted : ofSnapshot snapshot = .ok automaton) : automaton.IsCopyOf snapshot := by
  unfold ofSnapshot at accepted
  split at accepted
  · cases accepted
  split at accepted
  · cases accepted
  rename_i ids
  split at accepted
  · cases accepted
  rename_i states resolution
  cases accepted
  have numbers := ids_of_mapM_resolveState resolution
  refine ⟨List.toList_toArray, rfl, (forall₂_of_mapM resolution).imp ?_⟩
  intro given state resolved
  refine copiesState_of_resolveState ?_ resolved
  intro id index
  rw [positionsById_eq_some_iff (repeatedId?_eq_none ids).2]
  have inside : index.val < (states.map (·.id)).length := by
    rw [numbers, List.length_map]
    exact index.isLt
  have carried := List.getElem_of_eq numbers inside
  rw [List.getElem_map, List.getElem_map] at carried
  exact (iff_of_eq (congrArg (· = id) carried)).symm

theorem isConsistent_of_ofSnapshot {snapshot : Snapshot} {automaton : Automaton}
    (accepted : ofSnapshot snapshot = .ok automaton) : snapshot.IsConsistent := by
  unfold ofSnapshot at accepted
  split at accepted
  · cases accepted
  rename_i names
  split at accepted
  · cases accepted
  rename_i ids
  split at accepted
  · cases accepted
  rename_i states resolution
  obtain ⟨usable, distinctNames⟩ := nameFault?_eq_none names
  have distinctIds := (repeatedId?_eq_none ids).2
  have resolved {given : Snapshot.State} (member : given ∈ snapshot.states) :=
    exists_of_mem_of_forall₂ (forall₂_of_mapM resolution) member
  refine ⟨fun name member => (usable name member).1, distinctNames, distinctIds, ?_, ?_⟩
  · intro given member
    obtain ⟨state, _, success⟩ := resolved member
    have owner := exists_ruleIndexOf_iff.mp ⟨_, (resolveState_eq_ok success).2.1⟩
    rw [List.size_toArray] at owner
    exact owner.imp_left fun unowned => Int32.toInt_inj.mp unowned
  · intro given member transition leaving
    obtain ⟨state, _, success⟩ := resolved member
    obtain ⟨target, _, found⟩ :=
      exists_of_mem_of_forall₂ (resolveState_eq_ok success).2.2 leaving
    have position := (resolveTransition_eq_ok_iff.mp found).1
    exact ⟨_, List.getElem_mem target.target.isLt, (positionsById_eq_some_iff distinctIds).mp position⟩

theorem exists_ofSnapshot {snapshot : Snapshot} (consistent : snapshot.IsConsistent) :
    ∃ automaton, ofSnapshot snapshot = .ok automaton := by
  have names : nameFault? ∅ snapshot.ruleNames = none :=
    nameFault?_eq_none_iff.mpr
      ⟨fun name member => ⟨consistent.usable name member, Std.HashSet.not_mem_empty⟩,
        consistent.ruleNames_nodup⟩
  have ids : repeatedId? ∅ (snapshot.states.map (·.id)) = none :=
    repeatedId?_eq_none_iff.mpr ⟨fun _ _ => Std.HashSet.not_mem_empty, consistent.ids_nodup⟩
  have each : ∀ given ∈ snapshot.states, ∃ state,
      resolveState (positionsById snapshot.states) snapshot.ruleNames.toArray.size given =
        .ok state := by
    intro given member
    apply exists_resolveState
    · rw [exists_ruleIndexOf_iff, List.size_toArray]
      exact (consistent.rule_declared given member).imp_left fun unowned => by rw [unowned]; rfl
    · intro transition leaving
      exact exists_position consistent.ids_nodup (consistent.target_known given member transition leaving)
  obtain ⟨states, resolution⟩ := exists_mapM each
  unfold ofSnapshot
  split
  · rename_i fault
    rw [names] at fault
    cases fault
  split
  · rename_i repetition
    rw [ids] at repetition
    cases repetition
  split
  · rename_i failure
    rw [resolution] at failure
    cases failure
  · exact ⟨_, rfl⟩

/-- A snapshot is accepted exactly when it is consistent, and what comes of it is a copy. -/
theorem ofSnapshot_accepts_consistent_and_copies (snapshot : Snapshot) :
    ((∃ automaton, ofSnapshot snapshot = .ok automaton) ↔ snapshot.IsConsistent) ∧
      ∀ automaton, ofSnapshot snapshot = .ok automaton → automaton.IsCopyOf snapshot := by
  refine ⟨⟨?_, exists_ofSnapshot⟩, fun _ => isCopyOf_of_ofSnapshot⟩
  rintro ⟨automaton, accepted⟩
  exact isConsistent_of_ofSnapshot accepted

end Automaton

end TransitionNetwork
