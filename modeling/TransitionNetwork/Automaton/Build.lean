import Std.Data.HashMap
import Std.Data.HashSet
import TransitionNetwork.Automaton
import TransitionNetwork.Automaton.Rejection
import TransitionNetwork.Snapshot

/-!
# From a snapshot to an automaton

A snapshot is refused for the first thing that is wrong with it: first the rule names are looked
at, then the numbers of the states, then each state's rule and the targets of its transitions.
-/

set_option autoImplicit false

namespace TransitionNetwork.Automaton

/-- What is wrong with the first unusable or repeated name. -/
def nameFault? (seen : Std.HashSet String) : List String → Option Rejection
  | [] => none
  | name :: rest =>
    if ¬ IsUsableRuleName name then some (.unusableRuleName name)
    else if name ∈ seen then some (.repeatedRuleName name)
    else nameFault? (seen.insert name) rest

/-- The first number that occurs for the second time. -/
def repeatedId? (seen : Std.HashSet UInt32) : List UInt32 → Option UInt32
  | [] => none
  | id :: rest => if id ∈ seen then some id else repeatedId? (seen.insert id) rest

/-- The position of the state that carries a number. -/
def positionsById (states : List Snapshot.State) : Std.HashMap UInt32 (Fin states.length) :=
  Std.HashMap.ofList ((states.map (·.id)).zip (List.finRange states.length))

def resolveRule (ruleCount : Nat) (state : Snapshot.State) :
    Except Rejection (Option (Fin ruleCount)) :=
  if state.ruleIndex = -1 then .ok none
  else
    match state.ruleIndex.toInt with
    | .ofNat rule =>
      if h : rule < ruleCount then .ok (some ⟨rule, h⟩)
      else .error (.ruleIndexOutOfRange state.id state.ruleIndex ruleCount)
    | .negSucc _ => .error (.ruleIndexOutOfRange state.id state.ruleIndex ruleCount)

def resolveTransition {size : Nat} (positions : Std.HashMap UInt32 (Fin size)) (source : UInt32)
    (transition : Snapshot.Transition) : Except Rejection (Transition size) :=
  match positions[transition.target]? with
  | none => .error (.unknownTarget source transition.target)
  | some target =>
    .ok ⟨target, if transition.epsilon then .epsilon else .symbols transition.symbols⟩

def resolveState {size : Nat} (positions : Std.HashMap UInt32 (Fin size)) (ruleCount : Nat)
    (state : Snapshot.State) : Except Rejection (State size ruleCount) := do
  let rule ← resolveRule ruleCount state
  let transitions ← state.transitions.mapM (resolveTransition positions state.id)
  return { id := state.id, rule, kind := state.kind, transitions }

theorem nameFault?_eq_none {seen : Std.HashSet String} {names : List String}
    (h : nameFault? seen names = none) :
    (∀ name ∈ names, IsUsableRuleName name ∧ name ∉ seen) ∧ names.Nodup := by
  induction names generalizing seen with
  | nil => simp
  | cons name rest ih =>
    rw [nameFault?] at h
    split at h
    · cases h
    split at h
    · cases h
    obtain ⟨fresh, nodup⟩ := ih h
    simp only [Std.HashSet.mem_insert, beq_iff_eq, not_or] at fresh
    grind

theorem repeatedId?_eq_none {seen : Std.HashSet UInt32} {ids : List UInt32}
    (h : repeatedId? seen ids = none) : (∀ id ∈ ids, id ∉ seen) ∧ ids.Nodup := by
  induction ids generalizing seen with
  | nil => simp
  | cons id rest ih =>
    rw [repeatedId?] at h
    split at h
    · cases h
    obtain ⟨fresh, nodup⟩ := ih h
    simp only [Std.HashSet.mem_insert, beq_iff_eq, not_or] at fresh
    grind

theorem id_of_resolveState {size ruleCount : Nat} {positions : Std.HashMap UInt32 (Fin size)}
    {state : Snapshot.State} {resolved : State size ruleCount}
    (h : resolveState positions ruleCount state = .ok resolved) : resolved.id = state.id := by
  unfold resolveState at h
  cases hr : resolveRule ruleCount state with
  | error fault => simp [hr, bind, Except.bind] at h
  | ok rule =>
    cases ht : state.transitions.mapM (resolveTransition positions state.id) with
    | error fault => simp [hr, ht, bind, Except.bind] at h
    | ok transitions =>
      simp only [hr, ht, bind, Except.bind, pure, Except.pure, Except.ok.injEq] at h
      rw [← h]

theorem ids_of_mapM_resolveState {size ruleCount : Nat}
    {positions : Std.HashMap UInt32 (Fin size)} {states : List Snapshot.State}
    {resolved : List (State size ruleCount)}
    (h : states.mapM (resolveState positions ruleCount) = .ok resolved) :
    resolved.map (·.id) = states.map (·.id) := by
  induction states generalizing resolved with
  | nil =>
    cases h
    rfl
  | cons state rest ih =>
    rw [List.mapM_cons] at h
    cases hs : resolveState positions ruleCount state with
    | error fault => simp [hs, bind, Except.bind] at h
    | ok first =>
      cases hr : rest.mapM (resolveState positions ruleCount) with
      | error fault => simp [hs, hr, bind, Except.bind] at h
      | ok others =>
        simp only [hs, hr, bind, Except.bind, pure, Except.pure, Except.ok.injEq] at h
        rw [← h, List.map_cons, List.map_cons, ih hr, id_of_resolveState hs]

def ofSnapshot (snapshot : Snapshot) : Except Rejection Automaton :=
  match names : nameFault? ∅ snapshot.ruleNames with
  | some fault => .error fault
  | none =>
    match ids : repeatedId? ∅ (snapshot.states.map (·.id)) with
    | some id => .error (.repeatedStateId id)
    | none =>
      match resolution : snapshot.states.mapM
          (resolveState (positionsById snapshot.states) snapshot.ruleNames.toArray.size) with
      | .error fault => .error fault
      | .ok states =>
        have same := ids_of_mapM_resolveState resolution
        .ok {
          ruleNames := snapshot.ruleNames.toArray
          vocabulary := snapshot.vocabulary
          size := snapshot.states.length
          states := ⟨states.toArray, by simpa using congrArg List.length same⟩
          usable_of_mem_ruleNames := fun name member =>
            ((nameFault?_eq_none names).1 name (by simpa using member)).1
          ruleNames_nodup := (nameFault?_eq_none names).2
          ids_nodup := by
            simpa [Vector.toList, same] using (repeatedId?_eq_none ids).2 }

end TransitionNetwork.Automaton
