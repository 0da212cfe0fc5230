import Mathlib.Data.Fin.Basic
import Mathlib.Data.List.Nodup
import Std.Data.String.ToNat
import TransitionNetwork.Document
import TransitionNetwork.Proofs.Paths

/-!
# Names of documents

Whatever the rules are called, the documents of one run have different names, and each name is that
of an entry right below the root that the documents are written to.
-/

set_option autoImplicit false

namespace TransitionNetwork

namespace Document

open TransitionNetwork.Path (IsComponent)

/-! ## One name -/

/-- The ending keeps a name apart from those with a meaning of their own, which are shorter. -/
theorem isComponent_append_dot (stem : String) (slash : '/' ∉ stem.toList)
    (backslash : '\\' ∉ stem.toList) : IsComponent (stem ++ ".dot") := by
  have apart {other : String} (short : other.toList.length < 4) : stem ++ ".dot" ≠ other := by
    intro same
    have lengths := congrArg (·.toList.length) same
    simp only [String.toList_append, List.length_append, String.reduceToList, List.length_cons,
      List.length_nil] at lengths
    omega
  refine ⟨apart (by decide), apart (by decide), apart (by decide), ?_, ?_⟩
  · simpa using slash
  · simpa using backslash

theorem isComponent_focusedName {ruleName : String} (usable : IsUsableRuleName ruleName) :
    IsComponent (focusedName ruleName) := by
  obtain ⟨_, _, _, slash, backslash⟩ := usable
  apply isComponent_append_dot
  · simpa using slash
  · simpa using backslash

theorem isComponent_fullName : IsComponent fullName :=
  isComponent_append_dot "atn" (by decide) (by decide)

theorem notMem_toString {c : Char} (other : c.isDigit = false) (number : Nat) :
    c ∉ (toString number).toList := by
  intro member
  rw [Nat.toString_eq_repr, Nat.toList_repr] at member
  have digit := Nat.isDigit_of_mem_toDigits (by decide) (by decide) member
  rw [other] at digit
  cases digit

theorem isComponent_flatName (rule : Nat) : IsComponent (flatName rule) := by
  apply isComponent_append_dot
  · simpa using notMem_toString (by decide) rule
  · simpa using notMem_toString (by decide) rule

/-! ## Different names -/

theorem focusedName_inj {first second : String} :
    focusedName first = focusedName second ↔ first = second := by
  simp [focusedName]

theorem flatName_inj {first second : Nat} : flatName first = flatName second ↔ first = second := by
  constructor
  · intro same
    have numbers : toString first = toString second := by simpa [flatName] using same
    exact Nat.repr_injective numbers
  · exact congrArg flatName

/-- The first character tells the focused documents from the others. -/
theorem focusedName_ne_fullName (ruleName : String) : focusedName ruleName ≠ fullName := by
  intro same
  have heads := congrArg (·.toList.head?) same
  simp [focusedName, fullName] at heads

theorem focusedName_ne_flatName (ruleName : String) (rule : Nat) :
    focusedName ruleName ≠ flatName rule := by
  intro same
  have heads := congrArg (·.toList.head?) same
  simp [focusedName, flatName] at heads

theorem fullName_ne_flatName (rule : Nat) : fullName ≠ flatName rule := by
  intro same
  have fourth := congrArg (·.toList[3]?) same
  simp [fullName, flatName] at fourth

end Document

namespace Automaton

variable (automaton : Automaton)

theorem ruleName_mem (rule : Fin automaton.ruleCount) :
    automaton.ruleName rule ∈ automaton.ruleNames :=
  Array.getElem_mem rule.isLt

theorem ruleName_injective {first second : Fin automaton.ruleCount}
    (same : automaton.ruleName first = automaton.ruleName second) : first = second := by
  have entries : automaton.ruleNames.toList[first.val] = automaton.ruleNames.toList[second.val] := by
    simpa [ruleName] using same
  exact Fin.ext (automaton.ruleNames_nodup.getElem_inj_iff.mp entries)

/-! ## The documents of one run -/

/-- The names of all three families, in the order of the documents. -/
def documentNames : List String :=
  automaton.rules.map (Document.focusedName ∘ automaton.ruleName) ++ [Document.fullName] ++
    automaton.rules.map fun rule : Fin automaton.ruleCount => Document.flatName rule

/-- The switches only leave families out. -/
theorem names_documents_sublist (options : Options) :
    ((automaton.documents options).map Document.name).Sublist automaton.documentNames := by
  have switched {wanted : Bool} {family : List Document} :
      ((if wanted then family else []).map Document.name).Sublist (family.map Document.name) := by
    cases wanted with
    | false => exact List.nil_sublist _
    | true => exact List.Sublist.refl _
  unfold documents documentNames
  rw [List.map_append, List.map_append]
  refine (List.Sublist.append (List.Sublist.append ?_ ?_) ?_)
  · have named : automaton.rules.map (Document.focusedName ∘ automaton.ruleName) =
        (automaton.rules.map automaton.focused).map Document.name := by
      rw [List.map_map]
      rfl
    rw [named]
    exact switched
  · exact switched
  · have named : (automaton.rules.map fun rule : Fin automaton.ruleCount =>
        Document.flatName rule) = (automaton.rules.map automaton.flat).map Document.name := by
      rw [List.map_map]
      rfl
    rw [named]
    exact switched

theorem documentNames_nodup : automaton.documentNames.Nodup := by
  have distinctRules : automaton.rules.Nodup := List.nodup_finRange automaton.ruleCount
  have focused : (automaton.rules.map (Document.focusedName ∘ automaton.ruleName)).Nodup := by
    apply distinctRules.map
    intro first second same
    exact automaton.ruleName_injective (Document.focusedName_inj.mp same)
  have flat : (automaton.rules.map fun rule : Fin automaton.ruleCount =>
      Document.flatName rule).Nodup := by
    apply distinctRules.map
    intro first second same
    exact Fin.val_injective (Document.flatName_inj.mp same)
  unfold documentNames
  rw [List.nodup_append, List.nodup_append]
  refine ⟨⟨focused, List.nodup_singleton _, ?_⟩, flat, ?_⟩
  · intro first fromFocused second fromFull
    obtain ⟨rule, _, rfl⟩ := List.mem_map.mp fromFocused
    rw [List.mem_singleton.mp fromFull]
    exact Document.focusedName_ne_fullName _
  · intro first fromOthers second fromFlat
    obtain ⟨rule, _, rfl⟩ := List.mem_map.mp fromFlat
    rcases List.mem_append.mp fromOthers with fromFocused | fromFull
    · obtain ⟨other, _, rfl⟩ := List.mem_map.mp fromFocused
      exact Document.focusedName_ne_flatName _ _
    · rw [List.mem_singleton.mp fromFull]
      exact Document.fullName_ne_flatName _

theorem isComponent_of_mem_documentNames {name : String}
    (member : name ∈ automaton.documentNames) : Path.IsComponent name := by
  simp only [documentNames, List.mem_append, List.mem_map, List.mem_singleton] at member
  rcases member with (⟨rule, _, rfl⟩ | rfl) | ⟨rule, _, rfl⟩
  · apply Document.isComponent_focusedName
    exact automaton.usable_of_mem_ruleNames _ (automaton.ruleName_mem rule)
  · exact Document.isComponent_fullName
  · exact Document.isComponent_flatName rule

/-- The documents of one run have different names, so none takes the place of another, and joined
to any root each name is that of an entry right below it. -/
theorem documents_named_apart_below_root (options : Options) :
    ((automaton.documents options).map Document.name).Nodup ∧
    ∀ document ∈ automaton.documents options,
      Path.IsComponent document.name ∧
      ∀ root, Path.IsChild root document.name (Path.join root document.name) := by
  refine ⟨automaton.documentNames_nodup.sublist (automaton.names_documents_sublist options), ?_⟩
  intro document member
  have component : Path.IsComponent document.name :=
    automaton.isComponent_of_mem_documentNames
      ((automaton.names_documents_sublist options).mem (List.mem_map_of_mem member))
  exact ⟨component, fun root => Path.isChild_join root component⟩

end Automaton

end TransitionNetwork
