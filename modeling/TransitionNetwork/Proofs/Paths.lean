import TransitionNetwork.Files.Tree

/-!
# Children of a directory

A name without slashes that is joined to a root is the one name that the path has behind those of
the root. So in every tree it leads to the entry of that name in the directory that the root leads
to, whatever the root looks like.
-/

set_option autoImplicit false

namespace TransitionNetwork

namespace Path

/-- What stands between slashes of a path. -/
structure IsPart (name : String) : Prop where
  nonempty : name ≠ ""
  slash_notMem : '/' ∉ name.toList

/-- A name that an entry of a directory can have: it leads neither to the directory itself nor
anywhere above it, and further into no other directory. -/
structure IsComponent (name : String) : Prop where
  nonempty : name ≠ ""
  notHere : name ≠ "."
  notAbove : name ≠ ".."
  slash_notMem : '/' ∉ name.toList
  backslash_notMem : '\\' ∉ name.toList

theorem IsComponent.isPart {name : String} (component : IsComponent name) : IsPart name :=
  ⟨component.nonempty, component.slash_notMem⟩

/-! ## Splitting at slashes -/

theorem splitAtSlashes_ne_nil (text : List Char) : splitAtSlashes text ≠ [] := by
  cases text with
  | nil => simp [splitAtSlashes]
  | cons c rest =>
      unfold splitAtSlashes
      split <;> simp_all
      split <;> simp

theorem splitAtSlashes_cons_of_ne {c : Char} (other : c ≠ '/') {rest first : List Char}
    {others : List (List Char)} (split : splitAtSlashes rest = first :: others) :
    splitAtSlashes (c :: rest) = (c :: first) :: others := by
  rw [splitAtSlashes]
  · rw [split]
  · exact other

/-- A slash parts what stands before it from what stands behind it. -/
theorem splitAtSlashes_append (before after : List Char) :
    splitAtSlashes (before ++ '/' :: after) = splitAtSlashes before ++ splitAtSlashes after := by
  induction before with
  | nil => rfl
  | cons c before ih =>
      by_cases isSlash : c = '/'
      · subst isSlash
        exact congrArg ([] :: ·) ih
      · cases split : splitAtSlashes before with
        | nil => exact absurd split (splitAtSlashes_ne_nil before)
        | cons first others =>
            rw [split] at ih
            rw [List.cons_append, splitAtSlashes_cons_of_ne isSlash ih,
              splitAtSlashes_cons_of_ne isSlash split]
            rfl

theorem splitAtSlashes_of_notMem {text : List Char} (single : '/' ∉ text) :
    splitAtSlashes text = [text] := by
  induction text with
  | nil => rfl
  | cons c rest ih =>
      rw [List.mem_cons, not_or] at single
      exact splitAtSlashes_cons_of_ne (Ne.symm single.1) (ih single.2)

/-! ## Joining -/

/-- A slash between two paths, or at the end of the first, is all that joining them takes. -/
theorem parts_append_slash (before after : List Char) :
    parts (String.ofList (before ++ '/' :: after)) =
      parts (String.ofList before) ++ parts (String.ofList after) := by
  simp only [parts, String.toList_ofList, splitAtSlashes_append, List.filter_append,
    List.map_append]

theorem parts_of_isPart {name : String} (part : IsPart name) : parts name = [name] := by
  have filled : name.toList ≠ [] := fun absent => part.nonempty (String.toList_eq_nil_iff.mp absent)
  simp [parts, splitAtSlashes_of_notMem part.slash_notMem, filled]

theorem isAbsolute_of_isComponent {name : String} (component : IsComponent name) :
    isAbsolute name = false := by
  have single := component.slash_notMem
  unfold isAbsolute
  cases chars : name.toList with
  | nil => rfl
  | cons c rest =>
      rw [chars] at single
      have other : c ≠ '/' := fun isSlash => single (by simp [isSlash])
      simp [other]

/-- Three cases of the root share this one: nothing before the name, a slash that is already there,
and a slash that is put there. -/
theorem join_eq (root name : String) (component : IsComponent name) :
    (root = "" ∧ join root name = name) ∨
      ∃ front, join root name = String.ofList (front ++ '/' :: name.toList) ∧
        ((root = String.ofList front ∧ front ≠ []) ∨ root = String.ofList (front ++ ['/'])) := by
  unfold join
  rw [isAbsolute_of_isComponent component, Bool.false_or]
  by_cases blank : root = ""
  · exact Or.inl ⟨blank, by simp [blank]⟩
  · simp only [blank, decide_false, Bool.false_eq_true, ↓reduceIte]
    right
    split
    · rename_i slash
      obtain ⟨front, chars⟩ : ∃ front, root.toList = front ++ ['/'] :=
        List.getLast?_eq_some_iff.mp (beq_iff_eq.mp slash)
      refine ⟨front, ?_, Or.inr ?_⟩
      · rw [← String.toList_inj]
        simp [chars]
      · rw [← String.toList_inj, String.toList_ofList, chars]
    · have filled : root.toList ≠ [] := fun absent => blank (String.toList_eq_nil_iff.mp absent)
      refine ⟨root.toList, ?_, Or.inl ⟨String.ofList_toList.symm, filled⟩⟩
      rw [← String.toList_inj]
      simp

theorem parts_join (root : String) {name : String} (component : IsComponent name) :
    parts (join root name) = parts root ++ [name] := by
  have slashAtEnd (front : List Char) :
      parts (String.ofList (front ++ ['/'])) = parts (String.ofList front) := by
    have ended := parts_append_slash front []
    rwa [show parts (String.ofList []) = [] from rfl, List.append_nil] at ended
  rcases join_eq root name component with ⟨rfl, joined⟩ | ⟨front, joined, ⟨rfl, _⟩ | rfl⟩
  · rw [joined, parts_of_isPart component.isPart]
    rfl
  · rw [joined, parts_append_slash, String.ofList_toList, parts_of_isPart component.isPart]
  · rw [joined, parts_append_slash, String.ofList_toList, parts_of_isPart component.isPart,
      slashAtEnd]

theorem isAbsolute_join (root : String) {name : String} (component : IsComponent name) :
    isAbsolute (join root name) = isAbsolute root := by
  rcases join_eq root name component with ⟨rfl, joined⟩ | ⟨front, joined, ⟨rfl, filled⟩ | rfl⟩
  · rw [joined, isAbsolute_of_isComponent component]
    rfl
  · obtain ⟨c, rest, rfl⟩ := List.exists_cons_of_ne_nil filled
    rw [joined]
    simp [isAbsolute]
  · rw [joined]
    cases front <;> simp [isAbsolute]

end Path

/-! ## Places in a tree -/

namespace FileTree

variable (tree : FileTree)

theorem follow_append (place : Place) (first second : List String) :
    tree.follow place (first ++ second) =
      (tree.follow place first).bind fun middle => tree.follow middle second := by
  induction first generalizing place with
  | nil => rfl
  | cons name rest ih =>
      rw [List.cons_append, follow, follow]
      cases tree.entry? place with
      | none => rfl
      | some entry =>
          cases entry with
          | file bytes => rfl
          | directory =>
              dsimp only
              split
              · exact ih place
              split
              · exact ih place.dropLast
              split
              · rfl
              · exact ih (place ++ [name])

theorem follow_component {place below : Place} {name : String}
    (component : Path.IsComponent name) (found : tree.follow place [name] = .ok below) :
    below = place ++ [name] := by
  rw [follow] at found
  split at found
  · cases found
  · cases found
  · rw [if_neg component.notHere, if_neg component.notAbove] at found
    split at found
    · cases found
    · cases found
      rfl

/-- What a path leads to does not depend on how the path is written, but on the names in it. -/
theorem follow_of_locate {path : String} {place : Place} (found : tree.locate path = .ok place) :
    tree.follow [] (Path.parts path) = .ok place := by
  unfold locate at found
  cases checked : tree.checkPath path with
  | error fault =>
      rw [checked] at found
      cases found
  | ok _ =>
      rw [checked] at found
      exact found

end FileTree

/-- The path leads to the entry of that name in the directory that the root leads to. -/
structure Path.IsChild (root name path : String) : Prop where
  isAbsolute_eq : isAbsolute path = isAbsolute root
  parts_eq : parts path = parts root ++ [name]
  place_eq : ∀ (tree : FileTree) (above below : Place), tree.locate root = .ok above →
    tree.locate path = .ok below → below = above ++ [name]

theorem Path.isChild_join (root : String) {name : String} (component : IsComponent name) :
    IsChild root name (join root name) where
  isAbsolute_eq := isAbsolute_join root component
  parts_eq := parts_join root component
  place_eq := by
    intro tree above below rootFound found
    have followed := tree.follow_of_locate found
    rw [parts_join root component, tree.follow_append, tree.follow_of_locate rootFound] at followed
    exact tree.follow_component component followed

end TransitionNetwork
