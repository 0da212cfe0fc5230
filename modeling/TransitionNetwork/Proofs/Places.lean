import TransitionNetwork.Proofs.Paths

/-!
# The places of a path

Where a path leads is a matter of its names alone. The tree only decides whether it can be followed:
every place on the way has to be a directory, and no name may be too long.
-/

set_option autoImplicit false

namespace TransitionNetwork

namespace Path

/-! ## Parts -/

theorem slash_notMem_of_mem_splitAtSlashes {text part : List Char}
    (member : part ∈ splitAtSlashes text) : '/' ∉ part := by
  induction text generalizing part with
  | nil =>
      rw [splitAtSlashes, List.mem_singleton] at member
      simp [member]
  | cons c rest ih =>
      by_cases isSlash : c = '/'
      · subst isSlash
        rcases List.mem_cons.mp member with rfl | later
        · exact List.not_mem_nil
        · exact ih later
      · cases split : splitAtSlashes rest with
        | nil => exact absurd split (splitAtSlashes_ne_nil rest)
        | cons first others =>
            rw [splitAtSlashes_cons_of_ne isSlash split] at member
            rw [split] at ih
            rcases List.mem_cons.mp member with rfl | later
            · rw [List.mem_cons, not_or]
              exact ⟨Ne.symm isSlash, ih List.mem_cons_self⟩
            · exact ih (List.mem_cons_of_mem _ later)

/-- A character of a text is a slash or stands between slashes. -/
theorem eq_slash_or_mem_splitAtSlashes {text : List Char} {c : Char} (member : c ∈ text) :
    c = '/' ∨ ∃ part ∈ splitAtSlashes text, c ∈ part := by
  induction text with
  | nil => cases member
  | cons d rest ih =>
      by_cases isSlash : d = '/'
      · subst isSlash
        rcases List.mem_cons.mp member with rfl | later
        · exact Or.inl rfl
        · refine (ih later).imp_right ?_
          rintro ⟨part, present, inside⟩
          exact ⟨part, List.mem_cons_of_mem _ present, inside⟩
      · cases split : splitAtSlashes rest with
        | nil => exact absurd split (splitAtSlashes_ne_nil rest)
        | cons first others =>
            rw [splitAtSlashes_cons_of_ne isSlash split]
            rw [split] at ih
            rcases List.mem_cons.mp member with rfl | later
            · exact Or.inr ⟨c :: first, List.mem_cons_self, List.mem_cons_self⟩
            · refine (ih later).imp_right ?_
              rintro ⟨part, present, inside⟩
              rcases List.mem_cons.mp present with rfl | other
              · exact ⟨d :: part, List.mem_cons_self, List.mem_cons_of_mem _ inside⟩
              · exact ⟨part, List.mem_cons_of_mem _ other, inside⟩

theorem isPart_of_mem_parts {path name : String} (member : name ∈ parts path) : IsPart name := by
  simp only [parts, List.mem_map, List.mem_filter, decide_eq_true_eq] at member
  obtain ⟨part, ⟨present, filled⟩, rfl⟩ := member
  refine ⟨?_, ?_⟩
  · intro blank
    apply filled
    simpa using congrArg String.toList blank
  · rw [String.toList_ofList]
    exact slash_notMem_of_mem_splitAtSlashes present

theorem isPart_of_sublist_parts {path : String} {names : List String}
    (sub : names.Sublist (parts path)) : ∀ name ∈ names, IsPart name :=
  fun _ member => isPart_of_mem_parts (sub.subset member)

theorem eq_slash_or_mem_parts {path : String} {c : Char} (member : c ∈ path.toList) :
    c = '/' ∨ ∃ name ∈ parts path, c ∈ name.toList := by
  refine (eq_slash_or_mem_splitAtSlashes member).imp_right ?_
  rintro ⟨part, present, inside⟩
  refine ⟨String.ofList part, ?_, by simpa using inside⟩
  have filled : part ≠ [] := List.ne_nil_of_mem inside
  simp only [parts, List.mem_map, List.mem_filter, decide_eq_true_eq]
  exact ⟨part, ⟨present, filled⟩, rfl⟩

theorem parts_append_slash_append (first second : String) :
    parts (first ++ "/" ++ second) = parts first ++ parts second := by
  have spelled : first ++ "/" ++ second = String.ofList (first.toList ++ '/' :: second.toList) := by
    rw [← String.toList_inj]
    simp
  rw [spelled, parts_append_slash, String.ofList_toList, String.ofList_toList]

theorem parts_intercalate {names : List String} (each : ∀ name ∈ names, IsPart name) :
    parts ("/".intercalate names) = names := by
  induction names with
  | nil => rfl
  | cons name rest ih =>
      obtain ⟨part, others⟩ := List.forall_mem_cons.mp each
      cases rest with
      | nil =>
          rw [String.intercalate_singleton]
          exact parts_of_isPart part
      | cons second rest =>
          rw [String.intercalate_cons_cons, parts_append_slash_append, ih others,
            parts_of_isPart part]
          rfl

theorem parts_ofParts (absolute : Bool) {names : List String}
    (each : ∀ name ∈ names, IsPart name) : parts (ofParts absolute names) = names := by
  cases absolute with
  | false =>
      rw [ofParts]
      simpa using parts_intercalate each
  | true =>
      have apart := parts_append_slash_append "" ("/".intercalate names)
      rw [parts_intercalate each] at apart
      exact apart

/-! ## Routes -/

/-- Where a name leads from a directory. -/
def step (place : Place) (name : String) : Place :=
  if name = "." then place else if name = ".." then place.dropLast else place ++ [name]

/-- The places from which the names are followed one by one. -/
def route (start : Place) : List String → List Place
  | [] => []
  | name :: rest => start :: route (step start name) rest

/-- The place that the path leads to. -/
def place (path : String) : Place :=
  (parts path).foldl step []

/-- The place that the path leads to, behind all those on the way there. -/
def passed (path : String) : List Place :=
  route [] (parts path) ++ [place path]

theorem route_append (start : Place) (first second : List String) :
    route start (first ++ second) = route start first ++ route (first.foldl step start) second := by
  induction first generalizing start with
  | nil => rfl
  | cons name rest ih => exact congrArg (start :: ·) (ih (step start name))

theorem step_of_isComponent (place : Place) {name : String} (component : IsComponent name) :
    step place name = place ++ [name] := by
  rw [step, if_neg component.notHere, if_neg component.notAbove]

theorem place_join (root : String) {name : String} (component : IsComponent name) :
    place (join root name) = place root ++ [name] := by
  rw [place, parts_join root component, List.foldl_append, List.foldl_cons, List.foldl_nil,
    step_of_isComponent _ component]
  rfl

end Path

namespace FileTree

open TransitionNetwork.Path

variable {tree : FileTree}

/-- From a directory every name leads on that is not too long, `.` and `..` among them. -/
theorem follow_cons_of_directory {start : Place} (there : tree.entry? start = some .directory)
    (name : String) (rest : List String) :
    tree.follow start (name :: rest) =
      if longestName < name.utf8ByteSize then .error .nameTooLong
      else tree.follow (step start name) rest := by
  rw [follow, there]
  dsimp only
  by_cases here : name = "."
  · have short : ¬ longestName < name.utf8ByteSize := by rw [here]; decide
    rw [step, if_pos here, if_neg short, if_pos here]
  by_cases above : name = ".."
  · have short : ¬ longestName < name.utf8ByteSize := by rw [above]; decide
    rw [step, if_neg here, if_pos above, if_neg short, if_neg here, if_pos above]
  rw [step, if_neg here, if_neg above, if_neg here, if_neg above]

theorem follow_eq_ok_iff {start target : Place} {names : List String} :
    tree.follow start names = .ok target ↔
      (∀ place ∈ route start names, tree.entry? place = some .directory) ∧
      (∀ name ∈ names, name.utf8ByteSize ≤ longestName) ∧ target = names.foldl step start := by
  induction names generalizing start with
  | nil =>
      rw [follow, Except.ok.injEq, eq_comm]
      simp [route]
  | cons name rest ih =>
      rw [route, List.foldl_cons, List.forall_mem_cons, List.forall_mem_cons]
      cases there : tree.entry? start with
      | none => simp [follow, there]
      | some entry =>
          cases entry with
          | file bytes => simp [follow, there]
          | directory =>
              rw [follow_cons_of_directory there, and_iff_right rfl]
              split
              · rename_i long
                simp [Nat.not_le_of_lt long]
              · rename_i short
                rw [ih, and_iff_right (Nat.le_of_not_lt short)]

theorem checkPath_eq_ok_iff {path : String} :
    tree.checkPath path = .ok () ↔
      '\x00' ∉ path.toList ∧ path ≠ "" ∧ ∀ limit ∈ tree.pathLimit, path.utf8ByteSize ≤ limit := by
  unfold checkPath
  split
  · rename_i nul
    exact iff_of_false nofun fun usable => usable.1 nul
  split
  · rename_i blank
    exact iff_of_false nofun fun usable => usable.2.1 blank
  rename_i blank
  cases tree.pathLimit with
  | none => simp [*]
  | some limit =>
      simp only [Option.any_some, Option.mem_some_iff, forall_eq', decide_eq_true_eq]
      split
      · grind
      · grind

theorem locate_eq_ok_iff {path : String} {target : Place} :
    tree.locate path = .ok target ↔
      tree.checkPath path = .ok () ∧
      (∀ place ∈ route [] (parts path), tree.entry? place = some .directory) ∧
      (∀ name ∈ parts path, name.utf8ByteSize ≤ longestName) ∧ target = place path := by
  rw [place, ← follow_eq_ok_iff, locate]
  cases tree.checkPath path with
  | error fault => exact iff_of_false nofun nofun
  | ok _ => exact (and_iff_right rfl).symm

theorem isDirectory_iff_locate {path : String} :
    tree.isDirectory path = true ↔
      ∃ place, tree.locate path = .ok place ∧ tree.entry? place = some .directory := by
  unfold isDirectory
  cases tree.locate path with
  | error fault => simp [Functor.map, Except.map]
  | ok place =>
      simp only [Functor.map, Except.map, Except.ok.injEq, exists_eq_left']
      cases tree.entry? place with
      | none => simp
      | some entry => cases entry <;> simp

theorem isDirectory_iff {path : String} :
    tree.isDirectory path = true ↔
      tree.checkPath path = .ok () ∧
      (∀ name ∈ parts path, name.utf8ByteSize ≤ longestName) ∧
      ∀ place ∈ passed path, tree.entry? place = some .directory := by
  rw [isDirectory_iff_locate]
  simp only [locate_eq_ok_iff, passed, List.forall_mem_append, List.forall_mem_singleton]
  grind

end FileTree

end TransitionNetwork
