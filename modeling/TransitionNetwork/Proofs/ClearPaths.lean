import Mathlib.Data.List.Induction
import TransitionNetwork.Proofs.MakingDirectories

/-!
# Clear paths

A path is clear if it can be used and every place on it is missing or a directory. Then nothing is
in the way of making the directory together with those above it, and a path that does not end in `.`
has to be clear for that.
-/

set_option autoImplicit false

namespace TransitionNetwork

namespace Path

/-! ## Texts of leading parts -/

theorem intercalate_splitAtSlashes (text : List Char) :
    ['/'].intercalate (splitAtSlashes text) = text := by
  induction text with
  | nil => rfl
  | cons c rest ih =>
      cases split : splitAtSlashes rest with
      | nil => exact absurd split (splitAtSlashes_ne_nil rest)
      | cons first others =>
          rw [split] at ih
          by_cases isSlash : c = '/'
          · subst isSlash
            rw [splitAtSlashes, split, List.intercalate_cons_cons, ih]
            rfl
          · rw [splitAtSlashes_cons_of_ne isSlash split]
            cases others with
            | nil =>
                rw [List.intercalate_singleton] at ih
                rw [List.intercalate_singleton, ih]
            | cons second others =>
                rw [List.intercalate_cons_cons] at ih
                rw [List.intercalate_cons_cons, List.cons_append, List.cons_append, ih]

theorem intercalate_sublist (separator : List Char) {chosen all : List (List Char)}
    (sub : chosen.Sublist all) :
    (separator.intercalate chosen).Sublist (separator.intercalate all) := by
  induction sub with
  | slnil => exact List.Sublist.refl _
  | @cons chosen all part inside ih =>
      cases all with
      | nil =>
          obtain rfl := List.sublist_nil.mp inside
          exact List.nil_sublist _
      | cons next all =>
          rw [List.intercalate_cons_cons]
          exact ih.trans (List.sublist_append_right _ _)
  | @cons_cons chosen all part inside ih =>
      cases all with
      | nil =>
          obtain rfl := List.sublist_nil.mp inside
          exact List.Sublist.refl _
      | cons next all =>
          rw [List.intercalate_cons_cons, List.append_assoc]
          cases chosen with
          | nil =>
              rw [List.intercalate_singleton]
              exact List.sublist_append_left _ _
          | cons kept chosen =>
              rw [List.intercalate_cons_cons, List.append_assoc]
              exact ((List.Sublist.refl _).append ih).append_left part

theorem map_toList_parts (path : String) :
    (parts path).map String.toList = (splitAtSlashes path.toList).filter (· ≠ []) := by
  simp [parts, Function.comp_def]

/-- What some of the parts of a path are written as is the path with characters left out. -/
theorem toList_ofParts_sublist {path : String} {names : List String}
    (sub : names.Sublist (parts path)) :
    (ofParts (isAbsolute path) names).toList.Sublist path.toList := by
  have inside {text : List Char}
      (cut : (names.map String.toList).Sublist ((splitAtSlashes text).filter (· ≠ []))) :
      ("/".intercalate names).toList.Sublist text := by
    have joined := intercalate_sublist ['/'] (cut.trans List.filter_sublist)
    rw [intercalate_splitAtSlashes] at joined
    rw [String.toList_intercalate]
    exact joined
  have kept := sub.map String.toList
  rw [map_toList_parts] at kept
  cases absolute : isAbsolute path with
  | false =>
      rw [ofParts, if_neg Bool.false_ne_true, String.empty_append]
      exact inside kept
  | true =>
      obtain ⟨rest, chars⟩ : ∃ rest, path.toList = '/' :: rest :=
        List.head?_eq_some_iff.mp (beq_iff_eq.mp absolute)
      have leftEmpty : (splitAtSlashes ('/' :: rest)).filter (· ≠ []) =
          (splitAtSlashes rest).filter (· ≠ []) := rfl
      rw [chars, leftEmpty] at kept
      rw [ofParts, if_pos rfl, String.toList_append, chars]
      exact (inside kept).cons_cons '/'

theorem utf8ByteSize_le_of_sublist {chosen all : List Char} (sub : chosen.Sublist all) :
    (String.ofList chosen).utf8ByteSize ≤ (String.ofList all).utf8ByteSize := by
  induction sub with
  | slnil => exact Nat.le_refl _
  | cons c _ ih =>
      rw [String.ofList_cons, String.utf8ByteSize_append]
      exact Nat.le_add_left_of_le ih
  | cons_cons c _ ih =>
      rw [String.ofList_cons, String.ofList_cons, String.utf8ByteSize_append,
        String.utf8ByteSize_append]
      exact Nat.add_le_add_left ih _

/-! ## Leading parts in turn -/

/-- The places that names lead past from the top, and the one that they lead to. -/
def passedBy (names : List String) : List Place :=
  route [] names ++ [names.foldl step []]

theorem passed_ofParts (absolute : Bool) {names : List String} (each : ∀ name ∈ names, IsPart name) :
    passed (ofParts absolute names) = passedBy names := by
  rw [passed, place, parts_ofParts absolute each]
  rfl

theorem route_append_singleton (names : List String) (name : String) :
    route [] (names ++ [name]) = passedBy names :=
  route_append [] names [name]

theorem passedBy_subset_append (front back : List String) :
    passedBy front ⊆ passedBy (front ++ back) := by
  intro place member
  rcases List.mem_append.mp member with passing | arriving
  · rw [passedBy, route_append]
    exact List.mem_append_left _ (List.mem_append_left _ passing)
  · rw [List.mem_singleton.mp arriving]
    exact foldl_step_mem_route_append [] front back

/-- A dot leads nowhere else. -/
theorem passedBy_append_dot (names : List String) : passedBy (names ++ ["."]) ⊆ passedBy names := by
  intro place member
  rw [passedBy, route_append_singleton, List.foldl_append] at member
  rcases List.mem_append.mp member with passing | arriving
  · exact passing
  · exact List.mem_append_right _ arriving

/-- The leading names that stand for places of their own, longest first. -/
def leading (absolute : Bool) (names : List String) : List (List String) :=
  ((List.range names.length).reverse.map fun count => names.take (count + 1)).filter
    (isOwnPlace absolute)

theorem leading_append_singleton (absolute : Bool) (names : List String) (name : String) :
    leading absolute (names ++ [name]) =
      if isOwnPlace absolute (names ++ [name]) then (names ++ [name]) :: leading absolute names
      else leading absolute names := by
  have whole : (names ++ [name]).take (names.length + 1) = names ++ [name] :=
    List.take_of_length_le (by simp)
  have shorter : (List.range names.length).reverse.map
        (fun count => (names ++ [name]).take (count + 1)) =
      (List.range names.length).reverse.map fun count => names.take (count + 1) := by
    apply List.map_congr_left
    intro count member
    rw [List.mem_reverse, List.mem_range] at member
    exact List.take_append_of_le_length member
  rw [leading, List.length_append, List.length_singleton, List.range_succ, List.reverse_append,
    List.reverse_singleton, List.singleton_append, List.map_cons, List.filter_cons, whole, shorter]
  rfl

theorem ancestors_eq_cons {path name : String} {front : List String}
    (split : parts path = front ++ [name]) (own : name ≠ ".") :
    ancestors path =
      path :: (leading (isAbsolute path) front).map (ofParts (isAbsolute path)) := by
  have stays : isOwnPlace (isAbsolute path) (front ++ [name]) = true := by
    simp [isOwnPlace, own]
  have all := leading_append_singleton (isAbsolute path) front name
  rw [if_pos stays, ← split, leading] at all
  unfold ancestors
  dsimp only
  rw [all]

/-- The places that are directories as soon as the first of the paths is one. -/
def reached : List String → List Place
  | [] => [[]]
  | path :: _ => passed path

/-- Each path leads only past what the next one leads to or past. -/
def Nested : List String → Prop
  | [] => True
  | path :: above => route [] (parts path) ⊆ reached above ∧ Nested above

/-- The induction is on the names from the last one backwards. What a name that stands for no place
of its own leads to is reached already. -/
theorem nested_leading (absolute : Bool) {names : List String} (each : ∀ name ∈ names, IsPart name) :
    Nested ((leading absolute names).map (ofParts absolute)) ∧
      passedBy names ⊆ reached ((leading absolute names).map (ofParts absolute)) := by
  induction names using List.reverseRecOn with
  | nil => exact ⟨trivial, List.Subset.refl _⟩
  | append_singleton names name ih =>
      obtain ⟨nested, inside⟩ := ih fun other member => each other (List.mem_append_left _ member)
      rw [leading_append_singleton]
      split
      · rw [List.map_cons, Nested, reached, passed_ofParts absolute each,
          parts_ofParts absolute each, route_append_singleton]
        exact ⟨⟨inside, nested⟩, List.Subset.refl _⟩
      · rename_i other
        have dot : name = "." := by
          simp only [isOwnPlace, List.getLast?_concat, bne_iff_ne, Bool.or_eq_true, not_or] at other
          exact Option.some.inj (not_not.mp other.1)
        rw [dot]
        exact ⟨nested, List.Subset.trans (passedBy_append_dot names) inside⟩

theorem nested_ancestors {path name : String} {front : List String}
    (split : parts path = front ++ [name]) (own : name ≠ ".") : Nested (ancestors path) := by
  have sub : front.Sublist (parts path) := by
    rw [split]
    exact List.sublist_append_left _ _
  obtain ⟨nested, inside⟩ := nested_leading (isAbsolute path) (isPart_of_sublist_parts sub)
  rw [ancestors_eq_cons split own, Nested, split, route_append_singleton]
  exact ⟨inside, nested⟩

/-! ## Paths that only lead down -/

theorem length_le_foldl_step {start : Place} {names : List String} (down : ".." ∉ names) :
    start.length ≤ (names.foldl step start).length := by
  induction names generalizing start with
  | nil => exact Nat.le_refl _
  | cons name rest ih =>
      rw [List.mem_cons, not_or] at down
      have first : start.length ≤ (step start name).length := by
        rw [step, if_neg (Ne.symm down.1)]
        split
        · exact Nat.le_refl _
        · rw [List.length_append]
          exact Nat.le_add_right _ _
      exact Nat.le_trans first (ih down.2)

theorem length_le_of_mem_route {start other : Place} {names : List String} (down : ".." ∉ names)
    (member : other ∈ route start names) : other.length ≤ (names.foldl step start).length := by
  induction names generalizing start with
  | nil => cases member
  | cons name rest ih =>
      rcases List.mem_cons.mp member with rfl | later
      · exact length_le_foldl_step down
      · exact ih (fun inside => down (List.mem_cons_of_mem _ inside)) later

/-- Whatever lies below the end of such a path is not passed on the way there. -/
theorem place_join_notMem_passed {root name : String} (down : ".." ∉ parts root)
    (component : IsComponent name) : place (join root name) ∉ passed root := by
  intro member
  have short : (place (join root name)).length ≤ (place root).length := by
    rcases List.mem_append.mp member with passing | arriving
    · exact length_le_of_mem_route down passing
    · exact Nat.le_of_eq (congrArg List.length (List.mem_singleton.mp arriving))
  rw [place_join root component, List.length_append, List.length_singleton] at short
  omega

end Path

namespace FileTree

open TransitionNetwork.Path

variable {tree after : FileTree} {path : String}

/-! ## Clear paths -/

/-- The path can be used, and every place on it is missing or a directory. -/
structure IsClear (tree : FileTree) (path : String) : Prop where
  usable : tree.checkPath path = .ok ()
  short : ∀ name ∈ parts path, name.utf8ByteSize ≤ longestName
  free : ∀ place ∈ passed path, tree.entry? place = none ∨ tree.entry? place = some .directory

theorem IsClear.of_growsTo {places : List Place} (clear : tree.IsClear path)
    (grows : GrowsTo places tree after) : after.IsClear path := by
  refine ⟨?_, clear.short, ?_⟩
  · have usable := clear.usable
    rw [checkPath_eq_ok_iff] at usable ⊢
    rwa [grows.pathLimit_eq]
  · intro place passing
    rcases grows.grown place with kept | ⟨_, _, made⟩
    · rw [kept]
      exact clear.free place passing
    · exact Or.inr made

/-- An ancestor of a clear path is clear: it is written with fewer characters and leads past fewer
places. -/
theorem IsClear.of_mem_ancestors {other : String} (clear : tree.IsClear path)
    (member : other ∈ ancestors path) : tree.IsClear other := by
  rcases mem_ancestors member with rfl | ⟨front, filled, lead, rfl⟩
  · exact clear
  have sub := lead.sublist
  have each := isPart_of_sublist_parts sub
  have written := parts_ofParts (isAbsolute path) each
  have fewer := toList_ofParts_sublist sub
  have smaller := utf8ByteSize_le_of_sublist fewer
  rw [String.ofList_toList, String.ofList_toList] at smaller
  obtain ⟨nul, _, limited⟩ := checkPath_eq_ok_iff.mp clear.usable
  refine ⟨checkPath_eq_ok_iff.mpr ⟨fun inside => nul (fewer.subset inside), ?_, ?_⟩, ?_, ?_⟩
  · intro blank
    rw [blank] at written
    exact filled written.symm
  · intro limit member
    exact Nat.le_trans smaller (limited limit member)
  · intro part inside
    rw [written] at inside
    exact clear.short part (sub.subset inside)
  · intro place passing
    obtain ⟨back, split⟩ := lead
    rw [passed_ofParts _ each] at passing
    apply clear.free place
    rw [passed, Path.place, ← split]
    exact passedBy_subset_append front back passing

/-! ## Making what is missing -/

/-- A clear path is followed to its end, or a directory on the way is missing. -/
theorem follow_of_free {start : Place} {names : List String}
    (free : ∀ place ∈ route start names,
      tree.entry? place = none ∨ tree.entry? place = some .directory)
    (short : ∀ name ∈ names, name.utf8ByteSize ≤ longestName) :
    tree.follow start names = .ok (names.foldl step start) ∨
      tree.follow start names = .error .notFound := by
  induction names generalizing start with
  | nil => exact Or.inl rfl
  | cons name rest ih =>
      obtain ⟨here, others⟩ := List.forall_mem_cons.mp free
      obtain ⟨fits, shorter⟩ := List.forall_mem_cons.mp short
      rcases here with missing | directory
      · rw [follow, missing]
        exact Or.inr rfl
      · rw [follow_cons_of_directory directory, if_neg (Nat.not_lt_of_le fits)]
        exact ih others shorter

theorem exists_ensureDirectory (clear : tree.IsClear path)
    (onTheWay : ∀ place ∈ route [] (parts path), tree.entry? place = some .directory) :
    ∃ made, perform (fileSystem.ensureDirectory path) tree = (.ok (), made) := by
  have located : tree.locate path = .ok (place path) :=
    locate_eq_ok_iff.mpr ⟨clear.usable, onTheWay, clear.short, rfl⟩
  rcases clear.free (place path) (List.mem_append_right _ List.mem_cons_self) with
    missing | directory
  · have making : tree.makeDirectory path = .ok (tree.put (place path) .directory) := by
      rw [makeDirectory, located]
      simp [bind, Except.bind, missing, pure, Except.pure]
    refine ⟨tree.put (place path) .directory, ?_⟩
    rw [perform_ensureDirectory, making]
  · exact ⟨tree, perform_ensureDirectory_of_isDirectory
      (isDirectory_iff_locate.mpr ⟨_, located, directory⟩)⟩

/-- One directory on a clear path can be made at once, or it has to wait for those above it. -/
theorem IsClear.ensureDirectory (clear : tree.IsClear path) :
    (∃ made, perform (fileSystem.ensureDirectory path) tree = (.ok (), made)) ∨
      perform (fileSystem.ensureDirectory path) tree = (.error .notFound, tree) := by
  have free : ∀ place ∈ route [] (parts path),
      tree.entry? place = none ∨ tree.entry? place = some .directory :=
    fun place passing => clear.free place (List.mem_append_left _ passing)
  rcases follow_of_free free clear.short with followed | missing
  · exact Or.inl (exists_ensureDirectory clear (follow_eq_ok_iff.mp followed).1)
  · right
    have making : tree.makeDirectory path = .error .notFound := by
      rw [makeDirectory, locate, clear.usable]
      simp [bind, Except.bind, missing]
    rw [perform_ensureDirectory, making]
    rfl

theorem directory_of_mem_reached {paths : List String} {other : Place}
    (success : perform (fileSystem.ensureNested paths) tree = (.ok (), after))
    (member : other ∈ reached paths) : after.entry? other = some .directory := by
  cases paths with
  | nil =>
      rw [List.mem_singleton.mp member]
      rfl
  | cons path above =>
      exact (isDirectory_iff.mp (isDirectory_of_ensureNested success)).2.2 other member

theorem exists_ensureNested {paths : List String} (nested : Nested paths)
    (clear : ∀ path ∈ paths, tree.IsClear path) :
    ∃ made, perform (fileSystem.ensureNested paths) tree = (.ok (), made) := by
  induction paths with
  | nil => exact ⟨tree, rfl⟩
  | cons path above ih =>
      obtain ⟨here, others⟩ := List.forall_mem_cons.mp clear
      rw [perform_ensureNested_cons]
      rcases here.ensureDirectory with ⟨made, success⟩ | missing
      · exact ⟨made, by rw [success]⟩
      obtain ⟨middle, aboveMade⟩ := ih nested.2 others
      have grows := growsTo_ensureNested above tree
      rw [aboveMade] at grows
      obtain ⟨made, success⟩ := exists_ensureDirectory (here.of_growsTo grows)
        fun _ passing => directory_of_mem_reached aboveMade (nested.1 passing)
      refine ⟨made, ?_⟩
      rw [missing]
      dsimp only
      rw [if_pos rfl, perform_bind, aboveMade]
      exact success

/-- A directory whose path does not end in `.` can be made together with those above it just when
its path is clear. -/
theorem exists_made_iff_isClear {name : String} (last : (parts path).getLast? = some name)
    (own : name ≠ ".") :
    (∃ made, perform (fileSystem.ensureDirectories path) tree = (.ok (), made)) ↔
      tree.IsClear path := by
  obtain ⟨front, split⟩ := List.getLast?_eq_some_iff.mp last
  have leadingParts := ancestors_eq_cons split own
  constructor
  · rintro ⟨made, success⟩
    have grows := growsTo_ensureDirectories path tree
    rw [success] at grows
    rw [FileSystem.ensureDirectories, leadingParts] at success
    obtain ⟨usable, short, directories⟩ := isDirectory_iff.mp (isDirectory_of_ensureNested success)
    refine ⟨?_, short, ?_⟩
    · rw [checkPath_eq_ok_iff] at usable ⊢
      rwa [← grows.pathLimit_eq]
    · intro place passing
      rcases grows.grown place with kept | ⟨_, missing, _⟩
      · rw [← kept]
        exact Or.inr (directories place passing)
      · exact Or.inl missing
  · intro clear
    exact exists_ensureNested (nested_ancestors split own) fun _ => clear.of_mem_ancestors

end FileTree

end TransitionNetwork
